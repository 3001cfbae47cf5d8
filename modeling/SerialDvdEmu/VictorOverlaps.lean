import Mathlib.Data.Nat.Find
import SerialDvdEmu.VictorFraming

/-! Packets that begin inside another one. IsPacketGood looks at the first two bytes, the ID and
the checksum, so a packet may hold FF FF among its arguments; which of these are the beginning of
a packet that the receiver executes too, or of one that was cut short, is told by bytes alone. -/
namespace SerialDvdEmu.VictorOverlaps
open EventRun
open ShiftRegister (shift)
open VictorPacket VictorHandlers VictorRequests VictorFraming
open VideoPlayer (CommandQueue)

variable {Q : Type}

structure Ear where
  packet : Packet
  id : UInt32

def named (packet : Packet) (id : UInt32) : UInt32 :=
  if Renames packet then (packet.get (commandLoc 2)).toUInt32 else id

def Ear.hear (ear : Ear) (byte : UInt8) : Ear :=
  let packet := shift ear.packet byte
  ⟨packet, if isAddressed packet ear.id then named packet ear.id else ear.id⟩

def earOf (e : Emulator Q) : Ear := ⟨e.victor.packet, e.victor.jlipId⟩

def idAt (e : Emulator Q) (stream : List UInt8) (n : Nat) : UInt32 :=
  (run Ear.hear (earOf e) (stream.take n)).id

def Passes (e : Emulator Q) (stream : List UInt8) (n : Nat) : Prop :=
  n < stream.length ∧ isAddressed (packetAt e stream n) (idAt e stream n) = true

instance (e : Emulator Q) (stream : List UInt8) (n : Nat) : Decidable (Passes e stream n) :=
  inferInstanceAs (Decidable (_ ∧ _))

def Executed [CommandQueue Q] (e : Emulator Q) (stream : List UInt8) (n : Nat) : Prop :=
  ∃ reply, (outputs victorTurn e stream)[n]? = some (true, reply)

theorem earTurn [CommandQueue Q] (e : Emulator Q) (byte : UInt8) :
    earOf (victorTurn e byte).2 = (earOf e).hear byte := by
  have state : (victorTurn e byte).2 = (victorReceiveByte byte e).2 := turnState e byte
  have packet : (victorReceiveByte byte e).2.victor.packet = window e byte := by rw [receiveEq]; rfl
  have id : (victorReceiveByte byte e).2.victor.jlipId =
      if isAddressed (window e byte) e.victor.jlipId then named (window e byte) e.victor.jlipId
      else e.victor.jlipId := by
    cases here : isAddressed (window e byte) e.victor.jlipId with
    | false =>
      by_contra changed
      simpa [here] using (renamedOnlyBy changed).1
    | true =>
      rw [if_pos rfl, named]
      split
      · rename_i renames
        exact renamedTo here renames
      · rename_i kept
        by_contra changed
        exact kept (renamedOnlyBy changed).2
  rw [state, earOf, packet, id]
  rfl

theorem earAfter [CommandQueue Q] (e : Emulator Q) (bytes : List UInt8) :
    earOf (after victorTurn e bytes) = run Ear.hear (earOf e) bytes :=
  runRelated (fun (e : Emulator Q) ear => earOf e = ear)
    (fun e ear byte same => by rw [earTurn, same]) rfl bytes

theorem executedIff [CommandQueue Q] (e : Emulator Q) (stream : List UInt8) (n : Nat) :
    Executed e stream n ↔ Passes e stream n := by
  rw [Executed, Passes, outputAt]
  cases here : stream[n]? with
  | none => simp [List.getElem?_eq_none_iff.mp here |> Nat.not_lt.mpr]
  | some byte =>
    obtain ⟨inside, _⟩ := List.getElem?_eq_some_iff.mp here
    have result := receiveResult (after victorTurn e (stream.take n)) byte
    have id : (after victorTurn e (stream.take n)).victor.jlipId = idAt e stream n :=
      congrArg Ear.id (earAfter e (stream.take n))
    rw [windowAt here, ← turnResult, id] at result
    simp only [inside, true_and, Option.map_some, Option.some.injEq, ← result]
    exact ⟨fun ⟨_, same⟩ => congrArg Prod.fst same, fun same => ⟨_, Prod.ext same rfl⟩⟩

section Ids

theorem idNext (e : Emulator Q) {stream : List UInt8} {n : Nat} (inside : n < stream.length) :
    idAt e stream (n + 1) =
      if isAddressed (packetAt e stream n) (idAt e stream n) then
        named (packetAt e stream n) (idAt e stream n)
      else idAt e stream n := by
  have window : (run Ear.hear (earOf e) (stream.take n)).packet =
      run shift e.victor.packet (stream.take n) :=
    runRelated (fun (ear : Ear) packet => ear.packet = packet)
      (fun ear packet byte same => by rw [Ear.hear, same]) rfl _
  rw [idAt, packetAt, List.take_add_one, List.getElem?_eq_getElem inside, Option.toList_some,
    runAppend, runAppend, runCons, runNil, runCons, runNil, Ear.hear, window]
  rfl

theorem idKept {e : Emulator Q} {stream : List UInt8} {a d : Nat} (inside : a + d ≤ stream.length)
    (none : ∀ m, a ≤ m → m < a + d → ¬ Passes e stream m) :
    idAt e stream (a + d) = idAt e stream a := by
  induction d with
  | zero => rfl
  | succ d ih =>
    have last : ¬ Passes e stream (a + d) := none _ (by omega) (by omega)
    have quiet : isAddressed (packetAt e stream (a + d)) (idAt e stream (a + d)) = false :=
      Bool.eq_false_iff.mpr fun passes => last ⟨by omega, passes⟩
    rw [← Nat.add_assoc, idNext e (by omega), quiet, if_neg Bool.false_ne_true]
    exact ih (by omega) fun m low high => none m low (by omega)

theorem idRange [CommandQueue Q] {e : Emulator Q} (h : Addressable e) (stream : List UInt8) (n : Nat) :
    1 ≤ (idAt e stream n).toNat ∧ (idAt e stream n).toNat ≤ 63 := by
  have range := afterAddressable h (stream.take n)
  have id : (after victorTurn e (stream.take n)).victor.jlipId = idAt e stream n :=
    congrArg Ear.id (earAfter e (stream.take n))
  rw [← id]
  exact range

end Ids

section Windows
variable {e : Emulator Q} {stream : List UInt8} {n : Nat}

theorem packetLater (e : Emulator Q) {stream : List UInt8} {n d i : Nat} (loc : Fin 11)
    (inside : n + d < stream.length) (kept : i < 11) (moved : loc + d = i) :
    (packetAt e stream (n + d)).get loc = (packetAt e stream n)[i] := by
  subst moved
  have cut : stream.take (n + d + 1) = stream.take (n + 1) ++ (stream.drop (n + 1)).take d := by
    rw [Nat.add_right_comm, List.take_add]
  have long : ((stream.drop (n + 1)).take d).length = d := by simp; omega
  have old := ShiftRegister.feedOld (packetAt e stream n) ((stream.drop (n + 1)).take d)
    (i := loc) (by omega)
  simp only [long] at old
  rw [← old]
  simp only [packetAt, cut, runAppend]
  rfl

theorem windowEnds (e : Emulator Q) (before frame : List UInt8) (short : frame.length ≤ 11) :
    (run shift e.victor.packet (before ++ frame)).toList.drop (11 - frame.length) = frame := by
  rw [ShiftRegister.feedToList _ (by decide), List.drop_drop, List.length_append,
    ← List.append_assoc]
  refine List.drop_left' ?_
  simp only [List.length_append, Vector.length_toList]
  omega

theorem packetFilled (e : Emulator Q) {stream before : List UInt8} {n : Nat} {packet : Packet}
    (came : stream.take (n + 1) = before ++ packet.toList) : packetAt e stream n = packet := by
  have ends := windowEnds e before packet.toList (by simp)
  rw [← came, ← packetAt] at ends
  exact Vector.toList_inj.mp (by simpa using ends)

theorem passesEdges [CommandQueue Q] (h : Addressable e) (passes : Passes e stream n) :
    (packetAt e stream n)[2] ≠ 0xFF ∧ (packetAt e stream n)[10] ≠ 0xFF := by
  obtain ⟨_, _, id, sum⟩ := (addressedIff _ _).mp passes.2
  constructor
  · intro same
    have range := (idRange h stream n).2
    rw [← id] at range
    change (packetAt e stream n)[2].toUInt32.toNat ≤ 63 at range
    rw [same] at range
    exact absurd range (by decide)
  · intro same
    have range := checksumLow (packetAt e stream n)
    rw [sum] at range
    change (packetAt e stream n)[10] < 0x80 at range
    rw [same] at range
    exact absurd range (by decide)

end Windows

def Starts (id : UInt32) (bytes : List UInt8) : Prop :=
  bytes.take 2 = [0xFF, 0xFF] ∧
    (Low (bytes.drop 2) ∨ (bytes.drop 2).head?.map UInt8.toUInt32 = some id)

instance (id : UInt32) (bytes : List UInt8) : Decidable (Starts id bytes) :=
  inferInstanceAs (Decidable (_ ∧ (_ ∨ _)))

def Carries (packet : Packet) (id : UInt32) : Prop :=
  ∃ d ∈ [3, 4, 5, 6, 7, 8], Starts id (packet.toList.drop d)

instance (packet : Packet) (id : UInt32) : Decidable (Carries packet id) :=
  inferInstanceAs (Decidable (∃ d ∈ [3, 4, 5, 6, 7, 8], Starts id (packet.toList.drop d)))

/-- No eleven bytes of the stream that pass the tests for the ID in force carry the beginning of
another packet: one cut short, or one with the ID in force after them. -/
def Plain (e : Emulator Q) (stream : List UInt8) : Prop :=
  ∀ n < stream.length, isAddressed (packetAt e stream n) (idAt e stream n) = true →
    ¬ Carries (packetAt e stream n) (idAt e stream (n + 1))

instance (e : Emulator Q) (stream : List UInt8) : Decidable (Plain e stream) :=
  inferInstanceAs (Decidable (∀ n < stream.length, _ → ¬ _))

theorem innerListed {d : Nat} : d ∈ [3, 4, 5, 6, 7, 8] ↔ 3 ≤ d ∧ d ≤ 8 := by
  simp only [List.mem_cons, List.not_mem_nil, or_false]
  omega

theorem lowPlain {e : Emulator Q} {stream : List UInt8}
    (low : ∀ n < stream.length, isPacketGood (packetAt e stream n) = true →
      Low ((packetAt e stream n).toList.drop 2)) : Plain e stream := by
  intro n inside passes ⟨d, listed, top, _⟩
  obtain ⟨late, _⟩ := innerListed.mp listed
  have good : isPacketGood (packetAt e stream n) = true := by
    rw [isAddressed, Bool.and_eq_true] at passes
    exact passes.1
  have first : (packetAt e stream n).toList[d]? = some 0xFF := by
    have head := congrArg List.head? top
    rwa [List.head?_take, if_neg (by decide), List.head?_drop] at head
  have small : ((packetAt e stream n).toList.drop 2)[d - 2]? = some 0xFF := by
    rw [List.getElem?_drop, Nat.add_sub_cancel' (by omega)]
    exact first
  exact absurd (low n inside good 0xFF (List.mem_of_getElem? small)) (by decide)

/-- A frame that keeps its first bytes only, and a whole one for the ID in force. -/
structure CutShort (e : Emulator Q) (stream : List UInt8) (start kept : Nat) : Prop where
  short : kept < 11
  frames : ∃ (before rest : List UInt8) (broken whole : Request), before.length = start ∧
    stream = before ++ (broken.packet.toList.take kept ++ (whole.packet.toList ++ rest)) ∧
    whole.id.toUInt32 = idAt e stream (start + kept)

structure Alone [CommandQueue Q] (e : Emulator Q) (stream : List UInt8) (n : Nat) : Prop where
  apart : ∀ j, n < j → Executed e stream j → n + 11 ≤ j
  cutShort : ∀ start kept, CutShort e stream start kept → start ≤ n → start + kept + 10 ≤ n

structure Apart [CommandQueue Q] (e : Emulator Q) (stream : List UInt8) : Prop where
  alone : ∀ n, Executed e stream n → Alone e stream n
  whole : ∀ start kept, CutShort e stream start kept → Executed e stream (start + kept + 10)

section Enough
variable [CommandQueue Q] {e : Emulator Q} {stream : List UInt8}

theorem dropThree {packet : Packet} {d : Nat} (inner : d + 2 < 11) : packet.toList.drop d =
    packet[d] :: packet[d + 1] :: packet[d + 2] :: packet.toList.drop (d + 3) := by
  rw [List.drop_eq_getElem_cons (by simp; omega), List.drop_eq_getElem_cons (by simp; omega),
    List.drop_eq_getElem_cons (by simp; omega)]
  simp

theorem closeCarries (h : Addressable e) {n d : Nat} (positive : 1 ≤ d) (close : d ≤ 10)
    (first : Passes e stream n) (second : Passes e stream (n + d))
    (none : ∀ m, n < m → m < n + d → ¬ Passes e stream m) :
    Carries (packetAt e stream n) (idAt e stream (n + 1)) := by
  obtain ⟨low, last⟩ := passesEdges h first
  obtain ⟨inside, addressed⟩ := second
  obtain ⟨top, next, id, _⟩ := (addressedIff _ _).mp addressed
  rw [packetLater e (preambleLoc 0) inside (by omega) (Nat.zero_add d)] at top
  have edge : d ≠ 10 := by
    rintro rfl
    exact last top
  rw [packetLater e (preambleLoc 1) inside (by omega) (Nat.add_comm 1 d)] at next
  have inner : 3 ≤ d ∧ d ≤ 8 := by
    by_contra outside
    -- one of the two FF would have to be the ID or the checksum of the first packet
    obtain rfl | rfl | rfl : d = 1 ∨ d = 2 ∨ d = 9 := by omega
    · exact low next
    · exact low top
    · exact last next
  rw [packetLater e jlipIdLoc inside (by omega) (Nat.add_comm 2 d)] at id
  obtain ⟨k, rfl⟩ := Nat.exists_eq_add_of_le positive
  have same : idAt e stream (n + 1 + k) = idAt e stream (n + 1) :=
    idKept (by omega) fun m low high => none m low (by omega)
  rw [← Nat.add_assoc] at id
  refine ⟨1 + k, innerListed.mpr inner, ?_⟩
  rw [dropThree (by omega), Starts, top, next]
  exact ⟨rfl, .inr (by rw [← same, ← id]; rfl)⟩

theorem plainApart (h : Addressable e) {n j : Nat} (before : n < j) (first : Passes e stream n)
    (plain : ¬ Carries (packetAt e stream n) (idAt e stream (n + 1))) (second : Passes e stream j) :
    n + 11 ≤ j := by
  by_contra close
  have some : ∃ m, n < m ∧ Passes e stream m := ⟨j, before, second⟩
  obtain ⟨later, passes⟩ := Nat.find_spec some
  have soon : Nat.find some ≤ j := Nat.find_min' some ⟨before, second⟩
  obtain ⟨d, next⟩ := Nat.exists_eq_add_of_le (Nat.le_of_lt later)
  rw [next] at passes later soon
  refine plain (closeCarries h (by omega) (by omega) first passes ?_)
  intro m low high passes
  exact Nat.find_min some (by omega) ⟨low, passes⟩

theorem frameCarries (h : Addressable e) {before rest : List UInt8} (r : Request) {kept k : Nat}
    (begun : k < kept) (short : k < 10)
    (split : stream = before ++ (r.packet.toList.take kept ++ rest))
    (passes : Passes e stream (before.length + k)) :
    Carries (packetAt e stream (before.length + k)) (idAt e stream (before.length + k + 1)) := by
  have whole : r.packet.toList = 0xFF :: 0xFF :: r.packet.toList.drop 2 := rfl
  have low := requestLow r
  have size : (r.packet.toList.take (k + 1)).length = k + 1 := by
    simp
    omega
  have came : stream.take (before.length + k + 1) = before ++ r.packet.toList.take (k + 1) := by
    rw [split, Nat.add_assoc, List.take_length_add_append,
      List.take_append_of_le_length (by simp; omega), List.take_take, Nat.min_eq_left (by omega)]
  have ends := windowEnds e before (r.packet.toList.take (k + 1)) (by omega)
  rw [← came, size, ← packetAt, whole] at ends
  generalize r.packet.toList.drop 2 = tail at ends low
  obtain ⟨top, last⟩ := passesEdges h passes
  generalize packetAt e stream (before.length + k) = packet at ends top last ⊢
  have at? (i : Nat) (inner : i < 11) (late : 10 - k ≤ i) :
      ((0xFF :: 0xFF :: tail).take (k + 1))[i - (10 - k)]? = some packet[i] := by
    rw [← ends, List.getElem?_drop, show 11 - (k + 1) + (i - (10 - k)) = i by omega]
    simp [inner]
  have inner : 2 ≤ k ∧ k ≤ 7 := by
    by_contra outside
    obtain rfl | rfl | rfl | rfl : k = 0 ∨ k = 1 ∨ k = 8 ∨ k = 9 := by omega
    · exact last (by simpa using (at? 10 (by decide) (by decide)).symm)
    · exact last (by simpa using (at? 10 (by decide) (by decide)).symm)
    · exact top (by simpa using (at? 2 (by decide) (by decide)).symm)
    · exact top (by simpa using (at? 2 (by decide) (by decide)).symm)
  refine ⟨11 - (k + 1), innerListed.mpr (by omega), ?_⟩
  obtain ⟨m, rfl⟩ := Nat.exists_eq_add_of_le inner.1
  rw [ends, Starts, Nat.add_right_comm, Nat.add_comm, List.take_succ_cons, List.take_succ_cons]
  refine ⟨rfl, .inl fun byte mem => low byte (List.mem_of_mem_take mem)⟩

theorem framesCarry (h : Addressable e) {start kept n : Nat} (cut : CutShort e stream start kept)
    (low : start ≤ n) (high : n < start + kept + 10) (passes : Passes e stream n) :
    Carries (packetAt e stream n) (idAt e stream (n + 1)) := by
  obtain ⟨short, before, rest, broken, whole, rfl, split, _⟩ := cut
  by_cases first : n < before.length + kept
  · obtain ⟨k, rfl⟩ := Nat.exists_eq_add_of_le low
    exact frameCarries h broken (by omega) (by omega) split passes
  · obtain ⟨k, rfl⟩ := Nat.exists_eq_add_of_le (Nat.le_of_not_lt first)
    have size : (before ++ broken.packet.toList.take kept).length = before.length + kept := by
      simp
      omega
    have later : stream = (before ++ broken.packet.toList.take kept) ++
        (whole.packet.toList.take 11 ++ rest) := by
      have full : whole.packet.toList.take 11 = whole.packet.toList :=
        List.take_of_length_le (by simp)
      rw [split, full, List.append_assoc]
    rw [← size] at passes ⊢
    exact frameCarries h whole (by omega) (by omega) later passes

theorem plainAlone (h : Addressable e) {n : Nat} (passes : Passes e stream n)
    (plain : ¬ Carries (packetAt e stream n) (idAt e stream (n + 1))) : Alone e stream n := by
  refine ⟨fun j later here => plainApart h later passes plain ((executedIff _ _ _).mp here), ?_⟩
  intro start kept cut low
  by_contra high
  exact plain (framesCarry h cut low (by omega) passes)

theorem wholeExecuted {start kept : Nat} (cut : CutShort e stream start kept)
    (quiet : ∀ n, start ≤ n → n < start + kept + 10 → ¬ Passes e stream n) :
    Executed e stream (start + kept + 10) := by
  obtain ⟨short, before, rest, broken, whole, rfl, split, named⟩ := cut
  have long : stream.length = before.length + kept + 11 + rest.length := by
    simp [split]
    omega
  have same : idAt e stream (before.length + kept + 10) = idAt e stream (before.length + kept) :=
    idKept (by omega) fun m low high => quiet m (by omega) high
  have came : stream.take (before.length + kept + 10 + 1) =
      (before ++ broken.packet.toList.take kept) ++ whole.packet.toList := by
    have size : ((before ++ broken.packet.toList.take kept) ++ whole.packet.toList).length =
        before.length + kept + 10 + 1 := by
      simp
      omega
    rw [← size, split, ← List.append_assoc, ← List.append_assoc, List.take_left']
    rfl
  refine (executedIff _ _ _).mpr ⟨by omega, ?_⟩
  rw [packetFilled e came, same, ← named, isAddressed, requestGood]
  exact beq_self_eq_true _

theorem plainWhole (h : Addressable e) (plain : Plain e stream) : Apart e stream := by
  refine ⟨fun n here => ?_, fun start kept cut => wholeExecuted cut fun n low high passes => ?_⟩
  · have passes := (executedIff _ _ _).mp here
    exact plainAlone h passes (plain n passes.1 passes.2)
  · exact plain n passes.1 passes.2 (framesCarry h cut low high passes)

end Enough
section Needed
variable {e : Emulator Q} {stream : List UInt8} {n : Nat}

theorem packetContinued (e : Emulator Q) {stream : List UInt8} (rest : List UInt8)
    (inside : n < stream.length) :
    packetAt e (stream.take (n + 1) ++ rest) n = packetAt e stream n := by
  rw [packetAt, packetAt, List.take_append_of_le_length (by simp; omega), List.take_take,
    Nat.min_self]

theorem idContinued (e : Emulator Q) {stream : List UInt8} (rest : List UInt8) {m : Nat}
    (early : m ≤ n + 1) (inside : n < stream.length) :
    idAt e (stream.take (n + 1) ++ rest) m = idAt e stream m := by
  rw [idAt, idAt, List.take_append_of_le_length (by simp; omega), List.take_take,
    Nat.min_eq_left early]

theorem passesContinued (rest : List UInt8) (passes : Passes e stream n) :
    Passes e (stream.take (n + 1) ++ rest) n := by
  obtain ⟨inside, addressed⟩ := passes
  refine ⟨by simp; omega, ?_⟩
  rw [packetContinued e rest inside, idContinued e rest (by omega) inside]
  exact addressed

theorem passesLate (blank : e.victor.packet = Vector.replicate 11 0) (passes : Passes e stream n) :
    10 ≤ n := by
  by_contra early
  have top := ((addressedIff _ _).mp passes.2).1
  have inside := passes.1
  change (packetAt e stream n)[0] = 0xFF at top
  have long : (stream.take (n + 1)).length = n + 1 := by
    simp
    omega
  rw [packetAt, ShiftRegister.feedOld _ _ (by omega), blank] at top
  simp at top

theorem carriedEnds (e : Emulator Q) {stream : List UInt8} {n d : Nat} (inside : n < stream.length)
    (late : 10 ≤ n) (part : d ≤ 11) :
    stream.take (n + 1) =
      stream.take (n + 1 - (11 - d)) ++ (packetAt e stream n).toList.drop d := by
  have halves : stream.take (n + 1) = stream.take (n + 1 - (11 - d)) ++
      (stream.take (n + 1)).drop (n + 1 - (11 - d)) := by
    have cut := List.take_append_drop (n + 1 - (11 - d)) (stream.take (n + 1))
    rw [List.take_take, Nat.min_eq_left (by omega)] at cut
    exact cut.symm
  have size : ((stream.take (n + 1)).drop (n + 1 - (11 - d))).length = 11 - d := by
    simp
    omega
  have ends := windowEnds e (stream.take (n + 1 - (11 - d)))
    ((stream.take (n + 1)).drop (n + 1 - (11 - d))) (by omega)
  rw [← halves, size, ← packetAt, show 11 - (11 - d) = d by omega] at ends
  rw [ends]
  exact halves

theorem requestBytes (r : Request) :
    r.packet.toList = 0xFF :: 0xFF :: r.id :: (r.data.toList ++ [r.packet[10]]) := by
  have data : r.data.toList = [r.data[0], r.data[1], r.data[2], r.data[3], r.data[4], r.data[5],
      r.data[6]] := by
    refine List.ext_getElem (by simp) fun i small _ => ?_
    rw [Vector.length_toList] at small
    obtain rfl | rfl | rfl | rfl | rfl | rfl | rfl :
      i = 0 ∨ i = 1 ∨ i = 2 ∨ i = 3 ∨ i = 4 ∨ i = 5 ∨ i = 6 := by omega
    all_goals rfl
  rw [data]
  rfl

theorem someRequest {id : UInt8} {tail : List UInt8} (low : Low (id :: tail))
    (short : tail.length ≤ 7) :
    ∃ r : Request, r.id = id ∧ r.packet.toList.take (3 + tail.length) =
      0xFF :: 0xFF :: id :: tail := by
  let data : Vector UInt8 7 :=
    ⟨(tail ++ List.replicate (7 - tail.length) 0).toArray, by simp; omega⟩
  have dataLow : Low data.toList := by
    intro byte mem
    rcases List.mem_append.mp mem with given | zero
    · exact low byte (List.mem_cons_of_mem id given)
    · rw [(List.mem_replicate.mp zero).2]
      decide
  refine ⟨⟨id, data, low id List.mem_cons_self, dataLow⟩, rfl, ?_⟩
  rw [requestBytes, Nat.add_comm, List.take_succ_cons, List.take_succ_cons, List.take_succ_cons]
  simp [data]

theorem requestFor [CommandQueue Q] (h : Addressable e) (stream : List UInt8) (n : Nat) :
    ∃ r : Request, r.id.toUInt32 = idAt e stream n := by
  obtain ⟨_, high⟩ := idRange h stream n
  have same : (idAt e stream n).toUInt8.toUInt32 = idAt e stream n :=
    UInt32.toNat_inj.mp (by simp; omega)
  have low : (idAt e stream n).toUInt8 < 0x80 := by
    rw [UInt8.lt_iff_toNat_lt]
    simp
    omega
  exact ⟨⟨(idAt e stream n).toUInt8, Vector.replicate 7 0, low, by decide⟩, same⟩

theorem frameBegins {frame : List UInt8} (long : 3 ≤ frame.length)
    (top : frame.take 2 = [0xFF, 0xFF]) :
    ∃ id tail, frame = 0xFF :: 0xFF :: id :: tail := by
  match frame with
  | first :: second :: id :: tail =>
    obtain ⟨rfl, rfl⟩ : first = 0xFF ∧ second = 0xFF := by simpa using top
    exact ⟨id, tail, rfl⟩
  | [_, _] | [_] | [] => simp at long

theorem lowFails [CommandQueue Q] (h : Addressable e) (late : 10 ≤ n) (passes : Passes e stream n)
    {d : Nat} (inner : 3 ≤ d ∧ d ≤ 8)
    (top : ((packetAt e stream n).toList.drop d).take 2 = [0xFF, 0xFF])
    (low : Low (((packetAt e stream n).toList.drop d).drop 2)) :
    ∃ rest, ¬ Alone e (stream.take (n + 1) ++ rest) n := by
  have ends := carriedEnds e passes.1 late (d := d) (by omega)
  have inside := passes.1
  obtain ⟨id, tail, frame⟩ := frameBegins (by simp; omega) top
  have size : 3 + tail.length = 11 - d := by
    have sizes := congrArg List.length frame
    simp only [List.length_drop, Vector.length_toList, List.length_cons] at sizes
    omega
  rw [frame] at low ends
  obtain ⟨broken, _, part⟩ := someRequest low (by omega)
  obtain ⟨whole, named⟩ := requestFor h stream (n + 1)
  rw [size] at part
  refine ⟨whole.packet.toList, fun alone => ?_⟩
  have before : (stream.take (n + 1 - (11 - d))).length = n + 1 - (11 - d) := by
    simp
    omega
  have split : stream.take (n + 1) ++ whole.packet.toList = stream.take (n + 1 - (11 - d)) ++
      (broken.packet.toList.take (11 - d) ++ (whole.packet.toList ++ [])) := by
    rw [part, List.append_nil, ← List.append_assoc, ← ends]
  have same : whole.id.toUInt32 =
      idAt e (stream.take (n + 1) ++ whole.packet.toList) (n + 1 - (11 - d) + (11 - d)) := by
    rw [idContinued e _ (by omega) inside, named, Nat.sub_add_cancel (by omega)]
  have after := alone.cutShort (n + 1 - (11 - d)) (11 - d)
    ⟨by omega, _, [], broken, whole, before, split, same⟩ (by omega)
  omega

theorem packetBegins (frame : List UInt8) {d : Nat} (size : frame.length = 11 - d)
    (inner : 1 ≤ d ∧ d ≤ 11) :
    ∃ packet : Packet, packet.toList.take (11 - d) = frame ∧
      calcChecksum packet = packet.get crcLoc := by
  let data : Packet := ⟨(frame ++ List.replicate d 0).toArray, by simp; omega⟩
  refine ⟨putChecksum data, ?_, checksumPut data⟩
  rw [putChecksum, Vector.toList_set, List.take_set_of_le (by change 11 - d ≤ 10; omega), ← size]
  exact List.take_left' rfl

theorem idFails [CommandQueue Q] (late : 10 ≤ n) (passes : Passes e stream n)
    {d : Nat} (inner : 3 ≤ d ∧ d ≤ 8)
    (top : ((packetAt e stream n).toList.drop d).take 2 = [0xFF, 0xFF])
    (named : (((packetAt e stream n).toList.drop d).drop 2).head?.map UInt8.toUInt32 =
      some (idAt e stream (n + 1))) :
    ∃ rest, ¬ Alone e (stream.take (n + 1) ++ rest) n := by
  have ends := carriedEnds e passes.1 late (d := d) (by omega)
  have inside := passes.1
  obtain ⟨packet, part, sum⟩ := packetBegins ((packetAt e stream n).toList.drop d) (d := d)
    (by simp) (by omega)
  have head : packet[0] = 0xFF ∧ packet[1] = 0xFF ∧
      packet[2].toUInt32 = idAt e stream (n + 1) := by
    obtain ⟨id, tail, frame⟩ := frameBegins (by simp; omega) top
    rw [frame] at part named
    obtain ⟨k, room⟩ := Nat.exists_eq_add_of_le (show 3 ≤ 11 - d by omega)
    rw [← List.drop_zero (l := packet.toList), dropThree (by decide), room, Nat.add_comm] at part
    simp only [List.take_succ_cons, List.cons.injEq] at part
    exact ⟨part.1, part.2.1, by simpa [part.2.2.1] using named⟩
  refine ⟨packet.toList.drop (11 - d), fun alone => ?_⟩
  have whole : stream.take (n + 1) ++ packet.toList.drop (11 - d) =
      stream.take (n + 1 - (11 - d)) ++ packet.toList := by
    rw [ends, List.append_assoc, ← part, List.take_append_drop]
  have long : (stream.take (n + 1) ++ packet.toList.drop (11 - d)).length = n + d + 1 := by
    simp
    omega
  have apart := fun j later here => alone.apart j later ((executedIff _ _ _).mpr here)
  have kept : idAt e (stream.take (n + 1) ++ packet.toList.drop (11 - d)) (n + 1 + (d - 1)) =
      idAt e (stream.take (n + 1) ++ packet.toList.drop (11 - d)) (n + 1) :=
    idKept (by omega) fun m low high here => by
      have far := apart m (by omega) here
      omega
  rw [idContinued e _ (Nat.le_refl _) inside, show n + 1 + (d - 1) = n + d by omega] at kept
  have filled : packetAt e (stream.take (n + 1) ++ packet.toList.drop (11 - d)) (n + d) =
      packet := packetFilled e (by rw [List.take_of_length_le (by omega), whole])
  have second : Passes e (stream.take (n + 1) ++ packet.toList.drop (11 - d)) (n + d) := by
    refine ⟨by omega, ?_⟩
    rw [filled, kept, addressedIff]
    exact ⟨head.1, head.2.1, head.2.2, sum⟩
  have far := apart (n + d) (by omega) second
  omega

theorem carriesFails [CommandQueue Q] (h : Addressable e)
    (blank : e.victor.packet = Vector.replicate 11 0) (passes : Passes e stream n)
    (carries : Carries (packetAt e stream n) (idAt e stream (n + 1))) :
    ∃ rest, ¬ Alone e (stream.take (n + 1) ++ rest) n := by
  have late := passesLate blank passes
  obtain ⟨d, listed, top, begun⟩ := carries
  have inner := innerListed.mp listed
  rcases begun with low | named
  · exact lowFails h late passes inner top low
  · exact idFails late passes inner top named

end Needed

theorem executedApart [CommandQueue Q] [Scanf] (e : Emulator Q) (dvdType : DvdType)
    (addressable : Addressable (victorInit dvdType e)) (stream : List UInt8) :
    let start := victorInit dvdType e
    (Plain start stream → Apart start stream) ∧
    ∀ n, Executed start stream n →
      ((∀ rest, Alone start (stream.take (n + 1) ++ rest) n) ↔
        ¬ Carries (packetAt start stream n) (idAt start stream (n + 1))) := by
  intro start
  refine ⟨plainWhole addressable, fun n here => ?_⟩
  have passes := (executedIff _ _ _).mp here
  constructor
  · intro alone carries
    obtain ⟨rest, fails⟩ := carriesFails addressable rfl passes carries
    exact fails (alone rest)
  · intro plain rest
    refine plainAlone addressable (passesContinued rest passes) ?_
    rwa [packetContinued start rest passes.1, idContinued start rest (Nat.le_refl _) passes.1]

section Inputs

def pauseStop (id checksum : UInt8) : List UInt8 :=
  [0xFF, 0xFF, id, 0x0C, 0x43, 0x6D] ++ [0xFF, 0xFF, id, 0x0C, 0x44, 0x60, 0, 0, 0, 0, checksum]

def device (jlipIdFile : Option (List UInt8)) : Emulator VideoQueue.ByteQueue :=
  haveI : Scanf := ⟨Int32.ofInt⟩
  victorInit .dvd (Emulator.start .init 3 jlipIdFile)

theorem pauseStopCut {e : Emulator Q} {id checksum : UInt8} (idLow : id < 0x80)
    (sum : (putChecksum #v[0xFF, 0xFF, id, 0x0C, 0x44, 0x60, 0, 0, 0, 0, 0]).get crcLoc = checksum)
    (named : id.toUInt32 = idAt e (pauseStop id checksum) 6) :
    CutShort e (pauseStop id checksum) 0 6 := by
  have split : pauseStop id checksum =
      (putChecksum #v[0xFF, 0xFF, id, 0x0C, 0x43, 0x6D, 0, 0, 0, 0, 0]).toList.take 6 ++
        ((putChecksum #v[0xFF, 0xFF, id, 0x0C, 0x44, 0x60, 0, 0, 0, 0, 0]).toList ++ []) := by
    rw [pauseStop, ← sum]
    rfl
  exact ⟨by decide, [], [], ⟨id, #v[0x0C, 0x43, 0x6D, 0, 0, 0, 0], idLow, by decide⟩,
    ⟨id, #v[0x0C, 0x44, 0x60, 0, 0, 0, 0], idLow, by decide⟩, rfl, split, named⟩

theorem cutShortExecutedTwice :
    let start := device (some [0x36, 0x30])
    let stream := pauseStop 60 0x16
    Addressable start ∧ CutShort start stream 0 6 ∧ Executed start stream 10 ∧
      Executed start stream 16 := by
  intro start stream
  exact ⟨by decide +kernel, pauseStopCut (by decide) (by decide) (by decide +kernel),
    (executedIff _ _ _).mpr (by decide +kernel), (executedIff _ _ _).mpr (by decide +kernel)⟩

theorem executedApartStop :
    let start := device none
    let stream := pauseStop 33 0x31
    Plain start stream ∧ Apart start stream ∧ Executed start stream 16 ∧
      ¬ Executed start stream 10 := by
  intro start stream
  have apart := @executedApart VideoQueue.ByteQueue _ ⟨Int32.ofInt⟩ (.start .init 3 none) .dvd
    (by decide +kernel) stream
  have plain : Plain start stream := by decide +kernel
  have alone : Apart start stream := apart.1 plain
  have whole := alone.whole 0 6 (pauseStopCut (by decide) (by decide) (by decide +kernel))
  refine ⟨plain, alone, whole, fun early => ?_⟩
  have := (alone.alone 10 early).apart 16 (by decide) whole
  omega

end Inputs
end SerialDvdEmu.VictorOverlaps
