import SerialDvdEmu.VictorRequests

/-! Which bytes of a stream complete a packet. No framing state is kept: every eleven bytes are
tried, and on a bus that carries whole frames only those that are a frame can pass. -/
namespace SerialDvdEmu.VictorFraming
open EventRun
open ShiftRegister (shift)
open VictorPacket VictorHandlers VictorRequests
open VideoPlayer (CommandQueue)

variable {Q : Type} [CommandQueue Q]

structure Request where
  id : UInt8
  data : Vector UInt8 7
  idLow : id < 0x80
  dataLow : Low data.toList

def Request.packet (r : Request) : Packet :=
  putChecksum #v[0xFF, 0xFF, r.id, r.data[0], r.data[1], r.data[2], r.data[3], r.data[4],
    r.data[5], r.data[6], 0]

inductive Segment where
  | request (r : Request)
  | reply (data : Vector UInt8 9) (low : Low data.toList)
  | noise (byte : UInt8) (other : byte ≠ 0xFF)

def Segment.bytes : Segment → List UInt8
  | .request r => r.packet.toList
  | .reply data _ => 0xFC :: 0xFF :: data.toList
  | .noise byte _ => [byte]

/-- What the receiver owes a segment: for each byte its result and the reply written, and the
state after it. Only a request that carries the ID in force is handled. -/
def due (e : Emulator Q) : Segment → List (Bool × Option Packet) × Emulator Q
  | .request r =>
    if r.id.toUInt32 = e.victor.jlipId then
      let handled := handlePacket r.packet e
      (List.replicate 10 (false, none) ++ [(true, handled.1)], handled.2)
    else (List.replicate 11 (false, none), e)
  | .reply _ _ => (List.replicate 11 (false, none), e)
  | .noise _ _ => ([(false, none)], e)

structure SameDevice (e e' : Emulator Q) : Prop where
  video : e.video = e'.video
  jlipId : e.victor.jlipId = e'.victor.jlipId
  dvdType : e.victor.dvdType = e'.victor.dvdType
  toshiba : e.toshiba = e'.toshiba
  jlipIdFile : e.jlipIdFile = e'.jlipIdFile

omit [CommandQueue Q] in
theorem SameDevice.eq {e e' : Emulator Q} (h : SameDevice e e') :
    e' = receiving e'.victor.packet e'.victor.response e := by
  obtain ⟨video, ⟨id, type, packet, response⟩, toshiba, file⟩ := e
  obtain ⟨video', ⟨id', type', packet', response'⟩, toshiba', file'⟩ := e'
  obtain ⟨rfl, rfl, rfl, rfl, rfl⟩ := h
  rfl

omit [CommandQueue Q] in
theorem sameReceiving (packet : Packet) (response : Option Packet) (e : Emulator Q) :
    SameDevice e (receiving packet response e) := ⟨rfl, rfl, rfl, rfl, rfl⟩

omit [CommandQueue Q] in
theorem SameDevice.trans {e e' e'' : Emulator Q} (h : SameDevice e e') (h' : SameDevice e' e'') :
    SameDevice e e'' :=
  ⟨h.video.trans h'.video, h.jlipId.trans h'.jlipId, h.dvdType.trans h'.dvdType,
    h.toshiba.trans h'.toshiba, h.jlipIdFile.trans h'.jlipIdFile⟩

theorem turnEq (e : Emulator Q) (byte : UInt8) :
    victorTurn e byte =
      (((handlePacket (window e byte) e).1.isSome, (handlePacket (window e byte) e).1),
        receiving (window e byte) (handlePacket (window e byte) e).1
          (handlePacket (window e byte) e).2) := by
  rw [victorTurn, receiveEq]
  cases h : (handlePacket (window e byte) e).1 <;>
    simp only [victorGetResponse, receiving, Option.isSome, if_true, Bool.false_eq_true, if_false]

theorem afterWindow (e : Emulator Q) (bytes : List UInt8) :
    (after victorTurn e bytes).victor.packet = run shift e.victor.packet bytes :=
  runRelated (fun (e : Emulator Q) packet => e.victor.packet = packet)
    (fun e packet byte same => by rw [turnEq, ← same]; rfl) rfl bytes

theorem quietTurn {e : Emulator Q} {byte : UInt8}
    (quiet : isAddressed (window e byte) e.victor.jlipId = false) :
    victorTurn e byte = ((false, none), receiving (window e byte) none e) := by
  rw [turnEq, handleElsewhere quiet]
  rfl

theorem quietRun {e : Emulator Q} {bytes : List UInt8}
    (quiet : ∀ first, first <+: bytes → first ≠ [] →
      isAddressed (run shift e.victor.packet first) e.victor.jlipId = false) :
    outputs victorTurn e bytes = List.replicate bytes.length (false, none) ∧
    SameDevice e (after victorTurn e bytes) := by
  induction bytes generalizing e with
  | nil => exact ⟨rfl, ⟨rfl, rfl, rfl, rfl, rfl⟩⟩
  | cons byte rest ih =>
    have turn := quietTurn (quiet [byte] (by simp) (by simp))
    obtain ⟨silent, same⟩ := ih (e := (victorTurn e byte).2) fun first start _ => by
      rw [turn]
      exact quiet (byte :: first) (by simpa using start) (by simp)
    rw [turn] at silent same
    rw [outputs, afterCons, turn, silent]
    exact ⟨rfl, (sameReceiving _ _ e).trans same⟩

/-- No packet for the ID in force is completed before the last byte of this one. -/
def Uninterrupted (e : Emulator Q) (packet : Packet) : Prop :=
  ∀ k < 10,
    isAddressed (run shift e.victor.packet (packet.toList.take (k + 1))) e.victor.jlipId = false

instance (e : Emulator Q) (packet : Packet) : Decidable (Uninterrupted e packet) :=
  inferInstanceAs (Decidable (∀ k < 10, _ = false))

/-- No request starts inside the window, nor with its last byte. -/
structure Clean (packet : Packet) : Prop where
  apart : ∀ i, 1 ≤ i → (h : i < 10) → packet[i] = 0xFF → packet[i + 1] ≠ 0xFF
  ended : packet.get crcLoc ≠ 0xFF

theorem cleanQuiet {packet : Packet} (clean : Clean packet) {bytes : List UInt8}
    (some : bytes ≠ []) (short : bytes.length ≤ 10) :
    isPacketGood (run shift packet bytes) = false := by
  rw [Bool.eq_false_iff]
  intro good
  obtain ⟨first, second⟩ : (run shift packet bytes)[0] = 0xFF ∧ (run shift packet bytes)[1] = 0xFF :=
    ⟨((goodIff _).mp good).1, ((goodIff _).mp good).2.1⟩
  have long := List.length_pos_iff.mpr some
  rw [ShiftRegister.feedOld packet bytes (by omega)] at first
  by_cases last : bytes.length = 10
  · simp only [last] at first
    exact clean.ended first
  · rw [ShiftRegister.feedOld packet bytes (by omega)] at second
    simp only [Nat.zero_add, Nat.add_comm 1] at first second
    exact clean.apart _ long (by omega) first second

omit [CommandQueue Q] in
theorem cleanUninterrupted {e : Emulator Q} (clean : Clean e.victor.packet) (packet : Packet) :
    Uninterrupted e packet := by
  intro k short
  have some : packet.toList.take (k + 1) ≠ [] := by
    rw [← List.length_pos_iff, List.length_take, Vector.length_toList]
    omega
  simp [isAddressed, cleanQuiet clean some (by simp; omega)]

theorem requestGood (r : Request) : isPacketGood r.packet = true :=
  (goodIff r.packet).mpr ⟨rfl, rfl, checksumPut _⟩

theorem cleanTail {packet : Packet} {first second : UInt8} {rest : List UInt8}
    (list : packet.toList = first :: second :: rest) (low : Low rest) :
    Clean packet := by
  have tail : ∀ i, 2 ≤ i → (h : i < 11) → packet[i] ≠ 0xFF := by
    intro i inner h same
    obtain ⟨k, rfl⟩ := Nat.exists_eq_add_of_le' inner
    have entry : (first :: second :: rest)[k + 2]? = some 0xFF := by
      rw [← list, ← same]
      simp
    have mem : (0xFF : UInt8) ∈ rest := List.mem_of_getElem? (by simpa using entry)
    exact absurd (low _ mem) (by decide)
  exact ⟨fun i inner h _ => tail (i + 1) (by omega) (by omega), tail 10 (by decide) (by decide)⟩

theorem requestLow (r : Request) : Low (r.packet.toList.drop 2) := by
  intro byte mem
  have parts : byte = r.id ∨ byte ∈ r.data.toList ∨ byte = r.packet[10] := by
    have list : r.packet.toList.drop 2 = [r.id, r.data[0], r.data[1], r.data[2], r.data[3],
      r.data[4], r.data[5], r.data[6], r.packet[10]] := rfl
    rw [list] at mem
    simp only [List.mem_cons, List.not_mem_nil, or_false] at mem
    rcases mem with rfl | rfl | rfl | rfl | rfl | rfl | rfl | rfl | rfl <;> simp
  rcases parts with rfl | data | rfl
  · exact r.idLow
  · exact r.dataLow byte data
  · exact goodLast (requestGood r)

theorem requestClean (r : Request) : Clean r.packet := by
  have whole : r.packet.toList = 0xFF :: 0xFF :: r.packet.toList.drop 2 := rfl
  exact cleanTail whole (requestLow r)

theorem bytesClean {packet : Packet} (clean : Clean packet) (segment : Segment) :
    Clean (run shift packet segment.bytes) := by
  cases segment with
  | request r =>
    have full : run shift packet r.packet.toList = r.packet :=
      Vector.toList_inj.mp (ShiftRegister.feedFull packet r.packet.toList (by simp) (by decide))
    rw [Segment.bytes, full]
    exact requestClean r
  | reply data low =>
    exact cleanTail (ShiftRegister.feedFull packet _ (by simp [Segment.bytes]) (by decide)) low
  | noise byte other =>
    have moved : ∀ i, (h : i < 10) → (shift packet byte)[i] = packet[i + 1] := fun i h =>
      ShiftRegister.shiftGet packet byte (by omega)
    have last : (shift packet byte).get crcLoc = byte := by
      change (shift packet byte)[10] = byte
      simp [shift]
    refine ⟨fun i low high first => ?_, by rw [Segment.bytes, runCons, runNil, last]; exact other⟩
    simp only [Segment.bytes, runCons, runNil] at first ⊢
    rw [moved i high] at first
    by_cases inner : i + 1 < 10
    · rw [moved (i + 1) inner]
      exact clean.apart (i + 1) (by omega) inner first
    · obtain rfl : i = 9 := by omega
      exact absurd first clean.ended

theorem elevenBytes {e : Emulator Q} {packet : Packet} (alone : Uninterrupted e packet) :
    outputs victorTurn e packet.toList = List.replicate 10 (false, none) ++
      [((handlePacket packet e).1.isSome, (handlePacket packet e).1)] ∧
    SameDevice (handlePacket packet e).2 (after victorTurn e packet.toList) := by
  have split : packet.toList = packet.toList.take 10 ++ [packet[10]] := by
    rw [← List.take_append_drop 10 packet.toList]
    simp [List.drop_eq_getElem_cons]
  have quiet : ∀ first, first <+: packet.toList.take 10 → first ≠ [] →
      isAddressed (run shift e.victor.packet first) e.victor.jlipId = false := by
    intro first start some
    have positive := List.length_pos_iff.mpr some
    have short : first.length ≤ 10 := by simpa using start.length_le
    have taken := List.prefix_iff_eq_take.mp start
    rw [List.take_take, Nat.min_eq_left short] at taken
    have here := alone (first.length - 1) (by omega)
    rw [Nat.sub_add_cancel positive, ← taken] at here
    exact here
  obtain ⟨silent, same⟩ := quietRun quiet
  have filled : window (after victorTurn e (packet.toList.take 10)) packet[10] = packet := by
    have full := ShiftRegister.feedFull e.victor.packet packet.toList (by simp) (by decide)
    rw [split, runAppend, ← afterWindow] at full
    exact Vector.toList_inj.mp (full.trans split.symm)
  have handled := handleFramed packet (after victorTurn e (packet.toList.take 10)).victor.packet
    (after victorTurn e (packet.toList.take 10)).victor.response e
  rw [← same.eq] at handled
  rw [split, outputsAppend, afterAppend, silent, outputs, outputs, afterCons, afterNil,
    turnEq, filled, handled]
  exact ⟨by simp, (sameReceiving _ _ _).trans (sameReceiving _ _ _)⟩

theorem segmentDue {e d : Emulator Q} (same : SameDevice d e) (clean : Clean e.victor.packet)
    (segment : Segment) :
    outputs victorTurn e segment.bytes = (due d segment).1 ∧
    SameDevice (due d segment).2 (after victorTurn e segment.bytes) := by
  cases segment with
  | request r =>
    obtain ⟨results, state⟩ := elevenBytes (cleanUninterrupted clean r.packet)
    have handled := handleFramed r.packet e.victor.packet e.victor.response d
    rw [← same.eq] at handled
    rw [handled] at results state
    have address : isAddressed r.packet d.victor.jlipId =
        decide (r.id.toUInt32 = d.victor.jlipId) := by
      rw [isAddressed, requestGood]
      rfl
    rw [Segment.bytes, results, due]
    by_cases here : r.id.toUInt32 = d.victor.jlipId
    · obtain ⟨reply, d', done, _⟩ := handleHere (e := d) (address.trans (decide_eq_true here))
      rw [done] at state ⊢
      simp only [here, if_true]
      exact ⟨rfl, (sameReceiving _ _ _).trans state⟩
    · rw [handleElsewhere (e := d) (address.trans (decide_eq_false here))] at state ⊢
      simp only [here, if_false]
      exact ⟨rfl, (sameReceiving _ _ _).trans state⟩
  | reply data low =>
    obtain ⟨packet, list⟩ : ∃ packet : Packet, packet.toList = 0xFC :: 0xFF :: data.toList :=
      ⟨⟨(0xFC :: 0xFF :: data.toList).toArray, by simp⟩, rfl⟩
    have other : packet[0] = 0xFC := by
      rw [← Vector.getElem_toList (by simp)]
      simp [list]
    have bad : isPacketGood packet = false := by
      rw [Bool.eq_false_iff]
      intro good
      have first : packet[0] = 0xFF := ((goodIff packet).mp good).1
      rw [other] at first
      contradiction
    obtain ⟨results, state⟩ := elevenBytes (cleanUninterrupted clean packet)
    rw [handleElsewhere (by simp [isAddressed, bad])] at results state
    rw [Segment.bytes, ← list]
    exact ⟨results, same.trans state⟩
  | noise byte other =>
    have quiet : ∀ first, first <+: [byte] → first ≠ [] →
        isAddressed (run shift e.victor.packet first) e.victor.jlipId = false := by
      intro first start some
      simp [isAddressed, cleanQuiet clean some (Nat.le_trans start.length_le (by simp))]
    obtain ⟨silent, state⟩ := quietRun quiet
    exact ⟨silent, same.trans state⟩

theorem segmentsDue {e d : Emulator Q} (same : SameDevice d e) (clean : Clean e.victor.packet)
    (segments : List Segment) :
    outputs victorTurn e (segments.flatMap Segment.bytes) = (outputs due d segments).flatten ∧
    SameDevice (after due d segments) (after victorTurn e (segments.flatMap Segment.bytes)) := by
  induction segments generalizing e d with
  | nil => exact ⟨rfl, same⟩
  | cons segment rest ih =>
    obtain ⟨results, state⟩ := segmentDue same clean segment
    have moved := bytesClean clean segment
    rw [← afterWindow] at moved
    obtain ⟨resultsRest, stateRest⟩ := ih state moved
    rw [List.flatMap_cons, outputsAppend, afterAppend, results, resultsRest]
    exact ⟨rfl, stateRest⟩

omit [CommandQueue Q] in
theorem initClean [Scanf] (e : Emulator Q) (dvdType : DvdType) :
    Clean (victorInit dvdType e).victor.packet := by
  refine ⟨fun i _ high first => ?_, show (Vector.replicate 11 0).get crcLoc ≠ 0xFF by decide⟩
  simp [victorInit] at first

theorem framingExact [Scanf] (e : Emulator Q) (dvdType : DvdType) (segments : List Segment) :
    let start := victorInit dvdType e
    outputs victorTurn start (segments.flatMap Segment.bytes) =
      (outputs due start segments).flatten ∧
    SameDevice (after due start segments)
      (after victorTurn start (segments.flatMap Segment.bytes)) := by
  intro start
  have fresh : Clean start.victor.packet := initClean e dvdType
  exact segmentsDue ⟨rfl, rfl, rfl, rfl, rfl⟩ fresh segments

section Windows

def packetAt (e : Emulator Q) (stream : List UInt8) (n : Nat) : Packet :=
  run shift e.victor.packet (stream.take (n + 1))

theorem windowAt {e : Emulator Q} {stream : List UInt8} {n : Nat} {byte : UInt8}
    (here : stream[n]? = some byte) :
    window (after victorTurn e (stream.take n)) byte = packetAt e stream n := by
  rw [window, afterWindow, packetAt, List.take_add_one, here, Option.toList_some, runAppend]
  rfl

theorem afterAddressable {e : Emulator Q} (h : Addressable e) (stream : List UInt8) :
    Addressable (after victorTurn e stream) :=
  runInvariant Addressable (fun _ byte h => receiveAddressable h byte) h stream

end Windows
end SerialDvdEmu.VictorFraming
