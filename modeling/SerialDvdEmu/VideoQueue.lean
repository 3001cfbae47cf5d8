import Mathlib.Data.Nat.Basic
import SerialDvdEmu.Base.EventRun
import SerialDvdEmu.Base.PrefixCode

/-! The opcode queue of Video.cpp: `queue[256]` and `queue_pos`, the pushes made by
VideoThreadAction and the removal made by VideoThread under the same lock.
The abstract side is a list of whole instructions; it never stores argument bytes. -/
namespace SerialDvdEmu.VideoQueue
open EventRun (run runInvariant)

inductive Opcode where
  | stop
  | play
  | pause
  | unpause
  deriving DecidableEq, Repr

def Opcode.code : Opcode → UInt8
  | .stop => 1
  | .play => 2
  | .pause => 3
  | .unpause => 4

def Opcode.ofCode (byte : UInt8) : Option Opcode :=
  if byte = 1 then some .stop
  else if byte = 2 then some .play
  else if byte = 3 then some .pause
  else if byte = 4 then some .unpause
  else none

@[simp] theorem Opcode.ofCodeCode (opcode : Opcode) : Opcode.ofCode opcode.code = some opcode := by
  cases opcode <;> rfl

inductive Instr where
  | stop
  | play (arg : UInt8)
  | pause
  | unpause
  deriving DecidableEq, Repr

def Instr.of (opcode : Opcode) (arg : UInt8) : Instr := match opcode with
  | .stop => .stop
  | .play => .play arg
  | .pause => .pause
  | .unpause => .unpause

def Instr.encode : Instr → List UInt8
  | .stop => [Opcode.stop.code]
  | .play arg => [Opcode.play.code, arg]
  | .pause => [Opcode.pause.code]
  | .unpause => [Opcode.unpause.code]

def Instr.decodeHead : List UInt8 → Option (Instr × List UInt8)
  | [] => none
  | byte :: rest => match Opcode.ofCode byte, rest with
    | some .play, arg :: rest => some (.play arg, rest)
    | some .play, [] => none
    | some opcode, rest => some (.of opcode 0, rest)
    | none, _ => none

def instrCode : PrefixCode Instr UInt8 where
  encode := Instr.encode
  decodeHead := Instr.decodeHead
  nonempty := by intro i; cases i <;> simp [Instr.encode]
  stops := rfl
  decodeEncode := by intro i rest; cases i <;> rfl

@[simp] theorem encodeInstr (instr : Instr) : instrCode.encode instr = instr.encode := rfl

theorem encodeSize (instr : Instr) :
    (instrCode.encode instr).length = 1 ∨ (instrCode.encode instr).length = 2 := by
  cases instr <;> simp [Instr.encode]

structure ByteQueue where
  queue : Vector UInt8 256
  queuePos : UInt32
  /-- Set by the first write at an index past the array. What the source does from then on
  is not described: the byte lands on `queue_pos` itself. -/
  overrun : Bool

namespace ByteQueue

def init : ByteQueue := ⟨Vector.replicate 256 0, 0, false⟩

def store (q : ByteQueue) (byte : UInt8) : ByteQueue :=
  if h : q.queuePos.toNat < 256 then
    { q with queue := q.queue.set q.queuePos.toNat byte, queuePos := q.queuePos + 1 }
  else
    { q with queuePos := q.queuePos + 1, overrun := true }

def videoThreadAction (q : ByteQueue) (opcode : Opcode) (argument : UInt32) : ByteQueue :=
  match opcode with
  | .stop => q.store Opcode.stop.code
  | .pause => q.store Opcode.pause.code
  | .unpause => q.store Opcode.unpause.code
  | .play => (q.store Opcode.play.code).store argument.toUInt8

def removed (opcode : UInt8) : UInt32 := match Opcode.ofCode opcode with
  | some .stop | some .pause | some .unpause => 1
  | some .play => 2
  -- no case of the switch: `amount` keeps its 0
  | none => 0

def shiftDown (q : ByteQueue) (amount : UInt32) : Vector UInt8 256 :=
  Vector.ofFn fun i =>
    if h : i.val < (q.queuePos - amount).toNat ∧ i.val + amount.toNat < 256 then
      q.queue[i.val + amount.toNat]
    else q.queue[i]

def head (q : ByteQueue) : UInt8 := q.queue[0]

def dequeue (q : ByteQueue) : ByteQueue × Option Instr :=
  let opcode := q.head
  let arg := q.queue[1]
  let amount := removed opcode
  let queue := if amount < q.queuePos then q.shiftDown amount else q.queue
  ({ q with queue := queue, queuePos := q.queuePos - amount },
    (Opcode.ofCode opcode).map (Instr.of · arg))

def live (q : ByteQueue) : List UInt8 := q.queue.toList.take q.queuePos.toNat

def pending (q : ByteQueue) : List Instr := instrCode.decodeAll q.live

structure Holds (q : ByteQueue) (instrs : List Instr) : Prop where
  sound : q.overrun = false
  fits : q.queuePos.toNat ≤ 256
  bytes : q.live = instrCode.encodeAll instrs

theorem liveLength {q : ByteQueue} (fits : q.queuePos.toNat ≤ 256) :
    q.live.length = q.queuePos.toNat := by
  simp [live, fits]

theorem Holds.backlog {q instrs} (h : Holds q instrs) :
    q.queuePos.toNat = (instrCode.encodeAll instrs).length := by
  rw [← h.bytes, liveLength h.fits]

theorem Holds.pending {q instrs} (h : Holds q instrs) : q.pending = instrs := by
  rw [ByteQueue.pending, h.bytes, instrCode.decodeAllEncoded]

theorem initHolds : Holds init [] := ⟨rfl, by decide, rfl⟩

theorem storeInside {q : ByteQueue} (room : q.queuePos.toNat < 256) (byte : UInt8) :
    (q.store byte).overrun = q.overrun ∧
    (q.store byte).queuePos.toNat = q.queuePos.toNat + 1 ∧
    (q.store byte).live = q.live ++ [byte] := by
  have next : (q.queuePos + 1).toNat = q.queuePos.toNat + 1 := by
    rw [UInt32.toNat_add]; simp; omega
  refine ⟨by simp [store, room], by simp [store, room, next], ?_⟩
  simp only [live, store, room, dif_pos, next, Vector.toList_set]
  rw [List.take_succ_eq_append_getElem (by simp; omega), List.take_set_of_le (Nat.le_refl _)]
  simp

theorem storeOutside {q : ByteQueue} (full : 256 ≤ q.queuePos.toNat) (byte : UInt8) :
    (q.store byte).overrun = true := by
  simp [store, Nat.not_lt.mpr full]

theorem storeSticky {q : ByteQueue} (bad : q.overrun = true) (byte : UInt8) :
    (q.store byte).overrun = true := by
  unfold store
  split <;> simp [bad]

theorem actionStores (q : ByteQueue) (opcode : Opcode) (argument : UInt32) :
    q.videoThreadAction opcode argument =
      run store q (instrCode.encode (.of opcode argument.toUInt8)) := by
  cases opcode <;> rfl

theorem storeAllSticky {q : ByteQueue} (bad : q.overrun = true) (bytes : List UInt8) :
    (run store q bytes).overrun = true :=
  runInvariant (fun q : ByteQueue => q.overrun = true) (fun _ byte sticky => storeSticky sticky byte) bad bytes

theorem storeAllInside {q : ByteQueue} {bytes : List UInt8}
    (room : q.queuePos.toNat + bytes.length ≤ 256) :
    (run store q bytes).overrun = q.overrun ∧
    (run store q bytes).queuePos.toNat = q.queuePos.toNat + bytes.length ∧
    (run store q bytes).live = q.live ++ bytes := by
  induction bytes generalizing q with
  | nil => simp
  | cons byte bytes ih =>
    simp only [List.length_cons] at room
    obtain ⟨sound, pos, live⟩ := storeInside (q := q) (by omega) byte
    obtain ⟨sound', pos', live'⟩ := ih (q := q.store byte) (by omega)
    refine ⟨sound'.trans sound, ?_, ?_⟩
    · simp only [EventRun.runCons, List.length_cons]
      omega
    · rw [EventRun.runCons, live', live, List.append_assoc, List.singleton_append]

theorem storeAllOutside {q : ByteQueue} {bytes : List UInt8} (fits : q.queuePos.toNat ≤ 256)
    (full : 256 < q.queuePos.toNat + bytes.length) : (run store q bytes).overrun = true := by
  induction bytes generalizing q with
  | nil => simp at full; omega
  | cons byte bytes ih =>
    simp only [List.length_cons] at full
    by_cases inside : q.queuePos.toNat < 256
    · obtain ⟨_, pos, _⟩ := storeInside inside byte
      exact ih (q := q.store byte) (by omega) (by omega)
    · have bad := storeOutside (Nat.not_lt.mp inside) byte
      exact storeAllSticky bad bytes

theorem actionSticky {q : ByteQueue} (bad : q.overrun = true) (opcode argument) :
    (q.videoThreadAction opcode argument).overrun = true := by
  rw [actionStores]
  exact storeAllSticky bad _

theorem actionHolds {q instrs} (h : Holds q instrs) {opcode : Opcode} {argument : UInt32}
    (room : (instrCode.encodeAll (instrs ++ [.of opcode argument.toUInt8])).length ≤ 256) :
    Holds (q.videoThreadAction opcode argument) (instrs ++ [.of opcode argument.toUInt8]) := by
  simp only [PrefixCode.encodeAllAppend, PrefixCode.encodeAllCons, PrefixCode.encodeAllNil,
    List.append_nil, List.length_append, ← h.backlog] at room
  obtain ⟨sound, pos, live⟩ := storeAllInside room
  rw [actionStores]
  refine ⟨sound.trans h.sound, by omega, ?_⟩
  rw [live, h.bytes, PrefixCode.encodeAllAppend]
  simp

theorem actionOverruns {q instrs} (h : Holds q instrs) {opcode : Opcode} {argument : UInt32}
    (full : 256 < (instrCode.encodeAll (instrs ++ [.of opcode argument.toUInt8])).length) :
    (q.videoThreadAction opcode argument).overrun = true := by
  simp only [PrefixCode.encodeAllAppend, PrefixCode.encodeAllCons, PrefixCode.encodeAllNil,
    List.append_nil, List.length_append, ← h.backlog] at full
  rw [actionStores]
  exact storeAllOutside h.fits full

theorem shiftLive {q : ByteQueue} (fits : q.queuePos.toNat ≤ 256) {amount : UInt32}
    (inside : amount.toNat ≤ q.queuePos.toNat) :
    let queue := if amount < q.queuePos then q.shiftDown amount else q.queue
    (q.queuePos - amount).toNat = q.queuePos.toNat - amount.toNat ∧
    queue.toList.take (q.queuePos - amount).toNat = q.live.drop amount.toNat := by
  have left : (q.queuePos - amount).toNat = q.queuePos.toNat - amount.toNat :=
    UInt32.toNat_sub_of_le _ _ (UInt32.le_iff_toNat_le.mpr inside)
  refine ⟨left, ?_⟩
  by_cases more : amount < q.queuePos
  · rw [if_pos more]
    have strict := UInt32.lt_iff_toNat_lt.mp more
    apply List.ext_getElem
    · simp [live]; omega
    · intro i hi hj
      have inRange : i < q.queuePos.toNat - amount.toNat := by simp at hi; omega
      simp only [List.getElem_take, List.getElem_drop, live]
      simp only [shiftDown, Vector.getElem_toList, Vector.getElem_ofFn]
      rw [dif_pos ⟨by omega, by omega⟩]
      simp [Nat.add_comm]
  · rw [if_neg more]
    have : ¬ amount.toNat < q.queuePos.toNat := fun lt => more (UInt32.lt_iff_toNat_lt.mpr lt)
    have gone : (q.queuePos - amount).toNat = 0 := by omega
    rw [gone]
    simp [live]
    omega

theorem encodedOpcode {instr : Instr} {rest : List UInt8} {byte : UInt8}
    (head : (instrCode.encode instr ++ rest)[0]? = some byte) :
    (∃ opcode : Opcode, byte = opcode.code) ∧
    (removed byte).toNat = (instrCode.encode instr).length := by
  have first : instr.encode.head? = some byte := by
    cases instr <;> simpa [Instr.encode] using head
  cases instr with
  | stop => cases Option.some.inj first; exact ⟨⟨.stop, rfl⟩, rfl⟩
  | play arg => cases Option.some.inj first; exact ⟨⟨.play, rfl⟩, rfl⟩
  | pause => cases Option.some.inj first; exact ⟨⟨.pause, rfl⟩, rfl⟩
  | unpause => cases Option.some.inj first; exact ⟨⟨.unpause, rfl⟩, rfl⟩

theorem dequeueHolds {q instr rest} (h : Holds q (instr :: rest)) :
    q.dequeue.2 = some instr ∧ Holds q.dequeue.1 rest ∧
    (∃ opcode : Opcode, q.head = opcode.code) ∧
    (removed q.head).toNat = (instrCode.encode instr).length ∧
    (removed q.head).toNat ≤ q.queuePos.toNat := by
  have backlog := h.backlog
  rw [PrefixCode.encodeAllCons, List.length_append] at backlog
  have at? (i : Nat) (inside : i < 256) (hi : i < q.queuePos.toNat) :
      (instrCode.encode instr ++ instrCode.encodeAll rest)[i]? = some q.queue[i] := by
    rw [← PrefixCode.encodeAllCons, ← h.bytes, live, List.getElem?_take_of_lt hi]
    simp
  have positive := List.length_pos_iff.mpr (instrCode.nonempty instr)
  have first : (instrCode.encode instr ++ instrCode.encodeAll rest)[0]? = some q.head :=
    at? 0 (by decide) (by omega)
  obtain ⟨opcode, amount⟩ := encodedOpcode first
  have inside : (removed q.head).toNat ≤ q.queuePos.toNat := by omega
  obtain ⟨pos, bytes⟩ := shiftLive h.fits inside
  refine ⟨?_, ⟨h.sound, ?_, ?_⟩, opcode, amount, inside⟩
  -- only PLAY has a second byte that is sure to be in use
  · cases instr with
    | play arg =>
      have second := at? 1 (by decide) (by simp [Instr.encode] at backlog; omega)
      simp [Instr.encode] at first second
      simp [dequeue, ← first, ← second, Instr.of]
    | stop => simp [Instr.encode] at first; simp [dequeue, ← first, Instr.of]
    | pause => simp [Instr.encode] at first; simp [dequeue, ← first, Instr.of]
    | unpause => simp [Instr.encode] at first; simp [dequeue, ← first, Instr.of]
  · have := h.fits
    change (q.queuePos - removed q.head).toNat ≤ 256
    omega
  · refine Eq.trans bytes ?_
    rw [h.bytes, PrefixCode.encodeAllCons, amount, List.drop_left]

end ByteQueue
end SerialDvdEmu.VideoQueue
