import SerialDvdEmu.Base.Stretch
import SerialDvdEmu.ToshibaLine

/-! The bound of the Toshiba packet array. Nothing in the receiver compares an index with the
length of the array; what keeps it inside is the length of the lines alone. -/
namespace SerialDvdEmu.ToshibaBuffer
open EventRun
open ToshibaLine
open VideoPlayer (CommandQueue)

section Receiver
variable {Q : Type} [CommandQueue Q] [Scanf]

def fed (e : Emulator Q) (turn : UInt8 × Bool) : Emulator Q :=
  if turn.2 then (toshibaTurn e turn.1).2 else (toshibaReceiveByte turn.1 e).2

/-- strlen over the packet ends inside it, whatever stands behind it in memory. -/
structure Terminated (e : Emulator Q) : Prop where
  nul : 0 ∈ e.toshiba.packet.toList
  length : ∀ behind, CString.strlen (e.toshiba.packet.toList ++ behind) ≤ 255

def solid (bytes : List UInt8) : List UInt8 := bytes.filter (· ≠ 0)

omit [CommandQueue Q] [Scanf] in
theorem readyTerminated {e : Emulator Q} {text : List UInt8} (ready : Ready e text) :
    Terminated e := by
  have room := ready.packet.room
  refine ⟨?_, fun behind => ?_⟩
  · have last := ready.packet.bytes text.length room
    rw [List.getElem?_eq_none (Nat.le_refl _)] at last
    rw [Vector.mem_toList_iff, ← show e.toshiba.packet[text.length] = 0 from last]
    exact Vector.getElem_mem room
  · rw [ready.packet.strlen behind]
    omega

theorem receivedSame (e : Emulator Q) {byte : UInt8} (inner : byte ≠ 0x0D) (fetch : Bool) :
    fed e (byte, fetch) = (toshibaTurn e byte).2 := by
  cases fetch with
  | true => rfl
  | false => simp [fed, toshibaTurn, toshibaReceiveByte, inner]

theorem fedInner {e : Emulator Q} {text : List UInt8} (ready : Ready e text) {byte : UInt8}
    (inner : byte ≠ 0x0D) (fetch : Bool) (room : (text ++ solid [byte]).length ≤ 255) :
    Ready (fed e (byte, fetch)) (text ++ solid [byte]) := by
  rw [receivedSame e inner fetch]
  refine typedTurn ready inner fun nonzero => ?_
  simp [solid, nonzero] at room
  omega

theorem fedEnd {e : Emulator Q} {text : List UInt8} (ready : Ready e text) (fetch : Bool) :
    Ready (fed e (0x0D, fetch)) [] := by
  cases fetch with
  | true => exact (endedTurn ready).2.1
  | false =>
    obtain ⟨out, answered, received⟩ := endedReceive ready
    simp only [fed, received, Bool.false_eq_true, if_false]
    exact ⟨CString.holdsCleared (by decide), _, answered⟩

theorem fedFull {e : Emulator Q} {text : List UInt8} (ready : Ready e text) {byte : UInt8}
    (inner : byte ≠ 0x0D) (fetch : Bool) (full : 255 < (text ++ solid [byte]).length) :
    ¬ Terminated (fed e (byte, fetch)) := by
  have room := ready.packet.room
  have nonzero : byte ≠ 0 := by
    rintro rfl
    simp [solid] at full
    omega
  obtain ⟨response, _, turn⟩ := typedStore ready inner
  rw [receivedSame e inner fetch, turn]
  rintro ⟨nul, _⟩
  obtain ⟨i, inside, entry⟩ := Vector.getElem_of_mem (Vector.mem_toList_iff.mp nul)
  rw [Vector.getElem_set] at entry
  split at entry
  · exact nonzero entry
  · rename_i other
    have typed : i < text.length := by
      simp [solid, nonzero] at full
      omega
    rw [ready.packet.bytes i inside, List.getElem?_eq_getElem typed] at entry
    exact ready.packet.solid _ (List.getElem_mem typed) entry

theorem fedBound {e : Emulator Q} {text : List UInt8} (ready : Ready e (solid text))
    (stream : List (UInt8 × Bool)) :
    (∀ before, before <+: stream → Terminated (run fed e before)) ↔
      ∀ before, before <+: stream.map Prod.fst →
        (solid (run (Stretch.unfinished 0x0D) text before)).length ≤ 255 := by
  have room : (solid text).length ≤ 255 := Nat.le_of_lt_succ ready.packet.room
  induction stream generalizing e text with
  | nil =>
    have now := readyTerminated ready
    simp only [List.prefix_nil, List.map_nil, forall_eq, runNil, now, room]
  | cons turn rest ih =>
    obtain ⟨byte, fetch⟩ := turn
    rw [List.map_cons, everyPrefixCons, everyPrefixCons]
    refine and_congr (iff_of_true (readyTerminated ready) room) ?_
    simp only [runCons, Stretch.unfinished]
    by_cases ended : byte = 0x0D
    · subst ended
      have next : Ready (fed e (0x0D, fetch)) (solid []) := fedEnd ready fetch
      simpa using ih next (by simp [solid])
    · have longer : solid (text ++ [byte]) = solid text ++ solid [byte] := List.filter_append _ _
      simp only [if_neg ended]
      by_cases more : (solid text ++ solid [byte]).length ≤ 255
      · refine ih ?_ (by rw [longer]; exact more)
        rw [longer]
        exact fedInner ready ended fetch more
      · -- both sides fail here, before the rest of the stream
        refine iff_of_false (fun all => ?_) (fun all => ?_)
        · exact fedFull ready ended fetch (Nat.not_le.mp more) (all [] List.nil_prefix)
        · have here := all [] List.nil_prefix
          rw [runNil, longer] at here
          exact more here

theorem packetTerminatedIff (e : Emulator Q) (stream : List (UInt8 × Bool)) :
    (∀ before, before <+: stream → Terminated (run fed (toshibaInit e) before)) ↔
      ∀ stretch, stretch <:+: stream.map Prod.fst → 0x0D ∉ stretch →
        (stretch.filter (· ≠ 0)).length ≤ 255 := by
  have start : Ready (toshibaInit e) (solid []) := initReady e
  rw [fedBound start stream]
  refine Stretch.unfinishedBound 0x0D (fun text => (solid text).length) 255 ?_ _
  intro first rest
  simp [solid]

end Receiver

def longLine : List (UInt8 × Bool) := List.replicate 256 (0x41, false)

theorem longLineOverruns :
    haveI : Scanf := ⟨Int32.ofInt⟩
    let start := toshibaInit (Emulator.start VideoQueue.ByteQueue.init 3 none)
    ¬ ∀ before, before <+: longLine → Terminated (run fed start before) := by
  intro start all
  have letters : longLine.map Prod.fst = List.replicate 256 0x41 := List.map_replicate
  have bound := (@fedBound _ _ ⟨Int32.ofInt⟩ start [] (initReady _) longLine).mp all
  have whole := bound (List.replicate 256 0x41) (letters ▸ List.prefix_refl _)
  rw [Stretch.unfinishedInner 0x0D [] (by decide)] at whole
  rw [List.nil_append, solid, List.filter_replicate_of_pos (by decide), List.length_replicate] at whole
  omega

end SerialDvdEmu.ToshibaBuffer
