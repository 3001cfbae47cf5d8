import SerialDvdEmu.VictorRequests
import SerialDvdEmu.ToshibaLine

/-! Whole runs of the emulator: calls of the player, bytes to either receiver and whatever the
worker does to the queue, in any order. Each of them is at most one call of the player. -/
namespace SerialDvdEmu.EmulatorRuns
open EventRun
open VictorHandlers VictorRequests ToshibaLine
open VideoPlayer
open VideoPlayer.VideoState (Consistent)

section Runs
variable {Q : Type} [CommandQueue Q]

inductive Arrival where
  | victor (byte : UInt8)
  | toshiba (byte : UInt8)

def arrive [Scanf] (e : Emulator Q) : Arrival → Emulator Q
  | .victor byte => (victorTurn e byte).2
  | .toshiba byte => (toshibaTurn e byte).2

abbrev Event (Q : Type) := Happening Arrival Q

def step [Scanf] : Emulator Q → Event Q → Emulator Q := Emulator.happen arrive leaves

def Called (v v' : VideoState Q) : Prop := v' = v ∨ ∃ c, v' = v.call c

theorem victorCalled (e : Emulator Q) (byte : UInt8) :
    Called e.video (victorTurn e byte).2.video := by
  rw [turnState]
  rcases received e byte with ⟨_, eq⟩ | ⟨_, reply, e', effect, eq⟩
  · rw [eq, passed, receivingVideo]
    exact .inl rfl
  · rw [eq, receivingVideo]
    cases effect with
    | answered status data low => exact .inl rfl
    | called c => exact .inr ⟨c, rfl⟩
    | renamed renames => exact .inl (renameVideo _ e)

theorem Called.ite {v : VideoState Q} {x y : Emulator Q} {c : Prop} [Decidable c]
    (yes : Called v x.video) (no : Called v y.video) : Called v (if c then x else y).video := by
  by_cases h : c
  · simpa only [if_pos h] using yes
  · simpa only [if_neg h] using no

theorem toshibaCalled [Scanf] (e : Emulator Q) (byte : UInt8) :
    Called e.video (toshibaTurn e byte).2.video := by
  have dropped : (dropResponse e).video = e.video := by
    rw [dropResponse]
    split <;> rfl
  have processed : Called (dropResponse e).video (processPacket (dropResponse e)).video := by
    have answered : ∀ out (e : Emulator Q), (answer out e).video = e.video := by
      intro out e
      rw [answer]
    unfold processPacket
    rw [← answered [0x4B] (dropResponse e)]
    generalize answer [0x4B] (dropResponse e) = e
    refine .ite (.inl rfl) ?_
    refine .ite (.inr ⟨.powerOn, rfl⟩) ?_
    refine .ite (.inr ⟨.powerOn, rfl⟩) ?_
    refine .ite (.inl rfl) (.ite (.inl rfl) (.ite (.inl rfl) ?_))
    refine .ite (.inr ⟨.play, rfl⟩) ?_
    refine .ite (.inr ⟨.pause, rfl⟩) ?_
    exact .ite (.inr ⟨.seekToChapter (selectedChapter ((line e).drop 2)), rfl⟩)
      (.inl (answered [0x45] e))
  rw [dropped] at processed
  have response : ∀ e : Emulator Q, (toshibaGetResponse e).2.video = e.video := by
    intro e
    rw [toshibaGetResponse]
    split <;> rfl
  by_cases ended : byte = 0x0D
  · simpa only [toshibaTurn, toshibaReceiveByte, if_pos ended, if_true, response] using processed
  · refine .inl ?_
    simp only [toshibaTurn, toshibaReceiveByte, if_neg ended, Bool.false_eq_true, if_false, dropped]

structure Sound (chapters : UInt32) (v : VideoState Q) : Prop where
  consistent : Consistent v
  bound : v.maxChapter = chapters

theorem soundCall {chapters : UInt32} {v : VideoState Q} (h : Sound chapters v)
    (c : VideoState.Call) : Sound chapters (v.call c) :=
  ⟨consistentCall h.consistent c, (callBound h.consistent c).trans h.bound⟩

theorem soundCalled {chapters : UInt32} {v v' : VideoState Q} (h : Sound chapters v)
    (called : Called v v') : Sound chapters v' := by
  rcases called with rfl | ⟨c, rfl⟩
  · exact h
  · exact soundCall h c

omit [CommandQueue Q] in
theorem soundWorked {chapters : UInt32} {v : VideoState Q} (h : Sound chapters v) (queue : Q) :
    Sound chapters { v with queue := queue } := by
  obtain ⟨⟨pausedPlays, playsPowered, idleChapter, low, high⟩, bound⟩ := h
  exact ⟨⟨pausedPlays, playsPowered, idleChapter, low, high⟩, bound⟩

theorem happenSound {ι ω : Type} {receive : Emulator Q → ι → Emulator Q} {work : ω → Q → Q}
    {chapters : UInt32}
    (received : ∀ e i, Sound chapters e.video → Sound chapters (receive e i).video)
    (e : Emulator Q) (event : Happening ι ω) (h : Sound chapters e.video) :
    Sound chapters (e.happen receive work event).video := by
  cases event with
  | input i => exact received e i h
  | call c => exact soundCall h c
  | worked w => exact soundWorked h (work w e.video.queue)

theorem happenKeeps {ι ω : Type} {receive : Emulator Q → ι → Emulator Q} {work : ω → Q → Q}
    (Inv : Emulator Q → Prop) (played : ∀ e v, Inv e → Inv { e with video := v })
    (received : ∀ e i, Inv e → Inv (receive e i)) (e : Emulator Q) (event : Happening ι ω)
    (h : Inv e) : Inv (e.happen receive work event) := by
  cases event with
  | input i => exact received e i h
  | call c => exact played e _ h
  | worked w => exact played e _ h

theorem soundStep [Scanf] {chapters : UInt32} (e : Emulator Q) (event : Event Q)
    (h : Sound chapters e.video) : Sound chapters (step e event).video := by
  refine happenSound (fun e i h => ?_) e event h
  cases i with
  | victor byte => exact soundCalled h (victorCalled e byte)
  | toshiba byte => exact soundCalled h (toshibaCalled e byte)

theorem soundRun [Scanf] (e : Emulator Q) (queue : Q) (chapters : Int32)
    (events : List (Event Q)) : Sound chapters.toUInt32
      (run step { e with video := videoInit queue chapters } events).video :=
  runInvariant (fun e : Emulator Q => Sound chapters.toUInt32 e.video) soundStep
    ⟨initConsistent queue chapters, rfl⟩ events

omit [CommandQueue Q] in
theorem chapterInt {v : VideoState Q} (small : v.chapter.toNat < 2147483648) :
    v.getChapter.toInt = v.chapter.toNat :=
  BitVec.toInt_eq_toNat_of_lt (by change 2 * v.chapter.toNat < 2 ^ 32; omega)

theorem playerConsistent [Scanf] (e : Emulator Q) (queue : Q) (chapters : Int32)
    (nonneg : 0 ≤ chapters.toInt) (events : List (Event Q)) :
    let v := (run step { e with video := videoInit queue chapters } events).video
    (v.pausedState = true → v.playingState = true) ∧
    (v.playingState = true → v.powerState = true) ∧
    (v.playingState = false → v.chapter = 1) ∧
    (1 ≤ (v.chapter.toNat : Int) ∧ (v.chapter.toNat : Int) ≤ max 1 chapters.toInt) ∧
    (v.getChapter - 1).toInt = v.chapter.toNat - 1 ∧
    ((v.getChapter + 1).toInt = v.chapter.toNat + 1 ↔ v.chapter.toNat ≠ 2147483647) ∧
    ((!v.isPlaying && (v.getChapter - 1).toUInt32 == 0) = true ↔ v.playingState = false) := by
  intro v
  obtain ⟨h, bound⟩ : Sound chapters.toUInt32 v := soundRun e queue chapters events
  have count := chapterCount nonneg
  have low := h.chapterLow
  have high := h.chapterHigh
  rw [bound] at high
  have top := chapters.toInt_lt
  have small : v.chapter.toNat < 2147483648 := by omega
  have chapter := chapterInt small
  refine ⟨h.pausedPlays, h.playsPowered, h.idleChapter, ⟨by omega, by omega⟩, ?_, ?_, ?_⟩
  · rw [Int32.toInt_sub, chapter, show (1 : Int32).toInt = 1 from rfl]
    exact Int.bmod_eq_of_le (by omega) (by omega)
  · rw [Int32.toInt_add, chapter, show (1 : Int32).toInt = 1 from rfl]
    constructor
    · intro same last
      rw [last] at same
      contradiction
    · intro inner
      exact Int.bmod_eq_of_le (by omega) (by omega)
  · simp only [VideoState.isPlaying, VideoState.getChapter, Int32.toUInt32_sub,
      UInt32.toUInt32_toInt32]
    cases playing : v.playingState with
    | true => simp
    | false => simp [h.idleChapter playing]; rfl

end Runs

theorem playerConsistentSeek :
    haveI : Scanf := ⟨Int32.ofInt⟩
    let e : Emulator VideoQueue.ByteQueue := .start .init 3 none
    let v := (run step { e with video := videoInit VideoQueue.ByteQueue.init 3 }
      [.call .powerOn, .call (.seekToChapter 2), .input (.victor 0xFF)]).video
    (v.pausedState = true → v.playingState = true) ∧
    ((v.getChapter + 1).toInt = v.chapter.toNat + 1 ↔ v.chapter.toNat ≠ 2147483647) := by
  intro e v
  have consistent := @playerConsistent VideoQueue.ByteQueue _ ⟨Int32.ofInt⟩ e .init 3 (by decide)
    [.call .powerOn, .call (.seekToChapter 2), .input (.victor 0xFF)]
  exact ⟨consistent.1, consistent.2.2.2.2.2.1⟩

theorem lastChapterOverflows :
    haveI : Scanf := ⟨Int32.ofInt⟩
    let e : Emulator VideoQueue.ByteQueue := .start .init 3 none
    let v := (run step { e with video := videoInit VideoQueue.ByteQueue.init 2147483647 }
      [.call .powerOn, .call (.seekToChapter 2147483647)]).video
    v.chapter = 2147483647 ∧ (v.getChapter + 1).toInt = -2147483648 := by decide +kernel

end SerialDvdEmu.EmulatorRuns
