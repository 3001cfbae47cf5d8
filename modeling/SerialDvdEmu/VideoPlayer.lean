import SerialDvdEmu.VideoThread

/-! The player operations of Video.cpp over any queue that takes the pushes of
VideoThreadAction. No operation reads the queue back, so the flags evolve alike over every
queue, and two queues that stay related under pushes stay related under whole calls. -/
namespace SerialDvdEmu.VideoPlayer
open EventRun
open VideoQueue

class CommandQueue (Q : Type) where
  videoThreadAction : Q → Opcode → UInt32 → Q

instance : CommandQueue ByteQueue := ⟨ByteQueue.videoThreadAction⟩

instance {B : Type} [VideoThread.Buffer B] : CommandQueue (VideoThread.Threads B) :=
  ⟨VideoThread.Threads.action⟩

/-- `struct video_state`. The flags hold 0 or 1 only; the thread handle, the lock, the path and
the pause delay take no part in any decision of the main thread. -/
structure VideoState (Q : Type) where
  queue : Q
  powerState : Bool
  playingState : Bool
  pausedState : Bool
  chapter : UInt32
  maxChapter : UInt32

def videoInit {Q : Type} (queue : Q) (chapters : Int32) : VideoState Q where
  queue := queue
  powerState := false
  playingState := false
  pausedState := false
  chapter := 1
  maxChapter := chapters.toUInt32

namespace VideoState
variable {Q : Type} [CommandQueue Q]

def videoThreadAction (v : VideoState Q) (opcode : Opcode) (argument : UInt32) : VideoState Q :=
  { v with queue := CommandQueue.videoThreadAction v.queue opcode argument }

def pause (v : VideoState Q) : VideoState Q :=
  if v.powerState && v.playingState && !v.pausedState then
    { v.videoThreadAction .pause 0 with playingState := true, pausedState := true }
  else v

def unpause (v : VideoState Q) : VideoState Q :=
  if v.powerState && v.playingState && v.pausedState then
    { v.videoThreadAction .unpause 0 with playingState := true, pausedState := false }
  else v

def seekToChapter (v : VideoState Q) (chapter : UInt32) : Bool × VideoState Q :=
  if v.powerState then
    if chapter ≥ 1 && chapter ≤ v.maxChapter then
      let v := v.videoThreadAction .stop 0
      let v := { v.videoThreadAction .play chapter with playingState := true }
      let v := if v.pausedState then v.videoThreadAction .pause 0 else v
      (true, { v with chapter := chapter })
    else (false, v)
  else (false, v)

def stop (v : VideoState Q) : VideoState Q :=
  if v.powerState && (v.playingState || v.pausedState) then
    let v := v.unpause
    { v.videoThreadAction .stop 0 with
      playingState := false, pausedState := false, chapter := 1 }
  else v

def powerOn (v : VideoState Q) : VideoState Q :=
  if !v.powerState then { v with powerState := true }.stop else v

def powerOff (v : VideoState Q) : VideoState Q :=
  if v.powerState then { v.stop with powerState := false } else v

def play (v : VideoState Q) : VideoState Q :=
  let v := if !v.powerState then v.powerOn else v
  if !v.playingState then
    { (v.seekToChapter v.chapter).2 with playingState := true, pausedState := false }
  else v.unpause

def getChapter (v : VideoState Q) : Int32 := v.chapter.toInt32
def isPowered (v : VideoState Q) : Bool := v.powerState
def isPlaying (v : VideoState Q) : Bool := v.playingState

inductive Call where
  | powerOn
  | powerOff
  | play
  | pause
  | unpause
  | stop
  | seekToChapter (chapter : UInt32)
  deriving DecidableEq, Repr

def call (v : VideoState Q) : Call → VideoState Q
  | .powerOn => v.powerOn
  | .powerOff => v.powerOff
  | .play => v.play
  | .pause => v.pause
  | .unpause => v.unpause
  | .stop => v.stop
  | .seekToChapter chapter => (v.seekToChapter chapter).2

structure Consistent (v : VideoState Q) : Prop where
  pausedPlays : v.pausedState = true → v.playingState = true
  playsPowered : v.playingState = true → v.powerState = true
  idleChapter : v.playingState = false → v.chapter = 1
  chapterLow : 1 ≤ v.chapter.toNat
  chapterHigh : v.chapter.toNat ≤ max 1 v.maxChapter.toNat

end VideoState

open VideoState
variable {Q : Type} [CommandQueue Q]

theorem chapterCount {chapters : Int32} (nonneg : 0 ≤ chapters.toInt) :
    (chapters.toUInt32.toNat : Int) = chapters.toInt := by
  have cond := BitVec.toInt_eq_toNat_cond chapters.toBitVec
  have size := chapters.toBitVec.isLt
  change 0 ≤ chapters.toBitVec.toInt at nonneg
  change (chapters.toBitVec.toNat : Int) = chapters.toBitVec.toInt
  split at cond <;> omega

omit [CommandQueue Q] in
theorem initConsistent (queue : Q) (chapters : Int32) : Consistent (videoInit queue chapters) where
  pausedPlays := by simp [videoInit]
  playsPowered := by simp [videoInit]
  idleChapter _ := rfl
  chapterLow := Nat.le_refl _
  chapterHigh := Nat.le_max_left _ _

def Reaches (v : VideoState Q) (c : UInt32) : Prop :=
  v.powerState = true ∧ 1 ≤ c.toNat ∧ c.toNat ≤ v.maxChapter.toNat

instance (v : VideoState Q) (c : UInt32) : Decidable (Reaches v c) :=
  inferInstanceAs (Decidable (_ ∧ _ ∧ _))

def seekQueue (v : VideoState Q) (c : UInt32) : Q :=
  let queue := CommandQueue.videoThreadAction
    (CommandQueue.videoThreadAction v.queue .stop 0) .play c
  if v.pausedState then CommandQueue.videoThreadAction queue .pause 0 else queue

theorem seekTaken {v : VideoState Q} {c : UInt32} (reaches : Reaches v c) :
    v.seekToChapter c =
      (true, { v with queue := seekQueue v c, playingState := true, chapter := c }) := by
  obtain ⟨powered, low, high⟩ := reaches
  have inside : (decide (c ≥ 1) && decide (c ≤ v.maxChapter)) = true := by
    simp only [Bool.and_eq_true, decide_eq_true_eq, ge_iff_le, UInt32.le_iff_toNat_le]
    exact ⟨low, high⟩
  unfold seekToChapter seekQueue
  rw [if_pos powered, if_pos inside]
  cases paused : v.pausedState <;> simp [videoThreadAction, paused]

theorem seekRefused {v : VideoState Q} {c : UInt32} (outside : ¬ Reaches v c) :
    v.seekToChapter c = (false, v) := by
  unfold seekToChapter
  split
  · rename_i powered
    rw [if_neg]
    simp only [Bool.and_eq_true, decide_eq_true_eq, ge_iff_le, UInt32.le_iff_toNat_le]
    exact fun range => outside ⟨powered, range⟩
  · rfl

theorem unpauseFlags (v : VideoState Q) (h : Consistent v) :
    v.unpause.powerState = v.powerState ∧ v.unpause.playingState = v.playingState ∧
    v.unpause.pausedState = false ∧ v.unpause.chapter = v.chapter ∧
    v.unpause.maxChapter = v.maxChapter := by
  have plays := h.pausedPlays
  have powered := h.playsPowered
  unfold unpause
  cases paused : v.pausedState <;> simp_all [videoThreadAction]

theorem pauseFlags (v : VideoState Q) (h : Consistent v) :
    v.pause.powerState = v.powerState ∧ v.pause.playingState = v.playingState ∧
    v.pause.pausedState = v.playingState ∧ v.pause.chapter = v.chapter ∧
    v.pause.maxChapter = v.maxChapter := by
  have plays := h.pausedPlays
  have powered := h.playsPowered
  unfold pause
  cases paused : v.pausedState <;> cases playing : v.playingState <;>
    simp_all [videoThreadAction]

theorem stopFlags (v : VideoState Q) (h : Consistent v) :
    v.stop.powerState = v.powerState ∧ v.stop.playingState = false ∧
    v.stop.pausedState = false ∧ v.stop.chapter = 1 ∧ v.stop.maxChapter = v.maxChapter := by
  obtain ⟨power, _, _, _, bound⟩ := unpauseFlags v h
  have powered := h.playsPowered
  have plays := h.pausedPlays
  have idle := h.idleChapter
  unfold stop
  split
  · exact ⟨power, rfl, rfl, rfl, bound⟩
  · cases playing : v.playingState <;> cases paused : v.pausedState <;> simp_all

omit [CommandQueue Q] in
theorem VideoState.Consistent.off {v : VideoState Q} (h : Consistent v) (off : v.powerState = false) :
    v.playingState = false ∧ v.pausedState = false ∧ v.chapter = 1 := by
  have idle : v.playingState = false :=
    Bool.eq_false_iff.mpr fun plays => by simp [h.playsPowered plays] at off
  have running : v.pausedState = false :=
    Bool.eq_false_iff.mpr fun paused => by simp [h.pausedPlays paused] at idle
  exact ⟨idle, running, h.idleChapter idle⟩

omit [CommandQueue Q] in
theorem consistentPowered {v : VideoState Q} (h : Consistent v) :
    Consistent { v with powerState := true } :=
  ⟨h.pausedPlays, fun _ => rfl, h.idleChapter, h.chapterLow, h.chapterHigh⟩

theorem powerOnFlags (v : VideoState Q) (h : Consistent v) :
    v.powerOn.powerState = true ∧ v.powerOn.playingState = v.playingState ∧
    v.powerOn.pausedState = v.pausedState ∧ v.powerOn.chapter = v.chapter ∧
    v.powerOn.maxChapter = v.maxChapter := by
  unfold powerOn
  cases powered : v.powerState with
  | true => simp [powered]
  | false =>
    obtain ⟨power, playing, paused, chapter, bound⟩ := stopFlags _ (consistentPowered h)
    obtain ⟨idle, running, first⟩ := h.off powered
    exact ⟨power, playing.trans idle.symm, paused.trans running.symm, chapter.trans first.symm,
      bound⟩

theorem powerOffFlags (v : VideoState Q) (h : Consistent v) :
    v.powerOff.powerState = false ∧ v.powerOff.playingState = false ∧
    v.powerOff.pausedState = false ∧ v.powerOff.chapter = 1 ∧
    v.powerOff.maxChapter = v.maxChapter := by
  unfold powerOff
  cases powered : v.powerState with
  | true => exact ⟨rfl, (stopFlags v h).2⟩
  | false =>
    obtain ⟨idle, running, first⟩ := h.off powered
    exact ⟨powered, idle, running, first, rfl⟩

theorem consistentPowerOn {v : VideoState Q} (h : Consistent v) : Consistent v.powerOn := by
  obtain ⟨power, playing, paused, chapter, bound⟩ := powerOnFlags v h
  exact ⟨by rw [playing, paused]; exact h.pausedPlays, fun _ => power,
    by rw [playing, chapter]; exact h.idleChapter, by rw [chapter]; exact h.chapterLow,
    by rw [chapter, bound]; exact h.chapterHigh⟩

theorem playPowered (v : VideoState Q) :
    (if !v.powerState then v.powerOn else v) = v.powerOn := by
  cases powered : v.powerState <;> simp [powerOn, powered]

theorem playFlags (v : VideoState Q) (h : Consistent v) :
    v.play.powerState = true ∧ v.play.playingState = true ∧ v.play.pausedState = false ∧
    v.play.chapter = v.chapter ∧ v.play.maxChapter = v.maxChapter := by
  obtain ⟨power, _, _, chapter, bound⟩ := powerOnFlags v h
  have consistent := consistentPowerOn h
  unfold play
  -- from here on only what PowerOn leaves matters
  rw [playPowered]
  revert power chapter bound consistent
  generalize v.powerOn = w
  intro power chapter bound consistent
  dsimp only
  cases playing : w.playingState with
  | true =>
    obtain ⟨p, q, r, c, m⟩ := unpauseFlags w consistent
    exact ⟨p.trans power, q.trans playing, r, c.trans chapter, m.trans bound⟩
  | false =>
    by_cases reaches : Reaches w w.chapter
    · simp only [Bool.not_false, if_true, seekTaken reaches]
      exact ⟨power, trivial, trivial, chapter, bound⟩
    · simp only [Bool.not_false, if_true, seekRefused reaches]
      exact ⟨power, trivial, trivial, chapter, bound⟩

theorem consistentSeek {v : VideoState Q} (h : Consistent v) (c : UInt32) :
    Consistent (v.seekToChapter c).2 := by
  by_cases reaches : Reaches v c
  · rw [seekTaken reaches]
    obtain ⟨powered, low, high⟩ := reaches
    exact ⟨fun _ => rfl, fun _ => powered, by simp, low, Nat.le_trans high (Nat.le_max_right _ _)⟩
  · rw [seekRefused reaches]
    exact h

theorem consistentCall {v : VideoState Q} (h : Consistent v) (c : Call) :
    Consistent (v.call c) := by
  have low := h.chapterLow
  have high := h.chapterHigh
  have first : (1 : UInt32).toNat ≤ max 1 v.maxChapter.toNat := Nat.le_max_left _ _
  cases c with
  | powerOn => exact consistentPowerOn h
  | powerOff =>
    obtain ⟨power, playing, paused, chapter, bound⟩ := powerOffFlags v h
    exact ⟨by simp [call, paused], by simp [call, playing], fun _ => chapter,
      by simp [call, chapter], by rw [call, chapter, bound]; exact first⟩
  | play =>
    obtain ⟨power, playing, paused, chapter, bound⟩ := playFlags v h
    exact ⟨by simp [call, paused], fun _ => power, by simp [call, playing],
      by simpa [call, chapter] using low, by simpa [call, chapter, bound] using high⟩
  | pause =>
    obtain ⟨power, playing, paused, chapter, bound⟩ := pauseFlags v h
    exact ⟨by simp [call, playing, paused], by simpa [call, power, playing] using h.playsPowered,
      by simpa [call, playing, chapter] using h.idleChapter, by simpa [call, chapter] using low,
      by simpa [call, chapter, bound] using high⟩
  | unpause =>
    obtain ⟨power, playing, paused, chapter, bound⟩ := unpauseFlags v h
    exact ⟨by simp [call, paused], by simpa [call, power, playing] using h.playsPowered,
      by simpa [call, playing, chapter] using h.idleChapter, by simpa [call, chapter] using low,
      by simpa [call, chapter, bound] using high⟩
  | stop =>
    obtain ⟨power, playing, paused, chapter, bound⟩ := stopFlags v h
    exact ⟨by simp [call, paused], by simp [call, playing], fun _ => chapter,
      by simp [call, chapter], by rw [call, chapter, bound]; exact first⟩
  | seekToChapter c => exact consistentSeek h c

theorem callBound {v : VideoState Q} (h : Consistent v) (c : Call) :
    (v.call c).maxChapter = v.maxChapter := by
  cases c with
  | powerOn => exact (powerOnFlags v h).2.2.2.2
  | powerOff => exact (powerOffFlags v h).2.2.2.2
  | play => exact (playFlags v h).2.2.2.2
  | pause => exact (pauseFlags v h).2.2.2.2
  | unpause => exact (unpauseFlags v h).2.2.2.2
  | stop => exact (stopFlags v h).2.2.2.2
  | seekToChapter c =>
    by_cases reaches : Reaches v c
    · simp only [call, seekTaken reaches]
    · simp only [call, seekRefused reaches]

theorem powerOnQueue {v : VideoState Q} (h : Consistent v) : v.powerOn.queue = v.queue := by
  unfold powerOn
  cases powered : v.powerState with
  | true => rfl
  | false =>
    obtain ⟨idle, running, _⟩ := h.off powered
    simp [stop, idle, running]

theorem unpauseQueue {v : VideoState Q} (h : Consistent v) : v.unpause.queue =
    if v.pausedState then CommandQueue.videoThreadAction v.queue .unpause 0 else v.queue := by
  have plays := h.pausedPlays
  have powered := h.playsPowered
  unfold unpause
  cases paused : v.pausedState <;> simp_all [videoThreadAction]

theorem pauseQueue {v : VideoState Q} (h : Consistent v) : v.pause.queue =
    if v.playingState && !v.pausedState then CommandQueue.videoThreadAction v.queue .pause 0
    else v.queue := by
  have powered := h.playsPowered
  unfold pause
  cases playing : v.playingState <;> cases paused : v.pausedState <;>
    simp_all [videoThreadAction]

theorem stopQueue {v : VideoState Q} (h : Consistent v) : v.stop.queue =
    if v.playingState then CommandQueue.videoThreadAction v.unpause.queue .stop 0
    else v.queue := by
  have plays := h.pausedPlays
  have powered := h.playsPowered
  unfold stop
  cases playing : v.playingState <;> simp_all [videoThreadAction]

theorem powerOffQueue (v : VideoState Q) : v.powerOff.queue = v.stop.queue := by
  unfold powerOff
  cases powered : v.powerState with
  | true => rfl
  | false => simp [stop, powered]

theorem playIdle {v : VideoState Q} (h : Consistent v) (idle : v.playingState = false) :
    v.play.queue = if 1 ≤ v.maxChapter.toNat then
      CommandQueue.videoThreadAction (CommandQueue.videoThreadAction v.queue .stop 0) .play 1
    else v.queue := by
  obtain ⟨power, playing, paused, chapter, bound⟩ := powerOnFlags v h
  have running : v.pausedState = false :=
    Bool.eq_false_iff.mpr fun paused => by simp [h.pausedPlays paused] at idle
  rw [← powerOnQueue h, ← bound]
  rw [idle] at playing
  rw [running] at paused
  rw [h.idleChapter idle] at chapter
  unfold play
  rw [playPowered]
  revert power playing paused chapter
  generalize v.powerOn = w
  intro power playing paused chapter
  by_cases nonempty : 1 ≤ w.maxChapter.toNat
  · have reaches : Reaches w 1 := ⟨power, Nat.le_refl _, nonempty⟩
    simp [playing, chapter, nonempty, seekTaken reaches, seekQueue, paused]
  · have outside : ¬ Reaches w 1 := fun reaches => nonempty reaches.2.2
    simp [playing, chapter, nonempty, seekRefused outside]

theorem playRuns {v : VideoState Q} (h : Consistent v) (playing : v.playingState = true) :
    v.play = v.unpause := by
  have powered := h.playsPowered playing
  simp [play, powered, playing]

section Follows
variable {Q' : Type} [CommandQueue Q']

structure Follows (R : Q → Q' → Prop) (v : VideoState Q) (v' : VideoState Q') : Prop where
  queue : R v.queue v'.queue
  power : v.powerState = v'.powerState
  playing : v.playingState = v'.playingState
  paused : v.pausedState = v'.pausedState
  chapter : v.chapter = v'.chapter
  bound : v.maxChapter = v'.maxChapter

omit [CommandQueue Q] [CommandQueue Q'] in
theorem Follows.consistent {R : Q → Q' → Prop} {v : VideoState Q} {v' : VideoState Q'}
    (f : Follows R v v') (h : Consistent v') : Consistent v := by
  obtain ⟨pausedPlays, playsPowered, idleChapter, chapterLow, chapterHigh⟩ := h
  simp only [← f.power, ← f.playing, ← f.paused, ← f.chapter, ← f.bound] at *
  exact ⟨pausedPlays, playsPowered, idleChapter, chapterLow, chapterHigh⟩

def Pushes (R : Q → Q' → Prop) : Prop :=
  ∀ q q' opcode argument, R q q' →
    R (CommandQueue.videoThreadAction q opcode argument)
      (CommandQueue.videoThreadAction q' opcode argument)

variable {R : Q → Q' → Prop} {v : VideoState Q} {v' : VideoState Q'}

theorem followPause (pushes : Pushes R) (f : Follows R v v') : Follows R v.pause v'.pause := by
  unfold pause
  simp only [f.power, f.playing, f.paused]
  split
  · exact ⟨pushes _ _ _ _ f.queue, f.power, rfl, rfl, f.chapter, f.bound⟩
  · exact f

theorem followUnpause (pushes : Pushes R) (f : Follows R v v') :
    Follows R v.unpause v'.unpause := by
  unfold unpause
  simp only [f.power, f.playing, f.paused]
  split
  · exact ⟨pushes _ _ _ _ f.queue, f.power, rfl, rfl, f.chapter, f.bound⟩
  · exact f

theorem followSeek (pushes : Pushes R) (f : Follows R v v') (c : UInt32) :
    (v.seekToChapter c).1 = (v'.seekToChapter c).1 ∧
    Follows R (v.seekToChapter c).2 (v'.seekToChapter c).2 := by
  have same : Reaches v c ↔ Reaches v' c := by simp only [Reaches, f.power, f.bound]
  by_cases reaches : Reaches v c
  · rw [seekTaken reaches, seekTaken (same.mp reaches)]
    refine ⟨rfl, ?_, f.power, rfl, f.paused, rfl, f.bound⟩
    have queued := pushes _ _ .play c (pushes _ _ .stop 0 f.queue)
    simp only [seekQueue, f.paused]
    split
    · exact pushes _ _ _ _ queued
    · exact queued
  · rw [seekRefused reaches, seekRefused (fun r => reaches (same.mpr r))]
    exact ⟨rfl, f⟩

theorem followStop (pushes : Pushes R) (f : Follows R v v') : Follows R v.stop v'.stop := by
  unfold stop
  simp only [f.power, f.playing, f.paused]
  split
  · have u := followUnpause pushes f
    exact ⟨pushes _ _ _ _ u.queue, u.power, rfl, rfl, rfl, u.bound⟩
  · exact f

theorem followPowerOn (pushes : Pushes R) (f : Follows R v v') :
    Follows R v.powerOn v'.powerOn := by
  unfold powerOn
  rw [f.power]
  split
  · exact followStop pushes ⟨f.queue, rfl, f.playing, f.paused, f.chapter, f.bound⟩
  · exact f

theorem followPowerOff (pushes : Pushes R) (f : Follows R v v') :
    Follows R v.powerOff v'.powerOff := by
  unfold powerOff
  rw [f.power]
  split
  · have s := followStop pushes f
    exact ⟨s.queue, rfl, s.playing, s.paused, s.chapter, s.bound⟩
  · exact f

theorem followPlay (pushes : Pushes R) (f : Follows R v v') : Follows R v.play v'.play := by
  unfold play
  rw [playPowered, playPowered]
  have opened := followPowerOn pushes f
  revert opened
  generalize v.powerOn = w
  generalize v'.powerOn = w'
  intro g
  simp only [g.playing, g.chapter]
  split
  · have s := (followSeek pushes g w'.chapter).2
    exact ⟨s.queue, s.power, rfl, rfl, s.chapter, s.bound⟩
  · exact followUnpause pushes g

theorem followCall (pushes : Pushes R) (f : Follows R v v') (c : Call) :
    Follows R (v.call c) (v'.call c) := by
  cases c with
  | powerOn => exact followPowerOn pushes f
  | powerOff => exact followPowerOff pushes f
  | play => exact followPlay pushes f
  | pause => exact followPause pushes f
  | unpause => exact followUnpause pushes f
  | stop => exact followStop pushes f
  | seekToChapter c => exact (followSeek pushes f c).2

end Follows

theorem callQueue (Inv : Q → Prop)
    (keeps : ∀ q opcode argument, Inv q → Inv (CommandQueue.videoThreadAction q opcode argument))
    {v : VideoState Q} (h : Inv v.queue) (c : Call) : Inv (v.call c).queue :=
  (followCall (R := fun q _ => Inv q) (fun q _ opcode argument => keeps q opcode argument)
    ⟨h, rfl, rfl, rfl, rfl, rfl⟩ c : Follows _ _ (v.call c)).queue

end SerialDvdEmu.VideoPlayer
