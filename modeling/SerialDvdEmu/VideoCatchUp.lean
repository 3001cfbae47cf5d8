import SerialDvdEmu.VideoPlayer

/-! The main thread's calls and the worker's steps in any order. The worker's player is
compared with one that performs every push at once: the queue only delays what that player
does, so what the flags say is what the drained queue leaves on screen. -/
namespace SerialDvdEmu.VideoCatchUp
open EventRun
open VideoQueue VideoThread VideoPlayer
open VideoPlayer.VideoState (Consistent)

inductive Event where
  | call (call : VideoState.Call)
  | work
  deriving DecidableEq, Repr

def step {B : Type} [Buffer B] (v : VideoState (Threads B)) : Event → VideoState (Threads B)
  | .call c => v.call c
  | .work => { v with queue := v.queue.work }

instance : CommandQueue (Option Playback) :=
  ⟨fun loaded opcode argument => perform loaded (.of opcode argument.toUInt8)⟩

def immediateStep (v : VideoState (Option Playback)) : Event → VideoState (Option Playback)
  | .call c => v.call c
  | .work => v

theorem yieldKeeps {B : Type} [Buffer B] (Inv : Threads B → Prop)
    (scheduled : ∀ t schedule, Inv t → Inv { t with schedule := schedule })
    (works : ∀ t, Inv t → Inv t.work) {t : Threads B} (h : Inv t) : Inv t.yield := by
  unfold Threads.yield
  split
  · exact h
  · rename_i steps rest _
    refine runInvariantOn Inv ?_ (scheduled t rest h)
    intro e mem t h
    rw [List.eq_of_mem_replicate mem]
    exact works t h

theorem yieldOverrun {t : Threads ByteQueue} (bad : t.buffer.overrun = true) :
    t.yield.buffer.overrun = true :=
  yieldKeeps (fun t : Threads ByteQueue => t.buffer.overrun = true) (fun _ _ bad => bad)
    (fun t bad => (workOverrun t).trans bad) bad

theorem yieldPeak (f : Threads Fifo) : f.buffer.peak ≤ f.yield.buffer.peak :=
  yieldKeeps (fun g : Threads Fifo => f.buffer.peak ≤ g.buffer.peak) (fun _ _ grown => grown)
    (fun g grown => Nat.le_trans grown (peakMonotone g .work)) (Nat.le_refl _)

theorem yieldRelated {t : Threads ByteQueue} {f : Threads Fifo} (r : Related t f) :
    Related t.yield f.yield := by
  rcases r with m | ⟨bad, high⟩
  · unfold Threads.yield
    rw [m.schedule]
    cases schedule : f.schedule with
    | nil => exact .inl m
    | cons steps rest =>
      have renamed : Matches { t with schedule := rest } { f with schedule := rest } :=
        ⟨m.holds, m.peak, m.worker, rfl, m.tested⟩
      exact Related.run (.inl renamed) _
  · exact .inr ⟨yieldOverrun bad, Nat.lt_of_lt_of_le high (yieldPeak f)⟩

theorem relatedPushes : Pushes Related := fun _ _ opcode argument r =>
  (yieldRelated r).step (.push opcode argument)

theorem stepRelated {v : VideoState (Threads ByteQueue)} {w : VideoState (Threads Fifo)}
    (f : Follows Related v w) (e : Event) : Follows Related (step v e) (step w e) := by
  cases e with
  | call c => exact followCall relatedPushes f c
  | work => exact ⟨f.queue.step .work, f.power, f.playing, f.paused, f.chapter, f.bound⟩

theorem stepOverrun {v : VideoState (Threads ByteQueue)} (bad : v.queue.buffer.overrun = true)
    (e : Event) : (step v e).queue.buffer.overrun = true := by
  cases e with
  | call c =>
    exact callQueue (fun t : Threads ByteQueue => t.buffer.overrun = true)
      (fun _ opcode argument bad => overrunSticky (yieldOverrun bad) (.push opcode argument)) bad c
  | work => exact overrunSticky bad .work

theorem runsRelated (schedule : List Nat) (chapters : Int32) (events : List Event) :
    Follows Related (run step (videoInit (videoThreads schedule) chapters) events)
      (run step (videoInit (fifoThreads schedule) chapters) events) :=
  runRelated (Follows Related) (fun _ _ e f => stepRelated f e)
    ⟨.inl (initialMatches schedule), rfl, rfl, rfl, rfl, rfl⟩ events

theorem fifoDrained (f : Threads Fifo) :
    f.drained = run perform f.worker.loaded (f.worker.phase.held ++ f.buffer.instrs) := rfl

theorem awaitingWork (f : Threads Fifo) :
    f.awaiting = f.worker.phase.held ++ f.work.awaiting := by
  unfold Threads.work Threads.awaiting
  cases phase : f.worker.phase with
  | polling =>
    by_cases waits : Buffer.waiting f.buffer = true <;> simp [waits, phase, Phase.held]
  | locking =>
    cases instrs : f.buffer.instrs <;>
      simp [Buffer.dequeue, Buffer.pending, Fifo.dequeue, instrs, Phase.held]
  | performing instr => simp [Phase.held]

theorem loadedWork (f : Threads Fifo) :
    f.work.worker.loaded = run perform f.worker.loaded f.worker.phase.held := by
  unfold Threads.work
  cases phase : f.worker.phase with
  | polling => by_cases waits : Buffer.waiting f.buffer = true <;> simp [waits, Phase.held]
  | locking => rfl
  | performing instr => rfl

theorem drainedWork (f : Threads Fifo) : f.work.drained = f.drained := by
  rw [Threads.drained, loadedWork, ← runAppend, ← awaitingWork]
  rfl

theorem drainedPush (f : Threads Fifo) (opcode : Opcode) (argument : UInt32) :
    (f.step (.push opcode argument)).drained =
      perform f.drained (.of opcode argument.toUInt8) := by
  simp [fifoDrained, Threads.step, Buffer.push, Fifo.push, ← List.append_assoc, runAppend]

theorem drainedYield (f : Threads Fifo) : f.yield.drained = f.drained :=
  yieldKeeps (fun g : Threads Fifo => g.drained = f.drained) (fun _ _ same => same)
    (fun g same => (drainedWork g).trans same) rfl

def Delays (t : Threads ByteQueue) (shown : Option Playback) : Prop :=
  ∃ f, Related t f ∧ f.drained = shown

theorem delaysPushes : Pushes Delays := by
  rintro t shown opcode argument ⟨f, r, rfl⟩
  refine ⟨f.yield.step (.push opcode argument), (yieldRelated r).step (.push opcode argument), ?_⟩
  rw [drainedPush, drainedYield]
  rfl

theorem delaysWork {t : Threads ByteQueue} {shown : Option Playback} (d : Delays t shown) :
    Delays t.work shown := by
  obtain ⟨f, r, rfl⟩ := d
  exact ⟨f.work, r.step .work, drainedWork f⟩

theorem delaysStep {v : VideoState (Threads ByteQueue)} {w : VideoState (Option Playback)}
    (f : Follows Delays v w) (e : Event) : Follows Delays (step v e) (immediateStep w e) := by
  cases e with
  | call c => exact followCall delaysPushes f c
  | work => exact ⟨delaysWork f.queue, f.power, f.playing, f.paused, f.chapter, f.bound⟩

theorem Delays.drained {t shown} (d : Delays t shown) (sound : t.buffer.overrun = false) :
    t.drained = shown := by
  obtain ⟨f, r, rfl⟩ := d
  have m := r.matches sound
  simp only [Threads.drained, Threads.awaiting, m.worker]
  exact congrArg (fun instrs => run perform f.worker.loaded (f.worker.phase.held ++ instrs))
    m.holds.pending

structure Shows (v : VideoState (Option Playback)) : Prop where
  consistent : Consistent v
  nonempty : 1 ≤ v.maxChapter.toNat
  byte : v.maxChapter.toNat ≤ 255
  shown : v.queue = if v.playingState then some ⟨v.chapter.toNat, v.pausedState⟩ else none

structure Loads (v : VideoState (Option Playback)) : Prop where
  consistent : Consistent v
  nonempty : 1 ≤ v.maxChapter.toNat
  loaded : v.queue = if v.playingState then some ⟨v.chapter.toNat % 256, v.pausedState⟩ else none

theorem performNow (loaded : Option Playback) (opcode : Opcode) (argument : UInt32) :
    CommandQueue.videoThreadAction loaded opcode argument =
      perform loaded (.of opcode argument.toUInt8) := rfl

theorem loadsUnpause {v} (h : Loads v) :
    v.unpause.queue = if v.playingState then some ⟨v.chapter.toNat % 256, false⟩ else none := by
  have loaded := h.loaded
  have plays := h.consistent.pausedPlays
  have powered := h.consistent.playsPowered
  unfold VideoState.unpause
  cases paused : v.pausedState <;> cases playing : v.playingState <;>
    simp_all [VideoState.videoThreadAction, performNow, Instr.of]

theorem loadsPause {v} (h : Loads v) :
    v.pause.queue = if v.playingState then some ⟨v.chapter.toNat % 256, true⟩ else none := by
  have loaded := h.loaded
  have plays := h.consistent.pausedPlays
  have powered := h.consistent.playsPowered
  unfold VideoState.pause
  cases paused : v.pausedState <;> cases playing : v.playingState <;>
    simp_all [VideoState.videoThreadAction, performNow, Instr.of]

theorem loadsStop {v} (h : Loads v) : v.stop.queue = none := by
  have loaded := h.loaded
  have powered := h.consistent.playsPowered
  unfold VideoState.stop
  split
  · simp [VideoState.videoThreadAction, performNow, Instr.of]
  · cases playing : v.playingState <;> simp_all

theorem loadsSeek (v : VideoState (Option Playback)) (c : UInt32) :
    seekQueue v c = some ⟨c.toNat % 256, v.pausedState⟩ := by
  cases paused : v.pausedState <;> simp [seekQueue, performNow, Instr.of, paused]

theorem loadsPowerOn {v} (h : Loads v) : Loads v.powerOn := by
  obtain ⟨power, playing, paused, chapter, bound⟩ := powerOnFlags v h.consistent
  refine ⟨consistentPowerOn h.consistent, bound ▸ h.nonempty, ?_⟩
  rw [playing, paused, chapter, ← h.loaded]
  unfold VideoState.powerOn
  cases powered : v.powerState with
  | true => rfl
  | false =>
    have idle := (h.consistent.off powered).1
    have loaded := h.loaded
    have on : Loads { v with powerState := true } :=
      ⟨consistentPowered h.consistent, h.nonempty, h.loaded⟩
    simpa [idle, loaded] using loadsStop on

theorem loadsPlay {v} (h : Loads v) : Loads v.play := by
  obtain ⟨power, playing, paused, chapter, bound⟩ := playFlags v h.consistent
  refine ⟨consistentCall h.consistent .play, bound ▸ h.nonempty, ?_⟩
  rw [playing, paused, chapter]
  obtain ⟨power, _, _, chapter, _⟩ := powerOnFlags v h.consistent
  have loads := loadsPowerOn h
  unfold VideoState.play
  rw [playPowered, ← chapter]
  revert power loads
  generalize v.powerOn = w
  intro power loads
  cases playing : w.playingState with
  | true => simpa [playing] using loadsUnpause loads
  | false =>
    have first := loads.consistent.idleChapter playing
    have unpaused : w.pausedState = false :=
      Bool.eq_false_iff.mpr fun paused => by simp [loads.consistent.pausedPlays paused] at playing
    -- idle means chapter 1, so the seek inside Play is never refused
    have reaches : Reaches w w.chapter :=
      ⟨power, by simp [first], by simpa [first] using loads.nonempty⟩
    simp only [playing, Bool.not_false, if_true, seekTaken reaches, loadsSeek, unpaused]

theorem loadsCall {v} (h : Loads v) (c : VideoState.Call) : Loads (v.call c) := by
  have consistent := consistentCall h.consistent c
  have nonempty : 1 ≤ (v.call c).maxChapter.toNat := by
    rw [callBound h.consistent]
    exact h.nonempty
  cases c with
  | powerOn => exact loadsPowerOn h
  | powerOff =>
    obtain ⟨power, playing, paused, chapter, bound⟩ := powerOffFlags v h.consistent
    refine ⟨consistent, nonempty, ?_⟩
    have loaded := h.loaded
    rw [VideoState.call, playing]
    unfold VideoState.powerOff
    cases powered : v.powerState with
    | true => simpa using loadsStop h
    | false => simpa [(h.consistent.off powered).1] using loaded
  | play => exact loadsPlay h
  | pause =>
    obtain ⟨power, playing, paused, chapter, bound⟩ := pauseFlags v h.consistent
    refine ⟨consistent, nonempty, ?_⟩
    rw [VideoState.call, loadsPause h, playing, paused, chapter]
    cases v.playingState <;> rfl
  | unpause =>
    obtain ⟨power, playing, paused, chapter, bound⟩ := unpauseFlags v h.consistent
    refine ⟨consistent, nonempty, ?_⟩
    rw [VideoState.call, loadsUnpause h, playing, paused, chapter]
  | stop =>
    obtain ⟨power, playing, paused, chapter, bound⟩ := stopFlags v h.consistent
    refine ⟨consistent, nonempty, ?_⟩
    rw [VideoState.call, loadsStop h, playing]
    rfl
  | seekToChapter c =>
    by_cases reaches : Reaches v c
    · rw [VideoState.call, seekTaken reaches] at consistent ⊢
      exact ⟨consistent, h.nonempty, loadsSeek v c⟩
    · rw [VideoState.call, seekRefused reaches]
      exact h

theorem Shows.loads {v} (h : Shows v) : Loads v := by
  have high := h.consistent.chapterHigh
  have small : v.chapter.toNat % 256 = v.chapter.toNat := by
    have := h.byte
    omega
  exact ⟨h.consistent, h.nonempty, by rw [small]; exact h.shown⟩

theorem Loads.shows {v} (h : Loads v) (byte : v.maxChapter.toNat ≤ 255) : Shows v := by
  have high := h.consistent.chapterHigh
  have small : v.chapter.toNat % 256 = v.chapter.toNat := by omega
  exact ⟨h.consistent, h.nonempty, byte, by rw [← small]; exact h.loaded⟩

theorem showsCall {v} (h : Shows v) (c : VideoState.Call) : Shows (v.call c) := by
  refine (loadsCall h.loads c).shows ?_
  rw [callBound h.consistent]
  exact h.byte

theorem playerCatchesUp (schedule : List Nat) (chapters : Int32) (low : 1 ≤ chapters.toInt)
    (high : chapters.toInt ≤ 255) (events : List Event)
    (fits : (run step (videoInit (videoThreads schedule) chapters) events).queue.buffer.overrun =
      false) :
    let v := run step (videoInit (videoThreads schedule) chapters) events
    v.queue.drained = if v.playingState then some ⟨v.chapter.toNat, v.pausedState⟩ else none := by
  intro v
  have count := chapterCount (Int.le_trans (by decide) low)
  have start : Shows (videoInit (none : Option Playback) chapters) :=
    ⟨initConsistent _ _, by simp only [videoInit]; omega, by simp only [videoInit]; omega, rfl⟩
  have follows : Follows Delays v (run immediateStep (videoInit none chapters) events) :=
    runRelated (Follows Delays) (fun _ _ e f => delaysStep f e)
      ⟨⟨_, .inl (initialMatches schedule), rfl⟩, rfl, rfl, rfl, rfl, rfl⟩ events
  have shown : Shows (run immediateStep (videoInit none chapters) events) :=
    runInvariant Shows (fun v e h => by
      cases e with
      | call c => exact showsCall h c
      | work => exact h) start events
  rw [follows.queue.drained fits, shown.shown, follows.playing, follows.paused, follows.chapter]

theorem playerCatchesUpPaused :
    let v := run step (videoInit (videoThreads [0, 3, 1]) 20)
      [.call .play, .work, .call .pause, .work, .call (.seekToChapter 7), .work]
    v.queue.drained = if v.playingState then some ⟨v.chapter.toNat, v.pausedState⟩ else none :=
  playerCatchesUp [0, 3, 1] 20 (by decide) (by decide)
    [.call .play, .work, .call .pause, .work, .call (.seekToChapter 7), .work] (by decide)

theorem insidePeak (schedule : List Nat) (chapters : Int32) (events : List Event) :
    (∀ before, before <+: events →
      let t := (run step (videoInit (videoThreads schedule) chapters) before).queue
      t.buffer.overrun = false ∧ t.buffer.queuePos.toNat ≤ 256) ↔
    (run step (videoInit (fifoThreads schedule) chapters) events).queue.buffer.peak ≤ 256 := by
  have related (es : List Event) := (runsRelated schedule chapters es).queue
  constructor
  · intro inside
    have sound := (inside events (List.prefix_refl _)).1
    exact ((related events).matches sound).peak
  · rintro small before ⟨rest, rfl⟩
    have clean := mt (related (before ++ rest)).overrunIff.mp (Nat.not_lt.mpr small)
    rw [runAppend] at clean
    have sound := Bool.eq_false_iff.mpr (runUnfaulted
      (fun v : VideoState (Threads ByteQueue) => v.queue.buffer.overrun = true)
      (fun _ e bad => stepOverrun bad e) clean)
    exact ⟨sound, ((related before).matches sound).holds.fits⟩

end SerialDvdEmu.VideoCatchUp
