import SerialDvdEmu.VideoTrace

/-! Play, which raises playing_state after a seek whose result it does not look at. Where the
disc has a chapter the seek is never refused; where it has none, every Play is that case. -/
namespace SerialDvdEmu.VideoPlay
open EventRun
open VideoQueue VideoThread VideoPlayer VideoTrace
open VideoCatchUp (Loads)
open VictorHandlers (victorInit)
open VictorCalls EmulatorThreads
open VideoPlayer.VideoState (Call Consistent)

def Guarded : Option Playback → List Instr → Prop
  | _, [] => True
  | loaded, instr :: rest =>
    (instr = .pause ∨ instr = .unpause → loaded ≠ none) ∧ Guarded (perform loaded instr) rest

theorem guardedAppend (loaded : Option Playback) (first rest : List Instr) :
    Guarded loaded (first ++ rest) ↔
      Guarded loaded first ∧ Guarded (run perform loaded first) rest := by
  induction first generalizing loaded with
  | nil => simp [Guarded]
  | cons instr first ih =>
    simp only [List.cons_append, Guarded, ih, runCons]
    exact and_assoc.symm

structure AllOrNothing (v : VideoState (Traced ByteQueue)) : Prop where
  plays : v.play.playingState = true → v.playingState = true ∨
    ∃ added, v.play.queue.pushed = v.queue.pushed ++ added ∧ (.play, v.play.chapter) ∈ added
  inside : v.playingState = true → 1 ≤ v.chapter.toNat ∧ v.chapter.toNat ≤ v.maxChapter.toNat
  guarded : Guarded none (v.queue.pushed.map queued)

section Guards
variable {B : Type} [Buffer B]

def Guards (t : Traced B) : Prop := Guarded none (t.pushed.map queued)

theorem guardsAction {t : Traced B} {opcode : Opcode} {argument : UInt32} (g : Guards t)
    (loaded : opcode = .pause ∨ opcode = .unpause → t.shown ≠ none) :
    Guards (CommandQueue.videoThreadAction t opcode argument) := by
  rw [Guards, Traced.actionPushed, List.map_append, guardedAppend]
  refine ⟨g, fun pauses => loaded ?_, trivial⟩
  cases opcode <;> simp [queued, Instr.of] at pauses ⊢

variable {v : VideoState (Traced B)}

theorem guardsPause (g : Guards v.queue) (shown : v.playingState = true → v.queue.shown ≠ none) :
    Guards v.pause.queue := by
  unfold VideoState.pause
  split
  · rename_i playing
    simp only [Bool.and_eq_true] at playing
    exact guardsAction g fun _ => shown playing.1.2
  · exact g

theorem guardsUnpause (g : Guards v.queue)
    (shown : v.playingState = true → v.queue.shown ≠ none) : Guards v.unpause.queue := by
  unfold VideoState.unpause
  split
  · rename_i playing
    simp only [Bool.and_eq_true] at playing
    exact guardsAction g fun _ => shown playing.1.2
  · exact g

theorem guardsStop (g : Guards v.queue) (shown : v.playingState = true → v.queue.shown ≠ none) :
    Guards v.stop.queue := by
  unfold VideoState.stop
  split
  · exact guardsAction (guardsUnpause g shown) (by simp)
  · exact g

theorem guardsSeek (g : Guards v.queue) (c : UInt32) : Guards (v.seekToChapter c).2.queue := by
  by_cases reaches : Reaches v c
  · have started : Guards (CommandQueue.videoThreadAction
        (CommandQueue.videoThreadAction v.queue .stop 0) .play c) :=
      guardsAction (guardsAction g (by simp)) (by simp)
    rw [seekTaken reaches]
    simp only [seekQueue]
    split
    · -- the PAUSE of a seek follows its own PLAY
      refine guardsAction started fun _ => ?_
      simp [queued, Instr.of]
    · exact started
  · rw [seekRefused reaches]
    exact g

theorem guardsCall (h : Consistent v) (g : Guards v.queue)
    (shown : v.playingState = true → v.queue.shown ≠ none) (c : Call) :
    Guards (v.call c).queue := by
  cases c with
  | powerOn => exact (powerOnQueue h).symm ▸ g
  | powerOff =>
    rw [VideoState.call, VideoState.powerOff]
    split
    · exact guardsStop g shown
    · exact g
  | play =>
    cases playing : v.playingState with
    | true =>
      rw [VideoState.call, playRuns h playing]
      exact guardsUnpause g shown
    | false =>
      rw [VideoState.call, playIdle h playing]
      split
      · exact guardsAction (guardsAction g (by simp)) (by simp)
      · exact g
  | pause => exact guardsPause g shown
  | unpause => exact guardsUnpause g shown
  | stop => exact guardsStop g shown
  | seekToChapter c => exact guardsSeek g c

theorem guardsStep {e : Emulator (Traced B)} {i : Emulator (Option Playback)}
    (alike : Alike (fun t shown => t.shown = shown) e i) (loads : Loads i.video)
    (g : Guards e.video.queue) (event : EmulatorThreads.Event) :
    Guards (EmulatorThreads.step e event).video.queue := by
  have consistent := alike.video.consistent loads.consistent
  have shown : e.video.playingState = true → e.video.queue.shown ≠ none := by
    intro plays
    rw [alike.video.queue, loads.loaded, ← alike.video.playing, if_pos plays]
    exact Option.some_ne_none _
  rcases stepVideo e event with same | ⟨c, calls⟩ | works
  · exact same ▸ g
  · exact calls ▸ guardsCall consistent g shown c
  · exact works ▸ g

end Guards

theorem startedGuards [Scanf] (dvdType : DvdType) (jlipIdFile : Option (List UInt8))
    (schedule : List Nat) {chapters : Int32} (low : 1 ≤ chapters.toInt)
    (events : List EmulatorThreads.Event) :
    Guards (started dvdType jlipIdFile (tracedThreads schedule) chapters events).video.queue := by
  have related := runRelated
    (fun (e : Emulator (Traced ByteQueue)) (i : Emulator (Option Playback)) =>
      Alike (fun t shown => t.shown = shown) e i ∧ Loads i.video ∧ Guards e.video.queue)
    (fun e i event ⟨alike, loads, g⟩ => ⟨stepAlike showsSimulates alike event,
      stepLoads loads event, guardsStep alike loads g event⟩)
    (s := victorInit dvdType (Emulator.start (tracedThreads schedule) chapters jlipIdFile))
    (t := victorInit dvdType (Emulator.start none chapters jlipIdFile))
    ⟨⟨⟨rfl, rfl, rfl, rfl, rfl, rfl⟩, rfl, rfl, rfl⟩, initLoads low, trivial⟩ events
  exact related.2.2

theorem emptyFails {v : VideoState (Traced ByteQueue)} (h : Consistent v)
    (empty : v.maxChapter.toNat = 0) : ¬ AllOrNothing v := by
  rintro ⟨plays, inside, _⟩
  cases playing : v.playingState with
  | true =>
    obtain ⟨low, high⟩ := inside playing
    omega
  | false =>
    have refused : v.play.queue = v.queue := by
      rw [playIdle h playing, if_neg (by omega)]
    rcases plays (playFlags v h).2.1 with already | ⟨added, pushed, mem⟩
    · rw [playing] at already
      contradiction
    · rw [refused] at pushed
      have nothing : added = [] := List.self_eq_append_right.mp pushed
      rw [nothing] at mem
      contradiction

theorem chaptersHold {v : VideoState (Traced ByteQueue)} (h : Consistent v)
    (nonempty : 1 ≤ v.maxChapter.toNat) (guards : Guards v.queue) : AllOrNothing v := by
  refine ⟨fun _ => ?_, fun _ => ⟨h.chapterLow, ?_⟩, guards⟩
  · cases playing : v.playingState with
    | true => exact .inl rfl
    | false =>
      right
      have chapter : v.play.chapter = 1 := (playFlags v h).2.2.2.1.trans (h.idleChapter playing)
      refine ⟨[(.stop, 0), (.play, 1)], ?_, ?_⟩
      · rw [playIdle h playing, if_pos nonempty]
        simp
      · rw [chapter]
        simp
  · have high := h.chapterHigh
    omega

theorem playAllOrNothingIff [Scanf] (dvdType : DvdType) (jlipIdFile : Option (List UInt8))
    (schedule : List Nat) (chapters : Int32) (nonneg : 0 ≤ chapters.toInt)
    (events : List EmulatorThreads.Event) :
    AllOrNothing (started dvdType jlipIdFile (tracedThreads schedule) chapters events).video ↔
      1 ≤ chapters.toInt := by
  obtain ⟨h, bound⟩ :=
    startedSound dvdType jlipIdFile (tracedThreads schedule) chapters events
  have count := chapterCount nonneg
  rw [← bound] at count
  constructor
  · intro holds
    by_contra empty
    exact emptyFails h (by omega) holds
  · intro low
    exact chaptersHold h (by omega) (startedGuards dvdType jlipIdFile schedule low events)

theorem playAllOrNothingPaused :
    haveI : Scanf := ⟨Int32.ofInt⟩
    AllOrNothing (started .dvd none (tracedThreads [2]) 3
      [.call .play, .worked (), .call .pause]).video :=
  (@playAllOrNothingIff ⟨Int32.ofInt⟩ .dvd none [2] 3 (by decide)
    [.call .play, .worked (), .call .pause]).mpr (by decide)

theorem playEmptyDisc :
    haveI : Scanf := ⟨Int32.ofInt⟩
    ¬ AllOrNothing (started .dvd none (tracedThreads []) 0 []).video ∧
    ¬ AllOrNothing (started .dvd none (tracedThreads []) 0 [.call .play]).video ∧
    (started .dvd none (tracedThreads []) 0 [.call .play, .call .pause]).video.queue.pushed =
      [(.pause, 0)] := by
  let scanf : Scanf := ⟨Int32.ofInt⟩
  have idle := (startedSound .dvd none (tracedThreads []) 0 []).consistent
  have phantom := (startedSound .dvd none (tracedThreads []) 0 [.call .play]).consistent
  exact ⟨emptyFails idle rfl, emptyFails phantom rfl, rfl⟩

end SerialDvdEmu.VideoPlay
