import SerialDvdEmu.EmulatorThreads

/-! The pause request against the comment of the client call, in the flags and in the player that
is left when the queue is drained. -/
namespace SerialDvdEmu.VictorPause
open EventRun
open VideoQueue VideoThread VideoPlayer
open VideoCatchUp (Delays Loads loadsPause stepOverrun)
open VictorRequests (window)
open VictorPacket VictorHandlers VictorCalls EmulatorThreads
open VideoPlayer.VideoState (Call)

/-- The comment: nothing while off or already paused; while idle the first chapter, paused; while
playing a pause where it is. What the drained player shows counts while the array holds the queue. -/
def Documented (v v' : VideoState (Threads ByteQueue)) : Prop :=
  if v.powerState = false then v' = v
  else if v.playingState = false then
    v'.playingState = true ∧ v'.pausedState = true ∧ v'.chapter = 1 ∧
    (v'.queue.buffer.overrun = false → v'.queue.drained = some ⟨1, true⟩)
  else if v.pausedState = false then
    v'.playingState = true ∧ v'.pausedState = true ∧ v'.chapter = v.chapter ∧
    (v'.queue.buffer.overrun = false →
      ∃ clip, v.queue.drained = some ⟨clip, false⟩ ∧ v'.queue.drained = some ⟨clip, true⟩)
  else v' = v

theorem pauseDocuments {v : VideoState (Threads ByteQueue)} {w : VideoState (Option Playback)}
    (f : Follows Delays v w) (f' : Follows Delays v.pause w.pause) (loads : Loads w) :
    Documented v v.pause ↔ v.powerState = false ∨ v.playingState = true := by
  unfold Documented
  cases powered : v.powerState with
  | false => simp [VideoState.pause, powered]
  | true =>
    cases playing : v.playingState with
    | false =>
      have same : v.pause = v := by simp [VideoState.pause, playing]
      simp [same, playing]
    | true =>
      cases paused : v.pausedState with
      | true => simp [VideoState.pause, paused]
      | false =>
        have flags : v.pause.playingState = true ∧ v.pause.pausedState = true ∧
            v.pause.chapter = v.chapter := by
          simp [VideoState.pause, powered, playing, paused, VideoState.videoThreadAction]
        simp only [Bool.true_eq_false, if_false, if_true, or_true, iff_true]
        refine ⟨flags.1, flags.2.1, flags.2.2, fun fits' => ?_⟩
        have fits : v.queue.buffer.overrun = false := by
          by_contra bad
          have full : v.queue.buffer.overrun = true := by simpa using bad
          have worse : v.pause.queue.buffer.overrun = true := stepOverrun full (.call .pause)
          rw [fits'] at worse
          contradiction
        have shown := f.queue.drained fits
        rw [loads.loaded, ← f.playing, ← f.paused, playing, paused, if_pos rfl] at shown
        have held := f'.queue.drained fits'
        rw [loadsPause loads, ← f.playing, playing, if_pos rfl] at held
        exact ⟨_, shown, held⟩

theorem pauseReceived {Q : Type} [CommandQueue Q] {e : Emulator Q} {byte : UInt8}
    (asks : Asks (window e byte) 0x0C 0x43 0x6D) (replied : (victorReceiveByte byte e).1 = true) :
    (victorReceiveByte byte e).2 = receiving (window e byte)
      (some (createPacket e.victor.jlipId .ok noResponse)) { e with video := e.video.pause } := by
  rw [receiveKnown replied (pauseKnown asks e)]

theorem pauseAgrees {e : Emulator (Threads ByteQueue)} {i : Emulator (Option Playback)}
    (delays : Alike Delays e i) (loads : Loads i.video) {byte : UInt8}
    (asks : Asks (window e byte) 0x0C 0x43 0x6D) (replied : (victorReceiveByte byte e).1 = true) :
    victorGetResponse (step e (.input byte)) =
      some (createPacket e.victor.jlipId .ok noResponse) ∧
    (Documented e.video (step e (.input byte)).video ↔
      e.video.powerState = false ∨ e.video.playingState = true) := by
  have later := stepAlike delaysSimulates delays (.input byte)
  have same : window i byte = window e byte := by rw [window, window, delays.victor]
  have repliedToo : (victorReceiveByte byte i).1 = true := by
    rw [← (followReceive delaysSimulates.pushes delays byte).1]
    exact replied
  have received := pauseReceived asks replied
  have receivedToo := pauseReceived (e := i) (by rw [same]; exact asks) repliedToo
  simp only [stepInput] at later ⊢
  rw [received, receivedToo] at later
  rw [received]
  exact ⟨rfl, pauseDocuments delays.video later.video loads⟩

theorem pauseDocumentedIff [Scanf] (dvdType : DvdType) (jlipIdFile : Option (List UInt8))
    (schedule : List Nat) (chapters : Int32) (low : 1 ≤ chapters.toInt) (events : List Event)
    (byte : UInt8) :
    let e := started dvdType jlipIdFile (videoThreads schedule) chapters events
    let e' := step e (.input byte)
    Asks (window e byte) 0x0C 0x43 0x6D → (victorReceiveByte byte e).1 = true →
    victorGetResponse e' = some (createPacket e.victor.jlipId .ok noResponse) ∧
    (Documented e.video e'.video ↔ e.video.powerState = false ∨ e.video.playingState = true) := by
  intro e e' asks replied
  exact pauseAgrees (startedDelays dvdType jlipIdFile schedule chapters events)
    (startedLoads dvdType jlipIdFile low events) asks replied

def pauseArrives (c : Call) : List Event :=
  .call c :: [0xFF, 0xFF, 0x21, 0x0C, 0x43, 0x6D, 0, 0, 0, 0].map .input

theorem pauseDocumentedPlaying :
    haveI : Scanf := ⟨Int32.ofInt⟩
    (Documented (started .dvd none (videoThreads []) 3 (pauseArrives .play)).video
        (step (started .dvd none (videoThreads []) 3 (pauseArrives .play)) (.input 0x25)).video ↔
      (started .dvd none (videoThreads []) 3 (pauseArrives .play)).video.powerState = false ∨
      (started .dvd none (videoThreads []) 3 (pauseArrives .play)).video.playingState = true) := by
  have documented := @pauseDocumentedIff ⟨Int32.ofInt⟩ .dvd none [] 3 (by decide)
    (pauseArrives .play) 0x25 (by decide +kernel) (by decide +kernel)
  exact documented.2

theorem pauseIdleIgnored :
    haveI : Scanf := ⟨Int32.ofInt⟩
    ¬ Documented (started .dvd none (videoThreads []) 3 (pauseArrives .powerOn)).video
      (step (started .dvd none (videoThreads []) 3 (pauseArrives .powerOn))
        (.input 0x25)).video := by
  let scanf : Scanf := ⟨Int32.ofInt⟩
  have low : 1 ≤ (3 : Int32).toInt := by decide
  have agrees := @pauseAgrees _ _ (startedDelays .dvd none [] 3 (pauseArrives .powerOn))
    (startedLoads .dvd none low (pauseArrives .powerOn)) 0x25
    (by decide +kernel) (by decide +kernel)
  rw [agrees.2]
  decide +kernel

end SerialDvdEmu.VictorPause
