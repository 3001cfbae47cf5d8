import SerialDvdEmu.EmulatorRuns
import SerialDvdEmu.VictorCalls
import SerialDvdEmu.VideoCatchUp

/-! The Victor emulator together with its worker: calls of the player, bytes of the bus and steps
of the worker in any order. Emulators over related queues stay related through all of them. -/
namespace SerialDvdEmu.EmulatorThreads
open EventRun
open VideoQueue VideoThread VideoPlayer VideoCatchUp
open VictorHandlers VictorRequests VictorCalls EmulatorRuns

class Worked (Q : Type) where
  work : Q → Q

instance {B : Type} [Buffer B] : Worked (Threads B) := ⟨Threads.work⟩

instance : Worked (Option Playback) := ⟨id⟩

abbrev Event := Happening UInt8 Unit

section Runs
variable {Q : Type} [CommandQueue Q] [Worked Q]

def step : Emulator Q → Event → Emulator Q :=
  Emulator.happen (fun e byte => (victorReceiveByte byte e).2) fun _ => Worked.work

@[simp] theorem stepInput (e : Emulator Q) (byte : UInt8) :
    step e (.input byte) = (victorReceiveByte byte e).2 := rfl

def started [Scanf] (dvdType : DvdType) (jlipIdFile : Option (List UInt8)) (queue : Q)
    (chapters : Int32) (events : List Event) : Emulator Q :=
  run step (victorInit dvdType (Emulator.start queue chapters jlipIdFile)) events

theorem startedAppend [Scanf] (dvdType : DvdType) (jlipIdFile : Option (List UInt8)) (queue : Q)
    (chapters : Int32) (first rest : List Event) :
    started dvdType jlipIdFile queue chapters (first ++ rest) =
      run step (started dvdType jlipIdFile queue chapters first) rest :=
  runAppend _ _ first rest

theorem stepVideo (e : Emulator Q) (event : Event) :
    (step e event).video = e.video ∨ (∃ c, (step e event).video = e.video.call c) ∨
    (step e event).video = { e.video with queue := Worked.work e.video.queue } := by
  cases event with
  | call c => exact .inr (.inl ⟨c, rfl⟩)
  | input byte =>
    have called : Called e.video (step e (.input byte)).video := victorCalled e byte
    rcases called with same | ⟨c, calls⟩
    · exact .inl same
    · exact .inr (.inl ⟨c, calls⟩)
  | worked _ => exact .inr (.inr rfl)

theorem stepSound {chapters : UInt32} (e : Emulator Q) (event : Event)
    (h : Sound chapters e.video) : Sound chapters (step e event).video :=
  happenSound (fun e byte h => soundCalled h (victorCalled e byte)) e event h

theorem startedSound [Scanf] (dvdType : DvdType) (jlipIdFile : Option (List UInt8)) (queue : Q)
    (chapters : Int32) (events : List Event) :
    Sound chapters.toUInt32 (started dvdType jlipIdFile queue chapters events).video :=
  runInvariant (fun e : Emulator Q => Sound chapters.toUInt32 e.video)
    stepSound ⟨initConsistent queue chapters, rfl⟩ events

end Runs

section Simulation
variable {Q Q' : Type} [CommandQueue Q] [CommandQueue Q'] [Worked Q] [Worked Q']

structure Simulates (R : Q → Q' → Prop) : Prop where
  pushes : Pushes R
  works : ∀ {q q'}, R q q' → R (Worked.work q) (Worked.work q')

variable {R : Q → Q' → Prop}

theorem stepAlike (simulates : Simulates R) {e : Emulator Q} {e' : Emulator Q'}
    (f : Alike R e e') (event : Event) : Alike R (step e event) (step e' event) := by
  obtain ⟨video, victor, toshiba, file⟩ := f
  cases event with
  | call c => exact ⟨followCall simulates.pushes video c, victor, toshiba, file⟩
  | input byte =>
    exact (followReceive simulates.pushes ⟨video, victor, toshiba, file⟩ byte).2
  | worked _ =>
    exact ⟨⟨simulates.works video.queue, video.power, video.playing, video.paused, video.chapter,
      video.bound⟩, victor, toshiba, file⟩

theorem runAlike (simulates : Simulates R) {e : Emulator Q} {e' : Emulator Q'}
    (f : Alike R e e') (events : List Event) : Alike R (run step e events) (run step e' events) :=
  runRelated (Alike R) (fun _ _ event f => stepAlike simulates f event) f events

theorem startedAlike [Scanf] (simulates : Simulates R) (dvdType : DvdType)
    (jlipIdFile : Option (List UInt8)) {queue : Q} {queue' : Q'} (related : R queue queue')
    (chapters : Int32) (events : List Event) :
    Alike R (started dvdType jlipIdFile queue chapters events)
      (started dvdType jlipIdFile queue' chapters events) :=
  runAlike simulates ⟨⟨related, rfl, rfl, rfl, rfl, rfl⟩, rfl, rfl, rfl⟩ events

end Simulation

theorem delaysSimulates : Simulates Delays := ⟨delaysPushes, delaysWork⟩

theorem startedDelays [Scanf] (dvdType : DvdType) (jlipIdFile : Option (List UInt8))
    (schedule : List Nat) (chapters : Int32) (events : List Event) :
    Alike Delays (started dvdType jlipIdFile (videoThreads schedule) chapters events)
      (started dvdType jlipIdFile none chapters events) :=
  startedAlike delaysSimulates dvdType jlipIdFile ⟨_, .inl (initialMatches schedule), rfl⟩
    chapters events

def Overrun (e : Emulator (Threads ByteQueue)) : Prop := e.video.queue.buffer.overrun = true

instance (e : Emulator (Threads ByteQueue)) : Decidable (Overrun e) :=
  inferInstanceAs (Decidable (_ = true))

theorem alikeDrained {e : Emulator (Threads ByteQueue)} {e' : Emulator (Option Playback)}
    (f : Alike Delays e e') (fits : ¬ Overrun e) : e.video.queue.drained = e'.video.queue :=
  f.video.queue.drained (Bool.eq_false_iff.mpr fits)

theorem stepLoads {e : Emulator (Option Playback)} (h : Loads e.video) (event : Event) :
    Loads (step e event).video := by
  rcases stepVideo e event with same | ⟨c, calls⟩ | works
  · exact same ▸ h
  · exact calls ▸ loadsCall h c
  · exact works ▸ h

theorem initLoads {chapters : Int32} (low : 1 ≤ chapters.toInt) :
    Loads (videoInit (none : Option Playback) chapters) := by
  have count := chapterCount (Int.le_trans (by decide) low)
  exact ⟨initConsistent _ _, by simp only [videoInit]; omega, rfl⟩

theorem startedLoads [Scanf] (dvdType : DvdType) (jlipIdFile : Option (List UInt8))
    {chapters : Int32} (low : 1 ≤ chapters.toInt) (events : List Event) :
    Loads (started dvdType jlipIdFile (none : Option Playback) chapters events).video :=
  runInvariant (fun e : Emulator (Option Playback) => Loads e.video)
    (fun _ event h => stepLoads h event) (initLoads low) events

end SerialDvdEmu.EmulatorThreads
