import SerialDvdEmu.JlipMain
import SerialDvdEmu.VideoShellRuns

/-! From the command line of JLIPTest to the players on the screen: every part of the two programs
between them, with the worker running command lines as it comes to them. -/
namespace SerialDvdEmu.JlipScreen
open EventRun Client
open CString (ascii)
open VideoQueue (ByteQueue)
open VideoThread (Playback)
open VideoPlayer (CommandQueue VideoState)
open VictorPacket (Packet)
open VictorHandlers (victorInit)
open VictorRequests (Addressable)
open EmulatorThreads (Worked started startedAppend)
open VideoShell
open JlipClient (transact)
open JlipSession (Device view)
open JlipCommands JlipMain

structure Round extends Invocation where
  passes : Nat

section Rounds
variable {Q : Type} [CommandQueue Q] [Worked Q]

def round (heap : UInt32 → Packet) (e : Emulator Q) (r : Round) : Option Ended × Emulator Q :=
  r.program.run (serve heap) (run EmulatorThreads.step e (List.replicate r.passes (.worked ())))

def said (raw : BusId → Packet → Player → Packet × Player) (p : Player) (r : Round) :
    Option Ended × Player :=
  told raw p r.toInvocation

theorem roundAgrees {heap : UInt32 → Packet} (blank : Blank heap)
    (raw : BusId → Packet → Player → Packet × Player) {dvdType : DvdType} {chapters : UInt32}
    (count : chapters.toNat < 2147483648) (r : Round) (e : Emulator Q) (p : Player)
    (stands : Stands dvdType chapters e p) :
    (round heap e r).1 = (said raw p r).1 ∧
    Stands dvdType chapters (round heap e r).2 (said raw p r).2 := by
  obtain ⟨h, rfl⟩ := stands
  have listens := JlipArguments.stepListens h (.worked (Worked.work^[r.passes] e.video.queue))
  rw [round, workedOn]
  exact invokedAgrees blank raw count r.toInvocation ⟨listens, rfl⟩

theorem transactBytes (empty request : Packet) (e : Emulator Q) :
    (transact empty request e).2 =
      run EmulatorThreads.step e (request.toList.map .input) := by
  rw [run, List.foldl_map]
  rfl

variable [Scanf] (dvdType : DvdType) (jlipIdFile : Option (List UInt8)) (queue : Q)
  (chapters : Int32)

def Reached (e : Emulator Q) : Prop :=
  ∃ events, e = started dvdType jlipIdFile queue chapters events

variable {dvdType jlipIdFile queue chapters}

theorem reachedOn {e : Emulator Q} (reached : Reached dvdType jlipIdFile queue chapters e)
    (events : List EmulatorThreads.Event) :
    Reached dvdType jlipIdFile queue chapters (run EmulatorThreads.step e events) := by
  obtain ⟨earlier, rfl⟩ := reached
  exact ⟨earlier ++ events, (startedAppend _ _ _ _ earlier events).symm⟩

theorem serveReached (heap : UInt32 → Packet) {α : Type} (question : Asked α) {e : Emulator Q}
    (reached : Reached dvdType jlipIdFile queue chapters e) :
    Reached dvdType jlipIdFile queue chapters (serve heap question e).2 := by
  cases question with
  | purge => exact reached
  | call q =>
    change Reached dvdType jlipIdFile queue chapters (wire heap q e).2
    refine throughKeeps q (fun command params _ e reached => ?_) reached
    rw [transactBytes]
    exact reachedOn reached _
  | raw id request =>
    change Reached dvdType jlipIdFile queue chapters (transact (heap id.id) request e).2
    rw [transactBytes]
    exact reachedOn reached _

theorem roundsReached (heap : UInt32 → Packet) {e : Emulator Q}
    (reached : Reached dvdType jlipIdFile queue chapters e) (rounds : List Round) :
    Reached dvdType jlipIdFile queue chapters (after (round heap) e rounds) := by
  refine runInvariant (Reached dvdType jlipIdFile queue chapters) (fun e r reached => ?_) reached
    rounds
  exact runKeeps (Reached dvdType jlipIdFile queue chapters)
    (fun question e _ reached => serveReached heap question reached)
    (mainAsks r.opened r.plain) (reachedOn reached _)

end Rounds

def shown (d : Device) : List Playback := if d.playing then [⟨d.chapter, d.paused⟩] else []

theorem reachedShows [Scanf] (dvdPath : List UInt8) (pauseDelay : UInt32) (schedule : List Nat)
    {waits : Nat → Option UInt32} (dvdType : DvdType) (jlipIdFile : Option (List UInt8))
    {chapters : Int32} (low : 1 ≤ chapters.toInt) (high : chapters.toInt ≤ 255)
    (room : dvdPath.length ≤ 192)
    {v : VideoState (Shell dvdPath pauseDelay ByteQueue)} {events : List EmulatorThreads.Event}
    (reached : v = (started dvdType jlipIdFile (shellThreads dvdPath pauseDelay schedule waits)
      chapters events).video)
    (fits : v.queue.buffer.overrun = false) :
    (v.queue.Idle → players dvdPath v.queue.worker.ran = shown (view v)) ∧
    (Answers waits → ∃ n, let s := Shell.work^[n] v.queue
      s.Idle ∧ players dvdPath s.worker.ran = shown (view v)) := by
  subst reached
  refine ⟨idleShown dvdPath pauseDelay schedule waits dvdType jlipIdFile low high events fits,
    fun answers => ?_⟩
  obtain ⟨n, idle, _, settled⟩ := settledShown dvdPath pauseDelay schedule dvdType jlipIdFile low
    high room answers events fits
  exact ⟨n, idle, settled⟩

end SerialDvdEmu.JlipScreen
