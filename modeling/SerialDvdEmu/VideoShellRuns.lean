import SerialDvdEmu.VideoShell

/-! The worker with its command lines against the worker that performs an instruction at once:
every step of the first is a step of the second or none, so what was shown of the second holds of
the players that bash is told to start, pause and kill. As long as a player that was started
answers some time, the worker gets through. -/
namespace SerialDvdEmu.VideoShell
open EventRun
open CString (ascii)
open VideoQueue VideoThread VideoPlayer VideoCatchUp EmulatorThreads

section Refinement

def finish (shown : Bool × List Playback) : Statement → Bool × List Playback
  | .execShell command => (shown.1, effect shown.2 command)
  | .awaitStatus | .usleep _ | .sprintf _ => shown
  | .setLoaded flag => (flag, shown.2)

def Worker.comes (dvdPath : List UInt8) (w : Worker) : Bool × List Playback :=
  run finish (w.loaded, players dvdPath w.ran) w.phase.left

def comes (w : VideoThread.Worker) : Option Playback :=
  run VideoThread.perform w.loaded w.phase.held

def Alongside : Phase → VideoThread.Phase → Prop
  | .polling, .polling | .locking, .locking | .performing _, .performing _ => True
  | _, _ => False

variable {dvdPath : List UInt8} {pauseDelay : UInt32} {B : Type} [Buffer B]

structure Refines (s : Shell dvdPath pauseDelay B) (t : Threads B) : Prop where
  buffer : s.buffer = t.buffer
  unscheduled : t.schedule = []
  alongside : Alongside s.worker.phase t.worker.phase
  comes : s.worker.comes dvdPath = ((comes t.worker).isSome, (comes t.worker).toList)

theorem comesExecute {w : Worker} {statement : Statement} {rest : List Statement}
    (phase : w.phase = .performing (statement :: rest)) (exitcode : UInt32) :
    (w.execute dvdPath exitcode rest statement).comes dvdPath = w.comes dvdPath := by
  have here : w.comes dvdPath =
      run finish (finish (w.loaded, players dvdPath w.ran) statement) rest := by
    rw [Worker.comes, phase]
    rfl
  rw [here]
  cases statement with
  | execShell command =>
    rw [Worker.comes, Worker.execute]
    dsimp only
    rw [playersNext, obeyedText]
    rfl
  | awaitStatus =>
    have asked : players dvdPath (w.ran ++ [(Script.controlStatus.text, exitcode)]) =
        players dvdPath w.ran :=
      (playersNext dvdPath _ _ _).trans (obeyedText dvdPath _ (.script .controlStatus))
    rw [Worker.comes, Worker.execute]
    dsimp only
    rw [asked]
    split <;> rfl
  | usleep microseconds => rfl
  | sprintf text => rfl
  | setLoaded flag => rfl

theorem performComes (pauseDelay : UInt32) (loaded : Option Playback) (instr : Instr) :
    run finish (loaded.isSome, loaded.toList) (perform pauseDelay loaded.isSome instr) =
      ((VideoThread.perform loaded instr).isSome, (VideoThread.perform loaded instr).toList) := by
  cases instr with
  | stop => cases loaded <;> simp [perform, finish, effect, VideoThread.perform]
  | pause => cases loaded <;> simp [perform, finish, effect, VideoThread.perform]
  | unpause =>
    by_cases delay : pauseDelay = 0 <;> cases loaded <;>
      simp [perform, finish, effect, VideoThread.perform, delay]
  | play arg => cases loaded <;> simp [perform, finish, effect, VideoThread.perform]

theorem refinesWork {s : Shell dvdPath pauseDelay B} {t : Threads B} (r : Refines s t) :
    Refines s.work (if s.worker.phase.left = [] then t.work else t) := by
  obtain ⟨buffer, unscheduled, alongside, same⟩ := r
  unfold Shell.work
  cases phase : s.worker.phase with
  | polling =>
    rw [Phase.left, if_pos rfl]
    cases other : t.worker.phase with
    | polling =>
      rw [Worker.comes, phase, comes, other] at same
      rw [buffer, Threads.work, other]
      dsimp only
      split
      · exact ⟨rfl, unscheduled, trivial, same⟩
      · refine ⟨buffer, unscheduled, ?_, ?_⟩
        · rw [phase, other]
          trivial
        · rw [Worker.comes, phase, comes, other]
          exact same
    | locking => simp [phase, other, Alongside] at alongside
    | performing instr => simp [phase, other, Alongside] at alongside
  | locking =>
    rw [Phase.left, if_pos rfl]
    cases other : t.worker.phase with
    | locking =>
      rw [Worker.comes, phase, comes, other] at same
      have flag : s.worker.loaded = t.worker.loaded.isSome := congrArg Prod.fst same
      have shown : players dvdPath s.worker.ran = t.worker.loaded.toList := congrArg Prod.snd same
      rw [buffer, Threads.work, other]
      dsimp only
      cases (Buffer.dequeue t.buffer).2 with
      | none => exact ⟨rfl, unscheduled, trivial, same⟩
      | some instr =>
        refine ⟨rfl, unscheduled, trivial, ?_⟩
        have performed := performComes pauseDelay t.worker.loaded instr
        rw [← flag, ← shown] at performed
        exact performed
    | polling => simp [phase, other, Alongside] at alongside
    | performing instr => simp [phase, other, Alongside] at alongside
  | performing statements =>
    cases other : t.worker.phase with
    | performing instr =>
      cases statements with
      | nil =>
        rw [Worker.comes, phase, comes, other] at same
        rw [Phase.left, if_pos rfl, Threads.work, other]
        exact ⟨buffer, unscheduled, trivial, same⟩
      | cons statement rest =>
        rw [Phase.left, if_neg (List.cons_ne_nil _ _)]
        refine ⟨buffer, unscheduled, ?_, (comesExecute phase _).trans same⟩
        rw [other]
        cases statement <;> trivial
    | polling => simp [phase, other, Alongside] at alongside
    | locking => simp [phase, other, Alongside] at alongside

end Refinement

section Showing
variable {dvdPath : List UInt8} {pauseDelay : UInt32}

def Trails (s : Shell dvdPath pauseDelay ByteQueue) (shown : Option Playback) : Prop :=
  ∃ t, Refines s t ∧ Delays t shown

theorem trailsWork {s : Shell dvdPath pauseDelay ByteQueue} {shown : Option Playback}
    (h : Trails s shown) : Trails s.work shown := by
  obtain ⟨t, refines, delays⟩ := h
  refine ⟨_, refinesWork refines, ?_⟩
  split
  · exact delaysWork delays
  · exact delays

theorem trailsPush {s : Shell dvdPath pauseDelay ByteQueue} {shown : Option Playback}
    (h : Trails s shown) (opcode : Opcode) (argument : UInt32) :
    Trails (s.push opcode argument)
      (CommandQueue.videoThreadAction shown opcode argument) := by
  obtain ⟨t, ⟨buffer, unscheduled, alongside, same⟩, delays⟩ := h
  have unyielding : t.yield = t := by rw [Threads.yield, unscheduled]
  have pushed := delaysPushes t shown opcode argument delays
  change Delays (t.yield.step (.push opcode argument)) _ at pushed
  rw [unyielding] at pushed
  exact ⟨t.step (.push opcode argument),
    ⟨congrArg (Buffer.push · opcode argument) buffer, unscheduled, alongside, same⟩, pushed⟩

theorem trailsSimulates :
    Simulates fun (s : Shell dvdPath pauseDelay ByteQueue) (shown : Option Playback) =>
      Trails s shown where
  pushes := by
    intro s shown opcode argument h
    refine trailsPush (yieldKeeps (fun q => Trails q shown) ?_ (fun _ h => trailsWork h) h)
      opcode argument
    rintro q schedule ⟨t, ⟨buffer, unscheduled, alongside, same⟩, delays⟩
    exact ⟨t, ⟨buffer, unscheduled, alongside, same⟩, delays⟩
  works := trailsWork

def Shell.Idle (s : Shell dvdPath pauseDelay ByteQueue) : Prop :=
  s.worker.phase = .polling ∧ Buffer.pending s.buffer = []

theorem trailsIdle {s : Shell dvdPath pauseDelay ByteQueue} {shown : Option Playback}
    (h : Trails s shown) (fits : s.buffer.overrun = false) (idle : s.Idle) :
    players dvdPath s.worker.ran = shown.toList := by
  obtain ⟨t, ⟨buffer, _, alongside, same⟩, delays⟩ := h
  obtain ⟨phase, empty⟩ := idle
  have polls : t.worker.phase = .polling := by
    cases other : t.worker.phase with
    | polling => rfl
    | locking => simp [phase, other, Alongside] at alongside
    | performing instr => simp [phase, other, Alongside] at alongside
  have drained : t.drained = t.worker.loaded := by
    rw [Threads.drained, Threads.awaiting, polls, ← buffer, empty]
    rfl
  rw [← delays.drained (buffer ▸ fits), drained]
  rw [Worker.comes, phase, comes, polls] at same
  exact congrArg Prod.snd same

def Answers (waits : Nat → Option UInt32) : Prop := ∀ n, ∃ k, n ≤ k ∧ execShell (waits k) = 0

theorem answersLater {waits : Nat → Option UInt32} (answers : Answers waits) :
    Answers fun n => waits (n + 1) := by
  intro n
  obtain ⟨k, later, answered⟩ := answers (n + 1)
  obtain ⟨j, rfl⟩ := Nat.exists_eq_add_of_le' (Nat.le_trans (Nat.succ_pos n) later)
  exact ⟨j, by omega, answered⟩

theorem answersWork {s : Shell dvdPath pauseDelay ByteQueue} (answers : Answers s.waits) :
    Answers s.work.waits := by
  unfold Shell.work
  split
  · split <;> exact answers
  · exact answers
  · exact answers
  · exact answersLater answers

theorem performsOn {s : Shell dvdPath pauseDelay ByteQueue} {statement : Statement}
    {rest : List Statement} (left : s.worker.phase.left = statement :: rest) :
    s.work.waits = (fun n => s.waits (n + 1)) ∧
    s.work.worker = s.worker.execute dvdPath (execShell (s.waits 0)) rest statement := by
  cases phase : s.worker.phase with
  | polling => simp [phase, Phase.left] at left
  | locking => simp [phase, Phase.left] at left
  | performing statements =>
    rw [phase, Phase.left] at left
    subst left
    simp only [Shell.work, phase, and_self]

theorem performsOut (statements : List Statement) {s : Shell dvdPath pauseDelay ByteQueue}
    {t : Threads ByteQueue} (left : s.worker.phase.left = statements) (refines : Refines s t)
    (answers : Answers s.waits) :
    ∃ n, Refines (Shell.work^[n] s) t.work ∧ Answers (Shell.work^[n] s).waits := by
  induction statements generalizing s with
  | nil =>
    have next := refinesWork refines
    rw [if_pos left] at next
    exact ⟨1, next, answersWork answers⟩
  | cons statement rest ih =>
    have stays : ∀ {q : Shell dvdPath pauseDelay ByteQueue}, Refines q t →
        q.worker.phase.left = statement :: rest → Refines q.work t := by
      intro q refines left
      have next := refinesWork refines
      rwa [if_neg (by rw [left]; exact List.cons_ne_nil _ _)] at next
    by_cases waiting : statement = .awaitStatus
    · obtain ⟨k, _, answered⟩ := answers 0
      induction k generalizing s with
      | zero =>
        obtain ⟨_, worker⟩ := performsOn left
        have moved : s.work.worker.phase.left = rest := by
          rw [worker, waiting, Worker.execute, answered]
          rfl
        obtain ⟨n, done⟩ := ih moved (stays refines left) (answersWork answers)
        exact ⟨n + 1, done⟩
      | succ k later =>
        obtain ⟨waits, worker⟩ := performsOn left
        by_cases now : execShell (s.waits 0) = 0
        · have moved : s.work.worker.phase.left = rest := by
            rw [worker, waiting, Worker.execute, now]
            rfl
          obtain ⟨n, done⟩ := ih moved (stays refines left) (answersWork answers)
          exact ⟨n + 1, done⟩
        · have again : s.work.worker.phase.left = statement :: rest := by
            rw [worker, waiting, Worker.execute]
            simp only [if_neg now, Phase.left]
          obtain ⟨n, done⟩ := later again (stays refines left) (answersWork answers) k.zero_le
            (by rw [waits]; exact answered)
          exact ⟨n + 1, done⟩
    · obtain ⟨_, worker⟩ := performsOn left
      have moved : s.work.worker.phase.left = rest := by
        rw [worker]
        cases statement <;> first | rfl | contradiction
      obtain ⟨n, done⟩ := ih moved (stays refines left) (answersWork answers)
      exact ⟨n + 1, done⟩

theorem catchesUp (m : Nat) {s : Shell dvdPath pauseDelay ByteQueue} {t : Threads ByteQueue}
    (refines : Refines s t) (answers : Answers s.waits) :
    ∃ n, Refines (Shell.work^[n] s) (Threads.work^[m] t) := by
  induction m generalizing s t with
  | zero => exact ⟨0, refines⟩
  | succ m ih =>
    obtain ⟨n, next, answers⟩ := performsOut _ rfl refines answers
    obtain ⟨n', last⟩ := ih next answers
    exact ⟨n' + n, by rwa [Function.iterate_add_apply]⟩

theorem worksMatch {t : Threads ByteQueue} {f : Threads Fifo} (m : Matches t f) (n : Nat) :
    Matches (Threads.work^[n] t) (Threads.work^[n] f) := by
  induction n generalizing t f with
  | zero => exact m
  | succ n ih => exact ih m.work

theorem doneIdle {s : Shell dvdPath pauseDelay ByteQueue} {t : Threads ByteQueue}
    {f : Threads Fifo} (refines : Refines s t) (m : Matches t f) (done : f.awaiting = []) :
    s.Idle := by
  obtain ⟨buffer, _, alongside, _⟩ := refines
  obtain ⟨held, empty⟩ := List.append_eq_nil_iff.mp done
  constructor
  · rw [m.worker] at alongside
    cases phase : s.worker.phase with
    | polling => rfl
    | locking =>
      cases other : f.worker.phase with
      | locking => exact absurd empty (m.tested other)
      | polling => simp [phase, other, Alongside] at alongside
      | performing instr => simp [phase, other, Alongside] at alongside
    | performing statements =>
      cases other : f.worker.phase with
      | performing instr => simp [other, VideoThread.Phase.held] at held
      | polling => simp [phase, other, Alongside] at alongside
      | locking => simp [phase, other, Alongside] at alongside
  · rw [buffer]
    exact m.holds.pending.trans empty

theorem settles {s : Shell dvdPath pauseDelay ByteQueue} {shown : Option Playback}
    (h : Trails s shown) (fits : s.buffer.overrun = false) (answers : Answers s.waits) :
    ∃ n, (Shell.work^[n] s).Idle := by
  obtain ⟨t, refines, f, related, _⟩ := h
  obtain ⟨m, done⟩ := VideoTrace.drains f
  obtain ⟨n, last⟩ := catchesUp m refines answers
  exact ⟨n, doneIdle last (worksMatch (related.matches (refines.buffer ▸ fits)) m) done⟩

theorem workFits {s : Shell dvdPath pauseDelay ByteQueue} (fits : s.buffer.overrun = false) :
    s.work.buffer.overrun = false := by
  unfold Shell.work
  split
  · split <;> exact fits
  · exact fits
  · exact fits
  · exact fits

theorem workedOn {Q : Type} [CommandQueue Q] [Worked Q] (e : Emulator Q) (n : Nat) :
    run EmulatorThreads.step e (List.replicate n (.worked ())) =
      { e with video := { e.video with queue := Worked.work^[n] e.video.queue } } := by
  induction n generalizing e with
  | zero => rfl
  | succ n ih => exact ih (EmulatorThreads.step e (.worked ()))

section Runs
variable [Scanf] (dvdPath : List UInt8) (pauseDelay : UInt32) (schedule : List Nat)
  (waits : Nat → Option UInt32) (dvdType : DvdType) (jlipIdFile : Option (List UInt8))

theorem startedTrails (chapters : Int32) (events : List EmulatorThreads.Event) :
    VictorCalls.Alike Trails
      (started dvdType jlipIdFile (shellThreads dvdPath pauseDelay schedule waits) chapters events)
      (started dvdType jlipIdFile none chapters events) := by
  have start : Refines (shellThreads dvdPath pauseDelay schedule waits) (videoThreads []) :=
    ⟨rfl, rfl, trivial, rfl⟩
  exact startedAlike trailsSimulates dvdType jlipIdFile
    ⟨videoThreads [], start, _, .inl (initialMatches []), rfl⟩ chapters events

theorem idleShown {chapters : Int32} (low : 1 ≤ chapters.toInt) (high : chapters.toInt ≤ 255)
    (events : List EmulatorThreads.Event) :
    let v := (started dvdType jlipIdFile (shellThreads dvdPath pauseDelay schedule waits) chapters
      events).video
    v.queue.buffer.overrun = false → v.queue.Idle →
      players dvdPath v.queue.worker.ran =
        if v.playingState then [⟨v.chapter.toNat, v.pausedState⟩] else [] := by
  intro v fits idle
  obtain ⟨video, _⟩ := startedTrails dvdPath pauseDelay schedule waits dvdType jlipIdFile chapters
    events
  have loads := startedLoads dvdType jlipIdFile low events
  have sound := startedSound dvdType jlipIdFile (none : Option Playback) chapters events
  have count := chapterCount (Int.le_trans (by decide) low)
  have byte : (started dvdType jlipIdFile (none : Option Playback) chapters
      events).video.maxChapter.toNat ≤ 255 := by
    rw [sound.bound]
    omega
  rw [trailsIdle video.queue fits idle, (loads.shows byte).shown, video.playing, video.paused,
    video.chapter]
  split <;> rfl

variable {waits}

theorem settledShown {chapters : Int32} (low : 1 ≤ chapters.toInt) (high : chapters.toInt ≤ 255)
    (room : dvdPath.length ≤ 192) (answers : Answers waits)
    (events : List EmulatorThreads.Event) :
    let v := (started dvdType jlipIdFile (shellThreads dvdPath pauseDelay schedule waits) chapters
      events).video
    v.queue.buffer.overrun = false →
      ∃ n, let s := Shell.work^[n] v.queue
        s.Idle ∧ s.worker.smashed = false ∧ players dvdPath s.worker.ran =
          if v.playingState then [⟨v.chapter.toNat, v.pausedState⟩] else [] := by
  intro v fits
  have answering : Answers v.queue.waits := by
    refine shellKeeps (fun q : Shell dvdPath pauseDelay ByteQueue => Answers q.waits)
      (fun q opcode argument answers => ?_) (fun q answers => answersWork answers) answers dvdType
      jlipIdFile chapters events
    exact yieldKeeps (fun q : Shell dvdPath pauseDelay ByteQueue => Answers q.waits)
      (fun _ _ answers => answers) (fun q answers => answersWork answers) answers
  obtain ⟨video, _⟩ := startedTrails dvdPath pauseDelay schedule waits dvdType jlipIdFile chapters
    events
  obtain ⟨n, idle⟩ := settles video.queue fits answering
  have fitsLater : (Shell.work^[n] v.queue).buffer.overrun = false :=
    Function.Iterate.rec (fun q : Shell dvdPath pauseDelay ByteQueue => q.buffer.overrun = false)
      fits (fun _ => workFits) n
  have later := idleShown dvdPath pauseDelay schedule waits dvdType jlipIdFile low high
    (events ++ List.replicate n (.worked ()))
  obtain ⟨stage, orderly⟩ := startedOrderly dvdPath pauseDelay schedule waits dvdType jlipIdFile
    chapters (events ++ List.replicate n (.worked ()))
  rw [startedAppend, workedOn] at later orderly
  exact ⟨n, idle, orderly.whole room, later fitsLater idle⟩

end Runs
end Showing

end SerialDvdEmu.VideoShell
