import Mathlib.Logic.Function.Iterate
import SerialDvdEmu.EmulatorThreads

/-! The queue with a record of what was pushed and of what the worker launched. The record
changes nothing the threads do. Without an overrun the worker performs the pushes in their
order, and left alone it comes to each of them. -/
namespace SerialDvdEmu.VideoTrace
open EventRun
open VideoQueue VideoThread VideoPlayer VideoCatchUp EmulatorThreads

def launch (loaded : Option Playback) : Instr → Option Nat
  | .play arg => match loaded with
    | some _ => none
    | none => some arg.toNat
  | .stop | .pause | .unpause => none

def launching (loaded : Option Playback) (instr : Instr) : Option Nat × Option Playback :=
  (launch loaded instr, perform loaded instr)

def queued (push : Opcode × UInt32) : Instr := .of push.1 push.2.toUInt8

structure Traced (B : Type) where
  threads : Threads B
  pushed : List (Opcode × UInt32)
  launched : List (Option Nat)

namespace Traced
variable {B : Type} [Buffer B]

def work (t : Traced B) : Traced B where
  threads := t.threads.work
  pushed := t.pushed
  launched := t.launched ++ t.threads.worker.phase.held.map (launch t.threads.worker.loaded)

def step (t : Traced B) : Threads.Event → Traced B
  | .push opcode argument =>
    { t with
      threads := t.threads.step (.push opcode argument)
      pushed := t.pushed ++ [(opcode, argument)] }
  | .work => t.work

def yield (t : Traced B) : Traced B := match t.threads.schedule with
  | [] => t
  | steps :: rest =>
    run step { t with threads := { t.threads with schedule := rest } } (List.replicate steps .work)

def action (t : Traced B) (opcode : Opcode) (argument : UInt32) : Traced B :=
  t.yield.step (.push opcode argument)

instance : CommandQueue (Traced B) := ⟨action⟩

instance : Worked (Traced B) := ⟨work⟩

theorem stepThreads (t : Traced B) (e : Threads.Event) : (t.step e).threads = t.threads.step e := by
  cases e <;> rfl

theorem runThreads (t : Traced B) (events : List Threads.Event) :
    (run step t events).threads = run Threads.step t.threads events :=
  runRelated (fun (t : Traced B) (q : Threads B) => t.threads = q)
    (fun t q e same => by rw [stepThreads, same]) rfl events

theorem yieldThreads (t : Traced B) : t.yield.threads = t.threads.yield := by
  unfold yield Threads.yield
  cases t.threads.schedule with
  | nil => rfl
  | cons steps rest => exact runThreads _ _

theorem yieldKeeps (Inv : Traced B → Prop)
    (scheduled : ∀ t schedule, Inv t → Inv { t with threads := { t.threads with schedule := schedule } })
    (works : ∀ t, Inv t → Inv t.work) {t : Traced B} (h : Inv t) : Inv t.yield := by
  unfold yield
  split
  · exact h
  · rename_i steps rest _
    refine runInvariantOn Inv ?_ (scheduled t rest h)
    intro e mem t h
    rw [List.eq_of_mem_replicate mem]
    exact works t h

theorem yieldPushed (t : Traced B) : t.yield.pushed = t.pushed :=
  yieldKeeps (fun q : Traced B => q.pushed = t.pushed) (fun _ _ same => same)
    (fun _ same => same) rfl

@[simp] theorem actionPushed (t : Traced B) (opcode : Opcode) (argument : UInt32) :
    (CommandQueue.videoThreadAction t opcode argument).pushed = t.pushed ++ [(opcode, argument)] :=
  congrArg (· ++ [(opcode, argument)]) (yieldPushed t)

end Traced

def tracedThreads (schedule : List Nat) : Traced ByteQueue := ⟨videoThreads schedule, [], []⟩

theorem erasesSimulates {B : Type} [Buffer B] :
    Simulates (fun (t : Traced B) (q : Threads B) => t.threads = q) where
  pushes := by
    rintro t q opcode argument rfl
    exact (Traced.stepThreads _ _).trans (congrArg (Threads.step · _) (Traced.yieldThreads t))
  works := by
    rintro t q rfl
    rfl

def Traced.shown {B : Type} (t : Traced B) : Option Playback :=
  run perform none (t.pushed.map queued)

@[simp] theorem shownAction {B : Type} [Buffer B] (t : Traced B) (opcode : Opcode)
    (argument : UInt32) : (CommandQueue.videoThreadAction t opcode argument).shown =
      perform t.shown (queued (opcode, argument)) := by
  rw [Traced.shown, Traced.actionPushed, List.map_append, runAppend]
  rfl

theorem showsSimulates {B : Type} [Buffer B] :
    Simulates (fun (t : Traced B) (shown : Option Playback) => t.shown = shown) where
  pushes := by
    rintro t shown opcode argument rfl
    exact shownAction t opcode argument
  works := by
    rintro t shown rfl
    rfl

structure Accounted (t : Traced ByteQueue) (f : Threads Fifo) (performed : List Instr) : Prop where
  agrees : Matches t.threads f
  pushed : t.pushed.map queued = performed ++ f.awaiting
  loaded : f.worker.loaded = run perform none performed
  launched : t.launched = outputs launching none performed

def Ledger (t : Traced ByteQueue) : Prop :=
  t.threads.buffer.overrun = true ∨ ∃ f performed, Accounted t f performed

theorem launchedHeld (loaded : Option Playback) (phase : Phase) :
    outputs launching loaded phase.held = phase.held.map (launch loaded) := by
  cases phase <;> rfl

theorem accountedWork {t f performed} (h : Accounted t f performed) :
    Accounted t.work f.work (performed ++ f.worker.phase.held) where
  agrees := h.agrees.work
  pushed := by
    rw [List.append_assoc, ← awaitingWork]
    exact h.pushed
  loaded := by rw [runAppend, ← h.loaded, loadedWork]
  launched := by
    have reached : after launching none performed = f.worker.loaded := h.loaded.symm
    rw [outputsAppend, reached, launchedHeld, ← h.launched, ← h.agrees.worker]
    rfl

theorem accountedPush {t f performed} (h : Accounted t f performed) (opcode : Opcode)
    (argument : UInt32) : Ledger (t.step (.push opcode argument)) := by
  rcases h.agrees.push opcode argument with m | ⟨bad, _⟩
  · refine .inr ⟨_, performed, m, ?_, h.loaded, h.launched⟩
    have appended : (f.step (.push opcode argument)).awaiting =
        f.awaiting ++ [queued (opcode, argument)] := by
      simp [Threads.awaiting, Threads.step, Buffer.push, Buffer.pending, Fifo.push, queued]
    rw [appended, ← List.append_assoc, ← h.pushed]
    exact List.map_append
  · exact .inl bad

theorem ledgerStep {t : Traced ByteQueue} (h : Ledger t) (e : Threads.Event) :
    Ledger (t.step e) := by
  rcases h with bad | ⟨f, performed, h⟩
  · refine .inl ?_
    rw [Traced.stepThreads]
    exact overrunSticky bad e
  · cases e with
    | push opcode argument => exact accountedPush h opcode argument
    | work => exact .inr ⟨_, _, accountedWork h⟩

theorem ledgerYield {t : Traced ByteQueue} (h : Ledger t) : Ledger t.yield := by
  refine Traced.yieldKeeps Ledger ?_ (fun _ h => ledgerStep h .work) h
  rintro t schedule (bad | ⟨f, performed, agrees, pushed, loaded, launched⟩)
  · exact .inl bad
  · exact .inr ⟨{ f with schedule := schedule }, performed,
      ⟨agrees.holds, agrees.peak, agrees.worker, rfl, agrees.tested⟩, pushed, loaded, launched⟩

theorem ledgerSimulates : Simulates (fun (t : Traced ByteQueue) (q : Threads ByteQueue) =>
    t.threads = q ∧ Ledger t) where
  pushes := by
    rintro t q opcode argument ⟨same, h⟩
    exact ⟨erasesSimulates.pushes _ _ _ _ same, ledgerStep (ledgerYield h) (.push opcode argument)⟩
  works := by
    rintro t q ⟨same, h⟩
    exact ⟨erasesSimulates.works same, ledgerStep h .work⟩

theorem initialLedger (schedule : List Nat) : Ledger (tracedThreads schedule) :=
  .inr ⟨fifoThreads schedule, [], initialMatches schedule, rfl, rfl, rfl⟩

def left (f : Threads Fifo) : Nat := 3 * f.buffer.instrs.length + match f.worker.phase with
  | .polling => 2
  | .locking => 1
  | .performing _ => 3

theorem leftWork {f : Threads Fifo} (busy : f.awaiting ≠ []) : left f.work < left f := by
  unfold Threads.work left
  cases phase : f.worker.phase with
  | polling =>
    have waits : f.buffer.instrs ≠ [] := by
      simpa [Threads.awaiting, phase, Phase.held, Buffer.pending] using busy
    simp [Buffer.waiting, waits]
  | locking =>
    cases instrs : f.buffer.instrs with
    | nil => simp [Threads.awaiting, phase, Phase.held, Buffer.pending, instrs] at busy
    | cons instr rest =>
      simp only [Buffer.dequeue, Fifo.dequeue, instrs, List.length_cons]
      omega
  | performing instr => simp

theorem drains (f : Threads Fifo) : ∃ n, (Threads.work^[n] f).awaiting = [] := by
  induction size : left f using Nat.strong_induction_on generalizing f with
  | h size ih =>
    by_cases idle : f.awaiting = []
    · exact ⟨0, idle⟩
    · obtain ⟨n, done⟩ := ih (left f.work) (size ▸ leftWork idle) f.work rfl
      exact ⟨n + 1, done⟩

theorem accountedWorks {t f performed} (h : Accounted t f performed) (n : Nat) :
    ∃ performed, Accounted (Traced.work^[n] t) (Threads.work^[n] f) performed := by
  induction n generalizing t f performed with
  | zero => exact ⟨performed, h⟩
  | succ n ih => exact ih (accountedWork h)

theorem worksPushed {B : Type} [Buffer B] (t : Traced B) (n : Nat) :
    (Traced.work^[n] t).pushed = t.pushed := by
  induction n generalizing t with
  | zero => rfl
  | succ n ih => exact ih t.work

section Launches
variable {t : Traced ByteQueue} {before rest : List (Opcode × UInt32)} {push : Opcode × UInt32}

theorem launchedAt {f performed} (h : Accounted t f performed)
    (pushed : t.pushed = before ++ push :: rest) {launched : Option Nat}
    (entry : t.launched[before.length]? = some launched) :
    launched = launch (run perform none (before.map queued)) (queued push) := by
  have split := h.pushed
  rw [pushed, List.map_append, List.map_cons] at split
  rw [h.launched, outputAt] at entry
  obtain ⟨instr, inside, rfl⟩ := Option.map_eq_some_iff.mp entry
  have long : before.length < performed.length := (List.getElem?_eq_some_iff.mp inside).1
  have first : performed.take before.length = before.map queued := by
    have taken := congrArg (List.take before.length) split
    rw [List.take_append_of_le_length (Nat.le_of_lt long)] at taken
    rw [← taken]
    exact List.take_left' (List.length_map _)
  have next : instr = queued push := by
    have got := congrArg (·[before.length]?) split
    simp only [List.getElem?_append_left long, inside] at got
    simpa using got.symm
  rw [first, next]
  rfl

theorem launchComes (h : Ledger t) (fits : t.threads.buffer.overrun = false)
    (pushed : t.pushed = before ++ push :: rest) :
    ∃ n, (Traced.work^[n] t).launched[before.length]? =
      some (launch (run perform none (before.map queued)) (queued push)) := by
  rcases h with bad | ⟨f, performed, h⟩
  · rw [fits] at bad
    contradiction
  · obtain ⟨n, done⟩ := drains f
    obtain ⟨performed, last⟩ := accountedWorks h n
    have kept : (Traced.work^[n] t).pushed = before ++ push :: rest :=
      (worksPushed t n).trans pushed
    have all := last.pushed
    rw [done, List.append_nil] at all
    have long : before.length < (Traced.work^[n] t).launched.length := by
      rw [last.launched, outputsLength, ← all, kept]
      simp
    have entry := List.getElem?_eq_getElem long
    exact ⟨n, entry.trans (congrArg some (launchedAt last kept entry))⟩

end Launches

theorem startedLedger [Scanf] (dvdType : DvdType) (jlipIdFile : Option (List UInt8))
    (schedule : List Nat) (chapters : Int32) (events : List EmulatorThreads.Event) :
    Ledger (started dvdType jlipIdFile (tracedThreads schedule) chapters events).video.queue :=
  (startedAlike ledgerSimulates dvdType jlipIdFile ⟨rfl, initialLedger schedule⟩ chapters
    events).video.queue.2

theorem pushedStays {B : Type} [Buffer B] (e : Emulator (Traced B))
    (events : List EmulatorThreads.Event) :
    e.video.queue.pushed <+: (run EmulatorThreads.step e events).video.queue.pushed := by
  refine runInvariant (fun i : Emulator (Traced B) => e.video.queue.pushed <+: i.video.queue.pushed)
    ?_ (List.prefix_refl _) events
  intro i event kept
  rcases stepVideo i event with same | ⟨c, calls⟩ | works
  · exact same ▸ kept
  · rw [calls]
    refine callQueue (fun t : Traced B => e.video.queue.pushed <+: t.pushed) ?_ kept c
    intro t opcode argument kept
    rw [Traced.actionPushed]
    exact kept.trans (List.prefix_append _ _)
  · exact works ▸ kept

theorem workedQueue {Q : Type} [CommandQueue Q] [Worked Q] (e : Emulator Q) (n : Nat) :
    (run EmulatorThreads.step e (List.replicate n (.worked ()))).video.queue =
      Worked.work^[n] e.video.queue := by
  induction n generalizing e with
  | zero => rfl
  | succ n ih => exact ih (EmulatorThreads.step e (.worked ()))

theorem worksFit {e : Emulator (Traced ByteQueue)}
    (fits : e.video.queue.threads.buffer.overrun = false) (n : Nat) :
    (run EmulatorThreads.step e
      (List.replicate n (.worked ()))).video.queue.threads.buffer.overrun = false := by
  refine runInvariantOn (fun i : Emulator (Traced ByteQueue) =>
    i.video.queue.threads.buffer.overrun = false) ?_ fits
  intro event mem i fits
  rw [List.eq_of_mem_replicate mem]
  exact (workOverrun i.video.queue.threads).trans fits

end SerialDvdEmu.VideoTrace
