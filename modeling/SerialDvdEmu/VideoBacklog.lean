import SerialDvdEmu.Base.Backlog
import SerialDvdEmu.VideoCatchUp

/-! How many bytes the opcode queue comes to hold, from the calls and the worker's steps alone.
Each call queues what the flags before it say, the worker needs three steps for an instruction,
and no queue has to be run to know the backlog. -/
namespace SerialDvdEmu.VideoBacklog
open EventRun
open VideoQueue VideoThread VideoPlayer VideoCatchUp
open VideoPlayer.VideoState (Call Consistent)

section Orders
variable {Q : Type} [CommandQueue Q]

def unpausing (v : VideoState Q) : List (Opcode × UInt32) :=
  if v.pausedState then [(.unpause, 0)] else []

def orders (v : VideoState Q) : Call → List (Opcode × UInt32)
  | .powerOn => []
  | .powerOff | .stop => if v.playingState then unpausing v ++ [(.stop, 0)] else []
  | .play =>
    if v.playingState then unpausing v
    else if 1 ≤ v.maxChapter.toNat then [(.stop, 0), (.play, 1)] else []
  | .pause => if v.playingState && !v.pausedState then [(.pause, 0)] else []
  | .unpause => unpausing v
  | .seekToChapter c =>
    if Reaches v c then [(.stop, 0), (.play, c)] ++ if v.pausedState then [(.pause, 0)] else []
    else []

def given (q : Q) (orders : List (Opcode × UInt32)) : Q :=
  run (fun q order => CommandQueue.videoThreadAction q order.1 order.2) q orders

theorem unpauseGives {v : VideoState Q} (h : Consistent v) :
    v.unpause.queue = given v.queue (unpausing v) := by
  rw [unpauseQueue h, unpausing]
  split <;> rfl

theorem stopGives {v : VideoState Q} (h : Consistent v) :
    v.stop.queue = given v.queue (orders v .stop) := by
  rw [stopQueue h, orders, unpauseGives h]
  split
  · rw [given, given, runAppend]
    rfl
  · rfl

theorem callGives {v : VideoState Q} (h : Consistent v) (c : Call) :
    (v.call c).queue = given v.queue (orders v c) := by
  cases c with
  | powerOn => exact powerOnQueue h
  | powerOff => exact (powerOffQueue v).trans (stopGives h)
  | stop => exact stopGives h
  | unpause => exact unpauseGives h
  | pause =>
    rw [VideoState.call, pauseQueue h, orders]
    split <;> rfl
  | play =>
    rw [VideoState.call, orders]
    cases playing : v.playingState with
    | true =>
      rw [playRuns h playing]
      exact unpauseGives h
    | false =>
      rw [playIdle h playing, if_neg Bool.false_ne_true]
      split <;> rfl
  | seekToChapter c =>
    rw [VideoState.call, orders]
    by_cases reaches : Reaches v c
    · rw [seekTaken reaches, if_pos reaches]
      simp only [seekQueue]
      split <;> rfl
    · rw [seekRefused reaches, if_neg reaches]
      rfl

end Orders

def size : Opcode → Nat
  | .play => 2
  | .stop | .pause | .unpause => 1

def opcodeOf : Instr → Opcode
  | .stop => .stop
  | .play _ => .play
  | .pause => .pause
  | .unpause => .unpause

def bytes (opcodes : List Opcode) : Nat := Backlog.total size opcodes

@[simp] theorem opcodeBack (opcode : Opcode) (arg : UInt8) : opcodeOf (.of opcode arg) = opcode := by
  cases opcode <;> rfl

theorem bytesEncoded (instrs : List Instr) :
    (instrCode.encodeAll instrs).length = bytes (instrs.map opcodeOf) := by
  induction instrs with
  | nil => rfl
  | cons instr rest ih =>
    rw [PrefixCode.encodeAllCons, List.length_append, ih, List.map_cons, bytes, bytes, Backlog.total]
    cases instr <;> rfl

instance : CommandQueue Unit := ⟨fun _ _ _ => ()⟩

def spaced : List Nat → List Opcode → List (Backlog.Event Opcode)
  | _, [] => []
  | schedule, opcode :: rest =>
    List.replicate (schedule.headD 0) .step ++ .arrive opcode :: spaced schedule.tail rest

def happenings : List Nat → VideoState Unit → List Event → List (Backlog.Event Opcode)
  | _, _, [] => []
  | schedule, flags, .work :: rest => .step :: happenings schedule flags rest
  | schedule, flags, .call c :: rest =>
    let opcodes := (orders flags c).map Prod.fst
    spaced schedule opcodes ++
      happenings (schedule.drop opcodes.length) (flags.call c) rest

def KeepsUp (schedule : List Nat) (chapters : Int32) (events : List Event) : Prop :=
  ∀ stretch, stretch <:+: happenings schedule (videoInit () chapters) events →
    bytes (Backlog.left stretch) ≤ 256

section Tracks

def phaseOf : Phase → Backlog.Phase
  | .polling => .idle
  | .locking => .called
  | .performing _ => .busy

def served (past : List (Backlog.Event Opcode)) : Backlog.Server Opcode :=
  run Backlog.step Backlog.start past

theorem servedConcat (past : List (Backlog.Event Opcode)) (event : Backlog.Event Opcode) :
    served (past ++ [event]) = Backlog.step (served past) event := by
  rw [served, runAppend]
  rfl

structure Tracks (f : Threads Fifo) (past : List (Backlog.Event Opcode)) : Prop where
  state : served past = ⟨f.buffer.instrs.map opcodeOf, phaseOf f.worker.phase⟩
  peak : f.buffer.peak ≤ 256 ↔ ∀ before, before <+: past → bytes (served before).queue ≤ 256

theorem tracksStart (schedule : List Nat) : Tracks (fifoThreads schedule) [] := by
  refine ⟨rfl, iff_of_true (Nat.zero_le _) fun before begins => ?_⟩
  rw [List.prefix_nil.mp begins]
  decide

variable {f : Threads Fifo} {past : List (Backlog.Event Opcode)}

theorem peakConcat (t : Tracks f past) {peak : Nat} {event : Backlog.Event Opcode}
    (grows : peak ≤ 256 ↔ f.buffer.peak ≤ 256 ∧ bytes (served (past ++ [event])).queue ≤ 256) :
    peak ≤ 256 ↔ ∀ before, before <+: past ++ [event] → bytes (served before).queue ≤ 256 := by
  rw [grows, t.peak]
  constructor
  · rintro ⟨earlier, last⟩ before begins
    rcases List.prefix_concat_iff.mp begins with rfl | begins
    · exact last
    · exact earlier before begins
  · intro every
    exact ⟨fun before begins => every before (begins.trans (List.prefix_append _ _)),
      every _ (List.prefix_refl _)⟩

theorem tracksPush (t : Tracks f past) (opcode : Opcode) (argument : UInt32) :
    Tracks (f.step (.push opcode argument)) (past ++ [.arrive opcode]) := by
  have state : served (past ++ [.arrive opcode]) =
      ⟨(f.buffer.instrs ++ [Instr.of opcode argument.toUInt8]).map opcodeOf,
        phaseOf f.worker.phase⟩ := by
    rw [servedConcat, t.state, Backlog.step]
    simp
  refine ⟨state, peakConcat t ?_⟩
  rw [state]
  change max f.buffer.peak (instrCode.encodeAll _).length ≤ 256 ↔ _
  rw [Nat.max_le, bytesEncoded]

theorem tracksShrink (t : Tracks f past) {f' : Threads Fifo}
    (state : served (past ++ [.step]) = ⟨f'.buffer.instrs.map opcodeOf, phaseOf f'.worker.phase⟩)
    (peak : f'.buffer.peak = f.buffer.peak) (fewer : f'.buffer.instrs <:+ f.buffer.instrs) :
    Tracks f' (past ++ [.step]) := by
  refine ⟨state, peakConcat t ?_⟩
  rw [peak, state]
  refine (and_iff_left_of_imp fun small => ?_).symm
  have last := t.peak.mp small past (List.prefix_refl _)
  rw [t.state] at last
  exact Nat.le_trans (Backlog.totalSuffix size (fewer.map opcodeOf)) last

theorem tracksWork (t : Tracks f past) : Tracks f.work (past ++ [.step]) := by
  have state := servedConcat past .step
  rw [t.state] at state
  obtain ⟨⟨instrs, peak⟩, ⟨phase, loaded⟩, schedule⟩ := f
  cases phase with
  | polling => cases instrs <;> exact tracksShrink t state rfl (List.suffix_refl _)
  | locking =>
    cases instrs with
    | nil => exact tracksShrink t state rfl (List.suffix_refl _)
    | cons instr rest => exact tracksShrink t state rfl (List.suffix_cons instr rest)
  | performing instr => exact tracksShrink t state rfl (List.suffix_refl _)

theorem tracksSteps (t : Tracks f past) (n : Nat) :
    Tracks (run Threads.step f (List.replicate n .work)) (past ++ List.replicate n .step) := by
  induction n generalizing f past with
  | zero => simpa using t
  | succ n ih =>
    rw [List.replicate_succ, List.replicate_succ, runCons, List.append_cons]
    exact ih (tracksWork t)

theorem stepSchedule (f : Threads Fifo) (event : Threads.Event) :
    (f.step event).schedule = f.schedule := by
  cases event with
  | push opcode argument => rfl
  | work =>
    rw [Threads.step]
    unfold Threads.work
    split
    · split <;> rfl
    · rfl
    · rfl

theorem tracksAction (t : Tracks f past) (opcode : Opcode) (argument : UInt32) :
    Tracks (f.action opcode argument)
      (past ++ (List.replicate (f.schedule.headD 0) .step ++ [.arrive opcode])) ∧
    (f.action opcode argument).schedule = f.schedule.tail := by
  have yields : Tracks f.yield (past ++ List.replicate (f.schedule.headD 0) .step) ∧
      f.yield.schedule = f.schedule.tail := by
    unfold Threads.yield
    cases schedule : f.schedule with
    | nil => exact ⟨by simpa using t, schedule⟩
    | cons steps rest =>
      refine ⟨tracksSteps (f := { f with schedule := rest }) ⟨t.state, t.peak⟩ steps, ?_⟩
      exact runInvariant (fun g : Threads Fifo => g.schedule = rest)
        (fun g event same => (stepSchedule g event).trans same) rfl _
  rw [← List.append_assoc]
  exact ⟨tracksPush yields.1 opcode argument, (stepSchedule f.yield _).trans yields.2⟩

theorem tracksGiven (t : Tracks f past) (orders : List (Opcode × UInt32)) :
    Tracks (given f orders) (past ++ spaced f.schedule (orders.map Prod.fst)) ∧
    (given f orders).schedule = f.schedule.drop orders.length := by
  induction orders generalizing f past with
  | nil => exact ⟨by simpa [spaced, given] using t, rfl⟩
  | cons order rest ih =>
    obtain ⟨next, left⟩ := tracksAction t order.1 order.2
    obtain ⟨last, gone⟩ := ih next
    rw [left] at last gone
    have place : past ++ spaced f.schedule ((order :: rest).map Prod.fst) =
        past ++ (List.replicate (f.schedule.headD 0) .step ++ [.arrive order.1]) ++
          spaced f.schedule.tail (rest.map Prod.fst) := by
      simp [spaced]
    rw [place, List.length_cons, ← List.drop_tail]
    exact ⟨last, gone⟩

end Tracks

theorem ordersSame {v : VideoState (Threads Fifo)} {flags : VideoState Unit}
    (same : Follows (fun _ _ => True) v flags) (c : Call) : orders v c = orders flags c := by
  have reaches : ∀ c, Reaches v c ↔ Reaches flags c := fun c => by
    simp only [Reaches, same.power, same.bound]
  cases c <;> simp only [orders, unpausing, same.playing, same.paused, same.bound, reaches]

theorem tracksRun {v : VideoState (Threads Fifo)} {flags : VideoState Unit}
    {past : List (Backlog.Event Opcode)} (h : Consistent v)
    (same : Follows (fun _ _ => True) v flags) (t : Tracks v.queue past) (events : List Event) :
    Tracks (run step v events).queue (past ++ happenings v.queue.schedule flags events) := by
  induction events generalizing v flags past with
  | nil => simpa [happenings] using t
  | cons event rest ih =>
    cases event with
    | work =>
      have later : Follows (fun _ _ => True) (step v .work) flags :=
        ⟨trivial, same.power, same.playing, same.paused, same.chapter, same.bound⟩
      have worked : (step v .work).queue.schedule = v.queue.schedule := stepSchedule v.queue .work
      have consistent : Consistent (step v .work) :=
        ⟨h.pausedPlays, h.playsPowered, h.idleChapter, h.chapterLow, h.chapterHigh⟩
      have run := ih consistent later (tracksWork t)
      rw [worked, List.append_assoc] at run
      exact run
    | call c =>
      obtain ⟨next, gone⟩ := tracksGiven t (orders v c)
      rw [← callGives h c] at next gone
      have run := ih (consistentCall h c)
        (followCall (fun _ _ _ _ _ => trivial) same c) next
      rw [gone, ordersSame same c, List.append_assoc] at run
      rw [happenings, List.length_map]
      exact run

/-- Over every run and every prefix of it, the writes stay below 256 and `queue_pos` at most 256
exactly when, in every stretch of it, what is queued after the first (s + 1) / 3 instructions is
at most 256 bytes, where s are the steps that the worker makes in that stretch. -/
theorem queueInsideIff (schedule : List Nat) (chapters : Int32) (events : List Event) :
    (∀ before, before <+: events →
      let t := (run step (videoInit (videoThreads schedule) chapters) before).queue
      t.buffer.overrun = false ∧ t.buffer.queuePos.toNat ≤ 256) ↔
    KeepsUp schedule chapters events := by
  rw [insidePeak, KeepsUp]
  have start : Consistent (videoInit (fifoThreads schedule) chapters) := initConsistent _ _
  have same : Follows (fun _ _ => True) (videoInit (fifoThreads schedule) chapters)
      (videoInit () chapters) := ⟨trivial, rfl, rfl, rfl, rfl, rfl⟩
  have tracks := tracksRun start same (tracksStart schedule) events
  rw [List.nil_append] at tracks
  exact tracks.peak.trans (Backlog.withinIff size 256 _)

section Few

def isCall : Event → Bool
  | .call _ => true
  | .work => false

theorem bytesAppend (first rest : List Opcode) : bytes (first ++ rest) = bytes first + bytes rest :=
  Backlog.totalAppend size first rest

theorem spacedArrivals (schedule : List Nat) (opcodes : List Opcode) :
    Backlog.arrivals (spaced schedule opcodes) = opcodes := by
  have quiet : ∀ n, Backlog.arrivals (List.replicate n (.step : Backlog.Event Opcode)) = [] := by
    intro n
    rw [Backlog.arrivals, List.filterMap_eq_nil_iff]
    intro event mem
    rw [List.eq_of_mem_replicate mem]
    rfl
  induction opcodes generalizing schedule with
  | nil => rfl
  | cons opcode rest ih =>
    rw [spaced, Backlog.arrivalsAppend, quiet, List.nil_append, ← List.singleton_append,
      Backlog.arrivalsAppend, ih]
    rfl

theorem ordersBytes {Q : Type} (v : VideoState Q) (c : Call) :
    bytes ((orders v c).map Prod.fst) ≤ 4 := by
  have most : bytes ((unpausing v).map Prod.fst) ≤ 1 := by
    rw [unpausing]
    split <;> decide
  cases c with
  | powerOn => exact Nat.zero_le 4
  | powerOff | stop =>
    rw [orders]
    split
    · rw [List.map_append, bytesAppend]
      exact Nat.add_le_add (Nat.le_trans most (by decide)) (by decide : bytes [.stop] ≤ 1)
    · decide
  | play =>
    rw [orders]
    split
    · exact Nat.le_trans most (by decide)
    · split <;> decide
  | pause =>
    rw [orders]
    split <;> decide
  | unpause => exact Nat.le_trans most (by decide)
  | seekToChapter c =>
    rw [orders]
    split
    · rw [List.map_append, bytesAppend]
      refine Nat.add_le_add (by exact Nat.le_refl 3) (?_ : _ ≤ 1)
      split <;> decide
    · decide

theorem happeningsBytes (schedule : List Nat) (flags : VideoState Unit) (events : List Event) :
    bytes (Backlog.arrivals (happenings schedule flags events)) ≤ 4 * events.countP isCall := by
  induction events generalizing schedule flags with
  | nil => exact Nat.zero_le 0
  | cons event rest ih =>
    cases event with
    | work => exact ih schedule flags
    | call c =>
      rw [happenings, Backlog.arrivalsAppend, spacedArrivals, bytesAppend,
        List.countP_cons_of_pos rfl]
      have here := ordersBytes flags c
      have later := ih (schedule.drop ((orders flags c).map Prod.fst).length) (flags.call c)
      omega

theorem fewCallsKeepUp (schedule : List Nat) (chapters : Int32) {events : List Event}
    (few : events.countP isCall ≤ 64) : KeepsUp schedule chapters events := by
  rintro stretch ⟨before, later, whole⟩
  have all := happeningsBytes schedule (videoInit () chapters) events
  rw [← whole, Backlog.arrivalsAppend, Backlog.arrivalsAppend, bytesAppend, bytesAppend] at all
  have less := Backlog.totalSuffix size (List.drop_suffix ((Backlog.steps stretch + 1) / 3)
    (Backlog.arrivals stretch))
  change bytes (Backlog.left stretch) ≤ bytes (Backlog.arrivals stretch) at less
  omega

end Few

def seekRun : List Event :=
  [.call .powerOn, .call (.seekToChapter 1), .work, .work, .work, .work, .work] ++
    List.replicate 86 (.call (.seekToChapter 1))

theorem seeksOverrunQueue :
    (run step (videoInit (videoThreads []) 1) seekRun).queue.buffer.overrun = true := by
  decide +kernel

end SerialDvdEmu.VideoBacklog
