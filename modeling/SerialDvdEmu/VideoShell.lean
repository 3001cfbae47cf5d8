import SerialDvdEmu.Base.CString
import SerialDvdEmu.Base.Decimal
import SerialDvdEmu.VideoTrace

/-! VideoThread down to the command lines that it hands to bash, one at a time. Between two of
them the main thread pushes as it likes, and what comes back from bash is left open. With
`loaded` alone to go by, the worker keeps the players that it starts and kills in step. -/
namespace SerialDvdEmu.VideoShell
open EventRun
open CString (ascii)
open VideoQueue VideoThread VideoPlayer VideoCatchUp EmulatorThreads

def wifExited (status : UInt32) : Bool := status &&& 0x7F == 0

def wexitStatus (status : UInt32) : UInt32 := (status &&& 0xFF00) >>> 8

def execShell : Option UInt32 → UInt32
  | some status =>
    if wifExited status && wexitStatus status == 0 then 0
    else if wifExited status && wexitStatus status != 0 then wexitStatus status
    else status
  | none => 127

inductive Script where
  | controlStop
  | controlPause
  | controlStatus
  | killallDbusDaemon
  | killallOmxplayer
  | killallOmxplayerBin
  deriving DecidableEq, Repr

def Script.text : Script → List UInt8
  | .controlStop => ascii "./control.sh stop > /dev/null 2> /dev/null"
  | .controlPause => ascii "./control.sh pause > /dev/null 2> /dev/null"
  | .controlStatus => ascii "./control.sh status > /dev/null 2> /dev/null"
  | .killallDbusDaemon => ascii "killall dbus-daemon > /dev/null 2> /dev/null"
  | .killallOmxplayer => ascii "killall omxplayer > /dev/null 2> /dev/null"
  | .killallOmxplayerBin => ascii "killall omxplayer.bin > /dev/null 2> /dev/null"

def omxplayer (dvdPath : List UInt8) (arg : UInt8) : List UInt8 :=
  ascii "omxplayer --loop -b --no-osd " ++ dvdPath ++ Decimal.printWide 2 arg.toNat ++
    ascii ".m4v > /dev/null 2> /dev/null &"

inductive Command where
  | script (s : Script)
  | omxplayer (arg : UInt8)
  deriving DecidableEq, Repr

def Command.text (dvdPath : List UInt8) : Command → List UInt8
  | .script s => s.text
  | .omxplayer arg => VideoShell.omxplayer dvdPath arg

inductive Statement where
  | execShell (command : Command)
  | awaitStatus
  | usleep (microseconds : UInt32)
  | sprintf (command : Command)
  | setLoaded (flag : Bool)
  deriving DecidableEq, Repr

def perform (pauseDelay : UInt32) (loaded : Bool) : Instr → List Statement
  | .stop =>
    if loaded then
      [.execShell (.script .controlStop),
       .execShell (.script .killallDbusDaemon),
       .execShell (.script .killallOmxplayer),
       .execShell (.script .killallOmxplayerBin),
       .setLoaded false]
    else []
  | .pause => if loaded then [.execShell (.script .controlPause)] else []
  | .unpause =>
    if loaded then
      (if pauseDelay ≠ 0 then [.usleep (pauseDelay * 1000)] else []) ++
        [.execShell (.script .controlPause)]
    else []
  | .play arg =>
    if !loaded then
      [.sprintf (.omxplayer arg), .execShell (.omxplayer arg), .awaitStatus, .setLoaded true]
    else []

inductive Phase where
  | polling
  | locking
  | performing (statements : List Statement)
  deriving DecidableEq, Repr

/-- `ran` has the command lines executed, each with what exec_shell made of its end; `smashed`
says that sprintf has written past `syscall`. -/
structure Worker where
  phase : Phase
  loaded : Bool
  smashed : Bool
  ran : List (List UInt8 × UInt32)

def Worker.execute (dvdPath : List UInt8) (w : Worker) (exitcode : UInt32)
    (rest : List Statement) : Statement → Worker
  | .execShell command =>
    { w with phase := .performing rest, ran := w.ran ++ [(command.text dvdPath, exitcode)] }
  | .awaitStatus =>
    { w with
      phase := .performing (if exitcode = 0 then rest else .awaitStatus :: rest)
      ran := w.ran ++ [(Script.controlStatus.text, exitcode)] }
  | .usleep _ => { w with phase := .performing rest }
  | .sprintf command =>
    { w with
      phase := .performing rest
      smashed := w.smashed || decide (256 ≤ (command.text dvdPath).length) }
  | .setLoaded flag => { w with phase := .performing rest, loaded := flag }

/-- `waits` is what waitpid gives from now on, an entry for each statement; `schedule` is as for
Threads. -/
structure Shell (dvdPath : List UInt8) (pauseDelay : UInt32) (B : Type) where
  buffer : B
  worker : Worker
  schedule : List Nat
  waits : Nat → Option UInt32

namespace Shell
variable {dvdPath : List UInt8} {pauseDelay : UInt32} {B : Type} [Buffer B]

def work (s : Shell dvdPath pauseDelay B) : Shell dvdPath pauseDelay B := match s.worker.phase with
  | .polling =>
    if Buffer.waiting s.buffer then { s with worker := { s.worker with phase := .locking } } else s
  | .locking =>
    let taken := Buffer.dequeue s.buffer
    { s with
      buffer := taken.1
      worker := { s.worker with phase := match taken.2 with
        | some instr => .performing (perform pauseDelay s.worker.loaded instr)
        | none => .polling } }
  | .performing [] => { s with worker := { s.worker with phase := .polling } }
  | .performing (statement :: rest) =>
    { s with
      worker := s.worker.execute dvdPath (execShell (s.waits 0)) rest statement
      waits := fun n => s.waits (n + 1) }

def yield (s : Shell dvdPath pauseDelay B) : Shell dvdPath pauseDelay B := match s.schedule with
  | [] => s
  | steps :: rest => work^[steps] { s with schedule := rest }

def push (s : Shell dvdPath pauseDelay B) (opcode : Opcode) (argument : UInt32) :
    Shell dvdPath pauseDelay B :=
  { s with buffer := Buffer.push s.buffer opcode argument }

def action (s : Shell dvdPath pauseDelay B) (opcode : Opcode) (argument : UInt32) :
    Shell dvdPath pauseDelay B := s.yield.push opcode argument

instance : CommandQueue (Shell dvdPath pauseDelay B) := ⟨action⟩

instance : Worked (Shell dvdPath pauseDelay B) := ⟨work⟩

end Shell

def shellThreads (dvdPath : List UInt8) (pauseDelay : UInt32) (schedule : List Nat)
    (waits : Nat → Option UInt32) : Shell dvdPath pauseDelay ByteQueue :=
  ⟨ByteQueue.init, ⟨.polling, false, false, []⟩, schedule, waits⟩

section Texts
variable (dvdPath : List UInt8)

def Script.mark : Script → Nat × UInt8
  | .controlStop => (42, 0x2E)
  | .controlPause => (43, 0x2E)
  | .controlStatus => (44, 0x2E)
  | .killallDbusDaemon => (44, 0x6B)
  | .killallOmxplayer => (42, 0x6B)
  | .killallOmxplayerBin => (46, 0x6B)

theorem scriptMarked (c : Script) : c.text.length = c.mark.1 ∧ c.text.head? = some c.mark.2 := by
  cases c <;> decide +kernel

theorem scriptInj {c c' : Script} (same : c.text = c'.text) : c = c' := by
  obtain ⟨length, head⟩ := scriptMarked c
  obtain ⟨length', head'⟩ := scriptMarked c'
  rw [same, length'] at length
  rw [same, head'] at head
  revert length head
  cases c <;> cases c' <;> decide

theorem omxplayerInj {arg arg' : UInt8} (same : omxplayer dvdPath arg = omxplayer dvdPath arg') :
    arg = arg' := by
  simp only [omxplayer, List.append_assoc] at same
  have digits := List.append_cancel_left (List.append_cancel_left same)
  have printed := congrArg Decimal.value (List.append_cancel_right digits)
  rw [Decimal.valueWide, Decimal.valueWide] at printed
  exact UInt8.toNat_inj.mp printed

theorem scriptOther (script : Script) (arg : UInt8) : script.text ≠ omxplayer dvdPath arg := by
  intro same
  have head := (scriptMarked script).2
  rw [same] at head
  have first : (omxplayer dvdPath arg).head? = some 0x6F := rfl
  rw [first] at head
  revert head
  cases script <;> decide

theorem textInj {c c' : Command} (same : c.text dvdPath = c'.text dvdPath) : c = c' := by
  cases c with
  | script script =>
    cases c' with
    | script script' => exact congrArg _ (scriptInj same)
    | omxplayer arg => exact absurd same (scriptOther dvdPath script arg)
  | omxplayer arg =>
    cases c' with
    | script script => exact absurd same.symm (scriptOther dvdPath script arg)
    | omxplayer arg' => exact congrArg _ (omxplayerInj dvdPath same)

def commands : List Command :=
  [.controlStop, .controlPause, .controlStatus, .killallDbusDaemon, .killallOmxplayer,
    .killallOmxplayerBin].map Command.script ++
  (List.range 256).map fun n => .omxplayer (UInt8.ofNat n)

theorem commandListed (c : Command) : c ∈ commands := by
  cases c with
  | script script =>
    refine List.mem_append_left _ (List.mem_map_of_mem ?_)
    cases script <;> decide
  | omxplayer arg =>
    refine List.mem_append_right _ (List.mem_map.mpr ⟨arg.toNat, ?_, ?_⟩)
    · exact List.mem_range.mpr arg.toNat_lt
    · rw [UInt8.ofNat_toNat]

def parse (text : List UInt8) : Option Command :=
  commands.find? fun c => c.text dvdPath == text

theorem parseText (c : Command) : parse dvdPath (c.text dvdPath) = some c := by
  cases found : parse dvdPath (c.text dvdPath) with
  | none => exact absurd (beq_self_eq_true _) (List.find?_eq_none.mp found c (commandListed c))
  | some c' =>
    have hit := List.find?_some found
    have same : c'.text dvdPath = c.text dvdPath := beq_iff_eq.mp hit
    rw [textInj dvdPath same]

theorem omxplayerLength (arg : UInt8) : (omxplayer dvdPath arg).length =
    60 + dvdPath.length + (Decimal.printWide 2 arg.toNat).length := by
  have front : (ascii "omxplayer --loop -b --no-osd ").length = 29 := by decide
  have back : (ascii ".m4v > /dev/null 2> /dev/null &").length = 31 := by decide
  rw [omxplayer, List.length_append, List.length_append, List.length_append, front, back]
  omega

def effect (players : List Playback) : Command → List Playback
  | .omxplayer arg => players ++ [⟨arg.toNat, false⟩]
  | .script .controlPause => players.map fun player => { player with paused := !player.paused }
  | .script .controlStop | .script .killallOmxplayer | .script .killallOmxplayerBin => []
  | .script .controlStatus | .script .killallDbusDaemon => players

theorem nobodyObeys (script : Script) : effect [] (.script script) = [] := by cases script <;> rfl

def obeyed (players : List Playback) (text : List UInt8) : List Playback :=
  match parse dvdPath text with
  | some c => effect players c
  | none => players

theorem obeyedText (players : List Playback) (c : Command) :
    obeyed dvdPath players (c.text dvdPath) = effect players c := by rw [obeyed, parseText]

def players (ran : List (List UInt8 × UInt32)) : List Playback :=
  run (obeyed dvdPath) [] (ran.map Prod.fst)

theorem playersNext (ran : List (List UInt8 × UInt32)) (text : List UInt8) (exitcode : UInt32) :
    players dvdPath (ran ++ [(text, exitcode)]) = obeyed dvdPath (players dvdPath ran) text := by
  rw [players, List.map_append, runAppend]
  rfl

inductive Stage where
  | idle
  | starting
  | running
  | stopping (left : List Script)
  deriving DecidableEq, Repr

def Stage.next (stage : Stage) (c : Command) (exitcode : UInt32) : Option Stage := match stage with
  | .idle => match c with
    | .omxplayer _ => some .starting
    | .script _ => none
  | .starting =>
    if c = .script .controlStatus then some (if exitcode = 0 then .running else .starting) else none
  | .running =>
    if c = .script .controlPause then some .running
    else if c = .script .controlStop then
      some (.stopping [.killallDbusDaemon, .killallOmxplayer, .killallOmxplayerBin])
    else none
  | .stopping [] => none
  | .stopping (script :: left) =>
    if c = .script script then some (if left = [] then .idle else .stopping left) else none

def advance (stage : Stage) (r : List UInt8 × UInt32) : Option Stage := do
  let c ← parse dvdPath r.1
  stage.next c r.2

theorem advanceText (stage : Stage) (c : Command) (exitcode : UInt32) :
    advance dvdPath stage (c.text dvdPath, exitcode) = stage.next c exitcode := by
  rw [advance, parseText]
  rfl

def session (ran : List (List UInt8 × UInt32)) : Option Stage :=
  ran.foldlM (advance dvdPath) .idle

theorem sessionNext {ran : List (List UInt8 × UInt32)} {stage : Stage}
    (reached : session dvdPath ran = some stage) (r : List UInt8 × UInt32) :
    session dvdPath (ran ++ [r]) = advance dvdPath stage r := by
  rw [session, List.foldlM_append, ← session, reached]
  exact bind_pure (m := Option) _

def Stage.count : Stage → Nat
  | .starting | .running => 1
  | .idle | .stopping _ => 0

theorem countNext {stage stage' : Stage} {c : Command} {exitcode : UInt32}
    (next : stage.next c exitcode = some stage') {players : List Playback}
    (counted : players.length = stage.count) : (effect players c).length = stage'.count := by
  rw [Stage.next.eq_def] at next
  split at next
  · split at next
    · cases next
      rw [effect, List.length_append, counted]
      rfl
    · contradiction
  · split at next
    · rename_i asked
      cases next
      rw [asked, effect, counted]
      split <;> rfl
    · contradiction
  · split at next
    · rename_i pauses
      cases next
      rw [pauses, effect, List.length_map, counted]
    · split at next
      · rename_i stops
        cases next
        rw [stops]
        rfl
      · contradiction
  · contradiction
  · split at next
    · rename_i kills
      cases next
      have none : players = [] := List.length_eq_zero_iff.mp counted
      rw [none, kills, nobodyObeys]
      split <;> rfl
    · contradiction

end Texts

section Order
variable (dvdPath : List UInt8)

def Phase.left : Phase → List Statement
  | .performing statements => statements
  | .polling | .locking => []

def Stage.rest (loaded : Bool) : Stage := if loaded then .running else .idle

def Leads : Stage → Bool → List Statement → Prop
  | stage, loaded, [] => stage = .rest loaded
  | stage, loaded, .execShell command :: rest =>
    ∀ exitcode, ∃ stage', stage.next command exitcode = some stage' ∧ Leads stage' loaded rest
  | stage, loaded, .awaitStatus :: rest => stage = .starting ∧ Leads .running loaded rest
  | stage, loaded, .usleep _ :: rest => Leads stage loaded rest
  | stage, loaded, .sprintf command :: rest =>
    (∃ arg, command = .omxplayer arg) ∧ Leads stage loaded rest
  | stage, _, .setLoaded flag :: rest => Leads stage flag rest

theorem performLeads (pauseDelay : UInt32) (loaded : Bool) (instr : Instr) :
    Leads (.rest loaded) loaded (perform pauseDelay loaded instr) := by
  cases instr with
  | stop => cases loaded <;> simp [perform, Leads, Stage.rest, Stage.next]
  | pause => cases loaded <;> simp [perform, Leads, Stage.rest, Stage.next]
  | unpause =>
    by_cases delay : pauseDelay = 0 <;> cases loaded <;>
      simp [perform, Leads, Stage.rest, Stage.next, delay]
  | play arg => cases loaded <;> simp [perform, Leads, Stage.rest, Stage.next]

theorem wideShort : ∀ n < 256, (Decimal.printWide 2 n).length ≤ 3 := by decide +kernel

theorem omxplayerFits (room : dvdPath.length ≤ 192) (arg : UInt8) :
    (omxplayer dvdPath arg).length < 256 := by
  have digits := wideShort arg.toNat arg.toNat_lt
  rw [omxplayerLength]
  omega

structure Orderly (w : Worker) (stage : Stage) : Prop where
  reached : session dvdPath w.ran = some stage
  counted : (players dvdPath w.ran).length = stage.count
  leads : Leads stage w.loaded w.phase.left
  whole : dvdPath.length ≤ 192 → w.smashed = false

variable {dvdPath}

theorem advanced {ran : List (List UInt8 × UInt32)} {stage stage' : Stage}
    (reached : session dvdPath ran = some stage)
    (counted : (players dvdPath ran).length = stage.count) {c : Command} {exitcode : UInt32}
    (next : stage.next c exitcode = some stage') :
    session dvdPath (ran ++ [(c.text dvdPath, exitcode)]) = some stage' ∧
    (players dvdPath (ran ++ [(c.text dvdPath, exitcode)])).length = stage'.count := by
  constructor
  · rw [sessionNext dvdPath reached, advanceText]
    exact next
  · rw [playersNext, obeyedText]
    exact countNext next counted

theorem orderlyExecute {w : Worker} {stage : Stage} {statement : Statement} {rest : List Statement}
    (phase : w.phase = .performing (statement :: rest)) (h : Orderly dvdPath w stage)
    (exitcode : UInt32) :
    ∃ stage', Orderly dvdPath (w.execute dvdPath exitcode rest statement) stage' := by
  obtain ⟨reached, counted, leads, whole⟩ := h
  rw [phase, Phase.left] at leads
  cases statement with
  | execShell command =>
    obtain ⟨stage', next, later⟩ := leads exitcode
    obtain ⟨reached', counted'⟩ := advanced reached counted next
    exact ⟨stage', reached', counted', later, whole⟩
  | awaitStatus =>
    obtain ⟨rfl, later⟩ := leads
    have next : Stage.starting.next (.script .controlStatus) exitcode =
        some (if exitcode = 0 then .running else .starting) := rfl
    obtain ⟨reached', counted'⟩ := advanced reached counted next
    refine ⟨_, reached', counted', ?_, whole⟩
    by_cases answered : exitcode = 0
    · simpa only [Worker.execute, Phase.left, if_pos answered] using later
    · simp only [Worker.execute, Phase.left, if_neg answered]
      exact ⟨rfl, later⟩
  | usleep microseconds => exact ⟨stage, reached, counted, leads, whole⟩
  | sprintf command =>
    obtain ⟨⟨arg, rfl⟩, later⟩ := leads
    refine ⟨stage, reached, counted, later, fun room => ?_⟩
    have fits : ¬ 256 ≤ ((Command.omxplayer arg).text dvdPath).length :=
      Nat.not_le.mpr (omxplayerFits dvdPath room arg)
    simp only [Worker.execute, whole room, decide_eq_false fits, Bool.or_false]
  | setLoaded flag => exact ⟨stage, reached, counted, leads, whole⟩

variable {pauseDelay : UInt32} {B : Type} [Buffer B]

theorem orderlyWork {s : Shell dvdPath pauseDelay B}
    (h : ∃ stage, Orderly dvdPath s.worker stage) : ∃ stage, Orderly dvdPath s.work.worker stage := by
  obtain ⟨stage, h⟩ := h
  unfold Shell.work
  cases phase : s.worker.phase with
  | polling =>
    have leads := h.leads
    rw [phase] at leads
    dsimp only
    split
    · exact ⟨stage, h.reached, h.counted, leads, h.whole⟩
    · exact ⟨stage, h⟩
  | locking =>
    have leads := h.leads
    rw [phase] at leads
    dsimp only
    cases (Buffer.dequeue s.buffer).2 with
    | none => exact ⟨stage, h.reached, h.counted, leads, h.whole⟩
    | some instr =>
      have resting : stage = .rest s.worker.loaded := leads
      refine ⟨stage, h.reached, h.counted, ?_, h.whole⟩
      rw [resting]
      exact performLeads pauseDelay s.worker.loaded instr
  | performing statements =>
    cases statements with
    | nil =>
      have leads := h.leads
      rw [phase] at leads
      exact ⟨stage, h.reached, h.counted, leads, h.whole⟩
    | cons statement rest => exact orderlyExecute phase h (execShell (s.waits 0))

theorem yieldKeeps (Inv : Shell dvdPath pauseDelay B → Prop)
    (scheduled : ∀ s schedule, Inv s → Inv { s with schedule := schedule })
    (works : ∀ s, Inv s → Inv s.work) {s : Shell dvdPath pauseDelay B} (h : Inv s) :
    Inv s.yield := by
  unfold Shell.yield
  split
  · exact h
  · rename_i steps rest _
    exact Function.Iterate.rec Inv (scheduled s rest h) works steps

theorem shellKeeps {Q : Type} [CommandQueue Q] [Worked Q] [Scanf] (Inv : Q → Prop)
    (pushes : ∀ q opcode argument, Inv q → Inv (CommandQueue.videoThreadAction q opcode argument))
    (works : ∀ q, Inv q → Inv (Worked.work q)) {queue : Q} (h : Inv queue) (dvdType : DvdType)
    (jlipIdFile : Option (List UInt8)) (chapters : Int32) (events : List EmulatorThreads.Event) :
    Inv (started dvdType jlipIdFile queue chapters events).video.queue := by
  refine runInvariant (fun e : Emulator Q => Inv e.video.queue) (fun e event h => ?_) h events
  rcases stepVideo e event with same | ⟨c, calls⟩ | worked
  · exact same ▸ h
  · rw [calls]
    exact callQueue Inv pushes h c
  · rw [worked]
    exact works _ h

theorem startedOrderly [Scanf] (dvdPath : List UInt8) (pauseDelay : UInt32) (schedule : List Nat)
    (waits : Nat → Option UInt32) (dvdType : DvdType) (jlipIdFile : Option (List UInt8))
    (chapters : Int32) (events : List EmulatorThreads.Event) :
    ∃ stage, Orderly dvdPath (started dvdType jlipIdFile
      (shellThreads dvdPath pauseDelay schedule waits) chapters events).video.queue.worker stage := by
  have start : Orderly dvdPath (shellThreads dvdPath pauseDelay schedule waits).worker .idle :=
    ⟨rfl, rfl, rfl, fun _ => rfl⟩
  refine shellKeeps (fun q : Shell dvdPath pauseDelay ByteQueue =>
    ∃ stage, Orderly dvdPath q.worker stage) (fun q opcode argument h => ?_)
    (fun q h => orderlyWork h) ⟨.idle, start⟩ dvdType jlipIdFile chapters events
  exact yieldKeeps (fun q => ∃ stage, Orderly dvdPath q.worker stage) (fun _ _ h => h)
    (fun q h => orderlyWork h) h

end Order

end SerialDvdEmu.VideoShell
