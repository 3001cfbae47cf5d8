import SerialDvdEmu.DiscFolder
import SerialDvdEmu.MainLoop
import SerialDvdEmu.VictorFraming

/-! main as a whole. The folder decides which player is emulated, PurgeComm clears the port, and
from then on the loop hands every byte to that player's receiver. -/
namespace SerialDvdEmu.EmulatorMain
open EventRun Attempt SerialPort MainLoop DiscFolder
open CString (ascii)
open VictorPacket (Packet)
open VictorHandlers ToshibaLine
open VideoPlayer (CommandQueue)

section Receivers
variable {Q : Type} [CommandQueue Q]

def written (reply : Option Packet) : List UInt8 := (reply.map Vector.toList).getD []

@[simp] theorem writtenNone : written none = [] := rfl

@[simp] theorem writtenSome (reply : Packet) : written (some reply) = reply.toList := rfl

def victorServe (e : Emulator Q) (byte : UInt8) : List UInt8 × Emulator Q :=
  let turn := victorTurn e byte
  (written turn.1.2, turn.2)

def toshibaServe [Scanf] (e : Emulator Q) (byte : UInt8) : List UInt8 × Emulator Q :=
  let turn := toshibaTurn e byte
  (turn.1.2.getD [], turn.2)

def serve [Scanf] : DiscType → Emulator Q → UInt8 → List UInt8 × Emulator Q
  | .victorXvD701Vcd | .victorXvD701Dvd => victorServe
  | .toshibaSdB100Dvd => toshibaServe
  | .unknown => fun e _ => ([], e)

/-- Up to the calls met so far. `none` is main giving up on the folder, or still in PurgeComm. -/
def main [Scanf] (folder : Folder) (value : List UInt8) (queue : Q)
    (jlipIdFile : Option (List UInt8)) (p : Port) (moments : List Moment) :
    Option (Loop (Emulator Q)) := do
  let dvdType ← getDvdType folder value
  let e ← mainInit folder value queue jlipIdFile
  let cleared ← purgeComm moments p
  some (run (step (serve dvdType)) (begun cleared.2.1 e) cleared.2.2)

def printInstructions (name : List UInt8) : List UInt8 :=
  ascii "\n" ++ name ++ ascii " port folder\n" ++
  ascii "\tport - a com port, such as COM1.\n" ++
  ascii "\tfolder - a folder of M4Vs, such as /home/root/dvd/. Must end in \"/\".\n"

def mainCalled [Scanf] (opened : Bool) (folderAt : List UInt8 → Folder) (value : List UInt8)
    (queue : Q) (jlipIdFile : Option (List UInt8)) (p : Port) (moments : List Moment) :
    List (List UInt8) → Option (Except (List UInt8) (Loop (Emulator Q)))
  | [] => none
  | [name] => some (.error (ascii "Missing serial port argument!\n" ++ printInstructions name))
  | [name, _] => some (.error (ascii "Missing m4v folder!\n" ++ printInstructions name))
  | _ :: port :: directory :: _ => do
    let dvdType ← getDvdType (folderAt directory) value
    if dvdType = .unknown then
      some (.error (ascii "Couldn't get DVD information. Be sure your DVD directory has a " ++
        ascii "disc.cfg specifying the type!\n"))
    else if opened then
      (main (folderAt directory) value queue jlipIdFile p moments).map .ok
    else some (.error (ascii "Failed to open serial port '" ++ port ++ ascii "'!\n"))

theorem mainUnknown [Scanf] {folder : Folder} {value : List UInt8}
    (unknown : getDvdType folder value = some .unknown) (queue : Q)
    (jlipIdFile : Option (List UInt8)) (p : Port) (moments : List Moment) :
    main folder value queue jlipIdFile p moments = none := by
  rw [main, mainInit, unknown]
  cases getDirectoryCount folder.entries <;> rfl

theorem mainCalledIff [Scanf] {opened : Bool} {folderAt : List UInt8 → Folder} {value : List UInt8}
    {queue : Q} {jlipIdFile : Option (List UInt8)} {p : Port} {moments : List Moment}
    {argv : List (List UInt8)} {l : Loop (Emulator Q)} :
    mainCalled opened folderAt value queue jlipIdFile p moments argv = some (.ok l) ↔
      opened = true ∧ ∃ directory, argv[2]? = some directory ∧
        main (folderAt directory) value queue jlipIdFile p moments = some l := by
  match argv with
  | [] => simp [mainCalled]
  | [name] => simp [mainCalled]
  | [name, port] => simp [mainCalled]
  | name :: port :: directory :: rest =>
    simp only [mainCalled, List.getElem?_cons_succ, List.getElem?_cons_zero, Option.some.injEq,
      exists_eq_left']
    cases known : getDvdType (folderAt directory) value with
    | none => simp [main, known]
    | some dvdType =>
      by_cases unknown : dvdType = .unknown
      · rw [unknown] at known
        simp [unknown, mainUnknown known]
      · cases opened <;> simp [unknown]

theorem victorShort (e : Emulator Q) (byte : UInt8) : (victorServe e byte).1.length ≤ 11 := by
  rw [victorServe, written]
  cases (victorTurn e byte).1.2 with
  | none => exact Nat.zero_le _
  | some reply => simp

theorem toshibaShort [Scanf] (e : Emulator Q) (byte : UInt8) :
    (toshibaServe e byte).1.length ≤ 256 := by
  have got : ∀ e : Emulator Q, ((toshibaGetResponse e).1.getD []).length ≤ 256 := by
    intro e
    rw [toshibaGetResponse]
    split
    · exact Nat.le_trans (List.length_take_le' _ _) (by simp)
    · exact Nat.zero_le _
  unfold toshibaServe toshibaTurn
  dsimp only
  split
  · exact got _
  · exact Nat.zero_le _

theorem mainServesOnce [Scanf] {folder : Folder} {value : List UInt8} {queue : Q}
    {jlipIdFile : Option (List UInt8)} {p : Port} (fresh : p.written = []) {moments : List Moment}
    {l : Loop (Emulator Q)} (reached : main folder value queue jlipIdFile p moments = some l) :
    ∃ dvdType e, ∃ p' : Port, ∃ before m rest, getDvdType folder value = some dvdType ∧
      mainInit folder value queue jlipIdFile = some e ∧ moments = before ++ m :: rest ∧
      p'.unread <:+ p.unread ++ arrived (before ++ [m]) ∧
      ((∃ amount, m.driver = .ready amount) → p'.unread = []) ∧
      ServedOnce (serve dvdType) e (p'.unread ++ arrived rest) l ∧
      ∀ quiet, (∀ m ∈ quiet, Silent m) → pending l ≤ quiet.length →
        (run (step (serve dvdType)) l quiet).port.unread = [] := by
  rw [main] at reached
  obtain ⟨dvdType, opened, reached⟩ := Option.bind_eq_some_iff.mp reached
  obtain ⟨e, started, reached⟩ := Option.bind_eq_some_iff.mp reached
  obtain ⟨⟨_, p', rest⟩, cleared, reached⟩ := Option.bind_eq_some_iff.mp reached
  obtain ⟨unwritten, before, m, split, suffix, empty⟩ := purged cleared
  cases Option.some.inj reached
  exact ⟨dvdType, e, p', before, m, rest, opened, started, split, suffix, empty,
    everyByteOnce _ (unwritten.trans fresh) e rest, fun _ => quietDelivers _⟩

structure Schedule (most : Nat) (p : Port) (came : List UInt8) where
  clearing : List Moment
  moments : List Moment
  quiet : List Moment
  cleared : Port
  fresh : p.written = []
  clears : purgeComm clearing p = some ((), cleared, [])
  empty : cleared.unread = []
  comes : arrived moments = came
  roomy : ∀ m ∈ moments, Roomy most m
  silent : ∀ m ∈ quiet, m.arrived = [] ∧ Roomy most m
  enough : 2 * came.length < quiet.length

def Schedule.calls {most : Nat} {p : Port} {came : List UInt8} (s : Schedule most p came) :
    List Moment := s.clearing ++ (s.moments ++ s.quiet)

theorem mainServed [Scanf] {folder : Folder} {value : List UInt8} {queue : Q}
    {jlipIdFile : Option (List UInt8)} {dvdType : DiscType} {e : Emulator Q} {most : Nat} {p : Port}
    {came : List UInt8} (opened : getDvdType folder value = some dvdType)
    (started : mainInit folder value queue jlipIdFile = some e) (positive : 1 ≤ most)
    (short : ∀ (e : Emulator Q) byte, (serve dvdType e byte).1.length ≤ most)
    (s : Schedule most p came) :
    ∃ l, main folder value queue jlipIdFile p s.calls = some l ∧ l.port.unread = [] ∧
      l.device = after (serve dvdType) e came ∧
      l.port.written = (outputs (serve dvdType) e came).flatten := by
  have unwritten := (purged s.clears).1.trans s.fresh
  have cleared := attemptsAppend s.clears (s.moments ++ s.quiet)
  have bytes : s.cleared.unread ++ arrived s.moments = came := by
    rw [s.empty, s.comes, List.nil_append]
  have total : 2 * (s.cleared.unread ++ arrived s.moments).length < s.quiet.length := by
    rw [bytes]
    exact s.enough
  have through := servedThrough (serve dvdType) positive short unwritten e s.roomy s.silent total
  rw [bytes] at through
  refine ⟨_, ?_, through⟩
  rw [main, opened, started, purgeComm, Schedule.calls, cleared]
  rfl

def discOf : DvdType → DiscType
  | .dvd => .victorXvD701Dvd
  | .vcd => .victorXvD701Vcd

omit [CommandQueue Q] in
theorem initVictor [Scanf] {folder : Folder} {value : List UInt8} {dvdType : DvdType}
    (opened : getDvdType folder value = some (discOf dvdType)) {chapters : Int32}
    (counted : getDirectoryCount folder.entries = some chapters) (queue : Q)
    (jlipIdFile : Option (List UInt8)) : mainInit folder value queue jlipIdFile =
      some (victorInit dvdType (Emulator.start queue (chapters - 1) jlipIdFile)) := by
  rw [mainInit, opened, counted]
  cases dvdType <;> rfl

theorem victorOutputs (e : Emulator Q) (bytes : List UInt8) :
    outputs victorServe e bytes = (outputs victorTurn e bytes).map (fun turn => written turn.2) ∧
    after victorServe e bytes = after victorTurn e bytes :=
  outputsMap victorTurn (fun turn => written turn.2) e bytes

theorem busServed [Scanf] {folder : Folder} {value : List UInt8} {dvdType : DvdType}
    (opened : getDvdType folder value = some (discOf dvdType)) {chapters : Int32}
    (counted : getDirectoryCount folder.entries = some chapters) (queue : Q)
    (jlipIdFile : Option (List UInt8)) (segments : List VictorFraming.Segment) {p : Port}
    (s : Schedule 11 p (segments.flatMap VictorFraming.Segment.bytes)) :
    let start := victorInit dvdType (Emulator.start queue (chapters - 1) jlipIdFile)
    ∃ l, main folder value queue jlipIdFile p s.calls = some l ∧ l.port.unread = [] ∧
      VictorFraming.SameDevice (after VictorFraming.due start segments) l.device ∧
      l.port.written = (outputs VictorFraming.due start segments).flatten.flatMap
        (fun turn => written turn.2) := by
  intro start
  have serves : serve (discOf dvdType) = victorServe (Q := Q) := by cases dvdType <;> rfl
  obtain ⟨l, reached, unread, device, replies⟩ :=
    mainServed opened (initVictor opened counted queue jlipIdFile) (by decide)
      (fun e byte => by rw [serves]; exact victorShort e byte) s
  have fresh : VictorFraming.SameDevice start start := ⟨rfl, rfl, rfl, rfl, rfl⟩
  obtain ⟨due, same⟩ :=
    VictorFraming.segmentsDue fresh (VictorFraming.initClean _ dvdType) segments
  rw [serves] at device replies
  obtain ⟨results, state⟩ := victorOutputs start (segments.flatMap VictorFraming.Segment.bytes)
  rw [state] at device
  rw [results, due, ← List.flatMap_def] at replies
  exact ⟨l, reached, unread, device ▸ same, replies⟩

omit [CommandQueue Q] in
theorem initToshiba [Scanf] {folder : Folder} {value : List UInt8}
    (opened : getDvdType folder value = some .toshibaSdB100Dvd) {chapters : Int32}
    (counted : getDirectoryCount folder.entries = some chapters) (queue : Q)
    (jlipIdFile : Option (List UInt8)) : mainInit folder value queue jlipIdFile =
      some (toshibaInit (Emulator.start queue (chapters - 1) jlipIdFile)) := by
  rw [mainInit, opened, counted]
  rfl

theorem toshibaOutputs [Scanf] (e : Emulator Q) (bytes : List UInt8) :
    outputs toshibaServe e bytes =
      (outputs toshibaTurn e bytes).map (fun turn => turn.2.getD []) ∧
    after toshibaServe e bytes = after toshibaTurn e bytes :=
  outputsMap toshibaTurn (fun turn => turn.2.getD []) e bytes

theorem linesServed [Scanf] {folder : Folder} {value : List UInt8}
    (opened : getDvdType folder value = some .toshibaSdB100Dvd) {chapters : Int32}
    (counted : getDirectoryCount folder.entries = some chapters) (queue : Q)
    (jlipIdFile : Option (List UInt8)) (lines : List Line) {p : Port}
    (s : Schedule 256 p (lines.flatMap Line.sent)) :
    let start := toshibaInit (Emulator.start queue (chapters - 1) jlipIdFile)
    ∃ l, main folder value queue jlipIdFile p s.calls = some l ∧ l.port.unread = [] ∧
      l.device.video = run (fun v l => obey l.text v) start.video lines ∧
      l.port.written = lines.flatMap (fun l => reply l.text ++ [0x0D]) := by
  intro start
  obtain ⟨l, reached, unread, device, replies⟩ :=
    mainServed opened (initToshiba opened counted queue jlipIdFile) (by decide) toshibaShort s
  obtain ⟨results, _, obeyed⟩ := linesRun (initReady (Emulator.start queue (chapters - 1) jlipIdFile))
    lines
  obtain ⟨same, state⟩ := toshibaOutputs start (lines.flatMap Line.sent)
  have answered : ∀ l : Line, (l.due.map fun turn => turn.2.getD []).flatten =
      reply l.text ++ [0x0D] := by
    intro l
    simp [Line.due]
  refine ⟨l, reached, unread, ?_, ?_⟩
  · rw [device]
    exact (congrArg Emulator.video state).trans obeyed
  · rw [replies]
    change (outputs toshibaServe start (lines.flatMap Line.sent)).flatten = _
    rw [same, results, List.map_flatMap, List.flatMap_def, List.flatten_flatten, List.map_map]
    rw [List.flatMap_def]
    exact congrArg List.flatten (List.map_congr_left fun l _ => answered l)

end Receivers
def oneClip (word : List UInt8) : Folder where
  directory := dvd
  entries := [⟨clip '1', .reg⟩, ⟨discCfg, .reg⟩]
  fopen path := if path = dvd ++ discCfg then some word else none

def stale : Port := ⟨0, [0x55], []⟩

def clearing : List Moment := [⟨[], 1, .ready 64⟩, ⟨[], 2, .ready 64⟩]

def idle (most : Nat) : List Moment := List.replicate 30 ⟨[], 9, .ready most⟩

theorem idleSilent (most : Nat) : ∀ m ∈ idle most, m.arrived = [] ∧ Roomy most m := by
  intro m mem
  rw [List.eq_of_mem_replicate mem]
  exact ⟨rfl, most, rfl, Nat.le_refl most⟩

theorem playIdLow : (0x21 : UInt8) < 0x80 := by decide

def playRequest : VictorFraming.Request :=
  ⟨0x21, #v[0x0C, 0x43, 0x75, 0, 0, 0, 0], playIdLow, by decide⟩

def playSchedule : Schedule 11 stale ([.request playRequest].flatMap VictorFraming.Segment.bytes) where
  clearing := clearing
  moments := [⟨[0xFF, 0xFF, 0x21], 3, .ready 11⟩,
    ⟨[0x0C, 0x43, 0x75, 0, 0, 0, 0, 0x1D], 4, .ready 11⟩]
  quiet := idle 11
  cleared := ⟨2, [], []⟩
  fresh := rfl
  clears := by decide +kernel
  empty := rfl
  comes := by decide +kernel
  roomy := by simp [Roomy]
  silent := idleSilent 11
  enough := by decide

def playLineSchedule : Schedule 256 stale ([playLine].flatMap Line.sent) where
  clearing := clearing
  moments := [⟨[0x50], 3, .ready 256⟩, ⟨[0x4C, 0x0D], 4, .ready 256⟩]
  quiet := idle 256
  cleared := ⟨2, [], []⟩
  fresh := rfl
  clears := by decide +kernel
  empty := rfl
  comes := by decide
  roomy := by simp [Roomy]
  silent := idleSilent 256
  enough := by decide

theorem mainServesOncePlay :
    haveI : Scanf := ⟨Int32.ofInt⟩
    let folder := oneClip sdB100Dvd
    ∃ l, main folder [] VideoQueue.ByteQueue.init none stale playLineSchedule.calls = some l ∧
      ∃ dvdType e came, getDvdType folder [] = some dvdType ∧
        mainInit folder [] VideoQueue.ByteQueue.init none = some e ∧
        ServedOnce (serve dvdType) e came l := by
  intro folder
  have opened : getDvdType folder [] = some .toshibaSdB100Dvd := by decide
  have counted : getDirectoryCount folder.entries = some 2 := by decide
  have started := @initToshiba VideoQueue.ByteQueue ⟨Int32.ofInt⟩ folder [] opened 2 counted .init none
  obtain ⟨l, reached, _⟩ := @mainServed VideoQueue.ByteQueue _ ⟨Int32.ofInt⟩ _ _ _ _ _ _ _ _ _
    opened started (by decide) (@toshibaShort _ _ ⟨Int32.ofInt⟩) playLineSchedule
  obtain ⟨dvdType, e, _, _, _, _, opened, init, _, _, _, served, _⟩ :=
    @mainServesOnce VideoQueue.ByteQueue _ ⟨Int32.ofInt⟩ _ _ _ _ _ rfl _ _ reached
  exact ⟨l, reached, dvdType, e, _, opened, init, served⟩

theorem busServedPlay :
    haveI : Scanf := ⟨Int32.ofInt⟩
    ∃ l, main (oneClip xvD701Vcd) [] VideoQueue.ByteQueue.init none stale playSchedule.calls =
      some l ∧ l.port.unread = [] := by
  obtain ⟨l, reached, unread, _⟩ := @busServed VideoQueue.ByteQueue _ ⟨Int32.ofInt⟩
    (oneClip xvD701Vcd) [] .vcd (by decide) 2 (by decide) .init none [.request playRequest] stale
    playSchedule
  exact ⟨l, reached, unread⟩

theorem linesServedPlay :
    haveI : Scanf := ⟨Int32.ofInt⟩
    ∃ l, main (oneClip sdB100Dvd) [] VideoQueue.ByteQueue.init none stale playLineSchedule.calls =
      some l ∧ l.port.written = [0x4B, 0x0D] := by
  obtain ⟨l, reached, _, _, replies⟩ := @linesServed VideoQueue.ByteQueue _ ⟨Int32.ofInt⟩
    (oneClip sdB100Dvd) [] (by decide) 2 (by decide) .init none [playLine] stale playLineSchedule
  exact ⟨l, reached, replies.trans (by decide)⟩

end SerialDvdEmu.EmulatorMain
