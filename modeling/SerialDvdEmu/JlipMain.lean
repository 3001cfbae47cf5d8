import SerialDvdEmu.Base.Client
import SerialDvdEmu.Base.Decimal
import SerialDvdEmu.JlipCommands
import SerialDvdEmu.JlipSweep

/-! JLIPTest as it is called from a shell: arguments, probing, one command and what is printed of
it, as a program that asks the device. What C leaves open is `none`. -/
namespace SerialDvdEmu.JlipMain
open EventRun Client
open CString (ascii)
open Decimal (printNat)
open VictorPacket (Packet commandLoc paramsLoc)
open VictorHandlers (victorInit)
open VictorRequests (Addressable)
open VideoPlayer (CommandQueue)
open JlipClient (DiskType DriveStatus createPacket statusBadPacket statusBadCrc statusError statusOk
  statusUnknownCmd transact)
open JlipCommands

inductive Asked : Type → Type 1 where
  | purge : Asked Unit
  | call {α : Type} (q : Question α) : Asked α
  | raw (id : BusId) (request : Packet) : Asked Packet

def purgeComm : Program Asked Unit := .ask .purge .done

def call {α : Type} (id : BusId) (c : Call α) : Program Asked α := .ask (.call ⟨id, c⟩) .done

/-- What the C locale converts; of any other text mbstowcs and wcstombs leave no NUL behind. -/
def isAscii (text : String) : Bool := text.toList.all fun c => 0 < c.toNat && c.toNat < 128

def tstoi (text : String) : Option UInt32 :=
  if text = "" || !isAscii text then none
  else match Decimal.scanInt (ascii text) with
    | none => some 0
    | some (n, _) =>
      if -2147483648 ≤ n ∧ n ≤ 2147483647 then some (Int32.ofInt n).toUInt32 else none

section Texts

def hexUpper (n : Nat) : UInt8 := (Nat.digitChar n).toUpper.toUInt8

def hexByte (byte : UInt8) : List UInt8 := [hexUpper (byte.toNat / 16), hexUpper (byte.toNat % 16)]

def printHex (packet : Packet) : List UInt8 :=
  ascii "Length: 11 bytes\n" ++ packet.toList.flatMap (fun byte => hexByte byte ++ ascii " ") ++
    ascii "\n"

def printStatus (status : Int) : List UInt8 :=
  if status = statusBadPacket then ascii "The device is not communicating.\n"
  else if status = statusBadCrc then ascii "The device returned a bad CRC.\n"
  else if status = statusUnknownCmd then ascii "The device did not recognize the command.\n"
  else if status = statusOk then ascii "The device successfully executed the command.\n"
  else if status = statusError then ascii "The device could not execute the command.\n"
  else ascii "Unknown status!\n"

def printDriveStatus : DriveStatus → List UInt8
  | .idle => ascii "The drive is idle.\n"
  | .ejected => ascii "The drive is ejected.\n"
  | .inserting => ascii "The drive is inserting a disk.\n"
  | .reading => ascii "The drive is reading a disk.\n"
  | .playing => ascii "The drive is playing a disk.\n"
  | .paused => ascii "The drive is paused.\n"
  | .off => ascii "The drive is off.\n"
  | .unknownStatus => ascii "The drive status is unknown.\n"

def printDiskType : DiskType → List UInt8
  | .none => ascii "There is no disk in the drive.\n"
  | .videoCd => ascii "The disk is a video CD.\n"
  | .audioCd => ascii "The disk is an audio CD.\n"
  | .videoDvd => ascii "The disk is a video DVD.\n"
  | .unrecognizedCd => ascii "The disk is an unrecognized CD.\n"
  | .unrecognizedDvd => ascii "The disk is an unrecognized DVD.\n"
  | .unknownStatus => ascii "The disk type is unknown.\n"

def printInstructions (name : String) : List UInt8 :=
  ascii "\n" ++ ascii name ++ ascii " port id command\n" ++
  ascii "\tport - a com port, such as COM1.\n" ++
  ascii "\tid - a JLIP ID, such as 33.  Use 0 to probe.\n" ++
  ascii "\tcommand - a command to perform.  Valid commands below.\n" ++
  ascii "\n" ++
  ascii "\tturnon\t\tturn the device on.\n" ++
  ascii "\tturnoff\t\tturn the device off.\n" ++
  ascii "\teject\t\teject the device tray.\n" ++
  ascii "\tinsert\t\tinsert the device tray.\n" ++
  ascii "\tstatus\t\tprint device status information.\n" ++
  ascii "\tdiskstatus\t\tprint disk status information.\n" ++
  ascii "\tsetid x\t\tset the device to listen on JLIP ID x.\n" ++
  ascii "\tplay\t\tplay current chapter/track on device.\n" ++
  ascii "\tpause\t\tpause playback on device.\n" ++
  ascii "\tstop\t\tstop playing and return to idle state.\n" ++
  ascii "\tnextchapter\tseek to next chapter.\n" ++
  ascii "\tpreviouschapter\tseek to previous chapter.\n" ++
  ascii "\tseekchapter x\tseek to chapter x (range 1-99).\n" ++
  ascii "\n" ++
  ascii "\traw xxyyzz aa bb cc dd\tperform raw command xxyyzz with params aa, bb, cc, dd.\n" ++
  ascii "\tsweep xx[yy[zz]]\tdo a raw command sweep with prefix xx[yy[zz]].\n"

end Texts

section Commands

def status (id : BusId) : Program Asked (List UInt8) := do
  let name ← call id .deviceName
  let name := match name with
    | some name => ascii "Device name is '" ++ name ++ ascii "'\n"
    | none => ascii "Couldn't read name!\n"
  let mbr ← call id .maxBaudRate
  let mbr := if mbr > 0 then ascii "Device max baud rate is '" ++ printNat mbr ++ ascii "'\n"
    else ascii "Device max baud rate is UNKNOWN\n"
  let power ← call id .powerStatus
  let power := match power with
    | .unknown => ascii "Device status is UNKNOWN\n"
    | .off => ascii "Device status is OFF\n"
    | .on => ascii "Device status is ON\n"
  let mc ← call id .machineCode
  let mc := match mc with
    | some mc => ascii "Device machine code is" ++
        mc.toList.flatMap (fun byte => ascii " " ++ hexByte byte) ++ ascii "\n"
    | none => ascii "Couldn't read machine code!\n"
  let dc ← call id .deviceCode
  let dc := match dc with
    | some dc => ascii "Device code is" ++
        (dc.toList.filter (· ≠ 0x7F)).flatMap (fun byte => ascii " " ++ hexByte byte) ++ ascii "\n"
    | none => ascii "Couldn't read device code!\n"
  return ascii "Attempting to read device status...\n\n" ++ name ++ mbr ++ power ++ mc ++ dc

def diskLengths (id : BusId) : Program Asked (List UInt8) := do
  let chapters ← call id .diskLengthChapters
  let chapters := if chapters ≠ 0 then
      ascii "Disk has " ++ printNat chapters ++ ascii " chapers/tracks.\n"
    else ascii "Couldn't read disk chapters!\n"
  let length ← call id .diskLengthTime
  let length := match length with
    | some (minutes, seconds, fractions) => ascii "Disk length is " ++ printNat minutes ++
        ascii ":" ++ printNat seconds ++ ascii "." ++ printNat fractions ++ ascii "\n"
    | none => ascii "Couldn't read disk length!\n"
  return chapters ++ length

def diskstatus (id : BusId) : Program Asked (List UInt8) := do
  let status ← call id .diskStatus
  let drive := ascii "Attempting to read disk status...\n\n" ++ printDriveStatus status.driveStatus
  if status.driveStatus ≠ .off then
    if status.driveStatus ≠ .ejected ∧ status.driveStatus ≠ .inserting ∧
        status.driveStatus ≠ .reading ∧ status.driveStatus ≠ .off ∧ status.diskType ≠ .none then
      let lengths ← diskLengths id
      return drive ++ printDiskType status.diskType ++ lengths
    else return drive ++ printDiskType status.diskType
  else return drive

def turn (already : String) (id : BusId) (c : Call Int) : Program Asked (List UInt8) := do
  let status ← call id c
  return if status = statusError then ascii already else printStatus status

def reported (id : BusId) (c : Call Int) : Program Asked (List UInt8) := do
  let status ← call id c
  return printStatus status

def exchange (id : BusId) (request : Packet) : Program Asked (List UInt8) :=
  .ask (.raw id request) fun response => .done (ascii "Request RAW:\n" ++ printHex request ++
    ascii "Response RAW:\n" ++ printHex response)

def sweep (id : BusId) : List Packet → Program Asked (List UInt8)
  | [] => return []
  | request :: rest => do
    let first ← exchange id request
    let later ← sweep id rest
    return first ++ ascii "\n" ++ later

structure Printed where
  out : List UInt8
  err : List UInt8
  deriving DecidableEq, Repr

def onlyOut (said : Program Asked (List UInt8)) : Program Asked (Option Printed) := do
  let out ← said
  return some ⟨out, []⟩

def numbered (id : BusId) (c : UInt32 → Call Int) (assumed : UInt32) (notice : String) :
    List String → Program Asked (Option Printed)
  | [] => do
    let out ← reported id (c assumed)
    return some ⟨out, ascii notice⟩
  | text :: _ => match tstoi text with
    | none => return none
    | some n => onlyOut (reported id (c n))

def command (name : String) (id : BusId) (verb : String) (rest : List String) :
    Program Asked (Option Printed) :=
  match verb with
  | "status" => onlyOut (status id)
  | "diskstatus" => onlyOut (diskstatus id)
  | "turnon" => onlyOut (turn "The device was already on.\n" id .turnOn)
  | "turnoff" => onlyOut (turn "The device was already off.\n" id .turnOff)
  | "eject" => onlyOut (reported id .eject)
  | "insert" => onlyOut (reported id .insert)
  | "play" => onlyOut (reported id .play)
  | "pause" => onlyOut (reported id .pause)
  | "stop" => onlyOut (reported id .stop)
  | "nextchapter" => onlyOut (reported id .nextChapter)
  | "previouschapter" => onlyOut (reported id .prevChapter)
  | "setid" => numbered id .setId 33 "Unknown JLIP ID, assumming 33!\n" rest
  | "seekchapter" => numbered id .seekToChapter 1 "Unknown chapter, assuming chapter 1!\n" rest
  | "raw" => match rest with
    | command :: a :: b :: c :: d :: _ =>
      match JlipSweep.getHex command.toList, JlipSweep.getHex a.toList, JlipSweep.getHex b.toList,
        JlipSweep.getHex c.toList, JlipSweep.getHex d.toList with
      | some command, some a, some b, some c, some d =>
        onlyOut (exchange id (createPacket id.id command
          #v[(a &&& 0xFF).toUInt8, (b &&& 0xFF).toUInt8, (c &&& 0xFF).toUInt8,
            (d &&& 0xFF).toUInt8]))
      | _, _, _, _, _ => return none
    | _ => return some ⟨[], ascii "Invalid raw command format!\n"⟩
  | "sweep" => match rest with
    | argument :: _ => match JlipSweep.sweep id.id argument.toList with
      | some requests =>
        if JlipSweep.sweeplen argument.length > 0 then onlyOut (sweep id requests)
        else return some ⟨ascii "No range to sweep!\n", []⟩
      | none => return none
    | [] => return some ⟨[], ascii "Invalid sweep command format!\n"⟩
  | _ => return some ⟨[], ascii "Unrecognized command!\n" ++ printInstructions name⟩

end Commands

section Main

def busId (id : UInt32) : Option BusId :=
  if h : 1 ≤ id.toNat ∧ id.toNat ≤ 63 then some ⟨id, h.1, h.2⟩ else none

theorem probedRange {i : Nat} (inside : i < 63) :
    1 ≤ (UInt32.ofNat (i + 1)).toNat ∧ (UInt32.ofNat (i + 1)).toNat ≤ 63 := by
  rw [UInt32.toNat_ofNat_of_lt' (Nat.lt_trans (Nat.succ_lt_succ inside) (by decide))]
  omega

def probed : List BusId := (List.finRange 63).map fun (i : Fin 63) =>
  ⟨UInt32.ofNat (i + 1), (probedRange i.isLt).1, (probedRange i.isLt).2⟩

def probe : List BusId → Program Asked (Option BusId)
  | [] => return none
  | i :: rest => do
    let status ← call i .noOp
    if status = statusOk then return some i else probe rest

def findId (id : UInt32) : Program Asked (List UInt8 × Option BusId) :=
  match busId id with
  | some id => return ([], some id)
  | none => do
    let found ← probe probed
    let address := match found with
      | some i => ascii "JLIP device found at address " ++ printNat i.id.toNat ++ ascii ".\n"
      | none => []
    return (ascii "Invalid JLIP ID, attempting to probe...\n" ++ address, found)

structure Ended where
  printed : Printed
  code : Nat
  deriving DecidableEq, Repr

def failed (err : List UInt8) : Option Ended := some ⟨⟨[], err⟩, 1⟩

def tmain (opened : Bool) : List String → Program Asked (Option Ended)
  | [] => return none
  | [name] => return failed (ascii "Missing serial port argument!\n" ++ printInstructions name)
  | [name, _] => return failed (ascii "Missing JLIP ID argument!\n" ++ printInstructions name)
  | [name, _, _] => return failed (ascii "Missing command argument!\n" ++ printInstructions name)
  | name :: port :: id :: verb :: rest => match tstoi id with
    | none => return none
    | some id =>
      if opened then do
        purgeComm
        let (said, found) ← findId id
        match found with
        | none => return some ⟨⟨said, ascii "Unable to find a device!\n"⟩, 0⟩
        | some id =>
          let printed ← command name id verb rest
          return printed.map fun printed => ⟨⟨said ++ printed.out, printed.err⟩, 0⟩
      else return failed (ascii "Failed to open serial port '" ++ ascii port ++ ascii "'!\n")

def main (opened : Bool) (argv : List String) : Program Asked (Option Ended) :=
  if argv.all isAscii then tmain opened argv else return none

end Main

section Asks

def Documented : ∀ β, Asked β → Prop
  | _, .purge => True
  | _, .call _ => True
  | _, .raw _ _ => False

theorem purgeAsks : purgeComm.Asks Documented := ⟨trivial, fun _ => trivial⟩

theorem callAsks {α : Type} (id : BusId) (c : Call α) : (call id c).Asks Documented :=
  ⟨trivial, fun _ => trivial⟩

theorem statusAsks (id : BusId) : (status id).Asks Documented := by
  rw [status]
  refine asksBind (callAsks id _) fun name => ?_
  refine asksBind (callAsks id _) fun mbr => ?_
  refine asksBind (callAsks id _) fun power => ?_
  refine asksBind (callAsks id _) fun mc => ?_
  exact asksBind (callAsks id _) fun dc => asksPure _

theorem diskLengthsAsks (id : BusId) : (diskLengths id).Asks Documented := by
  rw [diskLengths]
  refine asksBind (callAsks id _) fun chapters => ?_
  exact asksBind (callAsks id _) fun length => asksPure _

theorem diskstatusAsks (id : BusId) : (diskstatus id).Asks Documented := by
  rw [diskstatus]
  refine asksBind (callAsks id _) fun status => ?_
  dsimp only
  split
  · split
    · exact asksBind (diskLengthsAsks id) fun lengths => asksPure _
    · exact asksPure _
  · exact asksPure _

theorem turnAsks (already : String) (id : BusId) (c : Call Int) :
    (turn already id c).Asks Documented :=
  asksBind (callAsks id c) fun _ => asksPure _

theorem reportedAsks (id : BusId) (c : Call Int) : (reported id c).Asks Documented :=
  asksBind (callAsks id c) fun _ => asksPure _

theorem onlyOutAsks {said : Program Asked (List UInt8)} (asks : said.Asks Documented) :
    (onlyOut said).Asks Documented :=
  asksBind asks fun _ => asksPure _

theorem numberedAsks (id : BusId) (c : UInt32 → Call Int) (assumed : UInt32) (notice : String)
    (rest : List String) : (numbered id c assumed notice rest).Asks Documented := by
  cases rest with
  | nil => exact asksBind (reportedAsks id _) fun _ => asksPure _
  | cons text more =>
    rw [numbered]
    split
    · exact asksPure _
    · exact onlyOutAsks (reportedAsks id _)

theorem commandAsks (name : String) (id : BusId) {verb : String} (rest : List String)
    (made : verb ≠ "raw" ∧ verb ≠ "sweep") : (command name id verb rest).Asks Documented := by
  rw [command.eq_def]
  split
  case h_1 => exact onlyOutAsks (statusAsks id)
  case h_2 => exact onlyOutAsks (diskstatusAsks id)
  case h_3 => exact onlyOutAsks (turnAsks _ id _)
  case h_4 => exact onlyOutAsks (turnAsks _ id _)
  case h_12 => exact numberedAsks id _ _ _ rest
  case h_13 => exact numberedAsks id _ _ _ rest
  case h_14 => exact absurd rfl made.1
  case h_15 => exact absurd rfl made.2
  case h_16 => exact asksPure _
  all_goals exact onlyOutAsks (reportedAsks id _)

theorem probeAsks (ids : List BusId) : (probe ids).Asks Documented := by
  induction ids with
  | nil => exact asksPure _
  | cons i rest ih =>
    rw [probe]
    refine asksBind (callAsks i _) fun status => ?_
    split
    · exact asksPure _
    · exact ih

theorem findIdAsks (id : UInt32) : (findId id).Asks Documented := by
  rw [findId]
  split
  · exact asksPure _
  · exact asksBind (probeAsks probed) fun found => asksPure _

def Plain (argv : List String) : Prop := argv[3]? ≠ some "raw" ∧ argv[3]? ≠ some "sweep"

instance (argv : List String) : Decidable (Plain argv) := inferInstanceAs (Decidable (_ ∧ _))

theorem tmainAsks (opened : Bool) {argv : List String} (plain : Plain argv) :
    (tmain opened argv).Asks Documented := by
  rw [tmain.eq_def]
  split
  case h_5 name port id verb rest =>
    have made : verb ≠ "raw" ∧ verb ≠ "sweep" :=
      ⟨fun same => plain.1 (congrArg some same), fun same => plain.2 (congrArg some same)⟩
    split
    · exact asksPure _
    · split
      · refine asksBind purgeAsks fun _ => ?_
        refine asksBind (findIdAsks _) fun found => ?_
        dsimp only
        split
        · exact asksPure _
        · exact asksBind (commandAsks name _ rest made) fun printed => asksPure _
      · exact asksPure _
  all_goals exact asksPure _

theorem mainAsks (opened : Bool) {argv : List String} (plain : Plain argv) :
    (main opened argv).Asks Documented := by
  rw [main]
  split
  · exact tmainAsks opened plain
  · exact asksPure _

end Asks

section Runs
variable {Q : Type} [CommandQueue Q]

def serve (heap : UInt32 → Packet) {α : Type} : Asked α → Emulator Q → α × Emulator Q
  | .purge, e => ((), e)
  | .call q, e => wire heap q e
  | .raw id request, e => transact (heap id.id) request e

def answer (raw : BusId → Packet → Player → Packet × Player) {α : Type} :
    Asked α → Player → α × Player
  | .purge, p => ((), p)
  | .call q, p => p.hears q
  | .raw id request, p => raw id request p

theorem serveAgrees {heap : UInt32 → Packet} (blank : Blank heap)
    (raw : BusId → Packet → Player → Packet × Player) {dvdType : DvdType} {chapters : UInt32}
    (count : chapters.toNat < 2147483648) :
    Agrees Documented (Stands (Q := Q) dvdType chapters) (serve heap) (answer raw) := by
  intro β question e p allowed stands
  cases question with
  | purge => exact ⟨rfl, stands⟩
  | call q => exact wireAgrees blank count q stands
  | raw id request => exact allowed.elim

structure Invocation where
  opened : Bool
  argv : List String
  plain : Plain argv

def Invocation.program (i : Invocation) : Program Asked (Option Ended) := main i.opened i.argv

def told (raw : BusId → Packet → Player → Packet × Player) (p : Player) (i : Invocation) :
    Option Ended × Player :=
  i.program.run (answer raw) p

theorem invokedAgrees {heap : UInt32 → Packet} (blank : Blank heap)
    (raw : BusId → Packet → Player → Packet × Player) {dvdType : DvdType} {chapters : UInt32}
    (count : chapters.toNat < 2147483648) (i : Invocation) {e : Emulator Q} {p : Player}
    (stands : Stands dvdType chapters e p) :
    (i.program.run (serve heap) e).1 = (told raw p i).1 ∧
    Stands dvdType chapters (i.program.run (serve heap) e).2 (told raw p i).2 :=
  runAgrees (serveAgrees blank raw count) (mainAsks i.opened i.plain) stands

structure Visit (Q : Type) extends Invocation where
  queue : Q

def visit (heap : UInt32 → Packet) (e : Emulator Q) (v : Visit Q) : Option Ended × Emulator Q :=
  v.program.run (serve heap) (JlipArguments.step e (.worked v.queue))

def meant (raw : BusId → Packet → Player → Packet × Player) (p : Player) (v : Visit Q) :
    Option Ended × Player :=
  told raw p v.toInvocation

theorem visitAgrees {heap : UInt32 → Packet} (blank : Blank heap)
    (raw : BusId → Packet → Player → Packet × Player) {dvdType : DvdType} {chapters : UInt32}
    (count : chapters.toNat < 2147483648) (v : Visit Q) (e : Emulator Q) (p : Player)
    (stands : Stands dvdType chapters e p) :
    (visit heap e v).1 = (meant raw p v).1 ∧
    Stands dvdType chapters (visit heap e v).2 (meant raw p v).2 := by
  obtain ⟨h, rfl⟩ := stands
  have listens := JlipArguments.stepListens h (.worked v.queue)
  exact invokedAgrees blank raw count v.toInvocation ⟨listens, rfl⟩

theorem mainAgrees [Scanf] {heap : UInt32 → Packet} (blank : Blank heap)
    (raw : BusId → Packet → Player → Packet × Player) (e : Emulator Q) (queue : Q)
    (dvdType : DvdType) (chapters : Int32) (nonneg : 0 ≤ chapters.toInt)
    (addressable :
      Addressable (victorInit dvdType { e with video := VideoPlayer.videoInit queue chapters }))
    (before : List (JlipArguments.Event Q)) (visits : List (Visit Q)) :
    let start := run JlipArguments.step
      (victorInit dvdType { e with video := VideoPlayer.videoInit queue chapters }) before
    outputs (visit heap) start visits = outputs (meant raw) (playerOf start) visits ∧
    playerOf (after (visit heap) start visits) = after (meant raw) (playerOf start) visits := by
  intro start
  have listens : JlipArguments.Listens dvdType chapters.toUInt32 start :=
    JlipArguments.runListens e queue dvdType chapters addressable before
  have count : chapters.toUInt32.toNat < 2147483648 := by
    have same := VideoPlayer.chapterCount nonneg
    have most := chapters.toInt_lt
    omega
  obtain ⟨results, _, player⟩ := outputsRelated (Stands dvdType chapters.toUInt32)
    (fun v _ => visitAgrees blank raw count v) ⟨listens, rfl⟩
  exact ⟨results, player⟩

theorem blankZeros : JlipClient.getPacketStatus (Vector.replicate 11 0) = statusBadPacket := by
  decide

theorem mainAgreesStatus :
    haveI : Scanf := ⟨Int32.ofInt⟩
    let e : Emulator VideoQueue.ByteQueue := .start .init 3 none
    let heap : UInt32 → Packet := fun _ => Vector.replicate 11 0
    let raw : BusId → Packet → Player → Packet × Player := fun id _ p => (heap id.id, p)
    let start := run JlipArguments.step
      (victorInit .dvd { e with video := VideoPlayer.videoInit VideoQueue.ByteQueue.init 3 })
      [.call .powerOn]
    let visits : List (Visit VideoQueue.ByteQueue) :=
      [⟨⟨true, ["JLIPTest", "/dev/ttyUSB0", "0", "play"], by decide⟩, .init⟩,
        ⟨⟨true, ["JLIPTest", "/dev/ttyUSB0", "33", "status"], by decide⟩, .init⟩]
    outputs (visit heap) start visits = outputs (meant raw) (playerOf start) visits ∧
    playerOf (after (visit heap) start visits) = after (meant raw) (playerOf start) visits :=
  @mainAgrees VideoQueue.ByteQueue _ ⟨Int32.ofInt⟩ (fun _ => Vector.replicate 11 0)
    (fun _ => blankZeros) (fun id _ p => (Vector.replicate 11 0, p)) (.start .init 3 none) .init .dvd 3
    (by decide) (by decide +kernel) [.call .powerOn]
    [⟨⟨true, ["JLIPTest", "/dev/ttyUSB0", "0", "play"], by decide⟩, .init⟩,
      ⟨⟨true, ["JLIPTest", "/dev/ttyUSB0", "33", "status"], by decide⟩, .init⟩]

end Runs

section Replays

def typed (bytes : List UInt8) : String :=
  String.ofList ((bytes.flatMap hexByte).map fun c => Char.ofNat c.toNat)

theorem hexUpperRead : ∀ n < 16, Char.ofNat (hexUpper n).toNat ∈ JlipSweep.hexDigits ∧
    JlipSweep.hexDigit (Char.ofNat (hexUpper n).toNat) = n := by
  decide

theorem typedDigits (bytes : List UInt8) :
    JlipSweep.Hex (typed bytes).toList ∧ (typed bytes).toList.length = 2 * bytes.length ∧
    (typed bytes).toList.map JlipSweep.hexDigit =
      (bytes.map UInt8.toNat).flatMap fun n => [n / 16, n % 16] := by
  simp only [typed, String.toList_ofList]
  induction bytes with
  | nil => exact ⟨by simp [JlipSweep.Hex], rfl, rfl⟩
  | cons byte rest ih =>
    obtain ⟨hex, length, digits⟩ := ih
    have byteFits := byte.toNat_lt
    obtain ⟨highHex, high⟩ := hexUpperRead (byte.toNat / 16) (by omega)
    obtain ⟨lowHex, low⟩ := hexUpperRead (byte.toNat % 16) (by omega)
    rw [List.flatMap_cons, hexByte, List.map_append]
    refine ⟨?_, ?_, ?_⟩
    · exact List.forall_mem_cons.mpr ⟨highHex, List.forall_mem_cons.mpr ⟨lowHex, hex⟩⟩
    · rw [List.length_append, length, List.length_cons, List.length_map]
      simp
      omega
    · rw [List.map_append, digits]
      simp only [List.map_cons, List.map_nil, List.flatMap_cons, high, low]

theorem typedRead {bytes : List UInt8} (short : bytes.length ≤ 4) :
    ∃ n : UInt32, JlipSweep.getHex (typed bytes).toList = some n ∧
      n.toNat = Numeral.value 256 (bytes.map UInt8.toNat) := by
  obtain ⟨hex, length, digits⟩ := typedDigits bytes
  have fits : (typed bytes).toList.length < 2147483648 := by omega
  refine ⟨_, JlipSweep.getHexFits fits, ?_⟩
  rw [JlipSweep.hexValue hex (by omega), digits]
  exact Numeral.valuePaired _

theorem typedByte (byte : UInt8) :
    ∃ n : UInt32, JlipSweep.getHex (typed [byte]).toList = some n ∧ (n &&& 0xFF).toUInt8 = byte := by
  obtain ⟨n, read, value⟩ := typedRead (show [byte].length ≤ 4 by simp)
  refine ⟨n, read, ?_⟩
  have single : Numeral.value 256 [byte.toNat] = byte.toNat := Nat.ofDigits_singleton
  rw [JlipClient.lowByte, ← UInt8.toNat_inj, UInt32.toNat_toUInt8, value, List.map_cons,
    List.map_nil, single]
  exact Nat.mod_eq_of_lt byte.toNat_lt

/-- The arguments that ask for a packet: its command and then its parameters. -/
def tokens (request : Packet) : List String :=
  [typed [request.get (commandLoc 0), request.get (commandLoc 1), request.get (commandLoc 2)],
    typed [request.get (paramsLoc 0)], typed [request.get (paramsLoc 1)],
    typed [request.get (paramsLoc 2)], typed [request.get (paramsLoc 3)]]

theorem packetSame (id : UInt32) {c c' : UInt32} (params : Vector UInt8 4)
    (same : c.toNat % 16777216 = c'.toNat % 16777216) :
    createPacket id c params = createPacket id c' params := by
  have high : (c >>> 16 &&& 0xFF).toUInt8 = (c' >>> 16 &&& 0xFF).toUInt8 := by
    rw [← UInt8.toNat_inj, JlipReplies.highByte, JlipReplies.highByte]
    omega
  have middle : (c >>> 8 &&& 0xFF).toUInt8 = (c' >>> 8 &&& 0xFF).toUInt8 := by
    rw [← UInt8.toNat_inj, JlipReplies.middleByte, JlipReplies.middleByte]
    omega
  have low : (c &&& 0xFF).toUInt8 = (c' &&& 0xFF).toUInt8 := by
    rw [JlipClient.lowByte, JlipClient.lowByte, ← UInt8.toNat_inj, UInt32.toNat_toUInt8,
      UInt32.toNat_toUInt8]
    omega
  simp only [createPacket, high, middle, low]

theorem typedCommand (id c : UInt32) (params : Vector UInt8 4) :
    let request := createPacket id c params
    ∃ n : UInt32, JlipSweep.getHex (typed [request.get (commandLoc 0), request.get (commandLoc 1),
      request.get (commandLoc 2)]).toList = some n ∧ createPacket id n params = request := by
  intro request
  obtain ⟨_, first, second, third⟩ := JlipClient.packetBytes id c params
  rw [first, second, third]
  obtain ⟨n, read, value⟩ := typedRead (show [(c >>> 16 &&& 0xFF).toUInt8,
    (c >>> 8 &&& 0xFF).toUInt8, (c &&& 0xFF).toUInt8].length ≤ 4 by simp)
  refine ⟨n, read, packetSame id params ?_⟩
  rw [value]
  simp only [List.map_cons, List.map_nil, Numeral.valueCons, List.length_cons, List.length_nil]
  rw [JlipReplies.highByte, JlipReplies.middleByte, JlipClient.lowByte, UInt32.toNat_toUInt8]
  change (_ + (_ + (_ + 0))) % _ = _
  omega

theorem rawReplays (name : String) (id : BusId) (c : UInt32) (params : Vector UInt8 4)
    (more : List String) :
    let request := createPacket id.id c params
    command name id "raw" (tokens request ++ more) = onlyOut (exchange id request) := by
  intro request
  obtain ⟨n, asked, same⟩ := typedCommand id.id c params
  obtain ⟨p0, read0, byte0⟩ := typedByte (request.get (paramsLoc 0))
  obtain ⟨p1, read1, byte1⟩ := typedByte (request.get (paramsLoc 1))
  obtain ⟨p2, read2, byte2⟩ := typedByte (request.get (paramsLoc 2))
  obtain ⟨p3, read3, byte3⟩ := typedByte (request.get (paramsLoc 3))
  have bytes : #v[request.get (paramsLoc 0), request.get (paramsLoc 1), request.get (paramsLoc 2),
      request.get (paramsLoc 3)] = params := JlipReplies.paramsRead id.id c params
  simp only [tokens, List.cons_append, List.nil_append, command, request, asked, read0, read1, read2,
    read3, byte0, byte1, byte2, byte3, bytes]
  rw [← same]

end Replays
end SerialDvdEmu.JlipMain
