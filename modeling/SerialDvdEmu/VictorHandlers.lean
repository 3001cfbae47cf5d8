import SerialDvdEmu.Base.ShiftRegister
import SerialDvdEmu.Emulator

/-! The request handlers of the Victor XV-D701 and its byte receiver. A handler that does not
know a command returns no packet, and handlePacket answers in its place. -/
namespace SerialDvdEmu.VictorHandlers
open VictorPacket
open VideoPlayer (CommandQueue VideoState)

variable {Q : Type} [CommandQueue Q]

def chapterDigits (hundreds tens units : UInt8) : UInt32 :=
  (hundreds % 10).toUInt32 * 100 + (tens % 10).toUInt32 * 10 + (units % 10).toUInt32

def requestedChapter (packet : Packet) (dvdType : DvdType) : UInt32 :=
  let chapter := chapterDigits (packet.get (paramsLoc 0)) (packet.get (paramsLoc 1))
    (packet.get (paramsLoc 2))
  if dvdType = .vcd then chapter / 10 else chapter

def previousChapter (v : VideoState Q) : UInt32 :=
  let chapter := (v.getChapter - 1).toUInt32
  if !v.isPlaying && chapter == 0 then 1 else chapter

def nextChapter (v : VideoState Q) : UInt32 := (v.getChapter + 1).toUInt32

def seekReply (chapter : UInt32) (e : Emulator Q) : Option Packet × Emulator Q :=
  let sought := e.video.seekToChapter chapter
  let status := if sought.1 then Status.ok else Status.error
  (some (createPacket e.victor.jlipId status noResponse), { e with video := sought.2 })

def handleMediaPacket (packet : Packet) (e : Emulator Q) : Option Packet × Emulator Q :=
  if packet.get (commandLoc 1) = 0x41 then (none, e)
  else if packet.get (commandLoc 1) = 0x43 then
    if packet.get (commandLoc 2) = 0x6D then
      (some (createPacket e.victor.jlipId .ok noResponse), { e with video := e.video.pause })
    else if packet.get (commandLoc 2) = 0x75 then
      (some (createPacket e.victor.jlipId .ok noResponse), { e with video := e.video.play })
    else (none, e)
  else if packet.get (commandLoc 1) = 0x44 then
    if packet.get (commandLoc 2) = 0x60 then
      (some (createPacket e.victor.jlipId .ok noResponse), { e with video := e.video.stop })
    else (none, e)
  else if packet.get (commandLoc 1) = 0x4C then (none, e)
  else if packet.get (commandLoc 1) = 0x4E then (none, e)
  else if packet.get (commandLoc 1) = 0x50 then
    if packet.get (commandLoc 2) = 0x20 then seekReply (requestedChapter packet e.victor.dvdType) e
    else if packet.get (commandLoc 2) = 0x61 then seekReply (previousChapter e.video) e
    else if packet.get (commandLoc 2) = 0x73 then seekReply (nextChapter e.video) e
    else (none, e)
  else (none, e)

def handlePowerPacket (packet : Packet) (e : Emulator Q) : Option Packet × Emulator Q :=
  if packet.get (commandLoc 1) = 0x40 then
    if packet.get (commandLoc 2) = 0x60 then
      let status := if e.video.isPowered then Status.ok else Status.error
      (some (createPacket e.victor.jlipId status noResponse),
        { e with video := if status = .ok then e.video.powerOff else e.video })
    else if packet.get (commandLoc 2) = 0x70 then
      let status := if e.video.isPowered then Status.error else Status.ok
      (some (createPacket e.victor.jlipId status noResponse),
        { e with video := if status = .ok then e.video.powerOn else e.video })
    else (none, e)
  else if packet.get (commandLoc 1) = 0x4E then
    if packet.get (commandLoc 2) = 0x20 then
      let response : Vector UInt8 6 := #v[if e.video.isPowered then 0x01 else 0, 0x20, 0, 0, 0, 0]
      (some (createPacket e.victor.jlipId .ok response), e)
    else (none, e)
  else (none, e)

def victorGetJlipId [Scanf] (e : Emulator Q) : Int32 := match e.jlipIdFile with
  | none => 33
  | some content => match Decimal.scanInt content with
    | some (jlipId, _) => Scanf.store jlipId
    | none => 33

def victorSetJlipId (jlipId : Int32) (e : Emulator Q) : Emulator Q :=
  { e with jlipIdFile := some (Decimal.printInt jlipId.toInt) }

def machineCode : Vector UInt8 6 := #v[0x00, 0x01, 0x03, 0x00, 0x03, 0x01]
def maxBaudRate : Vector UInt8 6 := #v[0x20, 0x00, 0x00, 0x00, 0x00, 0x00]
def deviceCode : Vector UInt8 6 := #v[0x03, 0x0C, 0x7F, 0x7F, 0x7F, 0x7F]
def nameFirst : Vector UInt8 6 := #v[0x44, 0x56, 0x44, 0x20, 0x50, 0x4C]
def nameLast : Vector UInt8 6 := #v[0x41, 0x59, 0x45, 0x52, 0x7F, 0x7F]
def nop : Vector UInt8 6 := #v[0x01, 0x00, 0x00, 0x00, 0x00, 0x00]

def handleDevicePacket (packet : Packet) (e : Emulator Q) : Option Packet × Emulator Q :=
  if packet.get (commandLoc 1) = 0x41 then
    let newId := (packet.get (commandLoc 2)).toUInt32
    if newId ≥ 1 && newId ≤ 63 then
      (some (createPacket e.victor.jlipId .ok noResponse),
        victorSetJlipId newId.toInt32 { e with victor := { e.victor with jlipId := newId } })
    else (some (createPacket e.victor.jlipId .error noResponse), e)
  else if packet.get (commandLoc 1) = 0x45 && packet.get (commandLoc 2) = 0x00 then
    (some (createPacket e.victor.jlipId .ok machineCode), e)
  else if packet.get (commandLoc 1) = 0x48 && packet.get (commandLoc 2) = 0x20 then
    (some (createPacket e.victor.jlipId .ok maxBaudRate), e)
  else if packet.get (commandLoc 1) = 0x49 && packet.get (commandLoc 2) = 0x00 then
    (some (createPacket e.victor.jlipId .ok deviceCode), e)
  else if packet.get (commandLoc 1) = 0x4C && packet.get (commandLoc 2) = 0x00 then
    (some (createPacket e.victor.jlipId .ok nameFirst), e)
  else if packet.get (commandLoc 1) = 0x4D && packet.get (commandLoc 2) = 0x00 then
    (some (createPacket e.victor.jlipId .ok nameLast), e)
  else if packet.get (commandLoc 1) = 0x4E && packet.get (commandLoc 2) = 0x20 then
    (some (createPacket e.victor.jlipId .ok nop), e)
  else (none, e)

def dispatch (packet : Packet) (e : Emulator Q) : Option Packet × Emulator Q :=
  if packet.get (commandLoc 0) = 0x0C then handleMediaPacket packet e
  else if packet.get (commandLoc 0) = 0x3E then handlePowerPacket packet e
  else if packet.get (commandLoc 0) = 0x7C then handleDevicePacket packet e
  else (none, e)

def isAddressed (packet : Packet) (jlipId : UInt32) : Bool :=
  isPacketGood packet && (packet.get jlipIdLoc).toUInt32 == jlipId

def handlePacket (packet : Packet) (e : Emulator Q) : Option Packet × Emulator Q :=
  if !isPacketGood packet then (none, e)
  else if (packet.get jlipIdLoc).toUInt32 ≠ e.victor.jlipId then (none, e)
  else match dispatch packet e with
    | (some response, e) => (some response, e)
    | (none, e) => (some (createPacket e.victor.jlipId .unknownCmd noResponse), e)

def victorInit [Scanf] (dvdType : DvdType) (e : Emulator Q) : Emulator Q :=
  { e with victor := ⟨(victorGetJlipId e).toUInt32, dvdType, Vector.replicate 11 0, none⟩ }

def victorReceiveByte (byte : UInt8) (e : Emulator Q) : Bool × Emulator Q :=
  let packet := ShiftRegister.shift e.victor.packet byte
  let handled := handlePacket packet { e with victor := { e.victor with packet := packet } }
  (handled.1.isSome,
    { handled.2 with victor := { handled.2.victor with response := handled.1 } })

def victorGetResponse (e : Emulator Q) : Option Packet := e.victor.response

/-- One turn of the receive loop of main: the result of victorReceiveByte and the reply that is
written. -/
def victorTurn (e : Emulator Q) (byte : UInt8) : (Bool × Option Packet) × Emulator Q :=
  let received := victorReceiveByte byte e
  ((received.1, if received.1 then victorGetResponse received.2 else none), received.2)

def Renames (packet : Packet) : Prop :=
  packet.get (commandLoc 0) = 0x7C ∧ packet.get (commandLoc 1) = 0x41 ∧ 1 ≤ (packet.get (commandLoc 2)).toNat ∧ (packet.get (commandLoc 2)).toNat ≤ 63

instance (packet : Packet) : Decidable (Renames packet) := inferInstanceAs (Decidable (_ ∧ _ ∧ _ ∧ _))

def rename (packet : Packet) (e : Emulator Q) : Emulator Q :=
  victorSetJlipId (packet.get (commandLoc 2)).toUInt32.toInt32
    { e with victor := { e.victor with jlipId := (packet.get (commandLoc 2)).toUInt32 } }

inductive Handled (packet : Packet) (e : Emulator Q) : Packet → Emulator Q → Prop where
  | answered (status : Status) (data : Vector UInt8 6) (low : Low data.toList) :
      Handled packet e (createPacket e.victor.jlipId status data) e
  | called (c : VideoState.Call) :
      Handled packet e (createPacket e.victor.jlipId .ok noResponse)
        { e with video := e.video.call c }
  | renamed (renames : Renames packet) :
      Handled packet e (createPacket e.victor.jlipId .ok noResponse) (rename packet e)

def Result (packet : Packet) (e : Emulator Q) : Option Packet × Emulator Q → Prop
  | (none, e') => e' = e
  | (some reply, e') => Handled packet e reply e'

theorem seekReplyResult (packet : Packet) (chapter : UInt32) (e : Emulator Q) :
    Result packet e (seekReply chapter e) := by
  unfold seekReply
  by_cases reaches : VideoPlayer.Reaches e.video chapter
  · have taken : (e.video.seekToChapter chapter).1 = true := by
      rw [VideoPlayer.seekTaken reaches]
    simp only [taken, if_true]
    exact Handled.called (.seekToChapter chapter)
  · simp only [VideoPlayer.seekRefused reaches]
    exact Handled.answered .error noResponse (by decide)

theorem Result.ite {packet : Packet} {e : Emulator Q} {c : Prop} [Decidable c]
    {x y : Option Packet × Emulator Q} (yes : c → Result packet e x)
    (no : ¬ c → Result packet e y) : Result packet e (if c then x else y) := by
  by_cases h : c
  · simpa only [if_pos h] using yes h
  · simpa only [if_neg h] using no h

theorem mediaResult (packet : Packet) (e : Emulator Q) :
    Result packet e (handleMediaPacket packet e) := by
  unfold handleMediaPacket
  refine .ite (fun _ => rfl) fun _ => .ite (fun _ => ?pausePlay) fun _ => .ite (fun _ => ?stop)
    fun _ => .ite (fun _ => rfl) fun _ => .ite (fun _ => rfl) fun _ => .ite (fun _ => ?seek)
    fun _ => rfl
  case pausePlay =>
    exact .ite (fun _ => .called .pause) fun _ => .ite (fun _ => .called .play) fun _ => rfl
  case stop => exact .ite (fun _ => .called .stop) fun _ => rfl
  case seek =>
    exact .ite (fun _ => seekReplyResult _ _ _) fun _ => .ite (fun _ => seekReplyResult _ _ _)
      fun _ => .ite (fun _ => seekReplyResult _ _ _) fun _ => rfl

theorem powerResult (packet : Packet) (e : Emulator Q) :
    Result packet e (handlePowerPacket packet e) := by
  unfold handlePowerPacket
  cases powered : e.video.isPowered with
  | false =>
    refine .ite (fun _ => ?_) fun _ => .ite (fun _ => ?_) fun _ => rfl
    · exact .ite (fun _ => .answered .error noResponse (by decide)) fun _ =>
        .ite (fun _ => .called .powerOn) fun _ => rfl
    · exact .ite (fun _ => .answered .ok #v[0, 0x20, 0, 0, 0, 0] (by decide)) fun _ => rfl
  | true =>
    refine .ite (fun _ => ?_) fun _ => .ite (fun _ => ?_) fun _ => rfl
    · exact .ite (fun _ => .called .powerOff) fun _ =>
        .ite (fun _ => .answered .error noResponse (by decide)) fun _ => rfl
    · exact .ite (fun _ => .answered .ok #v[1, 0x20, 0, 0, 0, 0] (by decide)) fun _ => rfl

theorem deviceResult {packet : Packet} (device : packet.get (commandLoc 0) = 0x7C) (e : Emulator Q) :
    Result packet e (handleDevicePacket packet e) := by
  unfold handleDevicePacket
  refine .ite (fun change => .ite (fun range => ?_) fun _ => ?_) fun _ => ?_
  · simp only [Bool.and_eq_true, decide_eq_true_eq, ge_iff_le, UInt32.le_iff_toNat_le] at range
    exact .renamed ⟨device, change, by simpa using range⟩
  · exact .answered .error noResponse (by decide)
  · exact .ite (fun _ => .answered .ok machineCode (by decide)) fun _ =>
      .ite (fun _ => .answered .ok maxBaudRate (by decide)) fun _ =>
      .ite (fun _ => .answered .ok deviceCode (by decide)) fun _ =>
      .ite (fun _ => .answered .ok nameFirst (by decide)) fun _ =>
      .ite (fun _ => .answered .ok nameLast (by decide)) fun _ =>
      .ite (fun _ => .answered .ok nop (by decide)) fun _ => rfl

theorem dispatchResult (packet : Packet) (e : Emulator Q) : Result packet e (dispatch packet e) := by
  unfold dispatch
  split
  · exact mediaResult packet e
  split
  · exact powerResult packet e
  split
  · exact deviceResult (by assumption) e
  · rfl

theorem addressedIff (packet : Packet) (jlipId : UInt32) :
    isAddressed packet jlipId = true ↔
      packet.get (preambleLoc 0) = 0xFF ∧ packet.get (preambleLoc 1) = 0xFF ∧
      (packet.get jlipIdLoc).toUInt32 = jlipId ∧ calcChecksum packet = packet.get crcLoc := by
  rw [isAddressed, Bool.and_eq_true, goodIff, beq_iff_eq]
  exact ⟨fun ⟨⟨first, second, sum⟩, same⟩ => ⟨first, second, same, sum⟩,
    fun ⟨first, second, same, sum⟩ => ⟨⟨first, second, sum⟩, same⟩⟩

theorem handleElsewhere {packet : Packet} {e : Emulator Q}
    (h : isAddressed packet e.victor.jlipId = false) : handlePacket packet e = (none, e) := by
  unfold handlePacket
  cases good : isPacketGood packet with
  | false => rfl
  | true =>
    have other : (packet.get jlipIdLoc).toUInt32 ≠ e.victor.jlipId := by simpa [isAddressed, good] using h
    simp [other]

theorem handleAddressed {packet : Packet} {e : Emulator Q}
    (h : isAddressed packet e.victor.jlipId = true) :
    handlePacket packet e = match dispatch packet e with
      | (some response, e) => (some response, e)
      | (none, e) => (some (createPacket e.victor.jlipId .unknownCmd noResponse), e) := by
  obtain ⟨good, same⟩ : isPacketGood packet = true ∧ (packet.get jlipIdLoc).toUInt32 = e.victor.jlipId := by
    simpa [isAddressed] using h
  unfold handlePacket
  simp only [good, same, Bool.not_true, Bool.false_eq_true, if_false, ne_eq, not_true]

theorem handleHere {packet : Packet} {e : Emulator Q}
    (h : isAddressed packet e.victor.jlipId = true) :
    ∃ reply e', handlePacket packet e = (some reply, e') ∧ Handled packet e reply e' := by
  have result := dispatchResult packet e
  rw [handleAddressed h]
  match known : dispatch packet e with
  | (some reply, e') => exact ⟨reply, e', rfl, by rw [known] at result; exact result⟩
  | (none, e') =>
    rw [known] at result
    cases (result : e' = e)
    exact ⟨_, _, rfl, .answered .unknownCmd noResponse (by decide)⟩

theorem dispatchRenames {packet : Packet} (renames : Renames packet) (e : Emulator Q) :
    dispatch packet e =
      (some (createPacket e.victor.jlipId .ok noResponse), rename packet e) := by
  obtain ⟨device, change, low, high⟩ := renames
  have range : (decide ((packet.get (commandLoc 2)).toUInt32 ≥ 1) && decide ((packet.get (commandLoc 2)).toUInt32 ≤ 63)) = true := by
    simp only [Bool.and_eq_true, decide_eq_true_eq, ge_iff_le, UInt32.le_iff_toNat_le]
    exact ⟨by simpa using low, by simpa using high⟩
  rw [dispatch, if_neg (by rw [device]; decide), if_neg (by rw [device]; decide), if_pos device,
    handleDevicePacket, if_pos change]
  exact if_pos range

theorem handleKnown {packet : Packet} {e e' : Emulator Q} {reply : Packet}
    (h : isAddressed packet e.victor.jlipId = true) (known : dispatch packet e = (some reply, e')) :
    handlePacket packet e = (some reply, e') := by
  rw [handleAddressed h, known]

def Asks (packet : Packet) (first second third : UInt8) : Prop :=
  packet.get (commandLoc 0) = first ∧ packet.get (commandLoc 1) = second ∧ packet.get (commandLoc 2) = third

instance (packet : Packet) (first second third : UInt8) :
    Decidable (Asks packet first second third) := inferInstanceAs (Decidable (_ ∧ _ ∧ _))

section Commands
variable {packet : Packet}

theorem pauseKnown (asks : Asks packet 0x0C 0x43 0x6D) (e : Emulator Q) : dispatch packet e =
    (some (createPacket e.victor.jlipId .ok noResponse), { e with video := e.video.pause }) := by
  obtain ⟨first, second, third⟩ := asks
  simp [dispatch, handleMediaPacket, first, second, third]

theorem playKnown (asks : Asks packet 0x0C 0x43 0x75) (e : Emulator Q) : dispatch packet e =
    (some (createPacket e.victor.jlipId .ok noResponse), { e with video := e.video.play }) := by
  obtain ⟨first, second, third⟩ := asks
  simp [dispatch, handleMediaPacket, first, second, third]

theorem stopKnown (asks : Asks packet 0x0C 0x44 0x60) (e : Emulator Q) : dispatch packet e =
    (some (createPacket e.victor.jlipId .ok noResponse), { e with video := e.video.stop }) := by
  obtain ⟨first, second, third⟩ := asks
  simp [dispatch, handleMediaPacket, first, second, third]

theorem seekKnown (asks : Asks packet 0x0C 0x50 0x20) (e : Emulator Q) :
    dispatch packet e = seekReply (requestedChapter packet e.victor.dvdType) e := by
  obtain ⟨first, second, third⟩ := asks
  simp [dispatch, handleMediaPacket, first, second, third]

theorem previousKnown (asks : Asks packet 0x0C 0x50 0x61) (e : Emulator Q) :
    dispatch packet e = seekReply (previousChapter e.video) e := by
  obtain ⟨first, second, third⟩ := asks
  simp [dispatch, handleMediaPacket, first, second, third]

theorem nextKnown (asks : Asks packet 0x0C 0x50 0x73) (e : Emulator Q) :
    dispatch packet e = seekReply (nextChapter e.video) e := by
  obtain ⟨first, second, third⟩ := asks
  simp [dispatch, handleMediaPacket, first, second, third]

theorem powerOffKnown (asks : Asks packet 0x3E 0x40 0x60) (e : Emulator Q) : dispatch packet e =
    if e.video.isPowered then
      (some (createPacket e.victor.jlipId .ok noResponse), { e with video := e.video.powerOff })
    else (some (createPacket e.victor.jlipId .error noResponse), e) := by
  obtain ⟨first, second, third⟩ := asks
  cases powered : e.video.isPowered <;>
    simp [dispatch, handlePowerPacket, first, second, third, powered]

theorem powerOnKnown (asks : Asks packet 0x3E 0x40 0x70) (e : Emulator Q) : dispatch packet e =
    if e.video.isPowered then (some (createPacket e.victor.jlipId .error noResponse), e)
    else
      (some (createPacket e.victor.jlipId .ok noResponse), { e with video := e.video.powerOn }) := by
  obtain ⟨first, second, third⟩ := asks
  cases powered : e.video.isPowered <;>
    simp [dispatch, handlePowerPacket, first, second, third, powered]

def answers : List (UInt8 × UInt8 × Vector UInt8 6) :=
  [(0x45, 0x00, machineCode), (0x48, 0x20, maxBaudRate), (0x49, 0x00, deviceCode),
    (0x4C, 0x00, nameFirst), (0x4D, 0x00, nameLast), (0x4E, 0x20, nop)]

theorem queryKnown {second third : UInt8} {data : Vector UInt8 6}
    (asks : Asks packet 0x7C second third) (listed : (second, third, data) ∈ answers)
    (e : Emulator Q) :
    dispatch packet e = (some (createPacket e.victor.jlipId .ok data), e) := by
  obtain ⟨device, query, third⟩ := asks
  simp only [answers, List.mem_cons, Prod.mk.injEq, List.not_mem_nil, or_false] at listed
  rcases listed with ⟨rfl, rfl, rfl⟩ | ⟨rfl, rfl, rfl⟩ | ⟨rfl, rfl, rfl⟩ | ⟨rfl, rfl, rfl⟩ |
    ⟨rfl, rfl, rfl⟩ | ⟨rfl, rfl, rfl⟩ <;>
    simp [dispatch, handleDevicePacket, device, query, third]

theorem powerStatusKnown (asks : Asks packet 0x3E 0x4E 0x20) (e : Emulator Q) :
    dispatch packet e = (some (createPacket e.victor.jlipId .ok
      #v[if e.video.isPowered then 0x01 else 0, 0x20, 0, 0, 0, 0]), e) := by
  obtain ⟨first, second, third⟩ := asks
  simp [dispatch, handlePowerPacket, first, second, third]

end Commands

def receiving (packet : Packet) (response : Option Packet) (e : Emulator Q) : Emulator Q :=
  { e with victor := { e.victor with packet := packet, response := response } }

omit [CommandQueue Q] in
@[simp] theorem receivingVideo (packet : Packet) (response : Option Packet) (e : Emulator Q) :
    (receiving packet response e).video = e.video := rfl

omit [CommandQueue Q] in
theorem receivingDevice (packet : Packet) (response : Option Packet) (e : Emulator Q) :
    (receiving packet response e).victor.jlipId = e.victor.jlipId ∧
    (receiving packet response e).victor.dvdType = e.victor.dvdType ∧
    (receiving packet response e).toshiba = e.toshiba ∧
    (receiving packet response e).jlipIdFile = e.jlipIdFile := ⟨rfl, rfl, rfl, rfl⟩

omit [CommandQueue Q] in
@[simp] theorem renameVideo (packet : Packet) (e : Emulator Q) :
    (rename packet e).video = e.video := by
  rw [rename, victorSetJlipId]

def Framed (handle : Emulator Q → Option Packet × Emulator Q) : Prop :=
  ∀ packet response e, handle (receiving packet response e) =
    ((handle e).1, receiving packet response (handle e).2)

omit [CommandQueue Q] in
theorem Framed.ite {c : Prop} [Decidable c] {f g : Emulator Q → Option Packet × Emulator Q}
    (yes : Framed f) (no : Framed g) : Framed fun e => if c then f e else g e := by
  by_cases h : c
  · simpa only [if_pos h] using yes
  · simpa only [if_neg h] using no

omit [CommandQueue Q] in
theorem Framed.none : Framed fun e : Emulator Q => (none, e) := fun _ _ _ => rfl

theorem Framed.seek (chapter : DvdType → VideoState Q → UInt32) :
    Framed fun e => seekReply (chapter e.victor.dvdType e.video) e := fun _ _ _ => rfl

theorem mediaFramed (packet : Packet) : Framed (Q := Q) (handleMediaPacket packet) := by
  unfold handleMediaPacket
  refine .ite .none (.ite ?pausePlay (.ite ?stop (.ite .none (.ite .none (.ite ?seek .none)))))
  case pausePlay => exact .ite (fun _ _ _ => rfl) (.ite (fun _ _ _ => rfl) .none)
  case stop => exact .ite (fun _ _ _ => rfl) .none
  case seek =>
    exact .ite (.seek fun dvdType _ => requestedChapter packet dvdType)
      (.ite (.seek fun _ video => previousChapter video)
        (.ite (.seek fun _ video => nextChapter video) .none))

theorem powerFramed (packet : Packet) : Framed (Q := Q) (handlePowerPacket packet) := by
  unfold handlePowerPacket
  exact .ite (.ite (fun _ _ _ => rfl) (.ite (fun _ _ _ => rfl) .none))
    (.ite (.ite (fun _ _ _ => rfl) .none) .none)

omit [CommandQueue Q] in
theorem deviceFramed (packet : Packet) : Framed (Q := Q) (handleDevicePacket packet) := by
  unfold handleDevicePacket
  exact .ite (.ite (fun _ _ _ => rfl) (fun _ _ _ => rfl))
    (.ite (fun _ _ _ => rfl) (.ite (fun _ _ _ => rfl) (.ite (fun _ _ _ => rfl)
      (.ite (fun _ _ _ => rfl) (.ite (fun _ _ _ => rfl) (.ite (fun _ _ _ => rfl) .none))))))

theorem handleFramed (packet : Packet) : Framed (Q := Q) (handlePacket packet) := by
  have dispatched : Framed (Q := Q) (dispatch packet) :=
    .ite (mediaFramed packet) (.ite (powerFramed packet) (.ite (deviceFramed packet) .none))
  intro window response e
  cases h : isAddressed packet e.victor.jlipId with
  | false =>
    rw [handleElsewhere h, handleElsewhere (e := receiving window response e) h]
  | true =>
    -- the commands that no handler knows are answered outside of dispatch
    rw [handleAddressed h, handleAddressed (e := receiving window response e) h,
      dispatched window response e]
    obtain ⟨_ | reply, e'⟩ := dispatch packet e <;> rfl

end SerialDvdEmu.VictorHandlers
