import SerialDvdEmu.VictorFraming

/-! The client of JLIPTest against the emulator: each call writes one request whole and reads
what comes back into a fresh packet. -/
namespace SerialDvdEmu.JlipClient
open EventRun
open VictorPacket (Packet Status preambleLoc jlipIdLoc commandLoc statusLoc dataLoc crcLoc
  putChecksum)
open VictorHandlers VictorRequests VictorFraming
open VideoPlayer (CommandQueue)

def calcChecksum (packet : Packet) : UInt8 := VictorPacket.calcChecksum packet

def noParams : Vector UInt8 4 := #v[0, 0, 0, 0]

def createPacket (id command : UInt32) (params : Vector UInt8 4) : Packet :=
  putChecksum #v[0xFF, 0xFF, (id &&& 0xFF).toUInt8, (command >>> 16 &&& 0xFF).toUInt8,
    (command >>> 8 &&& 0xFF).toUInt8, (command &&& 0xFF).toUInt8, params[0], params[1], params[2],
    params[3], 0]

def statusBadPacket : Int := -1
def statusBadCrc : Int := -2
def statusUnknownCmd : Int := 0x01
def statusOk : Int := 0x03
def statusError : Int := 0x05

def getPacketStatus (packet : Packet) : Int :=
  if packet.get (preambleLoc 0) ≠ 0xFC || packet.get (preambleLoc 1) ≠ 0xFF then statusBadPacket
  else if calcChecksum packet ≠ packet.get crcLoc then statusBadCrc
  else (packet.get statusLoc).toNat

def payload (packet : Packet) : Vector UInt8 6 :=
  #v[packet.get (dataLoc 0), packet.get (dataLoc 1), packet.get (dataLoc 2),
    packet.get (dataLoc 3), packet.get (dataLoc 4), packet.get (dataLoc 5)]

inductive DeviceStatus where
  | unknown
  | off
  | on
  deriving DecidableEq, Repr

inductive DriveStatus where
  | idle
  | ejected
  | inserting
  | reading
  | playing
  | paused
  | off
  | unknownStatus
  deriving DecidableEq, Repr

inductive DiskType where
  | none
  | videoCd
  | audioCd
  | videoDvd
  | unrecognizedCd
  | unrecognizedDvd
  | unknownStatus
  deriving DecidableEq, Repr

structure DiskStatus where
  driveStatus : DriveStatus
  diskType : DiskType
  deriving DecidableEq, Repr

/-- WriteSerial, WAIT and ReadSerial. `empty` is what CreateEmptyPacket happens to hold, and what
the call goes on with if no reply comes. -/
def transact {Q : Type} [CommandQueue Q] (empty request : Packet) (e : Emulator Q) :
    Packet × Emulator Q :=
  let replies := (outputs victorTurn e request.toList).filterMap Prod.snd
  (replies.head?.getD empty, after victorTurn e request.toList)

section Calls
variable {σ : Type} (exchange : Packet → σ → Packet × σ)

def ask {α : Type} (command : UInt32) (params : Vector UInt8 4) (read : Packet → α) (id : UInt32)
    (s : σ) : α × σ :=
  let response := exchange (createPacket id command params) s
  (read response.1, response.2)

def statusCall (command : UInt32) (params : Vector UInt8 4) (id : UInt32) (s : σ) : Int × σ :=
  ask exchange command params getPacketStatus id s

def dataCall (command : UInt32) (id : UInt32) (s : σ) : Option (Vector UInt8 6) × σ :=
  ask exchange command noParams (fun response =>
    if getPacketStatus response = statusOk then some (payload response) else none) id s

def noOp (id : UInt32) (s : σ) := statusCall exchange 0x7C4E20 noParams id s
def machineCode (id : UInt32) (s : σ) := dataCall exchange 0x7C4500 id s
def deviceCode (id : UInt32) (s : σ) := dataCall exchange 0x7C4900 id s

def maxBaudRate (id : UInt32) (s : σ) : Nat × σ :=
  ask exchange 0x7C4820 noParams (fun response =>
    if getPacketStatus response = statusOk then match response.get (dataLoc 0) with
      | 0x20 => 9600
      | 0x21 => 19200
      | 0x22 => 38400
      | 0x23 => 115200
      | _ => 0
    else 0) id s

def deviceName (id : UInt32) (s : σ) : Option (List UInt8) × σ :=
  let first := exchange (createPacket id 0x7C4C00 noParams) s
  let second := exchange (createPacket id 0x7C4D00 noParams) first.2
  (if getPacketStatus first.1 = statusOk ∧ getPacketStatus second.1 = statusOk then
      some (((payload first.1).toList ++ (payload second.1).toList).filter
        fun byte => byte ≠ 0x7F && byte ≠ 0)
    else none, second.2)

def tens (packet : Packet) (i j : Fin 6) : Nat :=
  ((payload packet).get i).toNat * 10 + ((payload packet).get j).toNat

def diskLengthTime (id : UInt32) (s : σ) : Option (Nat × Nat × Nat) × σ :=
  ask exchange 0x0C4C22 noParams (fun response =>
    if getPacketStatus response = statusOk then
      some (tens response 0 1, tens response 2 3, tens response 4 5)
    else none) id s

def diskLengthChapters (id : UInt32) (s : σ) : Nat × σ :=
  ask exchange 0x0C4C23 noParams (fun response =>
    if getPacketStatus response = statusOk then tens response 2 3 else 0) id s

def driveStatus : UInt8 → DriveStatus
  | 0x01 => .ejected
  | 0x02 => .inserting
  | 0x10 => .reading
  | 0x20 => .idle
  | 0x40 => .playing
  | 0x50 => .paused
  | 0x6F => .off
  | _ => .unknownStatus

def diskType (high low : UInt8) : DiskType := match high.toNat * 256 + low.toNat with
  | 0x4040 => .none
  | 0x4144 => .videoCd
  | 0x4440 => .audioCd
  | 0x4A40 => .videoDvd
  | 0x4840 => .unrecognizedDvd
  | 0x414E | 0x4140 => .unrecognizedCd
  | _ => .unknownStatus

def diskStatus (id : UInt32) (s : σ) : DiskStatus × σ :=
  ask exchange 0x0C4E20 noParams (fun response =>
    if getPacketStatus response = statusOk then
      ⟨driveStatus (response.get (dataLoc 0)),
        diskType (response.get (dataLoc 2)) (response.get (dataLoc 3))⟩
    else ⟨.unknownStatus, .unknownStatus⟩) id s

def setId (id newid : UInt32) (s : σ) :=
  statusCall exchange (0x7C4100 ||| (newid &&& 0x3F)) noParams id s

def turnOn (id : UInt32) (s : σ) := statusCall exchange 0x3E4070 noParams id s
def turnOff (id : UInt32) (s : σ) := statusCall exchange 0x3E4060 noParams id s

def powerStatus (id : UInt32) (s : σ) : DeviceStatus × σ :=
  ask exchange 0x3E4E20 noParams (fun response =>
    if getPacketStatus response ≠ statusOk then .unknown
    else match response.get (dataLoc 0) with
      | 0x00 => .off
      | 0x01 => .on
      | _ => .unknown) id s

def play (id : UInt32) (s : σ) := statusCall exchange 0x0C4375 noParams id s
def pause (id : UInt32) (s : σ) := statusCall exchange 0x0C436D noParams id s
def stop (id : UInt32) (s : σ) := statusCall exchange 0x0C4460 noParams id s
def nextChapter (id : UInt32) (s : σ) := statusCall exchange 0x0C5073 noParams id s
def prevChapter (id : UInt32) (s : σ) := statusCall exchange 0x0C5061 noParams id s

def seekToChapter (id chapter : UInt32) (s : σ) :=
  statusCall exchange 0x0C5020 #v[0x00, (chapter / 10 % 10).toUInt8, (chapter % 10).toUInt8, 0x00]
    id s

def eject (id : UInt32) (s : σ) := statusCall exchange 0x0C4161 noParams id s
def insert (id : UInt32) (s : σ) := statusCall exchange 0x0C4171 noParams id s

theorem statusAsks (command : UInt32) (params : Vector UInt8 4) (id : UInt32) (s : σ) :
    statusCall exchange command params id s =
      (getPacketStatus (exchange (createPacket id command params) s).1,
        (exchange (createPacket id command params) s).2) := rfl

end Calls

theorem packetBytes (id command : UInt32) (params : Vector UInt8 4) :
    (createPacket id command params).get jlipIdLoc = (id &&& 0xFF).toUInt8 ∧
    (createPacket id command params).get (commandLoc 0) = (command >>> 16 &&& 0xFF).toUInt8 ∧
    (createPacket id command params).get (commandLoc 1) = (command >>> 8 &&& 0xFF).toUInt8 ∧
    (createPacket id command params).get (commandLoc 2) = (command &&& 0xFF).toUInt8 :=
  ⟨rfl, rfl, rfl, rfl⟩

theorem packetAsks (id command : UInt32) (params : Vector UInt8 4) :
    Asks (createPacket id command params) (command >>> 16 &&& 0xFF).toUInt8
      (command >>> 8 &&& 0xFF).toUInt8 (command &&& 0xFF).toUInt8 :=
  (packetBytes id command params).2

theorem lowByte (n : UInt32) : (n &&& 0xFF).toUInt8 = n.toUInt8 := by
  rw [← UInt8.toNat_inj, UInt32.toNat_toUInt8, UInt32.toNat_toUInt8, UInt32.toNat_and]
  rw [show (0xFF : UInt32).toNat = 2 ^ 8 - 1 from rfl, Nat.and_two_pow_sub_one_eq_mod]
  exact Nat.mod_mod _ _

theorem packetAddressed {id : UInt32} (low : id.toNat ≤ 63) (command : UInt32)
    (params : Vector UInt8 4) : isAddressed (createPacket id command params) id = true := by
  rw [addressedIff]
  refine ⟨rfl, rfl, ?_, ?_⟩
  · rw [(packetBytes id command params).1, lowByte, ← UInt32.toNat_inj]
    simp
    omega
  · exact VictorPacket.checksumPut _

def LowBytes (command : UInt32) (params : Vector UInt8 4) : Prop :=
  VictorPacket.Low [(command >>> 16 &&& 0xFF).toUInt8, (command >>> 8 &&& 0xFF).toUInt8,
    (command &&& 0xFF).toUInt8, params[0], params[1], params[2], params[3]]

instance (command : UInt32) (params : Vector UInt8 4) : Decidable (LowBytes command params) :=
  inferInstanceAs (Decidable (VictorPacket.Low _))

theorem packetClean {id command : UInt32} {params : Vector UInt8 4} (small : id.toNat ≤ 63)
    (low : LowBytes command params) : Clean (createPacket id command params) := by
  have whole : (createPacket id command params).toList =
      0xFF :: 0xFF :: (createPacket id command params).toList.drop 2 := rfl
  refine cleanTail whole fun byte mem => ?_
  have list : (createPacket id command params).toList.drop 2 = (id &&& 0xFF).toUInt8 ::
      ([(command >>> 16 &&& 0xFF).toUInt8, (command >>> 8 &&& 0xFF).toUInt8,
        (command &&& 0xFF).toUInt8, params[0], params[1], params[2], params[3]] ++
        [(createPacket id command params).get crcLoc]) := rfl
  rw [list, List.mem_cons, List.mem_append, List.mem_singleton] at mem
  rcases mem with rfl | chosen | rfl
  · rw [lowByte, UInt8.lt_iff_toNat_lt]
    simp
    omega
  · exact low byte chosen
  · obtain ⟨_, _, _, sum⟩ := (addressedIff _ _).mp (packetAddressed small command params)
    rw [← sum]
    exact VictorPacket.checksumLow _

theorem elsewhere {id : UInt32} (small : id.toNat ≤ 63) {jlipId : UInt32} (other : id ≠ jlipId)
    (command : UInt32) (params : Vector UInt8 4) :
    isAddressed (createPacket id command params) jlipId = false := by
  rw [Bool.eq_false_iff]
  intro addressed
  obtain ⟨_, _, same, _⟩ := (addressedIff _ _).mp addressed
  obtain ⟨_, _, own, _⟩ := (addressedIff _ _).mp (packetAddressed small command params)
  exact other (own.symm.trans same)

theorem replyStatus (id : UInt32) (status : Status) (data : Vector UInt8 6) :
    getPacketStatus (VictorPacket.createPacket id status data) = status.code.toNat := by
  have preamble : (VictorPacket.createPacket id status data).get (preambleLoc 0) = 0xFC ∧
      (VictorPacket.createPacket id status data).get (preambleLoc 1) = 0xFF := ⟨rfl, rfl⟩
  have sum : calcChecksum (VictorPacket.createPacket id status data) =
      (VictorPacket.createPacket id status data).get crcLoc := VictorPacket.checksumPut _
  simp only [getPacketStatus, preamble, sum, ne_eq, not_true, decide_false, Bool.or_self,
    Bool.false_eq_true, if_false]
  rfl

theorem replyPayload (id : UInt32) (status : Status) (data : Vector UInt8 6) :
    payload (VictorPacket.createPacket id status data) = data := by
  ext i inside
  obtain rfl | rfl | rfl | rfl | rfl | rfl :
    i = 0 ∨ i = 1 ∨ i = 2 ∨ i = 3 ∨ i = 4 ∨ i = 5 := by omega
  all_goals rfl

section Transact
variable {Q : Type} [CommandQueue Q] (empty : Packet) {e : Emulator Q} {request : Packet}

theorem transactWindow (request : Packet) (e : Emulator Q) :
    (transact empty request e).2.victor.packet = request := by
  rw [transact, afterWindow]
  exact Vector.toList_inj.mp
    (ShiftRegister.feedFull e.victor.packet request.toList (by simp) (by decide))

theorem transactAnswered {e' : Emulator Q} {reply : Packet} (alone : Uninterrupted e request)
    (handled : handlePacket request e = (some reply, e')) :
    (transact empty request e).1 = reply ∧ SameDevice e' (transact empty request e).2 := by
  obtain ⟨results, state⟩ := elevenBytes alone
  rw [handled] at results state
  refine ⟨?_, state⟩
  rw [transact, results]
  rfl

theorem transactElsewhere (alone : Uninterrupted e request)
    (elsewhere : isAddressed request e.victor.jlipId = false) :
    (transact empty request e).1 = empty ∧ SameDevice e (transact empty request e).2 := by
  obtain ⟨results, state⟩ := elevenBytes alone
  rw [handleElsewhere elsewhere] at results state
  refine ⟨?_, state⟩
  rw [transact, results]
  rfl

end Transact
end SerialDvdEmu.JlipClient
