import SerialDvdEmu.JlipClient

/-! The two packet codecs against each other. Emulator and client each build one kind of packet
and take the other apart; what either puts in is what the other reads. -/
namespace SerialDvdEmu.JlipReplies
open EventRun
open VictorPacket (Packet Status Low preambleLoc jlipIdLoc commandLoc paramsLoc crcLoc)
open VictorHandlers VictorRequests VictorFraming
open VideoPlayer (CommandQueue)
open JlipClient (getPacketStatus payload)

structure Understood (packet reply : Packet) : Prop where
  length : reply.toList.length = 11
  preamble : reply.get (preambleLoc 0) = 0xFC ∧ reply.get (preambleLoc 1) = 0xFF
  low : Low (reply.toList.drop 2)
  id : reply.get jlipIdLoc = packet.get jlipIdLoc
  known : getPacketStatus reply ∈ [0x01, 0x03, 0x05]
  built : ∃ id status data, reply = VictorPacket.createPacket id status data
  meant : ∀ id status data, reply = VictorPacket.createPacket id status data →
    getPacketStatus reply = status.code.toNat ∧ payload reply = data

def presented (packet : Packet) : Vector UInt8 4 :=
  #v[packet.get (paramsLoc 0), packet.get (paramsLoc 1), packet.get (paramsLoc 2),
    packet.get (paramsLoc 3)]

theorem statusLow (status : Status) : status.code < 0x80 := by cases status <;> decide

theorem statusKnown (status : Status) : (status.code.toNat : Int) ∈ [0x01, 0x03, 0x05] := by
  cases status <;> decide

theorem idByte {id : UInt32} (small : id.toNat ≤ 63) : id.toUInt8.toNat = id.toNat := by
  simp
  omega

theorem replyLow {id : UInt32} (small : id.toNat ≤ 63) (status : Status) {data : Vector UInt8 6}
    (low : Low data.toList) : Low ((VictorPacket.createPacket id status data).toList.drop 2) := by
  have list : (VictorPacket.createPacket id status data).toList.drop 2 =
      [id.toUInt8, status.code, data[0], data[1], data[2], data[3], data[4], data[5],
        (VictorPacket.createPacket id status data).get crcLoc] := rfl
  have parts : ∀ byte ∈ (VictorPacket.createPacket id status data).toList.drop 2,
      byte = id.toUInt8 ∨ byte = status.code ∨ byte ∈ data.toList ∨
        byte = (VictorPacket.createPacket id status data).get crcLoc := by
    intro byte mem
    rw [list] at mem
    simp only [List.mem_cons, List.not_mem_nil, or_false] at mem
    rcases mem with rfl | rfl | rfl | rfl | rfl | rfl | rfl | rfl | rfl <;> simp
  intro byte mem
  rcases parts byte mem with rfl | rfl | inside | rfl
  · rw [UInt8.lt_iff_toNat_lt, idByte small]
    exact Nat.lt_of_le_of_lt small (by decide)
  · exact statusLow status
  · exact low byte inside
  · have sum : VictorPacket.calcChecksum (VictorPacket.createPacket id status data) =
        (VictorPacket.createPacket id status data).get crcLoc := VictorPacket.checksumPut _
    rw [← sum]
    exact VictorPacket.checksumLow _

theorem builtUnderstood {packet : Packet} {id : UInt32} (small : id.toNat ≤ 63)
    (asked : (packet.get jlipIdLoc).toUInt32 = id) (status : Status) {data : Vector UInt8 6}
    (low : Low data.toList) : Understood packet (VictorPacket.createPacket id status data) where
  length := by simp
  preamble := ⟨rfl, rfl⟩
  low := replyLow small status low
  id := by
    have same : (VictorPacket.createPacket id status data).get jlipIdLoc = id.toUInt8 := rfl
    rw [same, ← UInt8.toNat_inj, idByte small, ← asked]
    exact UInt8.toNat_toUInt32 _
  known := by
    rw [JlipClient.replyStatus]
    exact statusKnown status
  built := ⟨id, status, data, rfl⟩
  meant := by
    rintro id' status' data' same
    rw [same, JlipClient.replyStatus, JlipClient.replyPayload]
    exact ⟨rfl, rfl⟩

theorem highByte (command : UInt32) :
    (command >>> 16 &&& 0xFF).toUInt8.toNat = command.toNat / 65536 % 256 := by
  rw [JlipClient.lowByte, UInt32.toNat_toUInt8, UInt32.toNat_shiftRight]
  simp [Nat.shiftRight_eq_div_pow]

theorem middleByte (command : UInt32) :
    (command >>> 8 &&& 0xFF).toUInt8.toNat = command.toNat / 256 % 256 := by
  rw [JlipClient.lowByte, UInt32.toNat_toUInt8, UInt32.toNat_shiftRight]
  simp [Nat.shiftRight_eq_div_pow]

structure Received (id command : UInt32) (params : Vector UInt8 4) (packet : Packet) : Prop where
  good : VictorPacket.isPacketGood packet = true
  id : (packet.get jlipIdLoc).toUInt32 = id
  command : (packet.get (commandLoc 0)).toNat * 65536 + (packet.get (commandLoc 1)).toNat * 256 +
    (packet.get (commandLoc 2)).toNat = command.toNat
  params : presented packet = params

theorem commandRead (id : UInt32) {command : UInt32} (short : command.toNat < 16777216)
    (params : Vector UInt8 4) :
    ((JlipClient.createPacket id command params).get (commandLoc 0)).toNat * 65536 +
      ((JlipClient.createPacket id command params).get (commandLoc 1)).toNat * 256 +
      ((JlipClient.createPacket id command params).get (commandLoc 2)).toNat = command.toNat := by
  obtain ⟨_, first, second, third⟩ := JlipClient.packetBytes id command params
  rw [first, second, third, highByte, middleByte, JlipClient.lowByte, UInt32.toNat_toUInt8]
  omega

theorem paramsRead (id command : UInt32) (params : Vector UInt8 4) :
    presented (JlipClient.createPacket id command params) = params := by
  ext i inside
  obtain rfl | rfl | rfl | rfl : i = 0 ∨ i = 1 ∨ i = 2 ∨ i = 3 := by omega
  all_goals rfl

theorem requestReceived {id command : UInt32} (small : id.toNat ≤ 63)
    (short : command.toNat < 16777216) (params : Vector UInt8 4) :
    Received id command params (JlipClient.createPacket id command params) := by
  have addressed := JlipClient.packetAddressed small command params
  obtain ⟨top, next, same, sum⟩ := (addressedIff _ _).mp addressed
  exact ⟨(VictorPacket.goodIff _).mpr ⟨top, next, sum⟩, same, commandRead id short params,
    paramsRead id command params⟩

section Streams
variable {Q : Type} [CommandQueue Q]

theorem turnAt {e : Emulator Q} {stream : List UInt8} {n : Nat} {result : Bool × Option Packet}
    (here : (outputs victorTurn e stream)[n]? = some result) :
    result.2 = (handlePacket (packetAt e stream n) (after victorTurn e (stream.take n))).1 := by
  rw [outputAt] at here
  obtain ⟨byte, taken, rfl⟩ := Option.map_eq_some_iff.mp here
  rw [turnEq, windowAt taken]

theorem handledBuilt {packet reply : Packet} {e e' : Emulator Q}
    (handled : Handled packet e reply e') :
    ∃ status data, Low data.toList ∧
      reply = VictorPacket.createPacket e.victor.jlipId status data := by
  cases handled with
  | answered status data low => exact ⟨status, data, low, rfl⟩
  | called c => exact ⟨.ok, VictorPacket.noResponse, by decide, rfl⟩
  | renamed renames => exact ⟨.ok, VictorPacket.noResponse, by decide, rfl⟩

theorem replyUnderstood {e : Emulator Q} (addressable : Addressable e) {packet reply : Packet}
    (replied : (handlePacket packet e).1 = some reply) : Understood packet reply := by
  cases here : isAddressed packet e.victor.jlipId with
  | false =>
    rw [handleElsewhere here] at replied
    contradiction
  | true =>
    obtain ⟨answer, e', handled, effect⟩ := handleHere here
    rw [handled] at replied
    cases Option.some.inj replied
    obtain ⟨status, data, low, rfl⟩ := handledBuilt effect
    obtain ⟨_, _, asked, _⟩ := (addressedIff _ _).mp here
    exact builtUnderstood addressable.2 asked status low

theorem codecsAgree [Scanf] (e : Emulator Q) (dvdType : DvdType)
    (addressable : Addressable (victorInit dvdType e)) (stream : List UInt8) :
    let start := victorInit dvdType e
    (∀ n result reply, (outputs victorTurn start stream)[n]? = some (result, some reply) →
      Understood (packetAt start stream n) reply) ∧
    ∀ id command : UInt32, ∀ params : Vector UInt8 4, 1 ≤ id.toNat → id.toNat ≤ 63 →
      command.toNat < 16777216 →
      Received id command params (JlipClient.createPacket id command params) := by
  intro start
  constructor
  · intro n result reply here
    exact replyUnderstood (afterAddressable addressable (stream.take n)) (turnAt here).symm
  · intro id command params _ small short
    exact requestReceived small short params

end Streams

theorem codecsAgreeRenamed :
    haveI : Scanf := ⟨Int32.ofInt⟩
    let start := victorInit .dvd (Emulator.start VideoQueue.ByteQueue.init 3 none)
    Understood (packetAt start renameToFive 10)
      #v[0xFC, 0xFF, 0x21, 0x03, 0, 0, 0, 0, 0, 0, 0x61] ∧
    Received 5 0x0C4375 JlipClient.noParams
      (JlipClient.createPacket 5 0x0C4375 JlipClient.noParams) := by
  intro start
  have agree := @codecsAgree VideoQueue.ByteQueue _ ⟨Int32.ofInt⟩ (.start .init 3 none) .dvd
    (by decide +kernel) renameToFive
  exact ⟨agree.1 10 true #v[0xFC, 0xFF, 0x21, 0x03, 0, 0, 0, 0, 0, 0, 0x61] (by decide +kernel),
    agree.2 5 0x0C4375 JlipClient.noParams (by decide) (by decide) (by decide)⟩

end SerialDvdEmu.JlipReplies
