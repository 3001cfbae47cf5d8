import Mathlib.Data.Nat.Basic

/-! JLIP packets of the Victor XV-D701: eleven bytes, requests FF FF id command(3) params(4) sum,
replies FC FF id status data(6) sum. -/
namespace SerialDvdEmu.VictorPacket

abbrev Packet := Vector UInt8 11

def preambleLoc (offset : Nat) : Fin 11 := .ofNat 11 (0 + offset)
def jlipIdLoc : Fin 11 := 2
def commandLoc (offset : Nat) : Fin 11 := .ofNat 11 (3 + offset)
def paramsLoc (offset : Nat) : Fin 11 := .ofNat 11 (6 + offset)
def statusLoc : Fin 11 := 3
def dataLoc (offset : Nat) : Fin 11 := .ofNat 11 (4 + offset)
def crcLoc : Fin 11 := 10

def Low (bytes : List UInt8) : Prop := ∀ byte ∈ bytes, byte < 0x80

instance (bytes : List UInt8) : Decidable (Low bytes) :=
  List.decidableBAll (fun byte => byte < 0x80) bytes

inductive Status where
  | unknownCmd
  | ok
  | error
  deriving DecidableEq, Repr

def Status.code : Status → UInt8
  | .unknownCmd => 0x01
  | .ok => 0x03
  | .error => 0x05

def noResponse : Vector UInt8 6 := #v[0, 0, 0, 0, 0, 0]

/-- The eight-bit sum wraps below zero; only its low seven bits are sent. -/
def calcChecksum (packet : Packet) : UInt8 :=
  (packet.toList.take 10).foldl (fun sum byte => sum - (byte &&& 0x7F)) 0x80 &&& 0x7F

def putChecksum (data : Packet) : Packet := data.set crcLoc (calcChecksum data)

def createPacket (id : UInt32) (status : Status) (response : Vector UInt8 6) : Packet :=
  putChecksum #v[0xFC, 0xFF, id.toUInt8, status.code, response[0], response[1],
    response[2], response[3], response[4], response[5], 0]

def isPacketGood (packet : Packet) : Bool :=
  if packet.get (preambleLoc 0) ≠ 0xFF || packet.get (preambleLoc 1) ≠ 0xFF then false
  else if calcChecksum packet ≠ packet.get crcLoc then false
  else true

theorem goodIff (packet : Packet) : isPacketGood packet = true ↔
    packet.get (preambleLoc 0) = 0xFF ∧ packet.get (preambleLoc 1) = 0xFF ∧
    calcChecksum packet = packet.get crcLoc := by
  unfold isPacketGood
  constructor
  · intro good
    split at good
    · contradiction
    · split at good
      · contradiction
      · simp_all
  · rintro ⟨first, second, sum⟩
    simp only [first, second, sum, ne_eq, not_true, decide_false, Bool.or_self,
      Bool.false_eq_true, if_false]

theorem checksumLow (packet : Packet) : calcChecksum packet < 0x80 := by
  unfold calcChecksum
  generalize (packet.toList.take 10).foldl _ _ = sum
  rw [UInt8.lt_iff_toNat_lt, UInt8.toNat_and]
  exact Nat.lt_of_le_of_lt Nat.and_le_right (by decide)

theorem checksumPut (data : Packet) :
    calcChecksum (putChecksum data) = (putChecksum data).get crcLoc := by
  have put : (putChecksum data).get crcLoc = calcChecksum data :=
    Vector.getElem_set_self (Fin.isLt crcLoc)
  -- the byte written is the one after those that are summed
  have kept : (data.toList.set crcLoc (calcChecksum data)).take 10 = data.toList.take 10 :=
    List.take_set_of_le (Nat.le_refl 10)
  rw [put, calcChecksum, putChecksum, Vector.toList_set, kept, calcChecksum]

theorem goodLast {packet : Packet} (good : isPacketGood packet = true) :
    packet.get crcLoc < 0x80 := by
  rw [← ((goodIff packet).mp good).2.2]
  exact checksumLow packet

end SerialDvdEmu.VictorPacket
