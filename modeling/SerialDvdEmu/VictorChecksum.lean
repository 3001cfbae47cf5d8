import Mathlib.Algebra.BigOperators.Ring.Finset
import Mathlib.Data.ZMod.Basic
import SerialDvdEmu.Base.RunningTotal
import SerialDvdEmu.VictorPacket

/-! The packet checksum as a residue modulo 128: minus the sum of the first ten bytes, each
without its top bit. -/
namespace SerialDvdEmu.VictorChecksum
open RunningTotal
open VictorPacket

def residue (byte : UInt8) : ZMod 128 := byte.toNat

theorem residueIff (a b : UInt8) : residue a = residue b ↔ a.toNat % 128 = b.toNat % 128 :=
  ZMod.natCast_eq_natCast_iff' a.toNat b.toNat 128

theorem maskedValue (byte : UInt8) : (byte &&& 0x7F).toNat = byte.toNat % 128 :=
  (UInt8.toNat_and byte 0x7F).trans (Nat.and_two_pow_sub_one_eq_mod byte.toNat 7)

theorem residueMasked (byte : UInt8) : residue (byte &&& 0x7F) = residue byte := by
  rw [residueIff, maskedValue, Nat.mod_mod]

theorem residueLoses (sum byte : UInt8) :
    residue (sum - (byte &&& 0x7F)) = residue sum - residue byte := by
  have range := byte.toNat_lt
  have back : residue (sum - (byte &&& 0x7F)) + residue byte = residue sum := by
    rw [residue, residue, residue, ← Nat.cast_add, ZMod.natCast_eq_natCast_iff',
      UInt8.toNat_sub, maskedValue]
    omega
  exact eq_sub_of_add_eq back

theorem residueLow {a b : UInt8} (first : a < 0x80) (second : b < 0x80) :
    a = b ↔ residue a = residue b := by
  rw [UInt8.lt_iff_toNat_lt] at first second
  change a.toNat < 128 at first
  change b.toNat < 128 at second
  rw [residueIff, Nat.mod_eq_of_lt first, Nat.mod_eq_of_lt second, UInt8.toNat_inj]

theorem checksumResidue (packet : Packet) :
    residue (calcChecksum packet) = -total residue (packet.toList.take 10) := by
  -- the start value is 0 modulo 128
  have start : residue 0x80 = 0 := rfl
  rw [calcChecksum, residueMasked, foldTotal residue residueLoses, start, zero_sub]

def altered (packet : Packet) (k : Fin 11) (byte : UInt8) : Packet := packet.set k byte

theorem alteredGet (packet : Packet) (k j : Fin 11) (byte : UInt8) :
    (altered packet k byte).get j = if k = j then byte else packet.get j := by
  have indexed : (altered packet k byte).get j = if k.val = j.val then byte else packet.get j :=
    Vector.getElem_set ..
  simpa only [Fin.ext_iff] using indexed

theorem alteredSame (packet : Packet) (k : Fin 11) (byte : UInt8) :
    (altered packet k byte).get k = byte := by
  rw [alteredGet, if_pos rfl]

theorem alteredOther (packet : Packet) {k j : Fin 11} (other : k.val ≠ j.val) (byte : UInt8) :
    (altered packet k byte).get j = packet.get j := by
  rw [alteredGet, if_neg fun same => other (congrArg Fin.val same)]

theorem alteredMoved {packet : Packet} {k j : Fin 11} {byte : UInt8}
    (differs : byte ≠ packet.get k) (kept : (altered packet k byte).get j = packet.get j) :
    k.val ≠ j.val := by
  intro here
  obtain rfl : k = j := Fin.ext here
  rw [alteredSame] at kept
  exact differs kept

theorem alteredLast (packet : Packet) (byte : UInt8) :
    calcChecksum (altered packet crcLoc byte) = calcChecksum packet := by
  have kept : (altered packet crcLoc byte).toList.take 10 = packet.toList.take 10 := by
    rw [altered, Vector.toList_set]
    exact List.take_set_of_le (Nat.le_refl 10)
  rw [calcChecksum, kept, calcChecksum]

theorem alteredChecksum (packet : Packet) {k : Fin 11} (inside : k.val < 10) (byte : UInt8) :
    calcChecksum (altered packet k byte) = calcChecksum packet ↔
      byte.toNat % 128 = (packet.get k).toNat % 128 := by
  have summed : (altered packet k byte).toList.take 10 =
      (packet.toList.take 10).set k.val byte := by
    rw [altered, Vector.toList_set, List.take_set]
  have length : k.val < (packet.toList.take 10).length := by simpa using inside
  have old : (packet.toList.take 10)[k.val] = packet.get k := by
    rw [List.getElem_take]
    exact Vector.getElem_toList _
  rw [residueLow (checksumLow _) (checksumLow _), checksumResidue, checksumResidue, neg_inj,
    summed, totalSetIff residue length, old, residueIff]

theorem topBitOnly {a b : UInt8} (differ : a ≠ b) (low : a.toNat % 128 = b.toNat % 128) :
    a ^^^ b = 0x80 := by
  have below : (a ^^^ b).toNat % 128 = 0 := by
    rw [UInt8.toNat_xor, show 128 = 2 ^ 7 from rfl, Nat.xor_mod_two_pow]
    change a.toNat % 128 ^^^ b.toNat % 128 = 0
    rw [low, Nat.xor_self]
  have some : (a ^^^ b).toNat ≠ 0 := by
    intro none
    have zero : a ^^^ b = 0 := UInt8.toNat_inj.mp none
    exact differ (UInt8.xor_eq_zero_iff.mp zero)
  have size := (a ^^^ b).toNat_lt
  apply UInt8.toNat_inj.mp
  change (a ^^^ b).toNat = 128
  omega

theorem totalDivides (bytes : List UInt8) :
    total residue bytes = 0 ↔ 128 ∣ (bytes.map fun byte => byte.toNat % 128).sum := by
  have cast : total residue bytes = ((bytes.map fun byte => byte.toNat % 128).sum : Nat) := by
    rw [total, Nat.cast_list_sum, List.map_map]
    congr 1
    apply List.map_congr_left
    intro byte _
    exact (ZMod.natCast_mod byte.toNat 128).symm
  rw [cast, ZMod.natCast_eq_zero_iff]

theorem totalWhole (packet : Packet) :
    total residue packet.toList =
      total residue (packet.toList.take 10) + residue (packet.get crcLoc) := by
  have split : packet.toList = packet.toList.take 10 ++ [packet.get crcLoc] := by
    have length : 10 < packet.toList.length := by simp
    have last : packet.toList[10] = packet.get crcLoc := Vector.getElem_toList _
    rw [← last, ← List.take_succ_eq_append_getElem length]
    exact (List.take_of_length_le (by simp)).symm
  rw [total, split, List.map_append, List.sum_append]
  simp [total]

theorem checksumDivides (packet : Packet) :
    calcChecksum packet = packet.get crcLoc ↔ packet.get crcLoc < 0x80 ∧
      128 ∣ (packet.toList.map fun byte => byte.toNat % 128).sum := by
  have low := checksumLow packet
  have sums : packet.get crcLoc < 0x80 → (calcChecksum packet = packet.get crcLoc ↔
      128 ∣ (packet.toList.map fun byte => byte.toNat % 128).sum) := by
    intro last
    rw [residueLow low last, checksumResidue, ← totalDivides, totalWhole, neg_eq_iff_add_eq_zero]
  constructor
  · intro same
    have last : packet.get crcLoc < 0x80 := same ▸ low
    exact ⟨last, (sums last).mp same⟩
  · intro ⟨last, divides⟩
    exact (sums last).mpr divides

theorem alteredWhole {packet other : Packet} {k : Fin 11}
    (single : ∀ j, packet.get j ≠ other.get j ↔ j = k) :
    other = altered packet k (other.get k) := by
  apply Vector.ext
  intro i inside
  change other.get ⟨i, inside⟩ = (altered packet k (other.get k)).get ⟨i, inside⟩
  rw [alteredGet]
  split
  · rename_i here
    rw [here]
  · rename_i elsewhere
    apply Eq.symm
    by_contra differ
    exact elsewhere ((single _).mp differ).symm

theorem singleByteHidden {packet other : Packet} {k : Fin 11}
    (good : calcChecksum packet = packet.get crcLoc)
    (otherGood : calcChecksum other = other.get crcLoc)
    (single : ∀ j, packet.get j ≠ other.get j ↔ j = k) :
    k.val ≤ 9 ∧ packet.get k ^^^ other.get k = 0x80 := by
  have differ := (single k).mpr rfl
  have whole := alteredWhole single
  have inside : k.val < 10 := by
    apply Nat.lt_of_le_of_ne (Nat.le_of_lt_succ k.isLt)
    intro last
    obtain rfl : k = crcLoc := Fin.ext last
    -- the sum does not read the byte that changed
    have kept : calcChecksum other = calcChecksum packet := by rw [whole, alteredLast]
    exact differ (good.symm.trans (kept.symm.trans otherGood))
  have sumKept : packet.get crcLoc = other.get crcLoc := by
    by_contra moved
    have last := congrArg Fin.val ((single crcLoc).mp moved)
    change 10 = k.val at last
    omega
  have sums : calcChecksum (altered packet k (other.get k)) = calcChecksum packet := by
    rw [← whole, otherGood, good, sumKept]
  exact ⟨Nat.le_of_lt_succ inside,
    topBitOnly differ ((alteredChecksum packet inside _).mp sums).symm⟩

theorem checksumCongruence (packet : Packet) :
    (calcChecksum packet = packet.get crcLoc ↔ packet.get crcLoc < 0x80 ∧
      128 ∣ (packet.toList.map fun byte => byte.toNat % 128).sum) ∧
    ∀ (other : Packet) (k : Fin 11), calcChecksum packet = packet.get crcLoc →
      calcChecksum other = other.get crcLoc →
      (∀ j, packet.get j ≠ other.get j ↔ j = k) →
      k.val ≤ 9 ∧ packet.get k ^^^ other.get k = 0x80 := by
  refine ⟨checksumDivides packet, ?_⟩
  intro other k good otherGood single
  exact singleByteHidden good otherGood single

theorem checksumCongruenceTop :
    let packet : Packet := #v[0xFF, 0xFF, 0x21, 0x3E, 0x40, 0x70, 0x00, 0x00, 0x00, 0x00, 0x73]
    let other : Packet := #v[0xFF, 0xFF, 0x21, 0x3E, 0x40, 0x70, 0x80, 0x00, 0x00, 0x00, 0x73]
    packet.get 6 ^^^ other.get 6 = 0x80 := by
  intro packet other
  exact ((checksumCongruence packet).2 other 6 (by decide) (by decide) (by decide)).2

end SerialDvdEmu.VictorChecksum
