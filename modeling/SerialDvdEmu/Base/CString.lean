import Mathlib.Data.List.Basic

/-! NUL-terminated text in byte arrays, as the C library reads and writes it. -/
namespace SerialDvdEmu.CString

variable {n : Nat}

def ascii (text : String) : List UInt8 := text.toList.map Char.toUInt8

def text (memory : List UInt8) : List UInt8 := memory.takeWhile (· ≠ 0)

def strlen (memory : List UInt8) : Nat := (text memory).length

theorem takeStrlen (memory : List UInt8) : memory.take (strlen memory) = text memory :=
  (List.prefix_iff_eq_take.mp (List.takeWhile_prefix _)).symm

def strcpy (buffer : Vector UInt8 n) (s : List UInt8) : Vector UInt8 n :=
  Vector.ofFn fun i => if i.val ≤ s.length then s[i.val]?.getD 0 else buffer[i]

structure Holds (buffer : Vector UInt8 n) (s : List UInt8) : Prop where
  bytes : ∀ i, (h : i < n) → buffer[i] = s[i]?.getD 0
  solid : ∀ byte ∈ s, byte ≠ 0
  room : s.length < n

theorem Holds.text {buffer : Vector UInt8 n} {s : List UInt8} (h : Holds buffer s)
    (rest : List UInt8) : CString.text (buffer.toList ++ rest) = s := by
  have list : buffer.toList = s ++ List.replicate (n - s.length) 0 := by
    apply List.ext_getElem (by simp; have := h.room; omega)
    intro i inside _
    have entry := h.bytes i (by simpa using inside)
    by_cases early : i < s.length <;> simp_all
  obtain ⟨k, room⟩ := Nat.exists_eq_add_of_lt h.room
  have nul : List.replicate (n - s.length) (0 : UInt8) = 0 :: List.replicate k 0 := by
    rw [show n - s.length = k + 1 by omega, List.replicate_succ]
  rw [CString.text, list, nul, List.append_assoc,
    List.takeWhile_append_of_pos (by simpa using h.solid)]
  simp

theorem Holds.strlen {buffer : Vector UInt8 n} {s : List UInt8} (h : Holds buffer s)
    (rest : List UInt8) : CString.strlen (buffer.toList ++ rest) = s.length := by
  rw [CString.strlen, h.text]

theorem holdsCleared (room : 0 < n) : Holds (Vector.replicate n 0) [] :=
  ⟨by simp, by simp, room⟩

theorem Holds.add {buffer : Vector UInt8 n} {s : List UInt8} (h : Holds buffer s) {byte : UInt8}
    (solid : byte ≠ 0) (room : s.length + 1 < n) :
    Holds (buffer.set s.length byte h.room) (s ++ [byte]) := by
  refine ⟨fun i inside => ?_, fun b mem => ?_, by simpa using room⟩
  · rw [Vector.getElem_set, h.bytes i inside]
    rcases Nat.lt_trichotomy i s.length with early | rfl | late
    · simp [early, Nat.ne_of_gt early, List.getElem?_append]
    · simp
    · simp [Nat.ne_of_lt late, Nat.not_lt.mpr (Nat.le_of_lt late), List.getElem?_append,
        Nat.sub_ne_zero_of_lt late]
  · rcases List.mem_append.mp mem with old | new
    · exact h.solid b old
    · rw [List.mem_singleton.mp new]; exact solid

theorem Holds.addNul {buffer : Vector UInt8 n} {s : List UInt8} (h : Holds buffer s) :
    Holds (buffer.set s.length 0 h.room) s := by
  refine ⟨fun i inside => ?_, h.solid, h.room⟩
  rw [Vector.getElem_set, h.bytes i inside]
  split
  · rename_i same
    simp [← same]
  · rfl

theorem Holds.strcpy {buffer : Vector UInt8 n} {old s : List UInt8} (h : Holds buffer old)
    (longer : old.length ≤ s.length) (solid : ∀ byte ∈ s, byte ≠ 0) (room : s.length < n) :
    Holds (CString.strcpy buffer s) s := by
  refine ⟨fun i inside => ?_, solid, room⟩
  simp only [CString.strcpy, Vector.getElem_ofFn]
  split
  · rfl
  · rename_i late
    have entry := h.bytes i inside
    rw [List.getElem?_eq_none (by omega)] at entry ⊢
    exact entry

end SerialDvdEmu.CString
