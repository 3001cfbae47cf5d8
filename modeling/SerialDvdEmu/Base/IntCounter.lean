import Mathlib.Data.List.Basic

/-! Counters of type int. C leaves open what happens past the largest int, so a count that
would get there is no count. -/
namespace SerialDvdEmu.IntCounter

def increment (i : Int32) : Option Int32 := if i.toInt < 2147483647 then some (i + 1) else none

theorem nextInt {i : Int32} (room : i.toInt < 2147483647) : (i + 1).toInt = i.toInt + 1 := by
  have least := i.le_toInt
  rw [Int32.toInt_add, show (1 : Int32).toInt = 1 from rfl]
  exact Int.bmod_eq_of_le (by omega) (by omega)

theorem incrementIff {i j : Int32} : increment i = some j ↔ j.toInt = i.toInt + 1 := by
  have most := j.toInt_lt
  rw [increment]
  split
  · rename_i room
    rw [Option.some_inj, ← Int32.toInt_inj, nextInt room, eq_comm]
  · simp only [reduceCtorEq, false_iff]
    omega

variable {α : Type*} (p : α → Bool)

def count : List α → Int32 → Option Int32
  | [], i => some i
  | item :: rest, i => if p item then (increment i).bind (count rest) else count rest i

theorem countIff {items : List α} {i j : Int32} :
    count p items i = some j ↔ j.toInt = i.toInt + items.countP p := by
  induction items generalizing i with
  | nil =>
    rw [count, Option.some_inj, ← Int32.toInt_inj, List.countP_nil]
    omega
  | cons item rest ih =>
    rw [count]
    split
    · rename_i chosen
      rw [List.countP_cons_of_pos chosen, Option.bind_eq_some_iff]
      constructor
      · rintro ⟨k, next, reached⟩
        have step := incrementIff.mp next
        have tail := ih.mp reached
        omega
      · intro reached
        have most := j.toInt_lt
        have step := nextInt (i := i) (by omega)
        exact ⟨i + 1, incrementIff.mpr step, ih.mpr (by omega)⟩
    · rename_i other
      rw [List.countP_cons_of_neg other]
      exact ih

theorem countFits {items : List α} (fits : items.countP p < 2147483648) :
    ∃ j, count p items 0 = some j ∧ j.toInt = items.countP p := by
  have exactly : (Int32.ofInt (items.countP p)).toInt = items.countP p :=
    Int32.toInt_ofInt_of_le (by omega) (by omega)
  refine ⟨Int32.ofInt (items.countP p), (countIff p).mpr ?_, exactly⟩
  rw [exactly, show (0 : Int32).toInt = 0 from rfl, Int.zero_add]

theorem countReached {items : List α} {j : Int32} (reached : count p items 0 = some j) :
    j.toInt = items.countP p := by
  have total := (countIff p).mp reached
  rwa [show (0 : Int32).toInt = 0 from rfl, Int.zero_add] at total

end SerialDvdEmu.IntCounter
