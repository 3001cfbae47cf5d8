import Mathlib.Algebra.BigOperators.Group.List.Basic

/-! Checksums that go down by a weight at each item. Replacing one item is seen exactly when
its weight is another. -/
namespace SerialDvdEmu.RunningTotal

variable {α σ G : Type*} [AddCommGroup G] (weight : α → G)

def total (items : List α) : G := (items.map weight).sum

theorem foldTotal {value : σ → G} {step : σ → α → σ}
    (loses : ∀ s item, value (step s item) = value s - weight item) (s : σ) (items : List α) :
    value (items.foldl step s) = value s - total weight items := by
  induction items generalizing s with
  | nil => simp [total]
  | cons item rest ih =>
    rw [List.foldl_cons, ih, loses, sub_sub]
    rfl

theorem totalSet {items : List α} {k : Nat} (inside : k < items.length) (item : α) :
    total weight (items.set k item) = total weight items + (weight item - weight items[k]) := by
  have length : k < (items.map weight).length := by simpa using inside
  rw [total, List.map_set, List.sum_set', dif_pos length, List.getElem_map]
  rw [total, neg_add_eq_sub]

theorem totalSetIff {items : List α} {k : Nat} (inside : k < items.length) (item : α) :
    total weight (items.set k item) = total weight items ↔ weight item = weight items[k] := by
  rw [totalSet weight inside, add_eq_left, sub_eq_zero]

end SerialDvdEmu.RunningTotal
