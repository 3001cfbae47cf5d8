import SerialDvdEmu.Base.EventRun

/-! What a stream has sent since the last symbol that ends a line, against the stretches of the
stream that hold no such symbol. -/
namespace SerialDvdEmu.Stretch
open EventRun (run runCons runAppend)

variable {α : Type*} [DecidableEq α] (stop : α)

def unfinished (text : List α) (symbol : α) : List α :=
  if symbol = stop then [] else text ++ [symbol]

theorem unfinishedInner (text : List α) {stretch : List α} (inner : stop ∉ stretch) :
    run (unfinished stop) text stretch = text ++ stretch := by
  induction stretch generalizing text with
  | nil => simp
  | cons symbol rest ih =>
    simp only [List.mem_cons, not_or] at inner
    rw [runCons, unfinished, if_neg (Ne.symm inner.1), ih _ inner.2, List.append_assoc]
    rfl

theorem unfinishedSuffix (text : List α) (inner : stop ∉ text) (stream : List α) :
    run (unfinished stop) text stream <:+ text ++ stream ∧
    stop ∉ run (unfinished stop) text stream := by
  induction stream generalizing text with
  | nil => simpa using inner
  | cons symbol rest ih =>
    rw [runCons]
    by_cases ended : symbol = stop
    · rw [unfinished, if_pos ended]
      obtain ⟨suffix, none⟩ := ih [] (by simp)
      refine ⟨suffix.trans ?_, none⟩
      exact ⟨text ++ [symbol], by simp⟩
    · rw [unfinished, if_neg ended]
      have longer : stop ∉ text ++ [symbol] := by simp [inner, Ne.symm ended]
      simpa using ih _ longer

theorem unfinishedBound (size : List α → Nat) (limit : Nat)
    (grows : ∀ first rest, size rest ≤ size (first ++ rest)) (stream : List α) :
    (∀ before, before <+: stream → size (run (unfinished stop) [] before) ≤ limit) ↔
      ∀ stretch, stretch <:+: stream → stop ∉ stretch → size stretch ≤ limit := by
  constructor
  · rintro bound stretch ⟨first, rest, rfl⟩ inner
    have least := bound (first ++ stretch) (List.prefix_append _ _)
    rw [runAppend, unfinishedInner stop _ inner] at least
    exact Nat.le_trans (grows _ stretch) least
  · intro bound before start
    obtain ⟨suffix, inner⟩ := unfinishedSuffix stop [] (by simp) before
    exact bound _ (suffix.isInfix.trans start.isInfix) inner

end SerialDvdEmu.Stretch
