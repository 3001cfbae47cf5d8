import SerialDvdEmu.Base.EventRun

/-! Loops that try again until an attempt returns. Each attempt meets one event, may change the
state, and either returns or goes on; what is left of the events is for what comes after. -/
namespace SerialDvdEmu.Attempt
open EventRun

variable {σ ε α : Type*}

def attempts (attempt : σ → ε → Option α × σ) : σ → List ε → Option (α × σ × List ε)
  | _, [] => none
  | s, e :: rest => match attempt s e with
    | (some a, s') => some (a, s', rest)
    | (none, s') => attempts attempt s' rest

variable {attempt : σ → ε → Option α × σ}

theorem attemptsReturn {s s' : σ} {e : ε} {rest : List ε} {a : α}
    (returned : attempt s e = (some a, s')) :
    attempts attempt s (e :: rest) = some (a, s', rest) := by
  rw [attempts, returned]

theorem attemptsGoOn {s s' : σ} {e : ε} {rest : List ε} (again : attempt s e = (none, s')) :
    attempts attempt s (e :: rest) = attempts attempt s' rest := by
  rw [attempts, again]

theorem attemptsIff {s s' : σ} {events rest : List ε} {a : α} :
    attempts attempt s events = some (a, s', rest) ↔
      ∃ before e, events = before ++ e :: rest ∧ (∀ o ∈ outputs attempt s before, o = none) ∧
        attempt (after attempt s before) e = (some a, s') := by
  induction events generalizing s with
  | nil =>
    constructor
    · intro returned
      contradiction
    · rintro ⟨before, e, empty, _⟩
      exact absurd empty.symm (List.append_ne_nil_of_right_ne_nil before (List.cons_ne_nil e rest))
  | cons e tail ih =>
    cases result : attempt s e with
    | mk returned t =>
      cases returned with
      | some b =>
        rw [attemptsReturn result]
        constructor
        · intro same
          obtain ⟨rfl, rfl, rfl⟩ : b = a ∧ t = s' ∧ tail = rest := by simpa using same
          exact ⟨[], e, rfl, by simp [outputs], result⟩
        · rintro ⟨before, e', split, quiet, last⟩
          cases before with
          | nil =>
            obtain ⟨rfl, rfl⟩ := List.cons.inj split
            rw [afterNil, result] at last
            cases last
            rfl
          | cons first before =>
            obtain ⟨rfl, _⟩ := List.cons.inj split
            have none := quiet (attempt s e).1 (by simp [outputs])
            rw [result] at none
            contradiction
      | none =>
        have moved : (attempt s e).2 = t := congrArg Prod.snd result
        have silent : (attempt s e).1 = none := congrArg Prod.fst result
        rw [attemptsGoOn result, ih]
        constructor
        · rintro ⟨before, e', rfl, quiet, last⟩
          refine ⟨e :: before, e', rfl, ?_, by rwa [afterCons, moved]⟩
          rw [outputs, silent, moved]
          exact List.forall_mem_cons.mpr ⟨rfl, quiet⟩
        · rintro ⟨before, e', split, quiet, last⟩
          cases before with
          | nil =>
            obtain ⟨rfl, rfl⟩ := List.cons.inj split
            rw [afterNil, result] at last
            cases last
          | cons first before =>
            obtain ⟨rfl, rfl⟩ := List.cons.inj split
            rw [outputs, moved] at quiet
            rw [afterCons, moved] at last
            exact ⟨before, e', rfl, (List.forall_mem_cons.mp quiet).2, last⟩

theorem attemptsAppend {s s' : σ} {events rest : List ε} {a : α}
    (returned : attempts attempt s events = some (a, s', rest)) (more : List ε) :
    attempts attempt s (events ++ more) = some (a, s', rest ++ more) := by
  obtain ⟨before, e, rfl, quiet, last⟩ := attemptsIff.mp returned
  refine attemptsIff.mpr ⟨before, e, ?_, quiet, last⟩
  rw [List.append_assoc, List.cons_append]

theorem attemptsNone {s : σ} {events : List ε} :
    attempts attempt s events = none ↔ ∀ o ∈ outputs attempt s events, o = none := by
  induction events generalizing s with
  | nil => simp [attempts, outputs]
  | cons e rest ih =>
    rw [outputs, List.forall_mem_cons]
    cases result : attempt s e with
    | mk returned t =>
      cases returned with
      | some a =>
        rw [attemptsReturn result]
        simp
      | none =>
        rw [attemptsGoOn result, ih]
        simp

end SerialDvdEmu.Attempt
