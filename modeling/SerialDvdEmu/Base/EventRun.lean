import Mathlib.Data.List.Basic

/-! Deterministic event machines: a run folds one step over a finite list of events.
Facts about every run are reduced here to facts about one step, by induction once. -/
namespace SerialDvdEmu.EventRun

variable {σ τ ε ο : Type*}

def run (step : σ → ε → σ) (s : σ) (events : List ε) : σ := events.foldl step s

@[simp] theorem runNil (step : σ → ε → σ) (s : σ) : run step s [] = s := rfl

@[simp] theorem runCons (step : σ → ε → σ) (s : σ) (e : ε) (events : List ε) :
    run step s (e :: events) = run step (step s e) events := rfl

theorem runAppend (step : σ → ε → σ) (s : σ) (first rest : List ε) :
    run step s (first ++ rest) = run step (run step s first) rest := List.foldl_append

theorem runInvariant {step : σ → ε → σ} (Inv : σ → Prop)
    (keeps : ∀ s e, Inv s → Inv (step s e)) {s : σ} (start : Inv s) (events : List ε) :
    Inv (run step s events) := by
  induction events generalizing s with
  | nil => exact start
  | cons e rest ih => exact ih (keeps s e start)

theorem runInvariantOn {step : σ → ε → σ} (Inv : σ → Prop) {events : List ε}
    (keeps : ∀ e ∈ events, ∀ s, Inv s → Inv (step s e)) {s : σ} (start : Inv s) :
    Inv (run step s events) := by
  induction events generalizing s with
  | nil => exact start
  | cons e rest ih =>
    exact ih (fun e mem => keeps e (List.mem_cons_of_mem _ mem)) (keeps e List.mem_cons_self s start)

theorem runRelated {step : σ → ε → σ} {step' : τ → ε → τ} (R : σ → τ → Prop)
    (keeps : ∀ s t e, R s t → R (step s e) (step' t e)) {s : σ} {t : τ} (start : R s t)
    (events : List ε) : R (run step s events) (run step' t events) := by
  induction events generalizing s t with
  | nil => exact start
  | cons e rest ih => exact ih (keeps s t e start)

theorem runUnfaulted {step : σ → ε → σ} (fault : σ → Prop)
    (sticky : ∀ s e, fault s → fault (step s e)) {s : σ} {events : List ε}
    (clean : ¬ fault (run step s events)) : ¬ fault s :=
  fun bad => clean (runInvariant fault sticky bad events)

theorem everyPrefixCons {P : List ε → Prop} {e : ε} {events : List ε} :
    (∀ before, before <+: e :: events → P before) ↔
      P [] ∧ ∀ before, before <+: events → P (e :: before) := by
  constructor
  · intro every
    exact ⟨every [] List.nil_prefix,
      fun before start => every _ (List.cons_prefix_cons.mpr ⟨rfl, start⟩)⟩
  · rintro ⟨first, later⟩ before start
    rcases List.prefix_cons_iff.mp start with rfl | ⟨tail, rfl, inside⟩
    · exact first
    · exact later tail inside

section Outputs

variable (step : σ → ε → ο × σ)

def after (s : σ) (events : List ε) : σ := run (fun s e => (step s e).2) s events

def outputs : σ → List ε → List ο
  | _, [] => []
  | s, e :: rest => (step s e).1 :: outputs (step s e).2 rest

@[simp] theorem afterNil (s : σ) : after step s [] = s := rfl

@[simp] theorem afterCons (s : σ) (e : ε) (rest : List ε) :
    after step s (e :: rest) = after step (step s e).2 rest := rfl

theorem afterAppend (s : σ) (first rest : List ε) :
    after step s (first ++ rest) = after step (after step s first) rest :=
  runAppend _ s first rest

theorem outputsAppend (s : σ) (first rest : List ε) :
    outputs step s (first ++ rest) =
      outputs step s first ++ outputs step (after step s first) rest := by
  induction first generalizing s with
  | nil => rfl
  | cons e first ih => simp [outputs, ih]

@[simp] theorem outputsLength (s : σ) (events : List ε) :
    (outputs step s events).length = events.length := by
  induction events generalizing s with
  | nil => rfl
  | cons e rest ih => simp [outputs, ih]

theorem outputsMap {ο' : Type*} (f : ο → ο') (s : σ) (events : List ε) :
    outputs (fun s e => (f (step s e).1, (step s e).2)) s events = (outputs step s events).map f ∧
    after (fun s e => (f (step s e).1, (step s e).2)) s events = after step s events := by
  induction events generalizing s with
  | nil => exact ⟨rfl, rfl⟩
  | cons e rest ih =>
    obtain ⟨results, state⟩ := ih (step s e).2
    exact ⟨by rw [outputs, outputs, List.map_cons, ← results], state⟩

theorem outputsRelated {step : σ → ε → ο × σ} {step' : τ → ε → ο × τ} (R : σ → τ → Prop)
    {events : List ε} (keeps : ∀ e ∈ events, ∀ s t, R s t →
      (step s e).1 = (step' t e).1 ∧ R (step s e).2 (step' t e).2)
    {s : σ} {t : τ} (start : R s t) :
    outputs step s events = outputs step' t events ∧
    R (after step s events) (after step' t events) := by
  induction events generalizing s t with
  | nil => exact ⟨rfl, start⟩
  | cons e rest ih =>
    obtain ⟨here, later⟩ := List.forall_mem_cons.mp keeps
    obtain ⟨same, next⟩ := here s t start
    obtain ⟨results, last⟩ := ih later next
    exact ⟨by rw [outputs, outputs, same, results], last⟩

theorem outputAt (s : σ) (events : List ε) (n : Nat) :
    (outputs step s events)[n]? =
      events[n]?.map (fun e => (step (after step s (events.take n)) e).1) := by
  induction events generalizing s n with
  | nil => simp [outputs]
  | cons e rest ih =>
    cases n with
    | zero => simp [outputs]
    | succ n => simpa [outputs] using ih (step s e).2 n

end Outputs
end SerialDvdEmu.EventRun
