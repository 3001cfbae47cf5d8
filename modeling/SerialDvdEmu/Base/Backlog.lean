import Mathlib.Data.List.Induction
import SerialDvdEmu.Base.EventRun

/-! A queue whose server takes three steps over an item: it sees that there is one, takes it and
is busy with it. What is queued is told by the arrivals and the steps alone: it is what the worst
stretch of them leaves. -/
namespace SerialDvdEmu.Backlog
open EventRun

variable {α : Type*}

inductive Event (α : Type*) where
  | arrive (item : α)
  | step
  deriving DecidableEq, Repr

inductive Phase where
  | idle
  | called
  | busy
  deriving DecidableEq, Repr

structure Server (α : Type*) where
  queue : List α
  phase : Phase

def step (s : Server α) : Event α → Server α
  | .arrive item => { s with queue := s.queue ++ [item] }
  | .step => match s.phase, s.queue with
    | .idle, [] => s
    | .idle, _ :: _ => { s with phase := .called }
    | .called, [] => ⟨[], .idle⟩
    | .called, _ :: rest => ⟨rest, .busy⟩
    | .busy, queue => ⟨queue, .idle⟩

def Event.item : Event α → Option α
  | .arrive item => some item
  | .step => none

def arrivals (events : List (Event α)) : List α := events.filterMap Event.item

def steps : List (Event α) → Nat
  | [] => 0
  | .arrive _ :: rest => steps rest
  | .step :: rest => steps rest + 1

def left (stretch : List (Event α)) : List α := (arrivals stretch).drop ((steps stretch + 1) / 3)

def total (weight : α → Nat) : List α → Nat
  | [] => 0
  | item :: rest => weight item + total weight rest

theorem totalAppend (weight : α → Nat) (first rest : List α) :
    total weight (first ++ rest) = total weight first + total weight rest := by
  induction first with
  | nil => simp [total]
  | cons item first ih =>
    rw [List.cons_append, total, total, ih]
    omega

@[simp] theorem arrivalsAppend (first rest : List (Event α)) :
    arrivals (first ++ rest) = arrivals first ++ arrivals rest := List.filterMap_append

@[simp] theorem arrivalsArrive (item : α) : arrivals [.arrive item] = [item] := rfl

@[simp] theorem arrivalsStep : arrivals [(.step : Event α)] = [] := rfl

@[simp] theorem stepsAppend (first rest : List (Event α)) :
    steps (first ++ rest) = steps first + steps rest := by
  induction first with
  | nil => simp [steps]
  | cons event first ih =>
    cases event with
    | arrive item => exact ih
    | step =>
      simp only [List.cons_append, steps, ih]
      omega

@[simp] theorem stepsArrive (item : α) : steps [.arrive item] = 0 := rfl

@[simp] theorem stepsStep : steps [(.step : Event α)] = 1 := rfl

/-- How far the server is ahead of its next item, counted so that the equation of `Level` keeps
one shape in every phase. -/
def Phase.lead : Phase → Nat
  | .idle => 1
  | .called => 2
  | .busy => 0

def Level (stretch : List (Event α)) (s : Server α) : Prop :=
  3 * (arrivals stretch).length + s.phase.lead = steps stretch + 3 * s.queue.length + 1

def Below (stretch : List (Event α)) (s : Server α) : Prop :=
  3 * (arrivals stretch).length + s.phase.lead ≤ steps stretch + 3 * s.queue.length + 1

structure Account (past : List (Event α)) (s : Server α) : Prop where
  order : s.queue <:+ arrivals past
  called : s.phase = .called → s.queue ≠ []
  below : ∀ stretch, stretch <:+ past → Below stretch s
  level : ∃ stretch, stretch <:+ past ∧ Level stretch s

theorem suffixConcat {stretch past : List (Event α)} {event : Event α}
    (ends : stretch <:+ past ++ [event]) :
    stretch = [] ∨ ∃ before, before <:+ past ∧ stretch = before ++ [event] := by
  rcases List.suffix_concat_iff.mp ends with rfl | ⟨before, rfl, inside⟩
  · exact .inl rfl
  · exact .inr ⟨before, inside, rfl⟩

theorem Account.moved {past : List (Event α)} {s s' : Server α} {event : Event α}
    (h : Account past s) (order : s'.queue <:+ arrivals (past ++ [event]))
    (called : s'.phase = .called → s'.queue ≠ [])
    (moves : 3 * (arrivals [event]).length + s'.phase.lead + 3 * s.queue.length =
      steps [event] + 3 * s'.queue.length + s.phase.lead) :
    Account (past ++ [event]) s' := by
  refine ⟨order, called, fun stretch ends => ?_, ?_⟩
  · rcases suffixConcat ends with rfl | ⟨before, inside, rfl⟩
    · rw [Below]
      cases phase : s'.phase with
      | idle => simp [arrivals, steps, Phase.lead]
      | busy => simp [arrivals, steps, Phase.lead]
      | called =>
        have positive := List.length_pos_iff.mpr (called phase)
        simp only [arrivals, List.filterMap_nil, List.length_nil, steps, Phase.lead]
        omega
    · have below := h.below before inside
      simp only [Below, arrivalsAppend, stepsAppend, List.length_append] at below ⊢
      omega
  · obtain ⟨stretch, inside, level⟩ := h.level
    obtain ⟨front, whole⟩ := inside
    refine ⟨stretch ++ [event], ⟨front, by rw [← List.append_assoc, whole]⟩, ?_⟩
    simp only [Level, arrivalsAppend, stepsAppend, List.length_append] at level ⊢
    omega

theorem accountStep {past : List (Event α)} {s : Server α} (h : Account past s)
    (event : Event α) : Account (past ++ [event]) (step s event) := by
  obtain ⟨queue, phase⟩ := s
  cases event with
  | arrive item =>
    refine h.moved ?_ (by simp [step]) ?_
    · obtain ⟨front, whole⟩ := h.order
      exact ⟨front, by rw [arrivalsAppend, ← whole]; simp [step]⟩
    · simp only [step, arrivalsArrive, stepsArrive, List.length_append, List.length_cons,
        List.length_nil]
      omega
  | step =>
    have kept : queue <:+ arrivals (past ++ [.step]) := by simpa using h.order
    cases phase with
    | idle =>
      cases queue with
      | nil =>
        -- nothing to do: the worst stretch is the empty one from here on
        refine ⟨kept, by simp [step], fun stretch ends => ?_, [], List.nil_suffix, rfl⟩
        rcases suffixConcat ends with rfl | ⟨before, inside, rfl⟩
        · exact Nat.le_refl _
        · have below := h.below before inside
          simp only [Below, step, arrivalsAppend, stepsAppend, List.length_append, arrivalsStep,
            stepsStep, List.length_nil] at below ⊢
          omega
      | cons item rest =>
        refine h.moved kept (by simp [step]) ?_
        simp only [step, arrivalsStep, stepsStep, Phase.lead, List.length_nil]
        omega
    | called =>
      cases queue with
      | nil => exact absurd rfl (h.called rfl)
      | cons item rest =>
        refine h.moved ((List.suffix_cons item rest).trans kept) (by simp [step]) ?_
        simp only [step, arrivalsStep, stepsStep, Phase.lead, List.length_nil, List.length_cons]
        omega
    | busy =>
      refine h.moved kept (by simp [step]) ?_
      simp only [step, arrivalsStep, stepsStep, Phase.lead, List.length_nil]
      omega

def start : Server α := ⟨[], .idle⟩

theorem accountRun (events : List (Event α)) : Account events (run step start events) := by
  induction events using List.reverseRecOn with
  | nil =>
    refine ⟨List.suffix_refl _, by simp [start], fun stretch ends => ?_, [], List.suffix_refl _, rfl⟩
    rw [List.suffix_nil.mp ends]
    exact Nat.le_refl _
  | append_singleton past event ih =>
    rw [runAppend]
    exact accountStep ih event

theorem leadSmall (phase : Phase) : phase.lead ≤ 2 := by cases phase <;> decide

theorem arrivalsSuffix {stretch past : List (Event α)} (ends : stretch <:+ past) :
    arrivals stretch <:+ arrivals past := by
  obtain ⟨front, rfl⟩ := ends
  rw [arrivalsAppend]
  exact List.suffix_append _ _

theorem leftInside {past stretch : List (Event α)} {s : Server α} (h : Account past s)
    (ends : stretch <:+ past) : left stretch <:+ s.queue := by
  refine List.suffix_of_suffix_length_le ((List.drop_suffix _ _).trans (arrivalsSuffix ends))
    h.order ?_
  have below := h.below stretch ends
  rw [Below] at below
  rw [left, List.length_drop]
  omega

theorem leftReached {past : List (Event α)} {s : Server α} (h : Account past s) :
    ∃ stretch, stretch <:+ past ∧ left stretch = s.queue := by
  obtain ⟨stretch, ends, level⟩ := h.level
  refine ⟨stretch, ends, ?_⟩
  have small := leadSmall s.phase
  rw [Level] at level
  have size : (left stretch).length = s.queue.length := by
    rw [left, List.length_drop]
    omega
  exact (leftInside h ends).eq_of_length size

theorem totalSuffix (weight : α → Nat) {xs ys : List α} (ends : xs <:+ ys) :
    total weight xs ≤ total weight ys := by
  obtain ⟨front, rfl⟩ := ends
  rw [totalAppend]
  omega

theorem withinIff (weight : α → Nat) (most : Nat) (events : List (Event α)) :
    (∀ before, before <+: events → total weight (run step start before).queue ≤ most) ↔
      ∀ stretch, stretch <:+: events → total weight (left stretch) ≤ most := by
  constructor
  · intro within stretch inside
    obtain ⟨before, ends, begins⟩ := List.infix_iff_suffix_prefix.mp inside
    exact Nat.le_trans (totalSuffix weight (leftInside (accountRun before) ends))
      (within before begins)
  · intro within before begins
    obtain ⟨stretch, ends, reached⟩ := leftReached (accountRun before)
    rw [← reached]
    exact within stretch (List.infix_iff_suffix_prefix.mpr ⟨before, ends, begins⟩)

end SerialDvdEmu.Backlog
