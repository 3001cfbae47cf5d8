import Mathlib.Logic.Basic

/-! Programs that reach what they work on only by asking, one question after the other. What two
servers answer alike a program cannot tell apart, however many questions it goes on to ask. -/
namespace SerialDvdEmu.Client

universe u

inductive Program (Ask : Type → Type u) (α : Type) : Type (max 1 u) where
  | done (value : α)
  | ask {β : Type} (question : Ask β) (next : β → Program Ask α)

variable {Ask : Type → Type u} {α β σ τ : Type}

namespace Program

def bind : Program Ask α → (α → Program Ask β) → Program Ask β
  | .done value, f => f value
  | .ask question next, f => .ask question fun answer => (next answer).bind f

instance : Monad (Program Ask) where
  pure := .done
  bind := bind

def run (answer : ∀ {β : Type}, Ask β → σ → β × σ) : Program Ask α → σ → α × σ
  | .done value, s => (value, s)
  | .ask question next, s =>
    let answered := answer question s
    (next answered.1).run answer answered.2

theorem runAsked (answer : ∀ {β : Type}, Ask β → σ → β × σ) (question : Ask β)
    (next : β → Program Ask α) (s : σ) :
    (Program.ask question .done >>= next).run answer s =
      (next (answer question s).1).run answer (answer question s).2 := rfl

def Asks (allowed : ∀ β, Ask β → Prop) : Program Ask α → Prop
  | .done _ => True
  | .ask question next => allowed _ question ∧ ∀ answer, (next answer).Asks allowed

end Program

section Asks
variable {allowed : ∀ β, Ask β → Prop}

theorem asksPure (value : α) : (pure value : Program Ask α).Asks allowed := trivial

theorem asksBind {program : Program Ask α} {f : α → Program Ask β}
    (first : program.Asks allowed) (later : ∀ value, (f value).Asks allowed) :
    (program >>= f).Asks allowed := by
  change (program.bind f).Asks allowed
  induction program with
  | done value => exact later value
  | ask question next ih => exact ⟨first.1, fun answer => ih answer (first.2 answer)⟩

end Asks

def Agrees (allowed : ∀ β, Ask β → Prop) (R : σ → τ → Prop)
    (answer : ∀ {β : Type}, Ask β → σ → β × σ) (answer' : ∀ {β : Type}, Ask β → τ → β × τ) : Prop :=
  ∀ {β : Type} (question : Ask β) {s : σ} {t : τ}, allowed β question → R s t →
    (answer question s).1 = (answer' question t).1 ∧ R (answer question s).2 (answer' question t).2

theorem runAgrees {allowed : ∀ β, Ask β → Prop} {R : σ → τ → Prop}
    {answer : ∀ {β : Type}, Ask β → σ → β × σ} {answer' : ∀ {β : Type}, Ask β → τ → β × τ}
    (agrees : Agrees allowed R answer answer') {program : Program Ask α}
    (asks : program.Asks allowed) {s : σ} {t : τ} (start : R s t) :
    (program.run answer s).1 = (program.run answer' t).1 ∧
    R (program.run answer s).2 (program.run answer' t).2 := by
  induction program generalizing s t with
  | done value => exact ⟨rfl, start⟩
  | ask question next ih =>
    obtain ⟨permitted, rest⟩ := asks
    obtain ⟨same, later⟩ := agrees question permitted start
    have onward := ih (answer question s).1 (rest _) later
    rw [same] at onward
    rw [Program.run, Program.run, same]
    exact onward

theorem runKeeps {allowed : ∀ β, Ask β → Prop} {answer : ∀ {β : Type}, Ask β → σ → β × σ}
    (Inv : σ → Prop) (keeps : ∀ {β : Type} (question : Ask β) (s : σ), allowed β question → Inv s →
      Inv (answer question s).2) {program : Program Ask α} (asks : program.Asks allowed) {s : σ}
    (start : Inv s) : Inv (program.run answer s).2 := by
  have same : Agrees allowed (fun s t => Inv s ∧ s = t) answer answer := by
    rintro β question s _ permitted ⟨inv, rfl⟩
    exact ⟨rfl, keeps question s permitted inv, rfl⟩
  exact (runAgrees same asks ⟨start, rfl⟩).2.1

end SerialDvdEmu.Client
