import Mathlib.Data.List.Forall2
import SerialDvdEmu.Base.EventRun

/-! A server between two lines. What is sent waits in order until it is served, what the server
says waits in order until it is taken, and who moves next is left open. A line may have less room
than an answer needs; the rest of that answer is lost. -/
namespace SerialDvdEmu.Relay
open EventRun

variable {σ ι ο : Type*}

structure Line (σ ι ο : Type*) where
  server : σ
  waiting : List ι
  said : List ο

inductive Event (ι : Type*) where
  | send (items : List ι)
  | serve (room : Nat)
  | take (most : Nat)

def Event.sent : Event ι → List ι
  | .send items => items
  | .serve _ | .take _ => []

def sent (events : List (Event ι)) : List ι := events.flatMap Event.sent

def Event.Roomy (most : Nat) : Event ι → Prop
  | .serve room => most ≤ room
  | .send _ | .take _ => True

@[simp] theorem roomySend (most : Nat) (items : List ι) : (Event.send items).Roomy most := trivial

@[simp] theorem roomyServe (most room : Nat) :
    (Event.serve room : Event ι).Roomy most ↔ most ≤ room := Iff.rfl

instance (most : Nat) (event : Event ι) : Decidable (event.Roomy most) := match event with
  | .serve room => inferInstanceAs (Decidable (most ≤ room))
  | .send _ | .take _ => .isTrue trivial

section Steps
variable (turn : σ → ι → List ο × σ)

def step (l : Line σ ι ο) : Event ι → List ο × Line σ ι ο
  | .send items => ([], { l with waiting := l.waiting ++ items })
  | .serve room => match l.waiting with
    | [] => ([], l)
    | item :: rest =>
      let answer := turn l.server item
      ([], ⟨answer.2, rest, l.said ++ answer.1.take room⟩)
  | .take most => (l.said.take most, { l with said := l.said.drop most })

def taken (l : Line σ ι ο) (events : List (Event ι)) : List ο :=
  (outputs (step turn) l events).flatten

structure Ledger (Through : List ο → List ο → Prop) (start : σ) (sent : List ι) (taken : List ο)
    (consumed : List ι) (pieces : List (List ο)) (l : Line σ ι ο) : Prop where
  order : consumed ++ l.waiting = sent
  server : after turn start consumed = l.server
  through : List.Forall₂ Through pieces (outputs turn start consumed)
  flow : taken ++ l.said = pieces.flatten

def Lets (Through : List ο → List ο → Prop) : Event ι → Prop
  | .serve room => ∀ server item, Through ((turn server item).1.take room) (turn server item).1
  | .send _ | .take _ => True

variable {turn}

theorem takenNone {events : List (Event ι)} (left : ∀ event ∈ events, ∀ most, event ≠ .take most)
    (l : Line σ ι ο) : taken turn l events = [] := by
  induction events generalizing l with
  | nil => rfl
  | cons event rest ih =>
    obtain ⟨here, later⟩ := List.forall_mem_cons.mp left
    have nothing : (step turn l event).1 = [] := by
      cases event with
      | send items => rfl
      | serve room =>
        rw [step]
        split <;> rfl
      | take most => exact absurd rfl (here most)
    rw [taken, outputs, List.flatten_cons, nothing]
    exact ih later (step turn l event).2

theorem letsPieces (event : Event ι) : Lets turn (· <+: ·) event := by
  cases event with
  | send items => trivial
  | take most => trivial
  | serve room => exact fun server item => List.take_prefix room _

theorem letsWhole {most : Nat} (short : ∀ server item, (turn server item).1.length ≤ most)
    {event : Event ι} (roomy : event.Roomy most) : Lets turn (· = ·) event := by
  cases event with
  | send items => trivial
  | take most => trivial
  | serve room =>
    exact fun server item => List.take_of_length_le (Nat.le_trans (short server item) roomy)

section Runs
variable {Through : List ο → List ο → Prop} {start : σ} {before : List ι} {read : List ο}
  {consumed : List ι} {pieces : List (List ο)} {l : Line σ ι ο}

theorem Ledger.step (h : Ledger turn Through start before read consumed pieces l)
    {event : Event ι} (lets : Lets turn Through event) : ∃ consumed' pieces',
      Ledger turn Through start (before ++ event.sent) (read ++ (Relay.step turn l event).1)
        consumed' pieces' (Relay.step turn l event).2 := by
  obtain ⟨order, server, through, flow⟩ := h
  cases event with
  | send items =>
    refine ⟨consumed, pieces, ?_, server, through, ?_⟩
    · rw [Event.sent, ← order, Relay.step, List.append_assoc]
    · rw [Relay.step, List.append_nil]
      exact flow
  | take most =>
    refine ⟨consumed, pieces, ?_, server, through, ?_⟩
    · rw [Event.sent, List.append_nil]
      exact order
    · rw [Relay.step, List.append_assoc, List.take_append_drop]
      exact flow
  | serve room =>
    rw [Event.sent, List.append_nil]
    cases waits : l.waiting with
    | nil =>
      have idle : Relay.step turn l (.serve room) = ([], l) := by simp only [Relay.step, waits]
      rw [idle, List.append_nil]
      exact ⟨consumed, pieces, order, server, through, flow⟩
    | cons item rest =>
      have served : Relay.step turn l (.serve room) = ([], ⟨(turn l.server item).2, rest,
          l.said ++ (turn l.server item).1.take room⟩) := by simp only [Relay.step, waits]
      have answer : outputs turn start (consumed ++ [item]) =
          outputs turn start consumed ++ [(turn l.server item).1] := by
        rw [outputsAppend, server]
        rfl
      rw [served, List.append_nil]
      refine ⟨consumed ++ [item], pieces ++ [(turn l.server item).1.take room], ?_, ?_, ?_, ?_⟩
      · rw [List.append_assoc, List.singleton_append, ← waits]
        exact order
      · rw [afterAppend, server]
        rfl
      · rw [answer]
        exact List.rel_append through (.cons (lets l.server item) .nil)
      · rw [← List.append_assoc, flow, List.flatten_append, List.flatten_singleton]

theorem ledgerRun (h : Ledger turn Through start before read consumed pieces l)
    {events : List (Event ι)} (lets : ∀ event ∈ events, Lets turn Through event) :
    ∃ consumed' pieces', Ledger turn Through start (before ++ sent events)
      (read ++ taken turn l events) consumed' pieces' (after (Relay.step turn) l events) := by
  induction events generalizing before read consumed pieces l with
  | nil =>
    rw [sent, taken, outputs, List.flatMap_nil, List.flatten_nil, List.append_nil, List.append_nil]
    exact ⟨consumed, pieces, h⟩
  | cons event rest ih =>
    obtain ⟨consumed', pieces', next⟩ := h.step (lets event List.mem_cons_self)
    obtain ⟨consumed'', pieces'', last⟩ :=
      ih next fun event mem => lets event (List.mem_cons_of_mem _ mem)
    rw [List.append_assoc, List.append_assoc] at last
    exact ⟨consumed'', pieces'', last⟩

end Runs

variable (turn) in
theorem ledgerStart (Through : List ο → List ο → Prop) (start : σ) :
    Ledger turn Through start [] [] [] [] (⟨start, [], []⟩ : Line σ ι ο) :=
  ⟨rfl, rfl, .nil, rfl⟩

section Order
variable {start : σ} {events : List (Event ι)}

theorem takenInOrder (lets : ∀ event ∈ events, Lets turn (· = ·) event) :
    taken turn ⟨start, [], []⟩ events <+: (outputs turn start (sent events)).flatten := by
  obtain ⟨consumed, pieces, order, _, through, flow⟩ :=
    ledgerRun (ledgerStart turn (· = ·) start) lets
  rw [List.forall₂_eq_eq_eq] at through
  rw [List.nil_append, through] at flow
  rw [List.nil_append] at order
  rw [← order, outputsAppend, List.flatten_append, ← flow, List.append_assoc]
  exact List.prefix_append _ _

theorem chunksPrefix {n : Nat} (positive : 0 < n) {xs ys : List (List ο)}
    (first : ∀ x ∈ xs, x.length = n) (second : ∀ y ∈ ys, y.length = n)
    (begins : xs.flatten <+: ys.flatten) : xs <+: ys := by
  induction xs generalizing ys with
  | nil => exact List.nil_prefix
  | cons x xs ih =>
    obtain ⟨size, sizes⟩ := List.forall_mem_cons.mp first
    cases ys with
    | nil =>
      have short := begins.length_le
      rw [List.flatten_cons, List.length_append, List.flatten_nil, List.length_nil] at short
      omega
    | cons y ys =>
      obtain ⟨size', sizes'⟩ := List.forall_mem_cons.mp second
      obtain ⟨tail, whole⟩ := begins
      rw [List.flatten_cons, List.flatten_cons, List.append_assoc] at whole
      obtain ⟨rfl, rest⟩ := List.append_inj whole (size.trans size'.symm)
      exact List.cons_prefix_cons.mpr ⟨rfl, ih sizes sizes' ⟨tail, rest⟩⟩

def solid (pieces : List (List ο)) : List (List ο) := pieces.filter fun piece => !piece.isEmpty

theorem solidLength {pieces : List (List ο)} {n : Nat}
    (whole : ∀ piece ∈ pieces, piece = [] ∨ piece.length = n) :
    ∀ piece ∈ solid pieces, piece.length = n := by
  intro piece mem
  obtain ⟨inside, some⟩ := List.mem_filter.mp mem
  rcases whole piece inside with rfl | size
  · contradiction
  · exact size

theorem solidInOrder {n : Nat} (positive : 0 < n)
    (lets : ∀ event ∈ events, Lets turn (· = ·) event)
    (uniform : ∀ answer ∈ outputs turn start (sent events), answer = [] ∨ answer.length = n)
    (uncut : ∀ piece ∈ outputs (step turn) ⟨start, [], []⟩ events, piece = [] ∨ piece.length = n) :
    solid (outputs (step turn) ⟨start, [], []⟩ events) <+:
      solid (outputs turn start (sent events)) := by
  refine chunksPrefix positive (solidLength uncut) (solidLength uniform) ?_
  rw [solid, solid, List.flatten_filter_not_isEmpty, List.flatten_filter_not_isEmpty]
  exact takenInOrder lets

theorem solidAt {pieces : List (List ο)} {i : Nat} {piece : List ο}
    (here : pieces[i]? = some piece) (some : piece ≠ []) :
    (solid pieces)[(solid (pieces.take i)).length]? = Option.some piece := by
  obtain ⟨inside, same⟩ := List.getElem?_eq_some_iff.mp here
  have split : pieces = pieces.take i ++ piece :: pieces.drop (i + 1) := by
    rw [← same, ← List.drop_eq_getElem_cons inside, List.take_append_drop]
  have parts : solid pieces = solid (pieces.take i) ++ piece :: solid (pieces.drop (i + 1)) := by
    nth_rewrite 1 [split]
    rw [solid, List.filter_append, List.filter_cons, if_pos (by simpa using some)]
    rfl
  rw [parts, List.getElem?_append_right (Nat.le_refl _), Nat.sub_self, List.getElem?_cons_zero]

theorem takenAt {n : Nat} (positive : 0 < n)
    (lets : ∀ event ∈ events, Lets turn (· = ·) event)
    (uniform : ∀ answer ∈ outputs turn start (sent events), answer = [] ∨ answer.length = n)
    (uncut : ∀ piece ∈ outputs (step turn) ⟨start, [], []⟩ events, piece = [] ∨ piece.length = n)
    {i : Nat} {got : List ο} (here : (outputs (step turn) ⟨start, [], []⟩ events)[i]? = some got)
    (some : got ≠ []) :
    (solid (outputs turn start (sent events)))[(solid
      ((outputs (step turn) ⟨start, [], []⟩ events).take i)).length]? = Option.some got := by
  have solidHere := solidAt here some
  obtain ⟨later, whole⟩ := solidInOrder positive lets uniform uncut
  obtain ⟨inside, _⟩ := List.getElem?_eq_some_iff.mp solidHere
  rw [← whole, List.getElem?_append_left inside]
  exact solidHere

theorem serveAll (room : Nat) {s : σ} {items : List ι} (said : List ο) {n : Nat}
    (enough : items.length ≤ n) (short : ∀ answer ∈ outputs turn s items, answer.length ≤ room) :
    outputs (step turn) ⟨s, items, said⟩ (List.replicate n (.serve room)) = List.replicate n [] ∧
    after (step turn) ⟨s, items, said⟩ (List.replicate n (.serve room)) =
      ⟨after turn s items, [], said ++ (outputs turn s items).flatten⟩ := by
  induction n generalizing s items said with
  | zero =>
    rw [List.length_eq_zero_iff.mp (Nat.le_zero.mp enough)]
    exact ⟨rfl, by simp [outputs]⟩
  | succ n ih =>
    rw [List.replicate_succ, List.replicate_succ, outputs, afterCons]
    cases items with
    | nil =>
      obtain ⟨silent, state⟩ := @ih s [] said (Nat.zero_le n) short
      exact ⟨congrArg _ silent, state⟩
    | cons item rest =>
      rw [outputs, List.forall_mem_cons] at short
      have whole : (turn s item).1.take room = (turn s item).1 := List.take_of_length_le short.1
      have served : step turn ⟨s, item :: rest, said⟩ (.serve room) =
          ([], ⟨(turn s item).2, rest, said ++ (turn s item).1⟩) := by
        rw [step]
        simp only [whole]
      obtain ⟨silent, state⟩ := ih (said ++ (turn s item).1)
        (Nat.le_of_succ_le_succ enough) short.2
      rw [served, silent, state, outputs, List.flatten_cons, List.append_assoc]
      exact ⟨rfl, rfl⟩

theorem exchanged (room most : Nat) {s : σ} {items : List ι} {n : Nat} (enough : items.length ≤ n)
    (short : ∀ answer ∈ outputs turn s items, answer.length ≤ room)
    (all : (outputs turn s items).flatten.length ≤ most) :
    taken turn ⟨s, [], []⟩ (.send items :: List.replicate n (.serve room) ++ [.take most]) =
      (outputs turn s items).flatten ∧
    after (step turn) ⟨s, [], []⟩ (.send items :: List.replicate n (.serve room) ++ [.take most]) =
      ⟨after turn s items, [], []⟩ := by
  obtain ⟨silent, served⟩ := serveAll room [] enough short
  have sent : step turn ⟨s, [], []⟩ (.send items) = ([], ⟨s, items, []⟩) := rfl
  rw [List.nil_append] at served
  constructor
  · rw [taken, List.cons_append, outputs, sent, outputsAppend, silent, served, outputs, outputs, step,
      List.take_of_length_le all]
    simp
  · rw [List.cons_append, afterCons, sent, afterAppend, served, afterCons, afterNil, step,
      List.drop_eq_nil_of_le all]

end Order
end Steps
end SerialDvdEmu.Relay
