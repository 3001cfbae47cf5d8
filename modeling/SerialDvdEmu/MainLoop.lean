import SerialDvdEmu.Base.Relay
import SerialDvdEmu.SerialPort

/-! The loop of main over the serial port, one system call after another: PurgeComm, then one byte
at a time to the receiver and its reply back to the port. To the outside it is a server between
two lines. -/
namespace SerialDvdEmu.MainLoop
open EventRun Attempt SerialPort
open Relay (Line Ledger Lets)

def purgePass (p : Port) (m : Moment) : Option Unit × Port :=
  match read 1024 p m with
  | (.ok (_ :: _), p) => (none, p)
  | (.ok [], p) | (.error _, p) => (some (), p)

def purgeComm (moments : List Moment) (p : Port) : Option (Unit × Port × List Moment) :=
  attempts purgePass p moments

theorem purgePassed (p : Port) (m : Moment) :
    (purgePass p m).2.written = p.written ∧ (purgePass p m).2.unread <:+ p.unread ++ m.arrived ∧
    ((purgePass p m).1 = some () → (∃ amount, m.driver = .ready amount) →
      (purgePass p m).2.unread = []) := by
  cases driver : m.driver with
  | hungUp =>
    have passed : purgePass p m = (some (), p.meet m) := by
      simp only [purgePass, SerialPort.read, driver]
    rw [passed]
    exact ⟨rfl, List.suffix_refl _, by simp⟩
  | failed =>
    have passed : purgePass p m = (some (), p.meet m) := by
      simp only [purgePass, SerialPort.read, driver]
    rw [passed]
    exact ⟨rfl, List.suffix_refl _, by simp⟩
  | ready amount =>
    cases coming : p.unread ++ m.arrived with
    | nil =>
      have called := (readReady 1024 driver).trans (if_pos coming)
      have passed : purgePass p m = (some (), p.meet m) := by simp only [purgePass, called]
      rw [passed]
      exact ⟨rfl, by rw [← coming]; exact List.suffix_refl _, fun _ _ => coming⟩
    | cons byte rest =>
      have something : p.unread ++ m.arrived ≠ [] := coming ▸ List.cons_ne_nil byte rest
      have called := (readReady 1024 driver).trans (if_neg something)
      have more : min 1024 (amount + 1) = min 1023 amount + 1 := by omega
      rw [coming, more, List.take_succ_cons] at called
      have passed : purgePass p m =
          (none, { p.meet m with unread := (byte :: rest).drop (min 1023 amount + 1) }) := by
        simp only [purgePass, called]
      rw [passed]
      exact ⟨rfl, List.drop_suffix _ _, by simp⟩

theorem purged {moments rest : List Moment} {p p' : Port}
    (done : purgeComm moments p = some ((), p', rest)) :
    p'.written = p.written ∧ ∃ before m, moments = before ++ m :: rest ∧
      p'.unread <:+ p.unread ++ arrived (before ++ [m]) ∧
      ((∃ amount, m.driver = .ready amount) → p'.unread = []) := by
  induction moments generalizing p with
  | nil => contradiction
  | cons m tail ih =>
    obtain ⟨written, suffix, last⟩ := purgePassed p m
    rw [purgeComm] at done
    generalize passed : purgePass p m = next at written suffix last
    obtain ⟨returned, q⟩ := next
    cases returned with
    | some u =>
      rw [attemptsReturn passed] at done
      obtain ⟨rfl, rfl⟩ : q = p' ∧ tail = rest := by simpa using done
      exact ⟨written, [], m, rfl, by simpa [arrived] using suffix, last rfl⟩
    | none =>
      rw [attemptsGoOn passed] at done
      obtain ⟨writtenRest, before, e, rfl, suffixRest, lastRest⟩ := ih done
      refine ⟨writtenRest.trans written, m :: before, e, rfl, ?_, lastRest⟩
      have longer : q.unread ++ arrived (before ++ [e]) <:+
          (p.unread ++ m.arrived) ++ arrived (before ++ [e]) := by
        obtain ⟨front, whole⟩ := suffix
        exact ⟨front, by rw [← List.append_assoc, whole]⟩
      rw [List.append_assoc] at longer
      exact suffixRest.trans longer

inductive Doing where
  | reading (start : UInt64)
  | writing (packet : List UInt8) (start : UInt64)
  deriving DecidableEq, Repr

structure Loop (σ : Type) where
  doing : Doing
  port : Port
  device : σ

section Loops
variable {σ : Type} (receive : σ → UInt8 → List UInt8 × σ)

def step (l : Loop σ) (m : Moment) : Loop σ := match l.doing with
  | .reading start => match pass (read 1) start l.port m with
    | (none, port) => { l with port := port }
    | (some (some [byte]), port) =>
      let response := receive l.device byte
      ⟨if response.1 = [] then .reading port.clock else .writing response.1 port.clock, port,
        response.2⟩
    | (some _, port) => { l with doing := .reading port.clock, port := port }
  | .writing packet start => match pass (write packet) start l.port m with
    | (none, port) => { l with port := port }
    | (some _, port) => { l with doing := .reading port.clock, port := port }

def begun (p : Port) (device : σ) : Loop σ := ⟨.reading p.clock, p, device⟩

def Shows (l : Loop σ) (line : Line σ UInt8 UInt8) : Prop := match l.doing with
  | .reading _ => line = ⟨l.device, l.port.unread, l.port.written⟩
  | .writing packet _ => ∃ before byte, receive before byte = (packet, l.device) ∧ packet ≠ [] ∧
      line = ⟨before, byte :: l.port.unread, l.port.written⟩

def Roomy (most : Nat) (m : Moment) : Prop := ∃ amount, m.driver = .ready amount ∧ most ≤ amount

inductive Stepped (l : Loop σ) (m : Moment) : Loop σ → Prop where
  | waited (reading : ∃ start, l.doing = .reading start) (start : UInt64)
      (idle : l.port.unread ++ m.arrived = [] ∨ ∀ amount, m.driver ≠ .ready amount) :
      Stepped l m ⟨.reading start, l.port.meet m, l.device⟩
  | took (reading : ∃ start, l.doing = .reading start) (byte : UInt8) (rest : List UInt8)
      (first : l.port.unread ++ m.arrived = byte :: rest) :
      Stepped l m
        ⟨if (receive l.device byte).1 = [] then .reading m.now
          else .writing (receive l.device byte).1 m.now,
          { l.port.meet m with unread := rest }, (receive l.device byte).2⟩
  | full (packet : List UInt8) (start : UInt64) (writing : l.doing = .writing packet start)
      (full : m.driver = .ready 0) : Stepped l m ⟨.writing packet start, l.port.meet m, l.device⟩
  | wrote (packet : List UInt8) (writing : ∃ start, l.doing = .writing packet start) (room : Nat)
      (moved : ∀ amount, m.driver = .ready amount → room = amount) (start : UInt64) :
      Stepped l m ⟨.reading start,
        { l.port.meet m with written := l.port.written ++ packet.take room }, l.device⟩

theorem stepped (l : Loop σ) (m : Moment) : Stepped receive l m (step receive l m) := by
  cases doing : l.doing with
  | reading start =>
    have passed := readPassed 1 start l.port m
    unfold step
    simp only [doing]
    generalize pass (read 1) start l.port m = returned at passed
    cases passed with
    | waits waits =>
      exact .waited ⟨start, doing⟩ start (.inl (List.append_eq_nil_iff.mpr ⟨waits.1, waits.2.1⟩))
    | late nothing late => exact .waited ⟨start, doing⟩ _ (.inl nothing)
    | failed failed => exact .waited ⟨start, doing⟩ _ (.inr (by simp [failed]))
    | hungUp hungUp => exact .waited ⟨start, doing⟩ _ (.inr (by simp [hungUp]))
    | took amount ready something =>
      obtain ⟨byte, rest, first⟩ := List.exists_cons_of_ne_nil something
      have one : min 1 (amount + 1) = 1 := by omega
      rw [one, first]
      exact .took ⟨start, doing⟩ byte rest first
  | writing packet start =>
    have wrote := writePassed packet start l.port m
    unfold step
    simp only [doing]
    generalize pass (write packet) start l.port m = returned at wrote
    cases wrote with
    | waits full => exact .full packet start doing full
    | gaveUp unready =>
      have nothing : l.port.meet m =
          { l.port.meet m with written := l.port.written ++ packet.take 0 } := by
        rw [List.take_zero, List.append_nil]
        rfl
      dsimp only
      rw [nothing]
      exact .wrote packet ⟨start, doing⟩ 0 (fun amount ready => (unready amount ready).symm) _
    | wrote amount ready room =>
      refine .wrote packet ⟨start, doing⟩ amount (fun other moved => ?_) _
      rw [ready] at moved
      exact Driver.ready.inj moved

theorem simulates (most : Nat) {l : Loop σ} {line : Line σ UInt8 UInt8}
    (shows : Shows receive l line) (m : Moment) : ∃ events,
      Relay.sent events = m.arrived ∧ (∀ event ∈ events, ∀ most, event ≠ .take most) ∧
      (Roomy most m → ∀ event ∈ events, event.Roomy most) ∧
      Shows receive (step receive l m) (after (Relay.step receive) line events) := by
  have moved := stepped receive l m
  generalize step receive l m = next at moved
  cases moved with
  | waited reading start idle =>
    obtain ⟨_, doing⟩ := reading
    simp only [Shows, doing] at shows
    subst shows
    exact ⟨[.send m.arrived], by simp [Relay.sent, Relay.Event.sent], by simp, by simp, rfl⟩
  | took reading byte rest first =>
    obtain ⟨_, doing⟩ := reading
    simp only [Shows, doing] at shows
    subst shows
    by_cases silent : (receive l.device byte).1 = []
    · refine ⟨[.send m.arrived, .serve most], by simp [Relay.sent, Relay.Event.sent], by simp, by simp, ?_⟩
      simp [Shows, silent, Relay.step, first, Port.meet]
    · refine ⟨[.send m.arrived], by simp [Relay.sent, Relay.Event.sent], by simp, by simp, ?_⟩
      simp only [Shows, if_neg silent]
      exact ⟨l.device, byte, rfl, silent, by simp [Relay.step, first, Port.meet]⟩
  | full packet start writing full =>
    simp only [Shows, writing] at shows
    obtain ⟨before, byte, received, some, rfl⟩ := shows
    exact ⟨[.send m.arrived], by simp [Relay.sent, Relay.Event.sent], by simp, by simp,
      before, byte, received, some, rfl⟩
  | wrote packet writing room moved start =>
    obtain ⟨_, doing⟩ := writing
    simp only [Shows, doing] at shows
    obtain ⟨before, byte, received, some, rfl⟩ := shows
    refine ⟨[.send m.arrived, .serve room], by simp [Relay.sent, Relay.Event.sent], by simp, ?_, ?_⟩
    · rintro ⟨amount, ready, enough⟩
      simp [moved amount ready, enough]
    · simp [Shows, Relay.step, received, Port.meet]

theorem simulatesRun (most : Nat) {l : Loop σ} {line : Line σ UInt8 UInt8}
    (shows : Shows receive l line) (moments : List Moment) : ∃ events,
      Relay.sent events = arrived moments ∧ (∀ event ∈ events, ∀ most, event ≠ .take most) ∧
      ((∀ m ∈ moments, Roomy most m) →
        ∀ event ∈ events, event.Roomy most) ∧
      Shows receive (run (step receive) l moments) (after (Relay.step receive) line events) := by
  induction moments generalizing l line with
  | nil => exact ⟨[], rfl, by simp, by simp, shows⟩
  | cons m rest ih =>
    obtain ⟨first, sent, left, roomy, next⟩ := simulates receive most shows m
    obtain ⟨later, sentRest, leftRest, roomyRest, last⟩ := ih next
    refine ⟨first ++ later, ?_, fun event mem => ?_, fun all event mem => ?_, ?_⟩
    · rw [Relay.sent, List.flatMap_append, ← Relay.sent, ← Relay.sent, sent, sentRest]
      rfl
    · rcases List.mem_append.mp mem with early | late
      · exact left event early
      · exact leftRest event late
    · obtain ⟨here, there⟩ := List.forall_mem_cons.mp all
      rcases List.mem_append.mp mem with early | late
      · exact roomy here event early
      · exact roomyRest there event late
    · rw [afterAppend]
      exact last

theorem loopLedger (Through : List UInt8 → List UInt8 → Prop) (most : Nat) {p : Port}
    (fresh : p.written = []) (e : σ) (moments : List Moment)
    (lets : ∀ events : List (Relay.Event UInt8), ((∀ m ∈ moments, Roomy most m) →
        ∀ event ∈ events, event.Roomy most) →
      ∀ event ∈ events, Lets receive Through event) :
    ∃ line consumed pieces, Shows receive (run (step receive) (begun p e) moments) line ∧
      Ledger receive Through e (p.unread ++ arrived moments) [] consumed pieces line := by
  have shows : Shows receive (begun p e) ⟨e, p.unread, []⟩ := by
    rw [Shows, begun]
    simp only [fresh]
  obtain ⟨events, sent, left, roomy, last⟩ := simulatesRun receive most shows moments
  have start : Ledger receive Through e p.unread [] [] [] ⟨e, p.unread, []⟩ := ⟨rfl, rfl, .nil, rfl⟩
  obtain ⟨consumed, pieces, ledger⟩ := Relay.ledgerRun start (lets events roomy)
  rw [sent, Relay.takenNone left, List.append_nil] at ledger
  exact ⟨_, consumed, pieces, last, ledger⟩

/-- Of the bytes that came, the receiver was given a beginning, each once and in order; and of
each reply one piece from its beginning is written, in order. -/
def ServedOnce (receive : σ → UInt8 → List UInt8 × σ) (e : σ) (came : List UInt8) (l : Loop σ) :
    Prop :=
  ∃ consumed pieces, consumed ++ l.port.unread = came ∧ l.device = after receive e consumed ∧
    List.Forall₂ (· <+: ·) pieces (outputs receive e consumed) ∧ l.port.written = pieces.flatten

theorem everyByteOnce {p : Port} (fresh : p.written = []) (e : σ) (moments : List Moment) :
    ServedOnce receive e (p.unread ++ arrived moments)
      (run (step receive) (begun p e) moments) := by
  generalize served : run (step receive) (begun p e) moments = l
  obtain ⟨line, consumed, pieces, shows, order, server, through, flow⟩ :=
    loopLedger receive (· <+: ·) 0 fresh e moments
      fun events _ event _ => Relay.letsPieces event
  rw [served] at shows
  unfold Shows at shows
  split at shows
  · subst shows
    exact ⟨consumed, pieces, order, server.symm, through, flow⟩
  · -- the byte whose reply is being written is given, and nothing of the reply is through
    obtain ⟨before, byte, received, _, rfl⟩ := shows
    refine ⟨consumed ++ [byte], pieces ++ [[]], ?_, ?_, ?_, ?_⟩
    · rw [List.append_assoc]
      exact order
    · rw [afterAppend, server, afterCons, received]
      rfl
    · rw [outputsAppend, server]
      exact List.rel_append through (.cons List.nil_prefix .nil)
    · rw [List.flatten_append, ← flow]
      simp

theorem everyReplyWhole {most : Nat} (short : ∀ e byte, (receive e byte).1.length ≤ most) {p : Port}
    (fresh : p.written = []) (e : σ) {moments : List Moment}
    (roomy : ∀ m ∈ moments, Roomy most m) :
    let l := run (step receive) (begun p e) moments
    (∃ start, l.doing = .reading start) → ∃ consumed,
      consumed ++ l.port.unread = p.unread ++ arrived moments ∧
      l.device = after receive e consumed ∧
      l.port.written = (outputs receive e consumed).flatten := by
  intro l reading
  obtain ⟨start, doing⟩ := reading
  obtain ⟨line, consumed, pieces, shows, order, server, through, flow⟩ :=
    loopLedger receive (· = ·) most fresh e moments
      fun events rooms event mem => Relay.letsWhole short (rooms roomy event mem)
  change Shows receive l line at shows
  simp only [Shows, doing] at shows
  subst shows
  have whole : pieces = outputs receive e consumed := List.forall₂_eq_eq_eq ▸ through
  rw [whole] at flow
  exact ⟨consumed, order, server.symm, flow⟩

def pending (l : Loop σ) : Nat :=
  2 * l.port.unread.length + match l.doing with
    | .reading _ => 0
    | .writing _ _ => 1

def Silent (m : Moment) : Prop := m.arrived = [] ∧ Roomy 1 m

theorem pendingStep {l : Loop σ} {m : Moment} (silent : Silent m) :
    pending (step receive l m) ≤ pending l - 1 := by
  obtain ⟨nothing, amount, ready, enough⟩ := silent
  have moved := stepped receive l m
  generalize step receive l m = next at moved
  cases moved with
  | waited reading start idle =>
    rcases idle with empty | unready
    · simp [pending, Port.meet, empty]
    · exact absurd ready (unready amount)
  | took reading byte rest first =>
    obtain ⟨_, doing⟩ := reading
    rw [nothing, List.append_nil] at first
    simp only [pending, doing, first, List.length_cons]
    split <;> omega
  | full packet start writing full =>
    rw [ready] at full
    cases full
    contradiction
  | wrote packet writing room moved start =>
    obtain ⟨_, doing⟩ := writing
    simp [pending, doing, Port.meet, nothing]

theorem pendingRun {l : Loop σ} {moments : List Moment} (silent : ∀ m ∈ moments, Silent m) :
    pending (run (step receive) l moments) ≤ pending l - moments.length := by
  induction moments generalizing l with
  | nil => exact Nat.le_refl _
  | cons m rest ih =>
    obtain ⟨here, later⟩ := List.forall_mem_cons.mp silent
    have first := pendingStep receive (l := l) here
    have others := ih (l := step receive l m) later
    rw [runCons, List.length_cons]
    omega

theorem pendingNone {l : Loop σ} (none : pending l = 0) :
    l.port.unread = [] ∧ ∃ start, l.doing = .reading start := by
  unfold pending at none
  split at none
  · rename_i start doing
    exact ⟨List.length_eq_zero_iff.mp (by omega), start, doing⟩
  · omega

theorem quietDelivers {l : Loop σ} {quiet : List Moment} (silent : ∀ m ∈ quiet, Silent m)
    (enough : pending l ≤ quiet.length) : (run (step receive) l quiet).port.unread = [] := by
  have spent := pendingRun receive (l := l) silent
  exact (pendingNone (by omega)).1

theorem servedThrough {most : Nat} (positive : 1 ≤ most)
    (short : ∀ e byte, (receive e byte).1.length ≤ most) {p : Port} (fresh : p.written = []) (e : σ)
    {moments quiet : List Moment} (roomy : ∀ m ∈ moments, Roomy most m)
    (silent : ∀ m ∈ quiet, m.arrived = [] ∧ Roomy most m)
    (enough : 2 * (p.unread ++ arrived moments).length < quiet.length) :
    let l := run (step receive) (begun p e) (moments ++ quiet)
    l.port.unread = [] ∧ l.device = after receive e (p.unread ++ arrived moments) ∧
    l.port.written = (outputs receive e (p.unread ++ arrived moments)).flatten := by
  intro l
  have caught : pending (run (step receive) (begun p e) (moments ++ quiet)) = 0 := by
    obtain ⟨consumed, _, order, _⟩ := everyByteOnce receive fresh e moments
    have total := congrArg List.length order
    rw [List.length_append] at total
    have bound : pending (run (step receive) (begun p e) moments) ≤
        2 * (p.unread ++ arrived moments).length + 1 := by
      unfold pending
      split <;> omega
    have ready : ∀ m ∈ quiet, Silent m := fun m mem => by
      obtain ⟨nothing, amount, ready, room⟩ := silent m mem
      exact ⟨nothing, amount, ready, Nat.le_trans positive room⟩
    have spent := pendingRun receive
      (l := run (step receive) (begun p e) moments) ready
    rw [← runAppend] at spent
    omega
  obtain ⟨empty, reading⟩ := pendingNone caught
  have all : ∀ m ∈ moments ++ quiet, Roomy most m := fun m mem => by
    rcases List.mem_append.mp mem with early | late
    · exact roomy m early
    · exact (silent m late).2
  obtain ⟨consumed, order, device, written⟩ := everyReplyWhole receive short fresh e all reading
  have silence : arrived quiet = [] := List.flatMap_eq_nil_iff.mpr fun m mem => (silent m mem).1
  have whole : consumed = p.unread ++ arrived moments := by
    rw [arrived, List.flatMap_append, ← arrived, ← arrived, silence, List.append_nil] at order
    change consumed ++ l.port.unread = _ at order
    rwa [empty, List.append_nil] at order
  rw [whole] at device written
  exact ⟨empty, device, written⟩

end Loops
end SerialDvdEmu.MainLoop
