import Mathlib.Data.List.Basic
import SerialDvdEmu.Base.Attempt

/-! The serial port under both programs. It is opened without blocking, so ReadFile and WriteFile
try again for a second while the driver has no data or no room. -/
namespace SerialDvdEmu.SerialPort
open EventRun Attempt

inductive Errno where
  | again
  | io
  deriving DecidableEq, Repr

inductive Driver where
  | ready (amount : Nat)
  | hungUp
  | failed
  deriving DecidableEq, Repr

/-- What one system call meets: what has come in by then, and what getMS says after it. -/
structure Moment where
  arrived : List UInt8
  now : UInt64
  driver : Driver
  deriving DecidableEq, Repr

def arrived (moments : List Moment) : List UInt8 := moments.flatMap Moment.arrived

structure Port where
  clock : UInt64
  unread : List UInt8
  written : List UInt8
  deriving DecidableEq, Repr

def Port.meet (p : Port) (m : Moment) : Port :=
  { p with clock := m.now, unread := p.unread ++ m.arrived }

def read (length : Nat) (p : Port) (m : Moment) : Except Errno (List UInt8) × Port :=
  let p := p.meet m
  match m.driver with
  | .failed => (.error .io, p)
  | .hungUp => (.ok [], p)
  | .ready amount =>
    if p.unread = [] then (.error .again, p)
    else
      let amount := min length (amount + 1)
      (.ok (p.unread.take amount), { p with unread := p.unread.drop amount })

def write (buf : List UInt8) (p : Port) (m : Moment) : Except Errno Nat × Port :=
  let p := p.meet m
  match m.driver with
  | .failed | .hungUp => (.error .io, p)
  | .ready amount =>
    if amount = 0 then (.error .again, p)
    else (.ok (min amount buf.length), { p with written := p.written ++ buf.take amount })

def waitTime : UInt64 := 1000

section Retry
variable {α : Type} (call : Port → Moment → Except Errno α × Port)

/-- One pass of the loop that ReadFile and WriteFile share. `none` tries again, `some none` is
returning false. -/
def pass (start : UInt64) (p : Port) (m : Moment) : Option (Option α) × Port :=
  match call p m with
  | (.ok amount, p) => (some (some amount), p)
  | (.error .again, p) => (if p.clock - start > waitTime then some none else none, p)
  | (.error .io, p) => (some none, p)

def file (moments : List Moment) (p : Port) : Option (Option α × Port × List Moment) :=
  attempts (pass call p.clock) p moments

end Retry

def readFile (length : Nat) := file (read length)

def readSerial (length : Nat) (moments : List Moment) (p : Port) :
    Option (List UInt8 × Port × List Moment) :=
  (readFile length moments p).map fun returned => (returned.1.getD [], returned.2)

def Waits (start : UInt64) (p : Port) (m : Moment) : Prop :=
  p.unread = [] ∧ m.arrived = [] ∧ (∃ amount, m.driver = .ready amount) ∧ m.now - start ≤ waitTime

inductive Passed (length : Nat) (start : UInt64) (p : Port) (m : Moment) :
    Option (Option (List UInt8)) × Port → Prop where
  | waits (waits : Waits start p m) : Passed length start p m (none, p.meet m)
  | late (nothing : p.unread ++ m.arrived = []) (late : m.now - start > waitTime) :
      Passed length start p m (some none, p.meet m)
  | failed (failed : m.driver = .failed) : Passed length start p m (some none, p.meet m)
  | hungUp (hungUp : m.driver = .hungUp) : Passed length start p m (some (some []), p.meet m)
  | took (amount : Nat) (ready : m.driver = .ready amount) (something : p.unread ++ m.arrived ≠ []) :
      Passed length start p m
        (some (some ((p.unread ++ m.arrived).take (min length (amount + 1)))),
          { p.meet m with unread := (p.unread ++ m.arrived).drop (min length (amount + 1)) })

theorem readReady (length : Nat) {p : Port} {m : Moment} {amount : Nat}
    (ready : m.driver = .ready amount) : read length p m =
      if p.unread ++ m.arrived = [] then (.error .again, p.meet m)
      else (.ok ((p.unread ++ m.arrived).take (min length (amount + 1))),
        { p.meet m with unread := (p.unread ++ m.arrived).drop (min length (amount + 1)) }) := by
  simp only [read, ready]
  rfl

theorem readPassed (length : Nat) (start : UInt64) (p : Port) (m : Moment) :
    Passed length start p m (pass (read length) start p m) := by
  cases driver : m.driver with
  | hungUp =>
    have called : read length p m = (.ok [], p.meet m) := by simp only [read, driver]
    simp only [pass, called]
    exact .hungUp driver
  | failed =>
    have called : read length p m = (.error .io, p.meet m) := by simp only [read, driver]
    simp only [pass, called]
    exact .failed driver
  | ready amount =>
    by_cases nothing : p.unread ++ m.arrived = []
    · have called := (readReady length driver).trans (if_pos nothing)
      simp only [pass, called]
      by_cases late : m.now - start > waitTime
      · rw [Port.meet, if_pos late]
        exact .late nothing late
      · obtain ⟨unread, coming⟩ := List.append_eq_nil_iff.mp nothing
        rw [Port.meet, if_neg late]
        exact .waits ⟨unread, coming, ⟨amount, driver⟩, UInt64.not_lt.mp late⟩
    · have called := (readReady length driver).trans (if_neg nothing)
      simp only [pass, called]
      exact .took amount driver nothing

inductive Wrote (buf : List UInt8) (p : Port) (m : Moment) :
    Option (Option Nat) × Port → Prop where
  | waits (full : m.driver = .ready 0) : Wrote buf p m (none, p.meet m)
  | gaveUp (unready : ∀ amount, m.driver = .ready amount → amount = 0) :
      Wrote buf p m (some none, p.meet m)
  | wrote (amount : Nat) (ready : m.driver = .ready amount) (room : amount ≠ 0) :
      Wrote buf p m (some (some (min amount buf.length)),
        { p.meet m with written := p.written ++ buf.take amount })

theorem writePassed (buf : List UInt8) (start : UInt64) (p : Port) (m : Moment) :
    Wrote buf p m (pass (write buf) start p m) := by
  cases driver : m.driver with
  | hungUp =>
    have called : write buf p m = (.error .io, p.meet m) := by simp only [write, driver]
    simp only [pass, called]
    exact .gaveUp (by simp [driver])
  | failed =>
    have called : write buf p m = (.error .io, p.meet m) := by simp only [write, driver]
    simp only [pass, called]
    exact .gaveUp (by simp [driver])
  | ready amount =>
    by_cases full : amount = 0
    · have called : write buf p m = (.error .again, p.meet m) := by
        simp only [write, driver, if_pos full]
      simp only [pass, called]
      split
      · exact .gaveUp (by simp [driver, full])
      · exact .waits (by rw [driver, full])
    · have called : write buf p m = (.ok (min amount buf.length),
          { p.meet m with written := p.written ++ buf.take amount }) := by
        simp only [write, driver, if_neg full]
        rfl
      simp only [pass, called]
      exact .wrote amount driver full

theorem passWaits {length : Nat} {start : UInt64} {p : Port} {m : Moment}
    (none : (pass (read length) start p m).1 = none) : Waits start p m := by
  have passed := readPassed length start p m
  generalize pass (read length) start p m = returned at passed none
  cases passed with
  | waits waits => exact waits
  | late nothing late => contradiction
  | failed failed => contradiction
  | hungUp hungUp => contradiction
  | took amount ready something => contradiction

theorem passRead (length : Nat) (start : UInt64) (p : Port) (m : Moment) :
    let returned := pass (read length) start p m
    (returned.1.getD none).getD [] ++ returned.2.unread = p.unread ++ m.arrived ∧
    ((returned.1.getD none).getD []).length ≤ length ∧
    returned.2.written = p.written ∧ returned.2.clock = m.now := by
  have passed := readPassed length start p m
  generalize pass (read length) start p m = returned at passed
  cases passed with
  | waits waits => exact ⟨rfl, Nat.zero_le _, rfl, rfl⟩
  | late nothing late => exact ⟨rfl, Nat.zero_le _, rfl, rfl⟩
  | failed failed => exact ⟨rfl, Nat.zero_le _, rfl, rfl⟩
  | hungUp hungUp => exact ⟨rfl, Nat.zero_le _, rfl, rfl⟩
  | took amount ready something =>
    refine ⟨List.take_append_drop _ _, ?_, rfl, rfl⟩
    exact Nat.le_trans (List.length_take_le _ _) (Nat.min_le_left _ _)

theorem returnedLoud {length : Nat} {start : UInt64} {p p' : Port} {m : Moment}
    {value : Option (List UInt8)} (passed : Passed length start p m (some value, p')) :
    ¬ Waits start p m := by
  rintro ⟨unread, coming, ⟨amount, ready⟩, early⟩
  cases passed with
  | late nothing late => exact absurd late (UInt64.not_lt.mpr early)
  | failed failed => rw [ready] at failed; contradiction
  | hungUp hungUp => rw [ready] at hungUp; contradiction
  | took amount ready something => exact something (List.append_eq_nil_iff.mpr ⟨unread, coming⟩)

theorem returnedEmpty {length : Nat} (positive : 0 < length) {start : UInt64} {p p' : Port}
    {m : Moment} {value : Option (List UInt8)}
    (passed : Passed length start p m (some value, p')) : value.getD [] = [] ↔
      m.driver = .hungUp ∨ m.driver = .failed ∨ p.unread ++ m.arrived = [] := by
  cases passed with
  | late nothing late => exact iff_of_true rfl (.inr (.inr nothing))
  | failed failed => exact iff_of_true rfl (.inr (.inl failed))
  | hungUp hungUp => exact iff_of_true rfl (.inl hungUp)
  | took amount ready something =>
    refine iff_of_false (fun empty => ?_) (by simp [ready, something])
    rcases List.take_eq_nil_iff.mp empty with none | nothing
    · omega
    · exact something nothing

theorem waited {length : Nat} {start : UInt64} {p : Port} {moments : List Moment}
    (quiet : ∀ o ∈ outputs (pass (read length) start) p moments, o = none) :
    (∀ m ∈ moments, Waits start p m) ∧
    (after (pass (read length) start) p moments).unread = p.unread ∧
    (after (pass (read length) start) p moments).written = p.written := by
  induction moments generalizing p with
  | nil => exact ⟨by simp, rfl, rfl⟩
  | cons m rest ih =>
    rw [outputs, List.forall_mem_cons] at quiet
    have waits := passWaits quiet.1
    obtain ⟨kept, _, written, _⟩ := passRead length start p m
    rw [quiet.1, waits.1, waits.2.1] at kept
    have unread : (pass (read length) start p m).2.unread = p.unread := by simpa [waits.1] using kept
    obtain ⟨later, unreadRest, writtenRest⟩ := ih quiet.2
    refine ⟨List.forall_mem_cons.mpr ⟨waits, fun q mem => ?_⟩, unreadRest.trans unread,
      writtenRest.trans written⟩
    exact ⟨waits.1, (later q mem).2⟩

def ReadAs (length : Nat) (moments : List Moment) (p : Port) :
    Option (List UInt8 × Port × List Moment) → Prop
  | none => ∀ m ∈ moments, Waits p.clock p m
  | some (data, p', rest) => ∃ before m, moments = before ++ m :: rest ∧
      (∀ q ∈ before, Waits p.clock p q) ∧ ¬ Waits p.clock p m ∧
      data ++ p'.unread = p.unread ++ arrived (before ++ [m]) ∧ data.length ≤ length ∧
      p'.written = p.written ∧ p'.clock = m.now ∧
      (data = [] ↔ m.driver = .hungUp ∨ m.driver = .failed ∨ p.unread ++ m.arrived = [])

theorem serialRead {length : Nat} (positive : 0 < length) (moments : List Moment) (p : Port) :
    ReadAs length moments p (readSerial length moments p) := by
  cases result : readFile length moments p with
  | none =>
    have quiet := attemptsNone.mp result
    rw [readSerial, result]
    exact (waited quiet).1
  | some returned =>
    obtain ⟨value, p', rest⟩ := returned
    obtain ⟨before, m, split, quiet, last⟩ := attemptsIff.mp result
    obtain ⟨waits, unread, written⟩ := waited quiet
    rw [readSerial, result, Option.map_some]
    generalize after (pass (read length) p.clock) p before = q at unread written last
    have silent : arrived before = [] := List.flatMap_eq_nil_iff.mpr fun q mem => (waits q mem).2.1
    have coming : arrived (before ++ [m]) = m.arrived := by
      rw [arrived, List.flatMap_append, ← arrived, silent]
      simp
    obtain ⟨kept, short, unwritten, clock⟩ := passRead length p.clock q m
    have passed := readPassed length p.clock q m
    rw [last] at kept short unwritten clock passed
    have loud := returnedLoud passed
    have empty := returnedEmpty positive passed
    rw [unread, ← coming] at kept
    rw [unread] at empty
    rw [Waits, unread] at loud
    exact ⟨before, m, split, waits, loud, kept, short, unwritten.trans written, clock, empty⟩

theorem serialReadBegun : ReadAs 11
    [⟨[], 5, .ready 64⟩, ⟨[0xFC, 0xFF, 0x21], 9, .ready 1⟩, ⟨[0x03], 10, .ready 64⟩] ⟨0, [], []⟩
    (some ([0xFC, 0xFF], ⟨9, [0x21], []⟩, [⟨[0x03], 10, .ready 64⟩])) :=
  serialRead (by decide) _ _

end SerialDvdEmu.SerialPort
