import SerialDvdEmu.VideoQueue

/-! VideoThread against the pushes of the main thread. One `work` is one uninterrupted stretch
of the worker: the unlocked test of `queue_pos`, the locked removal, or the performing of what
was removed. The unbounded list queue runs under the same worker; it says what the array must
do while the backlog stays within it, and exactly when the array is overrun. -/
namespace SerialDvdEmu.VideoThread
open EventRun
open VideoQueue

structure Playback where
  clip : Nat
  paused : Bool
  deriving DecidableEq, Repr

def perform (loaded : Option Playback) : Instr → Option Playback
  | .stop => match loaded with
    | some _ => none
    | none => none
  | .pause => loaded.map (fun player => { player with paused := !player.paused })
  | .unpause => loaded.map (fun player => { player with paused := !player.paused })
  | .play arg => match loaded with
    | some player => some player
    | none => some ⟨arg.toNat, false⟩

@[simp] theorem performStop (loaded : Option Playback) : perform loaded .stop = none := by
  cases loaded <;> rfl

@[simp] theorem performPlay (arg : UInt8) : perform none (.play arg) = some ⟨arg.toNat, false⟩ := rfl

@[simp] theorem performPause (player : Playback) :
    perform (some player) .pause = some ⟨player.clip, !player.paused⟩ := rfl

@[simp] theorem performUnpause (player : Playback) :
    perform (some player) .unpause = some ⟨player.clip, !player.paused⟩ := rfl

inductive Phase where
  | polling
  | locking
  | performing (instr : Instr)
  deriving DecidableEq, Repr

def Phase.held : Phase → List Instr
  | .performing instr => [instr]
  | .polling | .locking => []

structure Worker where
  phase : Phase
  loaded : Option Playback
  deriving DecidableEq, Repr

class Buffer (B : Type) where
  push : B → Opcode → UInt32 → B
  waiting : B → Bool
  dequeue : B → B × Option Instr
  pending : B → List Instr

instance : Buffer ByteQueue where
  push := ByteQueue.videoThreadAction
  waiting q := decide (q.queuePos > 0)
  dequeue := ByteQueue.dequeue
  pending := ByteQueue.pending

/-- The queue without storage: whole instructions, any number of them. `peak` is the largest
backlog in bytes that any push has left. -/
structure Fifo where
  instrs : List Instr
  peak : Nat

def Fifo.push (q : Fifo) (opcode : Opcode) (argument : UInt32) : Fifo :=
  let instrs := q.instrs ++ [.of opcode argument.toUInt8]
  ⟨instrs, max q.peak (instrCode.encodeAll instrs).length⟩

def Fifo.dequeue (q : Fifo) : Fifo × Option Instr := match q.instrs with
  | [] => (q, none)
  | instr :: rest => ({ q with instrs := rest }, some instr)

instance : Buffer Fifo where
  push := Fifo.push
  waiting q := !q.instrs.isEmpty
  dequeue := Fifo.dequeue
  pending := Fifo.instrs

/-- `schedule` says how many steps the worker takes while the main thread waits for the lock,
one entry for each push to come and none once it is used up. -/
structure Threads (B : Type) where
  buffer : B
  worker : Worker
  schedule : List Nat

namespace Threads
variable {B : Type} [Buffer B]

def work (t : Threads B) : Threads B := match t.worker.phase with
  | .polling =>
    if Buffer.waiting t.buffer then { t with worker := { t.worker with phase := .locking } } else t
  | .locking =>
    let taken := Buffer.dequeue t.buffer
    { t with
      buffer := taken.1
      worker := { t.worker with phase := match taken.2 with
        | some instr => .performing instr
        | none => .polling } }
  | .performing instr =>
    { t with worker := ⟨.polling, perform t.worker.loaded instr⟩ }

inductive Event where
  | push (opcode : Opcode) (argument : UInt32)
  | work
  deriving DecidableEq, Repr

def step (t : Threads B) : Event → Threads B
  | .push opcode argument => { t with buffer := Buffer.push t.buffer opcode argument }
  | .work => t.work

def yield (t : Threads B) : Threads B := match t.schedule with
  | [] => t
  | steps :: rest => run step { t with schedule := rest } (List.replicate steps .work)

def action (t : Threads B) (opcode : Opcode) (argument : UInt32) : Threads B :=
  t.yield.step (.push opcode argument)

def awaiting (t : Threads B) : List Instr := t.worker.phase.held ++ Buffer.pending t.buffer

def drained (t : Threads B) : Option Playback := run perform t.worker.loaded t.awaiting

def decodes (t : Threads B) : Event → List Instr
  | .push _ _ => []
  | .work => match t.worker.phase with
    | .locking => (Buffer.dequeue t.buffer).2.toList
    | .polling | .performing _ => []

def decoded (t : Threads B) (events : List Event) : List Instr :=
  (outputs (fun t e => (decodes t e, step t e)) t events).flatten

end Threads

def Threads.Event.pushed : Threads.Event → Option Instr
  | .push opcode argument => some (.of opcode (UInt8.ofNat (argument.toNat % 256)))
  | .work => none

def videoThreads (schedule : List Nat) : Threads ByteQueue :=
  ⟨ByteQueue.init, ⟨.polling, none⟩, schedule⟩

def fifoThreads (schedule : List Nat) : Threads Fifo := ⟨⟨[], 0⟩, ⟨.polling, none⟩, schedule⟩

structure Matches (t : Threads ByteQueue) (f : Threads Fifo) : Prop where
  holds : t.buffer.Holds f.buffer.instrs
  peak : f.buffer.peak ≤ 256
  worker : t.worker = f.worker
  schedule : t.schedule = f.schedule
  -- only the worker removes, so what its unlocked test saw is still there
  tested : f.worker.phase = .locking → f.buffer.instrs ≠ []

def Related (t : Threads ByteQueue) (f : Threads Fifo) : Prop :=
  Matches t f ∨ t.buffer.overrun = true ∧ 256 < f.buffer.peak

theorem initialMatches (schedule : List Nat) :
    Matches (videoThreads schedule) (fifoThreads schedule) :=
  ⟨ByteQueue.initHolds, Nat.zero_le _, rfl, rfl, by simp [fifoThreads]⟩

theorem Matches.waiting {t f} (m : Matches t f) :
    Buffer.waiting t.buffer = Buffer.waiting f.buffer := by
  have backlog := m.holds.backlog
  cases instrs : f.buffer.instrs with
  | nil => simp_all [Buffer.waiting, UInt32.lt_iff_toNat_lt]
  | cons instr rest =>
    have := List.length_pos_iff.mpr (instrCode.nonempty instr)
    rw [instrs, PrefixCode.encodeAllCons, List.length_append] at backlog
    simp [Buffer.waiting, instrs, UInt32.lt_iff_toNat_lt]
    omega

theorem Matches.push {t f} (m : Matches t f) (opcode argument) :
    Related (t.step (.push opcode argument)) (f.step (.push opcode argument)) := by
  by_cases room : (instrCode.encodeAll
      (f.buffer.instrs ++ [.of opcode argument.toUInt8])).length ≤ 256
  · left
    exact ⟨ByteQueue.actionHolds m.holds room, Nat.max_le.mpr ⟨m.peak, room⟩, m.worker,
      m.schedule, by simp [Threads.step, Buffer.push, Fifo.push]⟩
  · right
    have full := Nat.not_le.mp room
    exact ⟨ByteQueue.actionOverruns m.holds full, Nat.lt_of_lt_of_le full (Nat.le_max_right _ _)⟩

theorem Matches.work {t f} (m : Matches t f) : Matches t.work f.work := by
  have phase : t.worker.phase = f.worker.phase := congrArg Worker.phase m.worker
  have loaded : t.worker.loaded = f.worker.loaded := congrArg Worker.loaded m.worker
  unfold Threads.work
  cases h : f.worker.phase with
  | polling =>
    simp only [phase, h, m.waiting]
    split
    · rename_i waits
      refine ⟨m.holds, m.peak, by simp [loaded], m.schedule, fun _ empty => ?_⟩
      simp only at empty
      simp [Buffer.waiting, empty] at waits
    · exact m
  | locking =>
    simp only [phase, h]
    cases instrs : f.buffer.instrs with
    | nil => exact absurd instrs (m.tested h)
    | cons instr rest =>
      obtain ⟨decoded, holds, _⟩ := ByteQueue.dequeueHolds (instrs ▸ m.holds)
      have list : Buffer.dequeue f.buffer = ({ f.buffer with instrs := rest }, some instr) := by
        simp [Buffer.dequeue, Fifo.dequeue, instrs]
      have array : (Buffer.dequeue t.buffer).2 = some instr := decoded
      simp only [list, array]
      exact ⟨holds, m.peak, by simp [loaded], m.schedule, by simp⟩
  | performing instr =>
    simp only [phase, h]
    exact ⟨m.holds, m.peak, by simp [loaded], m.schedule, by simp⟩

theorem workOverrun (t : Threads ByteQueue) : t.work.buffer.overrun = t.buffer.overrun := by
  unfold Threads.work
  split
  · split <;> rfl
  · rfl
  · rfl

theorem overrunSticky {t : Threads ByteQueue} (bad : t.buffer.overrun = true) (e) :
    (t.step e).buffer.overrun = true := by
  cases e with
  | push opcode argument => exact ByteQueue.actionSticky bad opcode argument
  | work => exact (workOverrun t).trans bad

theorem peakMonotone (f : Threads Fifo) (e) : f.buffer.peak ≤ (f.step e).buffer.peak := by
  cases e with
  | push opcode argument => exact Nat.le_max_left _ _
  | work =>
    simp only [Threads.step, Threads.work]
    split
    · split <;> exact Nat.le_refl _
    · cases instrs : f.buffer.instrs <;> simp [Buffer.dequeue, Fifo.dequeue, instrs]
    · exact Nat.le_refl _

theorem Related.step {t f} (r : Related t f) (e) : Related (t.step e) (f.step e) := by
  rcases r with m | ⟨bad, high⟩
  · cases e with
    | push opcode argument => exact m.push opcode argument
    | work => exact .inl m.work
  · exact .inr ⟨overrunSticky bad e, Nat.lt_of_lt_of_le high (peakMonotone f e)⟩

theorem Related.run {t f} (r : Related t f) (events) :
    Related (run Threads.step t events) (run Threads.step f events) :=
  runRelated Related (fun _ _ e r => Related.step r e) r events

theorem Related.overrunIff {t f} (r : Related t f) :
    t.buffer.overrun = true ↔ 256 < f.buffer.peak := by
  rcases r with m | ⟨bad, high⟩
  · have := m.peak
    simp [m.holds.sound]
    omega
  · simp [bad, high]

theorem Related.matches {t f} (r : Related t f) (sound : t.buffer.overrun = false) :
    Matches t f := by
  rcases r with m | ⟨bad, _⟩
  · exact m
  · rw [sound] at bad; contradiction

theorem Matches.decodes {t f} (m : Matches t f) (e) : t.decodes e = f.decodes e := by
  cases e with
  | push opcode argument => rfl
  | work =>
    have phase : t.worker.phase = f.worker.phase := congrArg Worker.phase m.worker
    simp only [Threads.decodes, phase]
    cases h : f.worker.phase with
    | polling => rfl
    | performing instr => rfl
    | locking =>
      cases instrs : f.buffer.instrs with
      | nil => exact absurd instrs (m.tested h)
      | cons instr rest =>
        obtain ⟨decoded, _⟩ := ByteQueue.dequeueHolds (instrs ▸ m.holds)
        simp [Buffer.dequeue, Fifo.dequeue, instrs, decoded]

@[simp] theorem decodedCons {B : Type} [Buffer B] (t : Threads B) (e events) :
    t.decoded (e :: events) = t.decodes e ++ (t.step e).decoded events := rfl

theorem Matches.decoded {t f} (m : Matches t f) {events}
    (sound : (run Threads.step t events).buffer.overrun = false) :
    t.decoded events = f.decoded events := by
  induction events generalizing t f with
  | nil => rfl
  | cons e rest ih =>
    have clean : (t.step e).buffer.overrun = false := by
      have unfaulted : ¬ (run Threads.step (t.step e) rest).buffer.overrun = true := by
        simpa using sound
      simpa using runUnfaulted (fun t : Threads ByteQueue => t.buffer.overrun = true)
        (fun _ e bad => overrunSticky bad e) unfaulted
    rw [decodedCons, decodedCons, m.decodes e, ih ((Related.step (.inl m) e).matches clean) sound]

theorem fifoStep (f : Threads Fifo) (e) :
    f.buffer.instrs ++ e.pushed.toList = f.decodes e ++ (f.step e).buffer.instrs := by
  cases e with
  | push opcode argument =>
    have stored : UInt8.ofNat (argument.toNat % 256) = argument.toUInt8 := by
      apply UInt8.toNat_inj.mp
      simp
    simp [Threads.Event.pushed, Threads.decodes, Threads.step, Buffer.push, Fifo.push, stored]
  | work =>
    simp only [Threads.Event.pushed, Threads.decodes, Threads.step, Threads.work]
    cases f.worker.phase with
    | polling => simp; split <;> rfl
    | performing instr => simp
    | locking => cases instrs : f.buffer.instrs <;> simp [Buffer.dequeue, Fifo.dequeue, instrs]

theorem fifoRun (f : Threads Fifo) (events : List Threads.Event) :
    f.buffer.instrs ++ events.filterMap Threads.Event.pushed =
      f.decoded events ++ (run Threads.step f events).buffer.instrs := by
  induction events generalizing f with
  | nil => simp [Threads.decoded, outputs]
  | cons e rest ih =>
    have head : (e :: rest).filterMap Threads.Event.pushed =
        e.pushed.toList ++ rest.filterMap Threads.Event.pushed := by
      cases h : e.pushed <;> simp [h]
    rw [head, ← List.append_assoc, fifoStep, List.append_assoc, ih, ← List.append_assoc,
      decodedCons, runCons]

theorem queueIsFaithfulFifo (schedule : List Nat) (events : List Threads.Event)
    (fits : (run Threads.step (videoThreads schedule) events).buffer.overrun = false) :
    let t := run Threads.step (videoThreads schedule) events
    (videoThreads schedule).decoded events ++ t.buffer.pending =
      events.filterMap Threads.Event.pushed ∧
    (t.worker.phase = .locking →
      (∃ opcode : Opcode, t.buffer.head = opcode.code) ∧
      ((ByteQueue.removed t.buffer.head).toNat = 1 ∨
        (ByteQueue.removed t.buffer.head).toNat = 2) ∧
      (ByteQueue.removed t.buffer.head).toNat ≤ t.buffer.queuePos.toNat ∧
      0 < t.buffer.queuePos.toNat) := by
  intro t
  have m : Matches t (run Threads.step (fifoThreads schedule) events) :=
    ((Related.run (.inl (initialMatches schedule))) events).matches fits
  refine ⟨?_, fun locking => ?_⟩
  · rw [m.holds.pending, (initialMatches schedule).decoded fits]
    exact (fifoRun (fifoThreads schedule) events).symm
  · have waits := m.tested (by rw [← m.worker]; exact locking)
    obtain ⟨instr, rest, instrs⟩ := List.exists_cons_of_ne_nil waits
    obtain ⟨_, _, opcode, amount, inside⟩ := ByteQueue.dequeueHolds (instrs ▸ m.holds)
    have size := encodeSize instr
    exact ⟨opcode, by omega, inside, by omega⟩

theorem queueIsFaithfulFifoSeek :
    let events := [.push .stop 0, .push .play 258, .work, .work, .work, .push .pause 0, .work]
    let t := run Threads.step (videoThreads []) events
    (videoThreads []).decoded events ++ t.buffer.pending = [.stop, .play 2, .pause] ∧
    (ByteQueue.removed t.buffer.head).toNat ≤ t.buffer.queuePos.toNat :=
  have faithful := queueIsFaithfulFifo []
    [.push .stop 0, .push .play 258, .work, .work, .work, .push .pause 0, .work] (by decide)
  ⟨faithful.1, (faithful.2 (by decide)).2.2.1⟩

end SerialDvdEmu.VideoThread
