import SerialDvdEmu.JlipLine
import SerialDvdEmu.JlipMain

/-! JLIPTest and the emulator as two programs on one serial line, with what an earlier client has
left unread on it. -/
namespace SerialDvdEmu.JlipBus
open EventRun Client
open VictorPacket (Packet)
open VictorHandlers (victorInit victorTurn)
open VictorRequests (Addressable)
open VictorFraming (Segment Clean due initClean segmentsDue)
open EmulatorMain (victorServe)
open VideoPlayer (CommandQueue)
open JlipClient (createPacket transact)
open JlipArguments (Listens transactListens)
open JlipCommands JlipMain
open JlipLine (Bus)

structure Wires (Q : Type) where
  bus : Bus Q
  turns : Nat → Nat

section Wires
variable {Q : Type} [CommandQueue Q]

def exchange (empty request : Packet) (s : Wires Q) : Packet × Wires Q :=
  let answered := JlipLine.call empty s.bus (request, s.turns 0)
  (answered.1, ⟨answered.2, fun n => s.turns (n + 1)⟩)

def serve (heap : UInt32 → Packet) {α : Type} : Asked α → Wires Q → α × Wires Q
  | .purge, s => ((), { s with bus := (Relay.step victorServe s.bus (.take s.bus.said.length)).2 })
  | .call q, s => q.through (exchange (heap q.id.id)) s
  | .raw id request, s => exchange (heap id.id) request s

def Wires.worked (s : Wires Q) (queue : Q) : Wires Q :=
  { s with bus := { s.bus with server := JlipArguments.step s.bus.server (.worked queue) } }

def visit (heap : UInt32 → Packet) (s : Wires Q) (v : Visit Q) : Option Ended × Wires Q :=
  v.program.run (serve heap) (s.worked v.queue)

structure Idle (s : Wires Q) (e : Emulator Q) : Prop where
  bus : s.bus = ⟨e, [], []⟩
  turns : ∀ n, 11 ≤ s.turns n

theorem exchangeIdle (empty : Packet) {s : Wires Q} {e : Emulator Q} (idle : Idle s e)
    (clean : Clean e.victor.packet) (request : Packet) :
    (exchange empty request s).1 = (transact empty request e).1 ∧
    Idle (exchange empty request s).2 (transact empty request e).2 := by
  obtain ⟨bus, turns⟩ := idle
  have answered : JlipLine.call empty ⟨e, [], []⟩ (request, s.turns 0) = _ :=
    JlipLine.callInTime empty clean (turns 0)
  rw [exchange, bus, answered]
  exact ⟨rfl, rfl, fun n => turns (n + 1)⟩

theorem idleAlike {dvdType : DvdType} {chapters : UInt32} (empty : Packet) (id : BusId) :
    Alike (fun (s : Wires Q) (e : Emulator Q) => Idle s e ∧ Listens dvdType chapters e)
      (exchange empty) (transact empty) id.id := by
  intro command params low s e both
  obtain ⟨idle, listens⟩ := both
  obtain ⟨reply, next⟩ := exchangeIdle empty idle listens.clean (createPacket id.id command params)
  exact ⟨reply, next, transactListens empty listens id.high low⟩

def Shows (dvdType : DvdType) (chapters : UInt32) (s : Wires Q) (p : Player) : Prop :=
  ∃ e, Idle s e ∧ Stands dvdType chapters e p

theorem busAgrees {heap : UInt32 → Packet} (blank : Blank heap)
    (raw : BusId → Packet → Player → Packet × Player) {dvdType : DvdType} {chapters : UInt32}
    (count : chapters.toNat < 2147483648) :
    Agrees Documented (Shows (Q := Q) dvdType chapters) (serve heap) (answer raw) := by
  intro β question s p allowed shows
  obtain ⟨e, idle, stands⟩ := shows
  cases question with
  | purge =>
    have purged : (Relay.step victorServe s.bus (.take s.bus.said.length)).2 = ⟨e, [], []⟩ := by
      rw [idle.bus]
      rfl
    exact ⟨rfl, e, ⟨purged, idle.turns⟩, stands⟩
  | call q =>
    obtain ⟨result, player⟩ := wireAgrees blank count q stands
    obtain ⟨same, kept, _⟩ := throughAlike q (idleAlike (heap q.id.id) q.id) ⟨idle, stands.1⟩
    exact ⟨same.trans result, _, kept, player⟩
  | raw id request => exact allowed.elim

theorem mainStarts (opened : Bool) (argv : List String) :
    (∃ ended, main opened argv = .done ended) ∨ ∃ next, main opened argv = .ask .purge next := by
  rw [main]
  by_cases converted : argv.all isAscii
  swap
  · rw [if_neg converted]
    exact .inl ⟨_, rfl⟩
  rw [if_pos converted, tmain.eq_def]
  split
  case h_5 =>
    split
    · exact .inl ⟨_, rfl⟩
    · split
      · exact .inr ⟨_, rfl⟩
      · exact .inl ⟨_, rfl⟩
  all_goals exact .inl ⟨_, rfl⟩

def Stale (dvdType : DvdType) (chapters : UInt32) (s : Wires Q) (p : Player) : Prop :=
  s.bus.waiting = [] ∧ (∀ n, 11 ≤ s.turns n) ∧ Stands dvdType chapters s.bus.server p

omit [CommandQueue Q] in
theorem showsStale {dvdType : DvdType} {chapters : UInt32} {s : Wires Q} {p : Player}
    (shows : Shows dvdType chapters s p) : Stale dvdType chapters s p := by
  obtain ⟨e, ⟨bus, turns⟩, stands⟩ := shows
  refine ⟨?_, turns, ?_⟩
  · rw [bus]
  · rw [bus]
    exact stands

theorem visitAgrees {heap : UInt32 → Packet} (blank : Blank heap)
    (raw : BusId → Packet → Player → Packet × Player) {dvdType : DvdType} {chapters : UInt32}
    (count : chapters.toNat < 2147483648) (v : Visit Q) (s : Wires Q) (p : Player)
    (stale : Stale dvdType chapters s p) :
    (visit heap s v).1 = (meant raw p v).1 ∧
    Stale dvdType chapters (visit heap s v).2 (meant raw p v).2 := by
  obtain ⟨caught, turns, h, rfl⟩ := stale
  have listens := JlipArguments.stepListens h (.worked v.queue)
  have asks := mainAsks v.opened v.plain
  rw [visit, meant, told, Invocation.program]
  rcases mainStarts v.opened v.argv with ⟨ended, nothing⟩ | ⟨next, purges⟩
  · rw [nothing]
    exact ⟨rfl, caught, turns, listens, rfl⟩
  · rw [purges] at asks ⊢
    have purged : Shows dvdType chapters (serve heap .purge (s.worked v.queue)).2
        (playerOf s.bus.server) := by
      refine ⟨_, ⟨?_, turns⟩, listens, rfl⟩
      simp [serve, Wires.worked, Relay.step, caught]
    obtain ⟨ended, shows⟩ := runAgrees (busAgrees blank raw count) (asks.2 ()) purged
    exact ⟨ended, showsStale shows⟩

theorem segmentsListen {dvdType : DvdType} {chapters : UInt32} {e : Emulator Q}
    (h : Listens dvdType chapters e) (segments : List Segment) :
    Listens dvdType chapters (after victorTurn e (segments.flatMap Segment.bytes)) := by
  induction segments generalizing e with
  | nil => exact h
  | cons segment rest ih =>
    rw [List.flatMap_cons, afterAppend]
    exact ih (JlipArguments.stepListens h (.input segment))

end Wires
end SerialDvdEmu.JlipBus
