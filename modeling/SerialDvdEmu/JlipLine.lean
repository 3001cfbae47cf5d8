import SerialDvdEmu.EmulatorMain
import SerialDvdEmu.JlipClient

/-! The client and the emulator with the bytes of both directions under way: main's loop is a
server between the two lines, and the client may read before all of a reply, or any of it, has
come. The protocol numbers nothing, so a reply belongs to a request by its place alone. -/
namespace SerialDvdEmu.JlipLine
open EventRun
open VictorPacket (Packet)
open VictorHandlers VictorFraming EmulatorMain
open VideoPlayer (CommandQueue)

variable {Q : Type} [CommandQueue Q]

abbrev Bus (Q : Type) := Relay.Line (Emulator Q) UInt8 UInt8

def Roomy (events : List (Relay.Event UInt8)) : Prop := ∀ event ∈ events, event.Roomy 11

instance (events : List (Relay.Event UInt8)) : Decidable (Roomy events) :=
  List.decidableBAll (fun event : Relay.Event UInt8 => event.Roomy 11) events

theorem roomyLets {events : List (Relay.Event UInt8)} (roomy : Roomy events) :
    ∀ event ∈ events, Relay.Lets (victorServe (Q := Q)) (· = ·) event :=
  fun event mem => Relay.letsWhole victorShort (roomy event mem)

def replies (e : Emulator Q) (segments : List Segment) : List Packet :=
  (outputs due e segments).flatten.filterMap Prod.snd

theorem writtenSolid (results : List (Bool × Option Packet)) :
    Relay.solid (results.map fun turn => written turn.2) =
      (results.filterMap Prod.snd).map Vector.toList ∧
    (results.map fun turn => written turn.2).flatten =
      (results.filterMap Prod.snd).flatMap Vector.toList := by
  induction results with
  | nil => exact ⟨rfl, rfl⟩
  | cons turn rest ih =>
    obtain ⟨received, reply⟩ := turn
    rw [Relay.solid] at ih ⊢
    cases reply with
    | none => simp [ih]
    | some reply =>
      have some : reply.toList ≠ [] := by
        rw [← List.length_pos_iff]
        simp
      simp [ih, some]

theorem serveReplies {e d : Emulator Q} (same : SameDevice d e) (clean : Clean e.victor.packet)
    (segments : List Segment) :
    Relay.solid (outputs victorServe e (segments.flatMap Segment.bytes)) =
      (replies d segments).map Vector.toList ∧
    (outputs victorServe e (segments.flatMap Segment.bytes)).flatten =
      (replies d segments).flatMap Vector.toList := by
  obtain ⟨results, _⟩ := segmentsDue same clean segments
  rw [(victorOutputs e _).1, results]
  exact writtenSolid _

theorem serveUniform (e : Emulator Q) (bytes : List UInt8) :
    ∀ answer ∈ outputs victorServe e bytes, answer = [] ∨ answer.length = 11 := by
  rw [(victorOutputs e bytes).1]
  intro answer mem
  obtain ⟨turn, _, rfl⟩ := List.mem_map.mp mem
  cases reply : turn.2 with
  | none => exact .inl rfl
  | some reply => exact .inr (by simp [written])

omit [CommandQueue Q] in
theorem freshSame (e : Emulator Q) : SameDevice e e := ⟨rfl, rfl, rfl, rfl, rfl⟩

section Order

theorem repliesInOrder [Scanf] (e : Emulator Q) (dvdType : DvdType) (segments : List Segment)
    {events : List (Relay.Event UInt8)}
    (sends : Relay.sent events <+: segments.flatMap Segment.bytes) (roomy : Roomy events) :
    let start := victorInit dvdType e
    Relay.taken victorServe ⟨start, [], []⟩ events <+:
      (replies start segments).flatMap Vector.toList := by
  intro start
  have taken : Relay.taken victorServe ⟨start, [], []⟩ events <+:
      (outputs victorServe start (Relay.sent events)).flatten :=
    Relay.takenInOrder (roomyLets roomy)
  obtain ⟨unsent, whole⟩ := sends
  rw [← (serveReplies (freshSame start) (initClean e dvdType) segments).2, ← whole, outputsAppend,
    List.flatten_append]
  exact taken.trans (List.prefix_append _ _)

theorem replyReadNext [Scanf] (e : Emulator Q) (dvdType : DvdType) (segments : List Segment)
    {events : List (Relay.Event UInt8)}
    (sends : Relay.sent events = segments.flatMap Segment.bytes) (roomy : Roomy events) :
    let start := victorInit dvdType e
    let reads := outputs (Relay.step victorServe) ⟨start, [], []⟩ events
    (∀ read ∈ reads, read = [] ∨ read.length = 11) →
      ∀ i got, reads[i]? = some got → got ≠ [] →
        ∃ reply, (replies start segments)[(Relay.solid (reads.take i)).length]? = some reply ∧
          got = reply.toList := by
  intro start reads uncut i got here something
  have place := Relay.takenAt (by decide) (roomyLets roomy) (serveUniform start _) uncut here
    something
  rw [sends, (serveReplies (freshSame start) (initClean e dvdType) segments).1,
    List.getElem?_map] at place
  obtain ⟨reply, due, same⟩ := Option.map_eq_some_iff.mp place
  exact ⟨reply, due, same.symm⟩

end Order

section Calls
variable (empty : Packet)

def filled (bytes : List UInt8) : Packet := Vector.ofFn fun i => bytes[i.val]?.getD (empty.get i)

def exchange (request : Packet) (turns : Nat) : List (Relay.Event UInt8) :=
  .send request.toList :: List.replicate turns (.serve 11) ++ [.take 11]

def call (bus : Bus Q) (c : Packet × Nat) : Packet × Bus Q :=
  (filled empty (Relay.taken victorServe bus (exchange c.1 c.2)),
    after (Relay.step victorServe) bus (exchange c.1 c.2))

theorem filledWhole (reply : Packet) : filled empty reply.toList = reply := by
  ext i inside
  simp [filled]

theorem filledNone : filled empty [] = empty := by
  refine Vector.ext fun i inside => ?_
  rw [filled, Vector.getElem_ofFn]
  rfl

theorem callInTime {e : Emulator Q} (clean : Clean e.victor.packet) {request : Packet} {turns : Nat}
    (enough : 11 ≤ turns) : call empty ⟨e, [], []⟩ (request, turns) =
      ((JlipClient.transact empty request e).1,
        ⟨(JlipClient.transact empty request e).2, [], []⟩) := by
  obtain ⟨results, _⟩ := elevenBytes (cleanUninterrupted clean request)
  obtain ⟨replied, state⟩ := victorOutputs e request.toList
  have short : ∀ answer ∈ outputs victorServe e request.toList, answer.length ≤ 11 := by
    intro answer mem
    rcases serveUniform e request.toList answer mem with none | whole
    · rw [none]
      exact Nat.zero_le _
    · exact Nat.le_of_eq whole
  have said : (outputs victorServe e request.toList).flatten =
      written (handlePacket request e).1 := by
    rw [replied, results]
    simp
  have all : (written (handlePacket request e).1).length ≤ 11 := by
    cases (handlePacket request e).1 <;> simp
  rw [← said] at all
  obtain ⟨taken, idle⟩ := Relay.exchanged 11 11 (by simpa using enough) short all
  rw [call, exchange, taken, idle, said, state]
  refine Prod.ext ?_ rfl
  rw [JlipClient.transact, results]
  cases (handlePacket request e).1 with
  | none => simpa using filledNone empty
  | some reply => simpa using filledWhole empty reply

theorem callsInTime {e : Emulator Q} (clean : Clean e.victor.packet) {calls : List (Packet × Nat)}
    (timely : ∀ c ∈ calls, Clean c.1 ∧ 11 ≤ c.2) :
    outputs (call empty) ⟨e, [], []⟩ calls =
      outputs (fun e request => JlipClient.transact empty request e) e (calls.map Prod.fst) := by
  induction calls generalizing e with
  | nil => rfl
  | cons c rest ih =>
    obtain ⟨⟨cleanNext, enough⟩, timelyRest⟩ := List.forall_mem_cons.mp timely
    have next : Clean (JlipClient.transact empty c.1 e).2.victor.packet := by
      rw [JlipClient.transactWindow]
      exact cleanNext
    rw [List.map_cons, outputs, outputs, callInTime empty clean enough, ih next timelyRest]

omit [CommandQueue Q] in
theorem segmentsClean {packet : Packet} (clean : Clean packet) (segments : List Segment) :
    Clean (run ShiftRegister.shift packet (segments.flatMap Segment.bytes)) := by
  induction segments generalizing packet with
  | nil => exact clean
  | cons segment rest ih =>
    rw [List.flatMap_cons, runAppend]
    exact ih (bytesClean clean segment)

theorem caughtUp {start : Emulator Q} {segments : List Segment} {events : List (Relay.Event UInt8)}
    (sends : Relay.sent events = segments.flatMap Segment.bytes)
    (caught : (after (Relay.step victorServe) ⟨start, [], []⟩ events).waiting = []) :
    (after (Relay.step victorServe) ⟨start, [], []⟩ events).server =
      after victorTurn start (segments.flatMap Segment.bytes) := by
  obtain ⟨consumed, pieces, order, server, _⟩ :=
    Relay.ledgerRun (Relay.ledgerStart victorServe (· <+: ·) start)
      fun event _ => Relay.letsPieces event
  rw [caught, List.append_nil, List.nil_append, sends] at order
  rw [← (victorOutputs start _).2, ← order]
  exact server.symm

end Calls
def noOpRequest : Request := ⟨0x21, #v[0x7C, 0x4E, 0x20, 0, 0, 0, 0], playIdLow, by decide⟩

def noOpPlay : List Segment := [.request noOpRequest, .request playRequest]

def askNoOp : Relay.Event UInt8 := .send noOpRequest.packet.toList
def askPlay : Relay.Event UInt8 := .send playRequest.packet.toList
def served (turns : Nat) : List (Relay.Event UInt8) := List.replicate turns (.serve 11)

def late : List (Relay.Event UInt8) :=
  askNoOp :: served 5 ++ .take 11 :: askPlay :: served 17 ++ [.take 11]

theorem repliesInOrderLate :
    haveI : Scanf := ⟨Int32.ofInt⟩
    let start := victorInit .dvd (Emulator.start VideoQueue.ByteQueue.init 3 none)
    Relay.taken victorServe ⟨start, [], []⟩ late <+:
      (replies start noOpPlay).flatMap Vector.toList :=
  @repliesInOrder VideoQueue.ByteQueue _ ⟨Int32.ofInt⟩ (.start .init 3 none) .dvd noOpPlay late
    (by decide +kernel) (by decide +kernel)

theorem replyReadNextLate :
    haveI : Scanf := ⟨Int32.ofInt⟩
    let start := victorInit .dvd (Emulator.start VideoQueue.ByteQueue.init 3 none)
    ∃ reply, (replies start noOpPlay)[0]? = some reply ∧
      [0xFC, 0xFF, 0x21, 0x03, 0x01, 0, 0, 0, 0, 0, 0x60] = reply.toList :=
  @replyReadNext VideoQueue.ByteQueue _ ⟨Int32.ofInt⟩ (.start .init 3 none) .dvd noOpPlay late
    (by decide +kernel) (by decide +kernel) (by decide +kernel) 25
    [0xFC, 0xFF, 0x21, 0x03, 0x01, 0, 0, 0, 0, 0, 0x60] (by decide +kernel) (by decide)

end SerialDvdEmu.JlipLine
