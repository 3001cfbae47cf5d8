import SerialDvdEmu.JlipMain

/-! How JLIPTest finds a device whose ID it does not know: a NOP to each ID of the bus until one
is answered. -/
namespace SerialDvdEmu.JlipProbe
open EventRun
open VictorPacket (Packet)
open VictorHandlers VictorRequests VictorFraming
open VideoPlayer (CommandQueue)
open JlipClient (getPacketStatus noParams statusCall statusOk transact)
open JlipArguments (Listens)
open JlipCommands JlipMain

def Unwritten (heap : UInt32 → Packet) : Prop := ∀ i, getPacketStatus (heap i) ≠ statusOk

section Probe
variable {Q : Type} [CommandQueue Q] {heap : UInt32 → Packet} {dvdType : DvdType}
  {chapters : UInt32} {e : Emulator Q}

theorem probeNext (heap : UInt32 → Packet) (i : BusId) (rest : List BusId) (e : Emulator Q) :
    let tried := wire heap ⟨i, .noOp⟩ e
    (probe (i :: rest)).run (serve heap) e =
      if tried.1 = statusOk then (some i, tried.2) else (probe rest).run (serve heap) tried.2 := by
  have asked : serve heap (.call ⟨i, .noOp⟩) e = wire heap ⟨i, .noOp⟩ e := rfl
  rw [probe, call, Client.Program.runAsked, asked]
  dsimp only
  generalize wire heap ⟨i, .noOp⟩ e = tried
  by_cases ok : tried.1 = statusOk
  · rw [if_pos ok, if_pos ok]
    rfl
  · rw [if_neg ok, if_neg ok]

theorem nopWired (heap : UInt32 → Packet) (i : BusId) (e : Emulator Q) :
    wire heap ⟨i, .noOp⟩ e = statusCall (transact (heap i.id)) 0x7C4E20 noParams i.id e := rfl

theorem triedElsewhere (unwritten : Unwritten heap) (h : Listens dvdType chapters e) {i : BusId}
    (other : i.id ≠ e.victor.jlipId) :
    (wire heap ⟨i, .noOp⟩ e).1 ≠ statusOk ∧ SameDevice e (wire heap ⟨i, .noOp⟩ e).2 := by
  obtain ⟨read, same⟩ := JlipClient.transactElsewhere (heap i.id) (cleanUninterrupted h.clean _)
    (JlipClient.elsewhere i.high other 0x7C4E20 noParams)
  rw [nopWired, JlipClient.statusAsks, read]
  exact ⟨unwritten i.id, same⟩

theorem triedHere (heap : UInt32 → Packet) (h : Listens dvdType chapters e) {i : BusId}
    (own : i.id = e.victor.jlipId) :
    (wire heap ⟨i, .noOp⟩ e).1 = statusOk ∧ SameDevice e (wire heap ⟨i, .noOp⟩ e).2 := by
  obtain ⟨_, low, high⟩ := i
  dsimp only at own
  subst own
  have addressed := JlipClient.packetAddressed high 0x7C4E20 noParams
  have asks := JlipClient.packetAsks e.victor.jlipId 0x7C4E20 noParams
  have listed : (0x4E, 0x20, nop) ∈ answers := by decide
  obtain ⟨read, same⟩ := JlipClient.transactAnswered (heap e.victor.jlipId)
    (cleanUninterrupted h.clean _) (handleKnown addressed (queryKnown asks listed e))
  rw [nopWired, JlipClient.statusAsks, read, JlipClient.replyStatus]
  dsimp only
  exact ⟨rfl, same⟩

theorem probeReaches (unwritten : Unwritten heap) (h : Listens dvdType chapters e) {id : BusId}
    (own : id.id = e.victor.jlipId) {before : List BusId} (others : ∀ i ∈ before, i.id ≠ id.id)
    (rest : List BusId) :
    ((probe (before ++ id :: rest)).run (serve heap) e).1 = some id ∧
    SameDevice e ((probe (before ++ id :: rest)).run (serve heap) e).2 := by
  induction before generalizing e with
  | nil =>
    obtain ⟨ok, same⟩ := triedHere heap h own
    rw [List.nil_append, probeNext, if_pos ok]
    exact ⟨rfl, same⟩
  | cons i before ih =>
    obtain ⟨other, later⟩ := List.forall_mem_cons.mp others
    rw [own] at other
    obtain ⟨silent, same⟩ := triedElsewhere unwritten h other
    obtain ⟨found, unchanged⟩ := ih (wireListens heap ⟨i, .noOp⟩ h) (own.trans same.jlipId) later
    rw [List.cons_append, probeNext, if_neg silent]
    exact ⟨found, same.trans unchanged⟩

omit [CommandQueue Q] in
theorem everyProbed (id : BusId) : id ∈ probed := by
  obtain ⟨id, low, high⟩ := id
  refine List.mem_map.mpr ⟨⟨id.toNat - 1, by omega⟩, List.mem_finRange _, ?_⟩
  simp only [BusId.mk.injEq, Nat.sub_add_cancel low]
  exact UInt32.ofNat_toNat

theorem probeFinds [Scanf] (unwritten : Unwritten heap) (e : Emulator Q) (queue : Q)
    (dvdType : DvdType) (chapters : Int32)
    (addressable :
      Addressable (victorInit dvdType { e with video := VideoPlayer.videoInit queue chapters }))
    (events : List (JlipArguments.Event Q)) :
    let start := victorInit dvdType { e with video := VideoPlayer.videoInit queue chapters }
    let before := run JlipArguments.step start events
    let found := (probe probed).run (serve heap) before
    found.1.map BusId.id = some before.victor.jlipId ∧ SameDevice before found.2 := by
  intro start before found
  have listens : Listens dvdType chapters.toUInt32 before :=
    JlipArguments.runListens e queue dvdType chapters addressable events
  let id : BusId := ⟨before.victor.jlipId, listens.addressable.1, listens.addressable.2⟩
  obtain ⟨earlier, rest, split, first⟩ := List.eq_append_cons_of_mem (everyProbed id)
  have others : ∀ i ∈ earlier, i.id ≠ id.id := by
    intro i mem same
    exact first (BusId.ext same ▸ mem)
  have own : id.id = before.victor.jlipId := rfl
  obtain ⟨reached, same⟩ := probeReaches unwritten listens own others rest
  rw [← split] at reached same
  exact ⟨congrArg (Option.map BusId.id) reached, same⟩

def renameToNine : Request := ⟨0x3C, #v[0x7C, 0x41, 0x09, 0, 0, 0, 0], by decide, by decide⟩

theorem probeFindsNine :
    haveI : Scanf := ⟨Int32.ofInt⟩
    let e : Emulator VideoQueue.ByteQueue := .start .init 3 (some [0x36, 0x30])
    let start := victorInit .dvd { e with video := VideoPlayer.videoInit VideoQueue.ByteQueue.init 3 }
    let before := run JlipArguments.step start [.call .powerOn, .input (.request renameToNine)]
    let found := (probe probed).run (serve fun _ => Vector.replicate 11 0) before
    before.victor.jlipId = 9 ∧ found.1.map BusId.id = some before.victor.jlipId ∧
      SameDevice before found.2 := by
  have blank : getPacketStatus (Vector.replicate 11 0) ≠ statusOk := by decide
  exact ⟨by decide +kernel, @probeFinds VideoQueue.ByteQueue _ (fun _ => Vector.replicate 11 0)
    ⟨Int32.ofInt⟩ (fun _ => blank) (.start .init 3 (some [0x36, 0x30])) .init .dvd 3
    (by decide +kernel) [.call .powerOn, .input (.request renameToNine)]⟩

end Probe
end SerialDvdEmu.JlipProbe
