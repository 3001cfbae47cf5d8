import SerialDvdEmu.VictorHandlers

/-! What one received byte may change, over the whole emulator: nothing unless the last eleven
bytes are a packet for this device, and then only what its command asks for. The JLIP ID is
followed through bytes and restarts together with the file that outlives them. -/
namespace SerialDvdEmu.VictorRequests
open EventRun (run runInvariant)
open VictorPacket VictorHandlers
open VideoPlayer (CommandQueue)

variable {Q : Type} [CommandQueue Q]

def window (e : Emulator Q) (byte : UInt8) : Packet := ShiftRegister.shift e.victor.packet byte

def passed (e : Emulator Q) (byte : UInt8) : Emulator Q := receiving (window e byte) none e

theorem receiveEq (e : Emulator Q) (byte : UInt8) :
    victorReceiveByte byte e =
      ((handlePacket (window e byte) e).1.isSome,
        receiving (window e byte) (handlePacket (window e byte) e).1
          (handlePacket (window e byte) e).2) := by
  have framed := handleFramed (window e byte) (window e byte) e.victor.response e
  simp only [receiving, window] at framed
  simp only [victorReceiveByte, receiving, window]
  rw [framed]

theorem received (e : Emulator Q) (byte : UInt8) :
    isAddressed (window e byte) e.victor.jlipId = false ∧
      victorReceiveByte byte e = (false, passed e byte) ∨
    isAddressed (window e byte) e.victor.jlipId = true ∧
      ∃ reply e', Handled (window e byte) e reply e' ∧
        victorReceiveByte byte e = (true, receiving (window e byte) (some reply) e') := by
  rw [receiveEq]
  cases h : isAddressed (window e byte) e.victor.jlipId with
  | false =>
    rw [handleElsewhere h]
    exact .inl ⟨rfl, rfl⟩
  | true =>
    obtain ⟨reply, e', handled, effect⟩ := handleHere h
    rw [handled]
    exact .inr ⟨rfl, reply, e', effect, rfl⟩

theorem receiveResult (e : Emulator Q) (byte : UInt8) :
    (victorReceiveByte byte e).1 = isAddressed (window e byte) e.victor.jlipId := by
  rcases received e byte with ⟨other, eq⟩ | ⟨here, reply, e', effect, eq⟩
  · rw [eq, other]
  · rw [eq, here]

theorem turnResult (e : Emulator Q) (byte : UInt8) :
    (victorTurn e byte).1.1 = (victorReceiveByte byte e).1 := by
  rw [victorTurn]

theorem turnState (e : Emulator Q) (byte : UInt8) :
    (victorTurn e byte).2 = (victorReceiveByte byte e).2 := rfl

theorem receiveType (e : Emulator Q) (byte : UInt8) :
    (victorReceiveByte byte e).2.victor.dvdType = e.victor.dvdType := by
  rcases received e byte with ⟨_, eq⟩ | ⟨_, reply, e', effect, eq⟩
  · rw [eq]
    exact (receivingDevice (window e byte) none e).2.1
  · rw [eq, (receivingDevice (window e byte) (some reply) e').2.1]
    cases effect with
    | answered status data low => rfl
    | called c => rfl
    | renamed renames => simp only [rename, victorSetJlipId]

theorem replyStatus (id : UInt32) (status : Status) (data : Vector UInt8 6) :
    (createPacket id status data).get statusLoc = status.code := rfl

def Refused (e : Emulator Q) (byte : UInt8) : Prop :=
  (victorReceiveByte byte e).1 = false ∨
  ∃ reply, victorGetResponse (victorReceiveByte byte e).2 = some reply ∧
    (reply.get statusLoc = Status.error.code ∨ reply.get statusLoc = Status.unknownCmd.code)

theorem refusedChangesNothing (e : Emulator Q) (byte : UInt8) (refused : Refused e byte) :
    let e' := (victorReceiveByte byte e).2
    e'.video = e.video ∧ e'.victor.jlipId = e.victor.jlipId ∧ e'.jlipIdFile = e.jlipIdFile ∧
    e'.victor.dvdType = e.victor.dvdType ∧ e'.toshiba = e.toshiba := by
  unfold Refused at refused
  rcases received e byte with ⟨_, eq⟩ | ⟨_, reply, e', effect, eq⟩
  · obtain ⟨id, type, toshiba, file⟩ := receivingDevice (window e byte) none e
    rw [eq]
    exact ⟨receivingVideo (window e byte) none e, id, file, type, toshiba⟩
  · obtain ⟨id, type, toshiba, file⟩ := receivingDevice (window e byte) (some reply) e'
    rw [eq] at refused ⊢
    have status : reply.get statusLoc = Status.error.code ∨
        reply.get statusLoc = Status.unknownCmd.code := by
      rcases refused with silent | ⟨other, same, status⟩
      · contradiction
      · cases Option.some.inj same
        exact status
    cases effect with
    | answered status data low =>
      exact ⟨receivingVideo (window e byte) _ e, id, file, type, toshiba⟩
    | called c => rcases status with h | h <;> simp [replyStatus, Status.code] at h
    | renamed renames => rcases status with h | h <;> simp [replyStatus, Status.code] at h

def turnOffPending : Emulator VideoQueue.ByteQueue :=
  { Emulator.start .init 3 none with
    victor := ⟨33, .dvd, #v[0, 0xFF, 0xFF, 0x21, 0x3E, 0x40, 0x60, 0, 0, 0, 0], none⟩ }

theorem refusedTurnOff : (victorReceiveByte 3 turnOffPending).2.jlipIdFile = none ∧
    (victorReceiveByte 3 turnOffPending).2.video = turnOffPending.video :=
  have unchanged := refusedChangesNothing turnOffPending 3
    (.inr ⟨#v[0xFC, 0xFF, 0x21, 0x05, 0, 0, 0, 0, 0, 0, 0x5F], by decide +kernel, .inl rfl⟩)
  ⟨unchanged.2.2.1, unchanged.1⟩

def Addressable (e : Emulator Q) : Prop :=
  1 ≤ e.victor.jlipId.toNat ∧ e.victor.jlipId.toNat ≤ 63

instance (e : Emulator Q) : Decidable (Addressable e) := inferInstanceAs (Decidable (_ ∧ _))

omit [CommandQueue Q] in
theorem receivingAddressable (packet : Packet) (response : Option Packet) (e : Emulator Q) :
    Addressable (receiving packet response e) ↔ Addressable e := Iff.rfl

theorem receiveAddressable {e : Emulator Q} (h : Addressable e) (byte : UInt8) :
    Addressable (victorReceiveByte byte e).2 := by
  rcases received e byte with ⟨_, eq⟩ | ⟨_, reply, e', effect, eq⟩
  · rw [eq]
    exact (receivingAddressable (window e byte) none e).mpr h
  · rw [eq]
    apply (receivingAddressable (window e byte) (some reply) e').mpr
    cases effect with
    | answered status data low => exact h
    | called call => exact h
    | renamed renames =>
      obtain ⟨_, _, low, high⟩ := renames
      exact ⟨by simpa [rename, victorSetJlipId] using low,
        by simpa [rename, victorSetJlipId] using high⟩

def Stored (e : Emulator Q) : Prop :=
  e.jlipIdFile = none ∧ e.victor.jlipId = 33 ∨
    e.jlipIdFile = some (Decimal.printInt e.victor.jlipId.toInt32.toInt)

omit [CommandQueue Q] in
theorem receivingStored (packet : Packet) (response : Option Packet) (e : Emulator Q) :
    Stored (receiving packet response e) ↔ Stored e := Iff.rfl

theorem receiveStored {e : Emulator Q} (h : Stored e) (byte : UInt8) :
    Stored (victorReceiveByte byte e).2 := by
  rcases received e byte with ⟨_, eq⟩ | ⟨_, reply, e', effect, eq⟩
  · rw [eq]
    exact (receivingStored (window e byte) none e).mpr h
  · rw [eq]
    apply (receivingStored (window e byte) (some reply) e').mpr
    cases effect with
    | answered status data low => exact h
    | called call => exact h
    | renamed renames => exact .inr rfl

theorem renamedTo {e : Emulator Q} {byte : UInt8}
    (h : isAddressed (window e byte) e.victor.jlipId = true) (renames : Renames (window e byte)) :
    (victorReceiveByte byte e).2.victor.jlipId =
      ((window e byte).get (commandLoc 2)).toUInt32 := by
  rw [receiveEq, handleKnown h (dispatchRenames renames e)]
  simp only [receiving, rename, victorSetJlipId]

theorem renamedOnlyBy {e : Emulator Q} {byte : UInt8}
    (changed : (victorReceiveByte byte e).2.victor.jlipId ≠ e.victor.jlipId) :
    isAddressed (window e byte) e.victor.jlipId = true ∧ Renames (window e byte) := by
  rcases received e byte with ⟨_, eq⟩ | ⟨here, reply, e', effect, eq⟩
  · rw [eq] at changed
    exact absurd (receivingDevice (window e byte) none e).1 changed
  · rw [eq, (receivingDevice (window e byte) (some reply) e').1] at changed
    cases effect with
    | answered status data low => exact absurd rfl changed
    | called call => exact absurd rfl changed
    | renamed renames => exact ⟨here, renames⟩

theorem replyCarriesId {e : Emulator Q} {byte : UInt8} {reply : Packet}
    (replied : victorGetResponse (victorReceiveByte byte e).2 = some reply) :
    reply.get jlipIdLoc = e.victor.jlipId.toUInt8 := by
  rcases received e byte with ⟨_, eq⟩ | ⟨_, answer, e', effect, eq⟩
  · rw [eq] at replied
    contradiction
  · rw [eq] at replied
    cases Option.some.inj replied
    cases effect <;> rfl

section Restarts
variable [Scanf]

inductive Event where
  | byte (byte : UInt8)
  | restart (dvdType : DvdType)
  deriving DecidableEq, Repr

def step (e : Emulator Q) : Event → Emulator Q
  | .byte byte => (victorReceiveByte byte e).2
  | .restart dvdType => victorInit dvdType e

omit [CommandQueue Q] in
theorem readBack {e : Emulator Q} {jlipId : Int32}
    (file : e.jlipIdFile = some (Decimal.printInt jlipId.toInt)) : victorGetJlipId e = jlipId := by
  have scanned : Decimal.scanInt (Decimal.printInt jlipId.toInt) = some (jlipId.toInt, []) := by
    have whole : ∀ byte ∈ ([] : List UInt8).head?, Decimal.isDigit byte = false := by simp
    simpa using Decimal.scanPrinted jlipId.toInt whole
  simp only [victorGetJlipId, file, scanned]
  exact Scanf.storeInt jlipId

omit [CommandQueue Q] in
theorem restartStored {e : Emulator Q} (h : Stored e) (dvdType : DvdType) :
    (victorInit dvdType e).victor.jlipId = e.victor.jlipId := by
  rcases h with ⟨file, same⟩ | file
  · simp [victorInit, victorGetJlipId, file, same]
    rfl
  · simp [victorInit, readBack file]

structure Coherent (e : Emulator Q) : Prop where
  addressable : Addressable e
  stored : Stored e

theorem stepCoherent {e : Emulator Q} (h : Coherent e) (event : Event) :
    Coherent (step e event) := by
  cases event with
  | byte byte => exact ⟨receiveAddressable h.addressable byte, receiveStored h.stored byte⟩
  | restart dvdType =>
    have same := restartStored h.stored dvdType
    refine ⟨?_, ?_⟩
    · rw [VictorRequests.step, Addressable, same]; exact h.addressable
    · rw [VictorRequests.step, Stored, same]; exact h.stored

def FileWritten (e : Emulator Q) : Prop :=
  e.jlipIdFile = none ∨
  ∃ jlipId : Int32, 1 ≤ jlipId.toInt ∧ jlipId.toInt ≤ 63 ∧
    e.jlipIdFile = (victorSetJlipId jlipId e).jlipIdFile

omit [CommandQueue Q] in
theorem firstStart {e : Emulator Q} (file : FileWritten e) (dvdType : DvdType) :
    Coherent (victorInit dvdType e) := by
  rcases file with absent | ⟨jlipId, low, high, written⟩
  · have read : (victorInit dvdType e).victor.jlipId = 33 := by
      simp [victorInit, victorGetJlipId, absent]
      rfl
    exact ⟨by rw [Addressable, read]; decide, .inl ⟨absent, read⟩⟩
  · have count := VideoPlayer.chapterCount (Int.le_trans (by decide) low)
    have read : (victorInit dvdType e).victor.jlipId = jlipId.toUInt32 := by
      simp [victorInit, readBack written]
    refine ⟨by rw [Addressable, read]; omega, .inr ?_⟩
    rw [read]
    exact written

theorem addressConsistent (e₀ : Emulator Q) (file : FileWritten e₀) (dvdType : DvdType)
    (events : List Event) :
    let e := run step (victorInit dvdType e₀) events
    Addressable e ∧
    (∀ restarted, (victorInit restarted e).victor.jlipId = e.victor.jlipId) ∧
    ∀ byte, let packet := window e byte
      let e' := (victorReceiveByte byte e).2
      (e'.victor.jlipId ≠ e.victor.jlipId →
        isAddressed packet e.victor.jlipId = true ∧ Renames packet) ∧
      (isAddressed packet e.victor.jlipId = true → Renames packet →
        e'.victor.jlipId = (packet.get (commandLoc 2)).toUInt32) ∧
      (∀ reply, victorGetResponse e' = some reply →
        (reply.get jlipIdLoc).toUInt32 = e.victor.jlipId) ∧
      ((packet.get jlipIdLoc).toUInt32 ≠ e.victor.jlipId →
        victorReceiveByte byte e = (false, passed e byte)) := by
  intro e
  have coherent : Coherent e :=
    runInvariant Coherent (fun _ event c => stepCoherent c event) (firstStart file dvdType) events
  refine ⟨coherent.addressable, fun restarted => restartStored coherent.stored restarted, ?_⟩
  intro byte packet e'
  refine ⟨renamedOnlyBy, renamedTo, fun reply replied => ?_, fun other => ?_⟩
  · rw [replyCarriesId replied]
    have high := coherent.addressable.2
    apply UInt32.toNat_inj.mp
    simp
    omega
  · have elsewhere : isAddressed packet e.victor.jlipId = false := by simp [isAddressed, other]
    rw [receiveEq, handleElsewhere elsewhere]
    rfl

end Restarts

def renameToFive : List UInt8 := [0xFF, 0xFF, 0x21, 0x7C, 0x41, 5, 0, 0, 0, 0, 0x1F]

theorem addressConsistentRenamed :
    haveI : Scanf := ⟨Int32.ofInt⟩
    let e₀ : Emulator VideoQueue.ByteQueue := .start .init 3 none
    let e := run step (victorInit .dvd e₀) (renameToFive.map Event.byte ++ [.restart .vcd])
    Addressable e ∧ (victorInit .dvd e).victor.jlipId = e.victor.jlipId := by
  intro e₀ e
  have consistent := @addressConsistent VideoQueue.ByteQueue _ ⟨Int32.ofInt⟩ e₀ (.inl rfl) .dvd
    (renameToFive.map Event.byte ++ [.restart .vcd])
  exact ⟨consistent.1, consistent.2.1 .dvd⟩

example :
    haveI : Scanf := ⟨Int32.ofInt⟩
    let e₀ : Emulator VideoQueue.ByteQueue := .start .init 3 none
    (run step (victorInit .dvd e₀) (renameToFive.map Event.byte ++ [.restart .vcd])).victor.jlipId
      = 5 := by decide +kernel

end SerialDvdEmu.VictorRequests
