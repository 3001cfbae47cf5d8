import SerialDvdEmu.JlipReplies
import SerialDvdEmu.JlipSession

/-! The client calls that encode a number of the caller. What the client sends is the number
reduced to the digits or bits of the request, so the range check of the emulator sees another
number than the caller's. Chapters are sent after a history of whole packets, IDs after any bytes
that leave no start of message behind. -/
namespace SerialDvdEmu.JlipArguments
open EventRun
open VictorPacket (Packet)
open VictorHandlers VictorRequests VictorFraming EmulatorRuns
open VideoPlayer
open JlipClient (statusOk statusError noParams transact)

section Bus
variable {Q : Type} [CommandQueue Q]

abbrev Event (Q : Type) := Happening Segment Q

def step : Emulator Q → Event Q → Emulator Q :=
  Emulator.happen (fun e s => after victorTurn e s.bytes) leaves

structure Listens (dvdType : DvdType) (chapters : UInt32) (e : Emulator Q) : Prop where
  clean : Clean e.victor.packet
  addressable : Addressable e
  dvdType : e.victor.dvdType = dvdType
  sound : Sound chapters e.video

theorem turnType (e : Emulator Q) (byte : UInt8) :
    (victorTurn e byte).2.victor.dvdType = e.victor.dvdType := by
  rw [turnState, receiveType]

theorem bytesKept {dvdType : DvdType} {e : Emulator Q} (h : e.victor.dvdType = dvdType)
    (bytes : List UInt8) : (after victorTurn e bytes).victor.dvdType = dvdType :=
  runInvariant (fun e : Emulator Q => e.victor.dvdType = dvdType)
    (fun e byte same => (turnType e byte).trans same) h bytes

theorem bytesSound {chapters : UInt32} {e : Emulator Q} (h : Sound chapters e.video)
    (bytes : List UInt8) : Sound chapters (after victorTurn e bytes).video :=
  runInvariant (fun e : Emulator Q => Sound chapters e.video)
    (fun e byte sound => soundCalled sound (victorCalled e byte)) h bytes

theorem stepListens {dvdType : DvdType} {chapters : UInt32} {e : Emulator Q}
    (h : Listens dvdType chapters e) (event : Event Q) :
    Listens dvdType chapters (step e event) := by
  refine ⟨happenKeeps (fun e => Clean e.victor.packet) (fun _ _ clean => clean) (fun e s clean => ?_)
      e event h.clean,
    happenKeeps Addressable (fun _ _ here => here) (fun e s here => afterAddressable here s.bytes)
      e event h.addressable,
    happenKeeps (fun e => e.victor.dvdType = dvdType) (fun _ _ same => same)
      (fun e s same => bytesKept same s.bytes) e event h.dvdType,
    happenSound (fun e s sound => bytesSound sound s.bytes) e event h.sound⟩
  have clean := bytesClean clean s
  rwa [← afterWindow] at clean

theorem runListens [Scanf] (e : Emulator Q) (queue : Q) (dvdType : DvdType) (chapters : Int32)
    (addressable : Addressable (victorInit dvdType { e with video := videoInit queue chapters }))
    (events : List (Event Q)) : Listens dvdType chapters.toUInt32
      (run step (victorInit dvdType { e with video := videoInit queue chapters }) events) :=
  runInvariant (Listens dvdType chapters.toUInt32) (fun _ event h => stepListens h event)
    ⟨initClean _ dvdType, addressable, rfl, initConsistent queue chapters, rfl⟩ events

theorem clientRequest {id command : UInt32} {params : Vector UInt8 4} (small : id.toNat ≤ 63)
    (low : JlipClient.LowBytes command params) :
    ∃ r : Request, r.packet = JlipClient.createPacket id command params := by
  have idLow : (id &&& 0xFF).toUInt8 < 0x80 := by
    rw [JlipClient.lowByte, UInt8.lt_iff_toNat_lt, JlipReplies.idByte small]
    exact Nat.lt_of_le_of_lt small (by decide)
  exact ⟨⟨_, #v[_, _, _, _, _, _, _], idLow, low⟩, rfl⟩

theorem transactListens (empty : Packet) {dvdType : DvdType} {chapters id command : UInt32}
    {params : Vector UInt8 4} {e : Emulator Q} (h : Listens dvdType chapters e)
    (small : id.toNat ≤ 63) (low : JlipClient.LowBytes command params) :
    Listens dvdType chapters (transact empty (JlipClient.createPacket id command params) e).2 := by
  obtain ⟨r, same⟩ := clientRequest small low
  rw [← same]
  exact stepListens h (.input (.request r))

omit [CommandQueue Q] in
theorem Listens.serves {dvdType : DvdType} {chapters : UInt32} {e : Emulator Q}
    (h : Listens dvdType chapters e) : JlipSession.Serves e.victor.jlipId chapters e :=
  ⟨rfl, h.clean, h.sound⟩

section Seek

/-- What arrives of a chapter. For a DVD the last two digits are read as they were sent; for a
VCD the client fills the places after the ones that are read. -/
def sentChapter : DvdType → UInt32 → UInt32
  | .dvd, c => c % 100
  | .vcd, c => c % 100 / 10

omit [CommandQueue Q] in
theorem digitsJoined (n : Nat) :
    (n / 10 % 10 % 256 % 10 * 10 + n % 10 % 256 % 10) % 4294967296 = n % 100 := by
  have tens : n / 10 % 10 % 256 = n / 10 % 10 := Nat.mod_eq_of_lt (by omega)
  have units : n % 10 % 256 = n % 10 := Nat.mod_eq_of_lt (by omega)
  have joined : n / 10 % 10 * 10 + n % 10 = n % 100 := by omega
  rw [tens, units, Nat.mod_mod, Nat.mod_mod, joined]
  exact Nat.mod_eq_of_lt (Nat.lt_trans (Nat.mod_lt n (by decide)) (by decide))

theorem chapterArrives (id : UInt32) (dvdType : DvdType) (c : UInt32) :
    requestedChapter (JlipClient.createPacket id 0x0C5020
      #v[0x00, (c / 10 % 10).toUInt8, (c % 10).toUInt8, 0x00]) dvdType = sentChapter dvdType c := by
  have digits : chapterDigits 0x00 (c / 10 % 10).toUInt8 (c % 10).toUInt8 = c % 100 := by
    rw [← UInt32.toNat_inj]
    simpa [chapterDigits] using digitsJoined c.toNat
  have read : requestedChapter (JlipClient.createPacket id 0x0C5020
      #v[0x00, (c / 10 % 10).toUInt8, (c % 10).toUInt8, 0x00]) dvdType =
      let chapter := chapterDigits 0x00 (c / 10 % 10).toUInt8 (c % 10).toUInt8
      if dvdType = .vcd then chapter / 10 else chapter := rfl
  rw [read, digits]
  cases dvdType <;> rfl

def SeekConforms (c : UInt32) (e : Emulator Q) (call : Int × Emulator Q) : Prop :=
  if Reaches e.video c then
    call.1 = statusOk ∧ call.2.video.chapter = c ∧ call.2.video.playingState = true ∧
    call.2.video.pausedState = e.video.pausedState
  else call.1 = statusError ∧ call.2.video = e.video

theorem seekAnswered (empty : Packet) {dvdType : DvdType} {chapters : UInt32} {e : Emulator Q}
    (h : Listens dvdType chapters e) (c : UInt32) :
    let call := JlipClient.seekToChapter (transact empty) e.victor.jlipId c e
    let sought := e.video.seekToChapter (sentChapter dvdType c)
    call.1 = (if sought.1 then statusOk else statusError) ∧ call.2.video = sought.2 := by
  intro call sought
  have asks : Asks (JlipClient.createPacket e.victor.jlipId 0x0C5020
      #v[0x00, (c / 10 % 10).toUInt8, (c % 10).toUInt8, 0x00]) 0x0C 0x50 0x20 := ⟨rfl, rfl, rfl⟩
  have known := seekKnown asks e
  rw [h.dvdType, chapterArrives] at known
  obtain ⟨status, video⟩ := JlipSession.statusAgrees empty h.serves h.addressable.2 known
  refine ⟨Eq.trans status ?_, video⟩
  change _ = if (e.video.seekToChapter (sentChapter dvdType c)).1 then statusOk else statusError
  cases (e.video.seekToChapter (sentChapter dvdType c)).1 <;> rfl

theorem seekAgrees (empty : Packet) {dvdType : DvdType} {chapters : UInt32} {e : Emulator Q}
    (h : Listens dvdType chapters e) (c : UInt32) :
    SeekConforms c e (JlipClient.seekToChapter (transact empty) e.victor.jlipId c e) ↔
      sentChapter dvdType c = c ∨
        ¬ Reaches e.video c ∧ ¬ Reaches e.video (sentChapter dvdType c) := by
  obtain ⟨status, video⟩ := seekAnswered empty h c
  rw [SeekConforms, status, video]
  by_cases asked : Reaches e.video c
  · rw [if_pos asked]
    by_cases arrived : Reaches e.video (sentChapter dvdType c)
    · rw [seekTaken arrived]
      constructor
      · rintro ⟨_, same, _⟩
        exact .inl same
      · rintro (same | ⟨outside, _⟩)
        · exact ⟨rfl, same, rfl, rfl⟩
        · exact absurd asked outside
    · have other : sentChapter dvdType c ≠ c := fun same => arrived (by rw [same]; exact asked)
      simp [seekRefused arrived, asked, other, statusOk, statusError]
  · rw [if_neg asked]
    by_cases arrived : Reaches e.video (sentChapter dvdType c)
    · have other : sentChapter dvdType c ≠ c := fun same => asked (same ▸ arrived)
      simp [seekTaken arrived, arrived, other, statusOk, statusError]
    · simp [seekRefused arrived, asked, arrived]

end Seek

section SetId

def Answers (id : UInt32) (e : Emulator Q) : Prop :=
  ∀ r : Request, r.id.toUInt32 = id → ∃ reply, outputs victorTurn e r.packet.toList =
    List.replicate 10 (false, none) ++ [(true, some reply)]

def Ignores (id : UInt32) (e : Emulator Q) : Prop :=
  ∀ r : Request, r.id.toUInt32 = id →
    outputs victorTurn e r.packet.toList = List.replicate 11 (false, none)

theorem answersOwn {e : Emulator Q} (clean : Clean e.victor.packet) : Answers e.victor.jlipId e := by
  intro r own
  obtain ⟨results, _⟩ := segmentDue ⟨rfl, rfl, rfl, rfl, rfl⟩ clean (.request r)
  have here : isAddressed r.packet e.victor.jlipId = true :=
    (addressedIff _ _).mpr ⟨rfl, rfl, own, VictorPacket.checksumPut _⟩
  obtain ⟨reply, e', handled, _⟩ := handleHere here
  refine ⟨reply, ?_⟩
  rw [Segment.bytes, due, if_pos own, handled] at results
  exact results

theorem ignoresOthers {e : Emulator Q} (clean : Clean e.victor.packet) (id : UInt32)
    (other : id ≠ e.victor.jlipId) : Ignores id e := by
  intro r its
  obtain ⟨results, _⟩ := segmentDue ⟨rfl, rfl, rfl, rfl, rfl⟩ clean (.request r)
  rw [Segment.bytes, due, if_neg (its ▸ other)] at results
  exact results

def SetIdConforms (newid : UInt32) (e : Emulator Q) (call : Int × Emulator Q) : Prop :=
  if 1 ≤ newid.toNat ∧ newid.toNat ≤ 63 then
    call.1 = statusOk ∧ Answers newid call.2 ∧
    (newid ≠ e.victor.jlipId → Ignores e.victor.jlipId call.2)
  else call.1 = statusError ∧ Answers e.victor.jlipId call.2

abbrev idRequest (id newid : UInt32) : Packet :=
  JlipClient.createPacket id (0x7C4100 ||| (newid &&& 0x3F)) noParams

abbrev ByteEvent (Q : Type) := Happening UInt8 Q

def byteStep : Emulator Q → ByteEvent Q → Emulator Q :=
  Emulator.happen (fun e byte => (victorTurn e byte).2) leaves

theorem idCommand (newid : UInt32) :
    (0x7C4100 ||| (newid &&& 0x3F)).toNat = 0x7C4100 + newid.toNat % 64 := by
  have low : (newid &&& 0x3F).toNat = newid.toNat % 64 := by
    rw [UInt32.toNat_and]
    exact Nat.and_two_pow_sub_one_eq_mod newid.toNat 6
  rw [UInt32.toNat_or, low]
  have bits := Nat.two_pow_add_eq_or_of_lt (i := 8) (show newid.toNat % 64 < 2 ^ 8 by omega) 0x7C41
  exact bits.symm

theorem idArrives (id newid : UInt32) :
    Asks (idRequest id newid) 0x7C 0x41 (newid % 64).toUInt8 := by
  obtain ⟨_, first, second, third⟩ :=
    JlipClient.packetBytes id (0x7C4100 ||| (newid &&& 0x3F)) noParams
  refine ⟨first.trans ?_, second.trans ?_, third.trans ?_⟩
  · rw [← UInt8.toNat_inj, JlipReplies.highByte, idCommand]
    simp
    omega
  · rw [← UInt8.toNat_inj, JlipReplies.middleByte, idCommand]
    simp
    omega
  · rw [← UInt8.toNat_inj, JlipClient.lowByte, UInt32.toNat_toUInt8, idCommand]
    simp
    omega

theorem idPacketLow (id newid : UInt32) :
    JlipClient.LowBytes (0x7C4100 ||| (newid &&& 0x3F)) noParams := by
  obtain ⟨first, second, third⟩ := idArrives id newid
  obtain ⟨_, one, two, three⟩ :=
    JlipClient.packetBytes id (0x7C4100 ||| (newid &&& 0x3F)) noParams
  have bits : (newid % 64).toUInt8 < 0x80 := by
    rw [UInt8.lt_iff_toNat_lt, UInt32.toNat_toUInt8, UInt32.toNat_mod]
    simp
    omega
  have zero : (0 : UInt8) < 0x80 := by decide
  intro byte mem
  rw [← one, ← two, ← three, first, second, third] at mem
  simp only [List.mem_cons, List.not_mem_nil, or_false] at mem
  rcases mem with rfl | rfl | rfl | rfl | rfl | rfl | rfl
  · decide
  · decide
  · exact bits
  all_goals exact zero

theorem idRefused {packet : Packet} (asks : Asks packet 0x7C 0x41 0) (e : Emulator Q) :
    dispatch packet e =
      (some (VictorPacket.createPacket e.victor.jlipId .error VictorPacket.noResponse), e) := by
  obtain ⟨device, change, zero⟩ := asks
  simp [dispatch, handleDevicePacket, device, change, zero]

theorem idSent (newid : UInt32) : (newid % 64).toUInt8.toUInt32 = newid % 64 := by
  rw [← UInt32.toNat_inj]
  simp
  omega

theorem idRenames (id : UInt32) {newid : UInt32} (some : newid.toNat % 64 ≠ 0) :
    Renames (idRequest id newid) := by
  obtain ⟨device, change, sent⟩ := idArrives id newid
  refine ⟨device, change, ?_, ?_⟩
  all_goals
    rw [sent, ← UInt8.toNat_toUInt32, idSent, UInt32.toNat_mod]
    simp
    omega

theorem idZero (id : UInt32) {newid : UInt32} (zero : newid.toNat % 64 = 0) :
    Asks (idRequest id newid) 0x7C 0x41 0 := by
  have none : (newid % 64).toUInt8 = 0 := by
    rw [← UInt8.toNat_inj]
    simp [zero]
  have asks := idArrives id newid
  rwa [none] at asks

theorem setIdRefused (empty : Packet) {e : Emulator Q} (h : Addressable e) {newid : UInt32}
    (alone : Uninterrupted e (idRequest e.victor.jlipId newid)) (zero : newid.toNat % 64 = 0) :
    let call := JlipClient.setId (transact empty) e.victor.jlipId newid e
    call.1 = statusError ∧ call.2.victor.jlipId = e.victor.jlipId := by
  rw [JlipClient.setId, JlipClient.statusAsks]
  have addressed := JlipClient.packetAddressed h.2 (0x7C4100 ||| (newid &&& 0x3F)) noParams
  obtain ⟨read, state⟩ := JlipClient.transactAnswered empty alone
    (handleKnown addressed (idRefused (idZero e.victor.jlipId zero) e))
  refine ⟨?_, state.jlipId.symm⟩
  rw [read, JlipClient.replyStatus]
  rfl

theorem setIdTaken (empty : Packet) {e : Emulator Q} (h : Addressable e) {newid : UInt32}
    (alone : Uninterrupted e (idRequest e.victor.jlipId newid)) (some : newid.toNat % 64 ≠ 0) :
    let call := JlipClient.setId (transact empty) e.victor.jlipId newid e
    call.1 = statusOk ∧ call.2.victor.jlipId = newid % 64 := by
  rw [JlipClient.setId, JlipClient.statusAsks]
  have addressed := JlipClient.packetAddressed h.2 (0x7C4100 ||| (newid &&& 0x3F)) noParams
  obtain ⟨read, state⟩ := JlipClient.transactAnswered empty alone
    (handleKnown addressed (dispatchRenames (idRenames e.victor.jlipId some) e))
  refine ⟨?_, state.jlipId.symm.trans ?_⟩
  · rw [read, JlipClient.replyStatus]
    rfl
  · rw [rename, victorSetJlipId, (idArrives e.victor.jlipId newid).2.2]
    exact idSent newid

theorem setIdAgrees (empty : Packet) {e : Emulator Q} (h : Addressable e) {newid : UInt32}
    (alone : Uninterrupted e (idRequest e.victor.jlipId newid)) :
    SetIdConforms newid e (JlipClient.setId (transact empty) e.victor.jlipId newid e) ↔
      newid.toNat < 64 ∨ newid.toNat % 64 = 0 := by
  have clean : Clean (transact empty (idRequest e.victor.jlipId newid) e).2.victor.packet := by
    rw [JlipClient.transactWindow]
    exact JlipClient.packetClean h.2 (idPacketLow e.victor.jlipId newid)
  have own := answersOwn clean
  have others := ignoresOthers clean
  have refused := setIdRefused empty h alone
  have taken := setIdTaken empty h alone
  rw [JlipClient.setId, JlipClient.statusAsks] at refused taken ⊢
  generalize transact empty (idRequest e.victor.jlipId newid) e = answered at own others refused taken ⊢
  by_cases zero : newid.toNat % 64 = 0
  · obtain ⟨status, kept⟩ := refused zero
    rw [SetIdConforms, if_neg (by omega), status]
    rw [kept] at own
    simp [own, zero]
  · obtain ⟨status, changed⟩ := taken zero
    rw [SetIdConforms, status]
    by_cases inside : newid.toNat < 64
    · have same : newid % 64 = newid := by
        rw [← UInt32.toNat_inj, UInt32.toNat_mod]
        exact Nat.mod_eq_of_lt inside
      rw [same] at changed
      rw [changed] at own
      rw [if_pos (by omega)]
      exact iff_of_true ⟨rfl, own, fun other => others _ (by rw [changed]; exact Ne.symm other)⟩
        (.inl inside)
    · rw [if_neg (by omega)]
      simp [inside, zero, statusOk, statusError]

theorem setIdConformsIff [Scanf] (empty : Packet) (e : Emulator Q) (queue : Q) (dvdType : DvdType)
    (chapters : Int32) (events : List (ByteEvent Q)) (newid : UInt32) :
    let start := victorInit dvdType { e with video := videoInit queue chapters }
    let before := run byteStep start events
    Addressable before → Uninterrupted before (idRequest before.victor.jlipId newid) →
      (SetIdConforms newid before
          (JlipClient.setId (transact empty) before.victor.jlipId newid before) ↔
        newid.toNat < 64 ∨ newid.toNat % 64 = 0) := by
  intro start before addressable alone
  exact setIdAgrees empty addressable alone

theorem setIdConformsIffFive :
    haveI : Scanf := ⟨Int32.ofInt⟩
    let e : Emulator VideoQueue.ByteQueue := .start .init 3 none
    let start := victorInit .dvd { e with video := videoInit VideoQueue.ByteQueue.init 3 }
    let before := run byteStep start
      [.call .powerOn, .input 0xFF, .input 0xFF, .input 0x21, .input 0x0C, .worked .init, .input 0xFF,
        .input 0xFF]
    SetIdConforms 5 before (JlipClient.setId (transact (Vector.replicate 11 0)) 33 5 before) ↔
      (5 : UInt32).toNat < 64 ∨ (5 : UInt32).toNat % 64 = 0 :=
  @setIdConformsIff VideoQueue.ByteQueue _ ⟨Int32.ofInt⟩ (Vector.replicate 11 0)
    (.start .init 3 none) .init .dvd 3
    [.call .powerOn, .input 0xFF, .input 0xFF, .input 0x21, .input 0x0C, .worked .init, .input 0xFF,
      .input 0xFF] 5 (by decide +kernel) (by decide +kernel)

theorem setIdWraps :
    haveI : Scanf := ⟨Int32.ofInt⟩
    let e : Emulator VideoQueue.ByteQueue := .start .init 3 none
    let start := victorInit .dvd { e with video := videoInit VideoQueue.ByteQueue.init 3 }
    ¬ SetIdConforms 69 start
      (JlipClient.setId (transact (Vector.replicate 11 0)) start.victor.jlipId 69 start) := by
  intro e start conforms
  have addressable : Addressable start := by decide +kernel
  have agrees : (69 : UInt32).toNat < 64 ∨ (69 : UInt32).toNat % 64 = 0 :=
    (setIdAgrees (Vector.replicate 11 0) addressable (by decide +kernel)).mp conforms
  revert agrees
  decide

end SetId
end Bus
end SerialDvdEmu.JlipArguments
