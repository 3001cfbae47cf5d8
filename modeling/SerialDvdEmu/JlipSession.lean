import SerialDvdEmu.EmulatorRuns
import SerialDvdEmu.JlipClient

/-! Sessions of the client with the emulator, against the device that the client's comments
describe. Between its calls anything may reach the player. -/
namespace SerialDvdEmu.JlipSession
open EventRun
open VictorPacket (Packet Status)
open VictorHandlers VictorRequests VictorFraming EmulatorRuns
open VideoPlayer
open VideoPlayer.VideoState (Consistent)
open JlipClient (DeviceStatus statusOk statusError transact)

structure Device where
  powered : Bool
  playing : Bool
  paused : Bool
  chapter : Nat
  chapters : Nat
  deriving DecidableEq, Repr

inductive Command where
  | noOp
  | machineCode
  | deviceCode
  | maxBaudRate
  | deviceName
  | turnOn
  | turnOff
  | powerStatus
  | play
  | stop
  | nextChapter
  | prevChapter
  deriving DecidableEq, Repr

inductive Result where
  | status (status : Int)
  | data (data : Option (Vector UInt8 6))
  | rate (rate : Nat)
  | name (name : Option (List UInt8))
  | power (status : DeviceStatus)
  deriving DecidableEq, Repr

def Device.idle (d : Device) : Device := { d with playing := false, paused := false, chapter := 1 }

def Device.seek (d : Device) (chapter : Nat) : Result × Device :=
  if d.powered ∧ 1 ≤ chapter ∧ chapter ≤ d.chapters then
    (.status statusOk, { d with playing := true, chapter := chapter })
  else (.status statusError, d)

/-- The comments of the client calls, as a machine. -/
def documented (d : Device) : Command → Result × Device
  | .noOp => (.status statusOk, d)
  | .machineCode => (.data (some machineCode), d)
  | .deviceCode => (.data (some deviceCode), d)
  | .maxBaudRate => (.rate 9600, d)
  | .deviceName => (.name (some [0x44, 0x56, 0x44, 0x20, 0x50, 0x4C, 0x41, 0x59, 0x45, 0x52]), d)
  | .turnOn =>
    if d.powered then (.status statusError, d)
    else (.status statusOk, { d.idle with powered := true })
  | .turnOff =>
    if d.powered then (.status statusOk, { d.idle with powered := false })
    else (.status statusError, d)
  | .powerStatus => (.power (if d.powered then .on else .off), d)
  | .play =>
    (.status statusOk,
      { d with
        powered := true
        playing := true
        paused := false
        chapter := if d.powered ∧ d.playing then d.chapter else 1 })
  | .stop => (.status statusOk, if d.powered ∧ d.playing then d.idle else d)
  | .nextChapter => d.seek (if d.playing then d.chapter + 1 else 2)
  | .prevChapter => d.seek (if d.playing then d.chapter - 1 else 1)

def view {Q : Type} (v : VideoState Q) : Device :=
  ⟨v.powerState, v.playingState, v.pausedState, v.chapter.toNat, v.maxChapter.toNat⟩

section Sessions
variable {Q : Type} [CommandQueue Q]

def reported {α : Type} (result : α → Result) (call : α × Emulator Q) : Result × Emulator Q :=
  (result call.1, call.2)

def perform (empty : Packet) (id : UInt32) (e : Emulator Q) : Command → Result × Emulator Q
  | .noOp => reported .status (JlipClient.noOp (transact empty) id e)
  | .machineCode => reported .data (JlipClient.machineCode (transact empty) id e)
  | .deviceCode => reported .data (JlipClient.deviceCode (transact empty) id e)
  | .maxBaudRate => reported .rate (JlipClient.maxBaudRate (transact empty) id e)
  | .deviceName => reported .name (JlipClient.deviceName (transact empty) id e)
  | .turnOn => reported .status (JlipClient.turnOn (transact empty) id e)
  | .turnOff => reported .status (JlipClient.turnOff (transact empty) id e)
  | .powerStatus => reported .power (JlipClient.powerStatus (transact empty) id e)
  | .play => reported .status (JlipClient.play (transact empty) id e)
  | .stop => reported .status (JlipClient.stop (transact empty) id e)
  | .nextChapter => reported .status (JlipClient.nextChapter (transact empty) id e)
  | .prevChapter => reported .status (JlipClient.prevChapter (transact empty) id e)

inductive Sent where
  | command (c : Command)
  | pause
  | seekToChapter (chapter : UInt32)

abbrev Event (Q : Type) := Happening Sent Q

def send (empty : Packet) (id : UInt32) (e : Emulator Q) : Sent → Emulator Q
  | .command c => (perform empty id e c).2
  | .pause => (JlipClient.pause (transact empty) id e).2
  | .seekToChapter chapter => (JlipClient.seekToChapter (transact empty) id chapter e).2

def step (empty : Packet) (id : UInt32) : Emulator Q → Event Q → Emulator Q :=
  Emulator.happen (send empty id) leaves

structure Serves (id chapters : UInt32) (e : Emulator Q) : Prop where
  address : e.victor.jlipId = id
  clean : Clean e.victor.packet
  sound : Sound chapters e.video

theorem answered (empty : Packet) {id chapters command : UInt32} {params : Vector UInt8 4}
    {e e' : Emulator Q} {reply : Packet} (h : Serves id chapters e) (small : id.toNat ≤ 63)
    (known : dispatch (JlipClient.createPacket id command params) e = (some reply, e')) :
    (transact empty (JlipClient.createPacket id command params) e).1 = reply ∧
    (transact empty (JlipClient.createPacket id command params) e).2.video = e'.video := by
  have addressed := JlipClient.packetAddressed small command params
  rw [← h.address] at addressed known ⊢
  obtain ⟨read, state⟩ := JlipClient.transactAnswered empty (cleanUninterrupted h.clean _)
    (handleKnown addressed known)
  exact ⟨read, state.video.symm⟩

theorem statusAgrees (empty : Packet) {id chapters command : UInt32} {params : Vector UInt8 4}
    {e : Emulator Q} (h : Serves id chapters e) (small : id.toNat ≤ 63) {status : Status}
    {data : Vector UInt8 6} {v : VideoState Q}
    (known : dispatch (JlipClient.createPacket id command params) e =
      (some (VictorPacket.createPacket e.victor.jlipId status data), { e with video := v })) :
    (JlipClient.statusCall (transact empty) command params id e).1 = status.code.toNat ∧
    (JlipClient.statusCall (transact empty) command params id e).2.video = v := by
  obtain ⟨read, state⟩ := answered empty h small known
  rw [JlipClient.statusCall, JlipClient.ask, read, JlipClient.replyStatus]
  exact ⟨rfl, state⟩

theorem dataAgrees (empty : Packet) {id chapters command : UInt32} {e : Emulator Q}
    (h : Serves id chapters e) (small : id.toNat ≤ 63) {data : Vector UInt8 6}
    (known : dispatch (JlipClient.createPacket id command JlipClient.noParams) e =
      (some (VictorPacket.createPacket e.victor.jlipId .ok data), e)) :
    (JlipClient.dataCall (transact empty) command id e).1 = some data ∧
    (JlipClient.dataCall (transact empty) command id e).2.video = e.video := by
  obtain ⟨read, state⟩ := answered empty h small known
  rw [JlipClient.dataCall, JlipClient.ask, read, JlipClient.replyStatus, JlipClient.replyPayload]
  exact ⟨rfl, state⟩

theorem viewPlay {v : VideoState Q} (h : Consistent v) :
    view v.play = (documented (view v) .play).2 := by
  obtain ⟨power, playing, paused, chapter, bound⟩ := playFlags v h
  have idle := h.idleChapter
  have powered := h.playsPowered
  cases plays : v.playingState <;> simp_all [view, documented]

theorem viewStop {v : VideoState Q} (h : Consistent v) :
    view v.stop = (documented (view v) .stop).2 := by
  obtain ⟨power, playing, paused, chapter, bound⟩ := stopFlags v h
  have idle := h.idleChapter
  have powered := h.playsPowered
  have pauses := h.pausedPlays
  cases plays : v.playingState <;> cases halted : v.pausedState <;>
    simp_all [view, documented, Device.idle]

theorem viewPowerOn {v : VideoState Q} (h : Consistent v) (off : v.powerState = false) :
    view v.powerOn = { (view v).idle with powered := true } := by
  obtain ⟨power, playing, paused, chapter, bound⟩ := powerOnFlags v h
  obtain ⟨idle, running, first⟩ := h.off off
  simp [view, Device.idle, power, playing, paused, chapter, bound, idle, running, first]

theorem viewPowerOff {v : VideoState Q} (h : Consistent v) :
    view v.powerOff = { (view v).idle with powered := false } := by
  obtain ⟨power, playing, paused, chapter, bound⟩ := powerOffFlags v h
  simp [view, Device.idle, power, playing, paused, chapter, bound]

theorem viewSeek (v : VideoState Q) (chapter : UInt32) :
    (Result.status (if (v.seekToChapter chapter).1 then statusOk else statusError),
      view (v.seekToChapter chapter).2) = (view v).seek chapter.toNat := by
  by_cases reaches : Reaches v chapter
  · have inside : (view v).powered = true ∧ 1 ≤ chapter.toNat ∧ chapter.toNat ≤ (view v).chapters :=
      reaches
    rw [Device.seek, if_pos inside, seekTaken reaches]
    rfl
  · have outside : ¬ ((view v).powered = true ∧ 1 ≤ chapter.toNat ∧
        chapter.toNat ≤ (view v).chapters) := reaches
    rw [Device.seek, if_neg outside, seekRefused reaches]
    rfl

theorem seekAgrees (empty : Packet) {id chapters command chapter : UInt32}
    {params : Vector UInt8 4} {e : Emulator Q} (h : Serves id chapters e) (small : id.toNat ≤ 63)
    (known : dispatch (JlipClient.createPacket id command params) e = seekReply chapter e) :
    Result.status (JlipClient.statusCall (transact empty) command params id e).1 =
      ((view e.video).seek chapter.toNat).1 ∧
    view (JlipClient.statusCall (transact empty) command params id e).2.video =
      ((view e.video).seek chapter.toNat).2 := by
  obtain ⟨status, video⟩ := statusAgrees empty h small known
  rw [status, video, ← viewSeek]
  cases (e.video.seekToChapter chapter).1 <;> exact ⟨rfl, rfl⟩

omit [CommandQueue Q] in
theorem stepTargets {chapters : UInt32} {v : VideoState Q} (h : Sound chapters v)
    (small : chapters.toNat < 2147483648) :
    (nextChapter v).toNat = (if v.playingState then v.chapter.toNat + 1 else 2) ∧
    (previousChapter v).toNat = (if v.playingState then v.chapter.toNat - 1 else 1) := by
  have low := h.consistent.chapterLow
  have high := h.consistent.chapterHigh
  rw [h.bound] at high
  have next : nextChapter v = v.chapter + 1 := by
    rw [nextChapter, VideoState.getChapter, Int32.toUInt32_add, UInt32.toUInt32_toInt32]
    rfl
  have previous : (v.getChapter - 1).toUInt32 = v.chapter - 1 := by
    rw [VideoState.getChapter, Int32.toUInt32_sub, UInt32.toUInt32_toInt32]
    rfl
  have below : (v.chapter - 1).toNat = v.chapter.toNat - 1 :=
    UInt32.toNat_sub_of_le _ _ (UInt32.le_iff_toNat_le.mpr low)
  cases playing : v.playingState with
  | true =>
    simp only [next, previousChapter, previous, VideoState.isPlaying, playing, Bool.not_true,
      Bool.false_and, Bool.false_eq_true, if_false, if_true, below, and_true]
    simp
    omega
  | false =>
    have first := h.consistent.idleChapter playing
    simp only [next, previousChapter, previous, VideoState.isPlaying, playing, first]
    decide

theorem transactServes (empty : Packet) {id chapters command : UInt32} {params : Vector UInt8 4}
    {e : Emulator Q} (h : Serves id chapters e) (small : id.toNat ≤ 63)
    (low : JlipClient.LowBytes command params)
    (keeps : (command >>> 8 &&& 0xFF).toUInt8 ≠ 0x41) :
    Serves id chapters
      (transact empty (JlipClient.createPacket id command params) e).2 := by
  have addressed := JlipClient.packetAddressed small command params
  rw [← h.address] at addressed
  obtain ⟨reply, e', handled, effect⟩ := handleHere addressed
  obtain ⟨_, state⟩ := JlipClient.transactAnswered empty (cleanUninterrupted h.clean _) handled
  rw [h.address] at state effect
  have clean := JlipClient.packetClean small low
  rw [← JlipClient.transactWindow empty (JlipClient.createPacket id command params) e] at clean
  cases effect with
  | answered status data _ => exact ⟨state.jlipId ▸ h.address, clean, state.video ▸ h.sound⟩
  | called c => exact ⟨state.jlipId ▸ h.address, clean, state.video ▸ soundCall h.sound c⟩
  | renamed renames => exact absurd renames.2.1 keeps

theorem commandAgrees (empty : Packet) {id chapters : UInt32} {e : Emulator Q}
    (h : Serves id chapters e) (small : id.toNat ≤ 63) (count : chapters.toNat < 2147483648)
    (c : Command) :
    (perform empty id e c).1 = (documented (view e.video) c).1 ∧
    view (perform empty id e c).2.video = (documented (view e.video) c).2 := by
  have consistent := h.sound.consistent
  cases c with
  | noOp =>
    have asks := JlipClient.packetAsks id 0x7C4E20 JlipClient.noParams
    have listed : (0x4E, 0x20, nop) ∈ answers := by decide
    obtain ⟨status, video⟩ := statusAgrees empty h small (v := e.video) (queryKnown asks listed e)
    exact ⟨congrArg Result.status status, congrArg view video⟩
  | machineCode =>
    have asks := JlipClient.packetAsks id 0x7C4500 JlipClient.noParams
    have listed : (0x45, 0x00, machineCode) ∈ answers := by decide
    obtain ⟨data, video⟩ := dataAgrees empty h small (queryKnown asks listed e)
    exact ⟨congrArg Result.data data, congrArg view video⟩
  | deviceCode =>
    have asks := JlipClient.packetAsks id 0x7C4900 JlipClient.noParams
    have listed : (0x49, 0x00, deviceCode) ∈ answers := by decide
    obtain ⟨data, video⟩ := dataAgrees empty h small (queryKnown asks listed e)
    exact ⟨congrArg Result.data data, congrArg view video⟩
  | maxBaudRate =>
    have asks := JlipClient.packetAsks id 0x7C4820 JlipClient.noParams
    have listed : (0x48, 0x20, maxBaudRate) ∈ answers := by decide
    obtain ⟨read, video⟩ := answered empty h small (queryKnown asks listed e)
    rw [perform, JlipClient.maxBaudRate, JlipClient.ask, read, JlipClient.replyStatus]
    exact ⟨rfl, congrArg view video⟩
  | deviceName =>
    have asks := JlipClient.packetAsks id 0x7C4C00 JlipClient.noParams
    have asks' := JlipClient.packetAsks id 0x7C4D00 JlipClient.noParams
    have listed : (0x4C, 0x00, nameFirst) ∈ answers := by decide
    have listed' : (0x4D, 0x00, nameLast) ∈ answers := by decide
    have between : Serves id chapters (transact empty
        (JlipClient.createPacket id 0x7C4C00 JlipClient.noParams) e).2 :=
      transactServes empty h small (by decide) (by decide)
    obtain ⟨read, video⟩ := answered empty h small (queryKnown asks listed e)
    obtain ⟨read', video'⟩ := answered empty between small (queryKnown asks' listed' _)
    rw [perform, JlipClient.deviceName, read, read', JlipClient.replyStatus,
      JlipClient.replyStatus, JlipClient.replyPayload, JlipClient.replyPayload]
    exact ⟨rfl, congrArg view (video'.trans video)⟩
  | turnOn =>
    have asks := JlipClient.packetAsks id 0x3E4070 JlipClient.noParams
    have known := powerOnKnown asks e
    cases powered : e.video.powerState with
    | true =>
      rw [VideoState.isPowered, powered, if_pos rfl] at known
      obtain ⟨status, video⟩ := statusAgrees empty h small (v := e.video) known
      have on : (view e.video).powered = true := powered
      rw [documented, if_pos on]
      exact ⟨congrArg Result.status status, congrArg view video⟩
    | false =>
      rw [VideoState.isPowered, powered, if_neg Bool.false_ne_true] at known
      obtain ⟨status, video⟩ := statusAgrees empty h small known
      have off : ¬ (view e.video).powered = true := by simp [view, powered]
      rw [documented, if_neg off]
      exact ⟨congrArg Result.status status, (congrArg view video).trans (viewPowerOn consistent powered)⟩
  | turnOff =>
    have asks := JlipClient.packetAsks id 0x3E4060 JlipClient.noParams
    have known := powerOffKnown asks e
    cases powered : e.video.powerState with
    | true =>
      rw [VideoState.isPowered, powered, if_pos rfl] at known
      obtain ⟨status, video⟩ := statusAgrees empty h small known
      have on : (view e.video).powered = true := powered
      rw [documented, if_pos on]
      exact ⟨congrArg Result.status status, (congrArg view video).trans (viewPowerOff consistent)⟩
    | false =>
      rw [VideoState.isPowered, powered, if_neg Bool.false_ne_true] at known
      obtain ⟨status, video⟩ := statusAgrees empty h small (v := e.video) known
      have off : ¬ (view e.video).powered = true := by simp [view, powered]
      rw [documented, if_neg off]
      exact ⟨congrArg Result.status status, congrArg view video⟩
  | powerStatus =>
    have asks := JlipClient.packetAsks id 0x3E4E20 JlipClient.noParams
    have known := powerStatusKnown asks e
    have report : (view e.video).powered = e.video.isPowered := rfl
    rw [documented, report]
    cases powered : e.video.isPowered with
    | true =>
      rw [powered] at known
      obtain ⟨read, video⟩ := answered empty h small known
      rw [perform, JlipClient.powerStatus, JlipClient.ask, read, JlipClient.replyStatus]
      exact ⟨rfl, congrArg view video⟩
    | false =>
      rw [powered] at known
      obtain ⟨read, video⟩ := answered empty h small known
      rw [perform, JlipClient.powerStatus, JlipClient.ask, read, JlipClient.replyStatus]
      exact ⟨rfl, congrArg view video⟩
  | play =>
    have asks := JlipClient.packetAsks id 0x0C4375 JlipClient.noParams
    obtain ⟨status, video⟩ := statusAgrees empty h small (playKnown asks e)
    exact ⟨congrArg Result.status status, (congrArg view video).trans (viewPlay consistent)⟩
  | stop =>
    have asks := JlipClient.packetAsks id 0x0C4460 JlipClient.noParams
    obtain ⟨status, video⟩ := statusAgrees empty h small (stopKnown asks e)
    exact ⟨congrArg Result.status status, (congrArg view video).trans (viewStop consistent)⟩
  | nextChapter =>
    have asks := JlipClient.packetAsks id 0x0C5073 JlipClient.noParams
    have agrees := seekAgrees empty h small (nextKnown asks e)
    rw [(stepTargets h.sound count).1] at agrees
    exact agrees
  | prevChapter =>
    have asks := JlipClient.packetAsks id 0x0C5061 JlipClient.noParams
    have agrees := seekAgrees empty h small (previousKnown asks e)
    rw [(stepTargets h.sound count).2] at agrees
    exact agrees

theorem askServes {α : Type} (empty : Packet) {id chapters command : UInt32}
    {params : Vector UInt8 4} {read : Packet → α} {e : Emulator Q} (h : Serves id chapters e)
    (small : id.toNat ≤ 63) (low : JlipClient.LowBytes command params)
    (keeps : (command >>> 8 &&& 0xFF).toUInt8 ≠ 0x41) :
    Serves id chapters (JlipClient.ask (transact empty) command params read id e).2 := by
  simpa only [JlipClient.ask] using transactServes empty h small low keeps

theorem commandServes (empty : Packet) {id chapters : UInt32} (small : id.toNat ≤ 63)
    {e : Emulator Q} (h : Serves id chapters e) (c : Command) :
    Serves id chapters (perform empty id e c).2 := by
  cases c <;> simp only [perform, reported, JlipClient.noOp, JlipClient.machineCode,
    JlipClient.deviceCode, JlipClient.maxBaudRate, JlipClient.deviceName, JlipClient.turnOn,
    JlipClient.turnOff, JlipClient.powerStatus, JlipClient.play, JlipClient.stop,
    JlipClient.nextChapter, JlipClient.prevChapter, JlipClient.statusCall, JlipClient.dataCall]
  case deviceName =>
    have between : Serves id chapters (transact empty
        (JlipClient.createPacket id 0x7C4C00 JlipClient.noParams) e).2 :=
      transactServes empty h small (by decide) (by decide)
    exact transactServes empty between small (by decide) (by decide)
  all_goals exact askServes empty h small (by decide) (by decide)

theorem digitLow (n : UInt32) : (n % 10).toUInt8 < 0x80 := by
  rw [UInt8.lt_iff_toNat_lt, UInt32.toNat_toUInt8, UInt32.toNat_mod]
  simp
  omega

theorem seekLow (chapter : UInt32) : JlipClient.LowBytes 0x0C5020
    #v[0x00, (chapter / 10 % 10).toUInt8, (chapter % 10).toUInt8, 0x00] := by
  have zero : (0x00 : UInt8) < 0x80 := by decide
  intro byte mem
  simp only [List.mem_cons, List.not_mem_nil, or_false] at mem
  rcases mem with rfl | rfl | rfl | rfl | rfl | rfl | rfl
  · decide
  · decide
  · decide
  · exact zero
  · exact digitLow (chapter / 10)
  · exact digitLow chapter
  · exact zero

theorem sendServes (empty : Packet) {id chapters : UInt32} (small : id.toNat ≤ 63) (e : Emulator Q)
    (sent : Sent) (h : Serves id chapters e) : Serves id chapters (send empty id e sent) := by
  cases sent with
  | command c => exact commandServes empty small h c
  | pause =>
    simp only [send, JlipClient.pause, JlipClient.statusCall]
    exact askServes empty h small (by decide) (by decide)
  | seekToChapter chapter =>
    simp only [send, JlipClient.seekToChapter, JlipClient.statusCall]
    exact askServes empty h small (seekLow chapter) (by decide)

theorem stepServes (empty : Packet) {id chapters : UInt32} (small : id.toNat ≤ 63) (e : Emulator Q)
    (event : Event Q) (h : Serves id chapters e) : Serves id chapters (step empty id e event) := by
  cases event with
  | input sent => exact sendServes empty small e sent h
  | call c => exact ⟨h.address, h.clean, soundCall h.sound c⟩
  | worked queue => exact ⟨h.address, h.clean, soundWorked h.sound queue⟩

theorem clientAgrees [Scanf] (empty : Packet) (e : Emulator Q) (queue : Q) (dvdType : DvdType)
    (chapters : Int32) (nonneg : 0 ≤ chapters.toInt)
    (addressable : Addressable (victorInit dvdType { e with video := videoInit queue chapters }))
    (session : List (Event Q)) (c : Command) :
    let start := victorInit dvdType { e with video := videoInit queue chapters }
    let id := start.victor.jlipId
    let before := run (step empty id) start session
    (perform empty id before c).1 = (documented (view before.video) c).1 ∧
    view (perform empty id before c).2.video = (documented (view before.video) c).2 := by
  intro start id before
  have count := chapterCount nonneg
  have top := chapters.toInt_lt
  have fresh : Serves id chapters.toUInt32 start :=
    ⟨rfl, initClean _ dvdType, initConsistent queue chapters, rfl⟩
  have serves : Serves id chapters.toUInt32 before :=
    runInvariant (Serves id chapters.toUInt32)
      (stepServes empty addressable.2) fresh session
  exact commandAgrees empty serves addressable.2 (by omega) c

end Sessions

theorem clientAgreesPlay :
    haveI : Scanf := ⟨Int32.ofInt⟩
    let e : Emulator VideoQueue.ByteQueue := .start .init 3 none
    let start := victorInit .dvd { e with video := videoInit VideoQueue.ByteQueue.init 3 }
    let empty := Vector.replicate 11 0
    let before := run (step empty 33) start [.input (.command .play), .input .pause, .input (.command .nextChapter)]
    (perform empty 33 before .nextChapter).1 =
      (documented (view before.video) .nextChapter).1 :=
  (@clientAgrees VideoQueue.ByteQueue _ ⟨Int32.ofInt⟩ (Vector.replicate 11 0) (.start .init 3 none)
    .init .dvd 3 (by decide) (by decide +kernel)
    [.input (.command .play), .input .pause, .input (.command .nextChapter)] .nextChapter).1

end SerialDvdEmu.JlipSession
