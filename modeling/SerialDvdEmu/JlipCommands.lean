import SerialDvdEmu.Base.CString
import SerialDvdEmu.JlipArguments

/-! All the calls of the client, to any ID of the bus, as questions to one player: what comes back
over the wire is what that player says, or nothing where another ID was asked. -/
namespace SerialDvdEmu.JlipCommands
open EventRun
open CString (ascii)
open VictorPacket (Packet Status)
open VictorHandlers VictorRequests VictorFraming
open VideoPlayer
open JlipClient (DeviceStatus DiskStatus ask createPacket getPacketStatus noParams statusBadPacket
  statusCall statusError statusOk statusUnknownCmd transact)
open JlipSession (Device documented view)
open JlipArguments (Listens sentChapter transactListens)

inductive Call : Type → Type where
  | noOp : Call Int
  | machineCode : Call (Option (Vector UInt8 6))
  | deviceCode : Call (Option (Vector UInt8 6))
  | maxBaudRate : Call Nat
  | deviceName : Call (Option (List UInt8))
  | diskLengthTime : Call (Option (Nat × Nat × Nat))
  | diskLengthChapters : Call Nat
  | diskStatus : Call DiskStatus
  | setId (newid : UInt32) : Call Int
  | turnOn : Call Int
  | turnOff : Call Int
  | powerStatus : Call DeviceStatus
  | play : Call Int
  | pause : Call Int
  | stop : Call Int
  | nextChapter : Call Int
  | prevChapter : Call Int
  | seekToChapter (chapter : UInt32) : Call Int
  | eject : Call Int
  | insert : Call Int

@[ext] structure BusId where
  id : UInt32
  low : 1 ≤ id.toNat
  high : id.toNat ≤ 63

structure Question (α : Type) where
  id : BusId
  call : Call α

def Question.through {α σ : Type} (q : Question α) (exchange : Packet → σ → Packet × σ) (s : σ) :
    α × σ :=
  match q.call with
  | .noOp => JlipClient.noOp exchange q.id.id s
  | .machineCode => JlipClient.machineCode exchange q.id.id s
  | .deviceCode => JlipClient.deviceCode exchange q.id.id s
  | .maxBaudRate => JlipClient.maxBaudRate exchange q.id.id s
  | .deviceName => JlipClient.deviceName exchange q.id.id s
  | .diskLengthTime => JlipClient.diskLengthTime exchange q.id.id s
  | .diskLengthChapters => JlipClient.diskLengthChapters exchange q.id.id s
  | .diskStatus => JlipClient.diskStatus exchange q.id.id s
  | .setId newid => JlipClient.setId exchange q.id.id newid s
  | .turnOn => JlipClient.turnOn exchange q.id.id s
  | .turnOff => JlipClient.turnOff exchange q.id.id s
  | .powerStatus => JlipClient.powerStatus exchange q.id.id s
  | .play => JlipClient.play exchange q.id.id s
  | .pause => JlipClient.pause exchange q.id.id s
  | .stop => JlipClient.stop exchange q.id.id s
  | .nextChapter => JlipClient.nextChapter exchange q.id.id s
  | .prevChapter => JlipClient.prevChapter exchange q.id.id s
  | .seekToChapter chapter => JlipClient.seekToChapter exchange q.id.id chapter s
  | .eject => JlipClient.eject exchange q.id.id s
  | .insert => JlipClient.insert exchange q.id.id s

section Through
variable {σ τ : Type} {exchange : Packet → σ → Packet × σ} {exchange' : Packet → τ → Packet × τ}

def Alike (R : σ → τ → Prop) (exchange : Packet → σ → Packet × σ)
    (exchange' : Packet → τ → Packet × τ) (id : UInt32) : Prop :=
  ∀ command params, JlipClient.LowBytes command params → ∀ s t, R s t →
    (exchange (createPacket id command params) s).1 =
      (exchange' (createPacket id command params) t).1 ∧
    R (exchange (createPacket id command params) s).2 (exchange' (createPacket id command params) t).2

theorem askAlike {R : σ → τ → Prop} {id : UInt32} (alike : Alike R exchange exchange' id) {β : Type}
    {command : UInt32} {params : Vector UInt8 4} (low : JlipClient.LowBytes command params)
    (read : Packet → β) {s : σ} {t : τ} (start : R s t) :
    (ask exchange command params read id s).1 = (ask exchange' command params read id t).1 ∧
    R (ask exchange command params read id s).2 (ask exchange' command params read id t).2 := by
  obtain ⟨same, next⟩ := alike command params low s t start
  exact ⟨congrArg read same, next⟩

theorem throughAlike {R : σ → τ → Prop} {α : Type} (q : Question α)
    (alike : Alike R exchange exchange' q.id.id) {s : σ} {t : τ} (start : R s t) :
    (q.through exchange s).1 = (q.through exchange' t).1 ∧
    R (q.through exchange s).2 (q.through exchange' t).2 := by
  obtain ⟨id, call⟩ := q
  cases call with
  | deviceName =>
    obtain ⟨same, next⟩ := alike 0x7C4C00 noParams (by decide) s t start
    obtain ⟨same', last⟩ := alike 0x7C4D00 noParams (by decide) _ _ next
    simp only [Question.through, JlipClient.deviceName, same, same']
    exact ⟨trivial, last⟩
  | setId newid => exact askAlike alike (JlipArguments.idPacketLow 0 newid) _ start
  | seekToChapter chapter => exact askAlike alike (JlipSession.seekLow chapter) _ start
  | _ => exact askAlike alike (by decide) _ start

theorem throughKeeps {I : σ → Prop} {α : Type} (q : Question α)
    (keeps : ∀ command params, JlipClient.LowBytes command params → ∀ s, I s →
      I (exchange (createPacket q.id.id command params) s).2) {s : σ} (start : I s) :
    I (q.through exchange s).2 := by
  have alike : Alike (fun s t => I s ∧ s = t) exchange exchange q.id.id := by
    rintro command params low s _ ⟨inv, rfl⟩
    exact ⟨rfl, keeps command params low s inv, rfl⟩
  exact (throughAlike q alike ⟨start, rfl⟩).2.1

end Through

section Wire
variable {Q : Type} [CommandQueue Q] (heap : UInt32 → Packet)

def wire {α : Type} (q : Question α) (e : Emulator Q) : α × Emulator Q :=
  q.through (transact (heap q.id.id)) e

end Wire

def pausing (d : Device) : Device := if d.powered && d.playing then { d with paused := true } else d

theorem viewPause {Q : Type} [CommandQueue Q] {v : VideoState Q} (h : VideoState.Consistent v) :
    view v.pause = pausing (view v) := by
  obtain ⟨power, playing, paused, chapter, bound⟩ := pauseFlags v h
  have powered := h.playsPowered
  have plays := h.pausedPlays
  cases running : v.playingState <;>
    simp_all [pausing, view]

/-- The player that the client's user works: no packets, no bus, no queue. Numbers reach it as the
client sends them: the last two digits of a chapter (for a VCD only the tens), an ID modulo 64. -/
structure Player where
  id : UInt32
  dvdType : DvdType
  device : Device
  deriving DecidableEq, Repr

namespace Player

def told (p : Player) (said : JlipSession.Result × Device) : Int × Player :=
  (match said.1 with
    | .status status => status
    | _ => statusBadPacket, { p with device := said.2 })

def stated (p : Player) (c : JlipSession.Command) : Int × Player := p.told (documented p.device c)

def pause (p : Player) : Player := { p with device := pausing p.device }

def seekToChapter (p : Player) (chapter : UInt32) : Int × Player :=
  p.told (p.device.seek (sentChapter p.dvdType chapter).toNat)

def setId (p : Player) (newid : UInt32) : Int × Player :=
  if newid.toNat % 64 = 0 then (statusError, p) else (statusOk, { p with id := newid % 64 })

def obey (p : Player) {α : Type} : Call α → α × Player
  | .noOp => (statusOk, p)
  | .machineCode => (some machineCode, p)
  | .deviceCode => (some deviceCode, p)
  | .maxBaudRate => (9600, p)
  | .deviceName => (some (ascii "DVD PLAYER"), p)
  | .diskLengthTime => (none, p)
  | .diskLengthChapters => (0, p)
  | .diskStatus => (⟨.unknownStatus, .unknownStatus⟩, p)
  | .setId newid => p.setId newid
  | .turnOn => p.stated .turnOn
  | .turnOff => p.stated .turnOff
  | .powerStatus => (if p.device.powered then .on else .off, p)
  | .play => p.stated .play
  | .pause => (statusOk, p.pause)
  | .stop => p.stated .stop
  | .nextChapter => p.stated .nextChapter
  | .prevChapter => p.stated .prevChapter
  | .seekToChapter chapter => p.seekToChapter chapter
  | .eject | .insert => (statusUnknownCmd, p)

end Player

def Call.silent {α : Type} : Call α → α
  | .machineCode | .deviceCode => none
  | .deviceName => none
  | .diskLengthTime => none
  | .maxBaudRate | .diskLengthChapters => (0 : Nat)
  | .diskStatus => ⟨.unknownStatus, .unknownStatus⟩
  | .powerStatus => .unknown
  | .noOp | .setId _ | .turnOn | .turnOff | .play | .pause | .stop | .nextChapter | .prevChapter
  | .seekToChapter _ | .eject | .insert => statusBadPacket

def Player.hears (p : Player) {α : Type} (q : Question α) : α × Player :=
  if q.id.id = p.id then p.obey q.call else (q.call.silent, p)

section Agreement
variable {Q : Type} [CommandQueue Q] {heap : UInt32 → Packet} {dvdType : DvdType}
  {chapters : UInt32} {e : Emulator Q}

def playerOf (e : Emulator Q) : Player := ⟨e.victor.jlipId, e.victor.dvdType, view e.video⟩

omit [CommandQueue Q] in
theorem playerSame {e' : Emulator Q} (same : SameDevice e e') : playerOf e' = playerOf e := by
  rw [playerOf, playerOf, same.jlipId, same.dvdType, same.video]

theorem wireListens (heap : UInt32 → Packet) {α : Type} (q : Question α)
    (h : Listens dvdType chapters e) : Listens dvdType chapters (wire heap q e).2 :=
  throughKeeps q (fun _ _ low _ h => transactListens _ h q.id.high low) h

def Blank (heap : UInt32 → Packet) : Prop := ∀ i, getPacketStatus (heap i) = statusBadPacket

theorem transactSilent (empty : Packet) (h : Listens dvdType chapters e) {id : UInt32}
    (small : id.toNat ≤ 63) (other : id ≠ e.victor.jlipId) (command : UInt32)
    (params : Vector UInt8 4) :
    (transact empty (createPacket id command params) e).1 = empty ∧
    playerOf (transact empty (createPacket id command params) e).2 = playerOf e := by
  obtain ⟨read, same⟩ := JlipClient.transactElsewhere empty (cleanUninterrupted h.clean _)
    (JlipClient.elsewhere small other command params)
  exact ⟨read, playerSame same⟩

theorem wireUnheard (heap : UInt32 → Packet) {α : Type} (q : Question α)
    (h : Listens dvdType chapters e) (other : q.id.id ≠ e.victor.jlipId) :
    playerOf (wire heap q e).2 = playerOf e := by
  refine (throughKeeps (I := fun i : Emulator Q =>
    Listens dvdType chapters i ∧ playerOf i = playerOf e) q
    (fun command params low i kept => ?_) ⟨h, rfl⟩).2
  obtain ⟨listens, same⟩ := kept
  have own : i.victor.jlipId = e.victor.jlipId := congrArg Player.id same
  rw [← own] at other
  exact ⟨transactListens _ listens q.id.high low,
    (transactSilent _ listens q.id.high other command params).2.trans same⟩

theorem wireSilent (blank : Blank heap) {α : Type} (q : Question α)
    (h : Listens dvdType chapters e) (other : q.id.id ≠ e.victor.jlipId) :
    (wire heap q e).1 = q.call.silent := by
  have alike : Alike (fun (i : Emulator Q) (_ : Unit) =>
      Listens dvdType chapters i ∧ playerOf i = playerOf e) (transact (heap q.id.id))
      (fun _ s => (heap q.id.id, s)) q.id.id := by
    intro command params low i _ kept
    obtain ⟨listens, same⟩ := kept
    have own : i.victor.jlipId = e.victor.jlipId := congrArg Player.id same
    rw [← own] at other
    obtain ⟨read, player⟩ := transactSilent (heap q.id.id) listens q.id.high other command params
    exact ⟨read, transactListens _ listens q.id.high low, player.trans same⟩
  refine (throughAlike q alike (t := ()) ⟨h, rfl⟩).1.trans ?_
  obtain ⟨id, call⟩ := q
  have bad : (statusBadPacket = statusOk) = False := by decide
  cases call <;>
    simp only [Question.through, JlipClient.noOp, JlipClient.machineCode, JlipClient.deviceCode,
      JlipClient.maxBaudRate, JlipClient.deviceName, JlipClient.diskLengthTime,
      JlipClient.diskLengthChapters, JlipClient.diskStatus, JlipClient.setId, JlipClient.turnOn,
      JlipClient.turnOff, JlipClient.powerStatus, JlipClient.play, JlipClient.pause,
      JlipClient.stop, JlipClient.nextChapter, JlipClient.prevChapter, JlipClient.seekToChapter,
      JlipClient.eject, JlipClient.insert, JlipClient.statusCall, JlipClient.dataCall, ask,
      blank id.id, bad, and_false, if_false, ne_eq, not_false_eq_true, if_true, Call.silent]

section Own

theorem ownAnswered {β : Type} (empty : Packet) (h : Listens dvdType chapters e) {command : UInt32}
    {params : Vector UInt8 4} (read : Packet → β) {reply : Packet} {e' : Emulator Q}
    (handled : handlePacket (createPacket e.victor.jlipId command params) e = (some reply, e')) :
    (ask (transact empty) command params read e.victor.jlipId e).1 = read reply ∧
    playerOf (ask (transact empty) command params read e.victor.jlipId e).2 = playerOf e' := by
  obtain ⟨replied, same⟩ := JlipClient.transactAnswered empty (cleanUninterrupted h.clean _) handled
  exact ⟨congrArg read replied, playerSame same⟩

theorem ownStatus (empty : Packet) (h : Listens dvdType chapters e) {command : UInt32}
    {params : Vector UInt8 4} {status : Status} {data : Vector UInt8 6} {e' : Emulator Q}
    (known : dispatch (createPacket e.victor.jlipId command params) e =
      (some (VictorPacket.createPacket e.victor.jlipId status data), e')) :
    (statusCall (transact empty) command params e.victor.jlipId e).1 = status.code.toNat ∧
    playerOf (statusCall (transact empty) command params e.victor.jlipId e).2 = playerOf e' := by
  have addressed := JlipClient.packetAddressed h.addressable.2 command params
  rw [statusCall, ← JlipClient.replyStatus e.victor.jlipId status data]
  exact ownAnswered empty h getPacketStatus (handleKnown addressed known)

theorem ownRefused {β : Type} (empty : Packet) (h : Listens dvdType chapters e) {command : UInt32}
    (read : Packet → β) {second third : UInt8}
    (asks : Asks (createPacket e.victor.jlipId command noParams) 0x0C second third)
    (listed : second ∈ [0x41, 0x4C, 0x4E]) :
    (ask (transact empty) command noParams read e.victor.jlipId e).1 =
      read (VictorPacket.createPacket e.victor.jlipId .unknownCmd VictorPacket.noResponse) ∧
    playerOf (ask (transact empty) command noParams read e.victor.jlipId e).2 = playerOf e := by
  have unknown : dispatch (createPacket e.victor.jlipId command noParams) e = (none, e) := by
    obtain ⟨first, second, third⟩ := asks
    simp only [List.mem_cons, List.not_mem_nil, or_false] at listed
    rcases listed with rfl | rfl | rfl <;> simp [dispatch, handleMediaPacket, first, second]
  have handled := handleAddressed (JlipClient.packetAddressed h.addressable.2 command noParams)
  rw [unknown] at handled
  exact ownAnswered empty h read handled

theorem ownCommand {β : Type} (empty : Packet) (count : chapters.toNat < 2147483648)
    (h : Listens dvdType chapters e) (c : JlipSession.Command) (wrap : β → JlipSession.Result)
    {result : β × Emulator Q} (later : Listens dvdType chapters result.2)
    (call : JlipSession.perform empty e.victor.jlipId e c = JlipSession.reported wrap result) :
    wrap result.1 = (documented (playerOf e).device c).1 ∧
    playerOf result.2 = { playerOf e with device := (documented (playerOf e).device c).2 } := by
  obtain ⟨said, device⟩ := JlipSession.commandAgrees empty h.serves h.addressable.2 count c
  have serves := JlipSession.commandServes empty h.addressable.2 h.serves c
  rw [call, JlipSession.reported] at said device serves
  refine ⟨said, ?_⟩
  rw [playerOf, device, serves.address, later.dvdType, ← h.dvdType]
  rfl

theorem ownStated (empty : Packet) (count : chapters.toNat < 2147483648)
    (h : Listens dvdType chapters e) (c : JlipSession.Command) {result : Int × Emulator Q}
    (later : Listens dvdType chapters result.2)
    (call : JlipSession.perform empty e.victor.jlipId e c = JlipSession.reported .status result) :
    result.1 = ((playerOf e).stated c).1 ∧ playerOf result.2 = ((playerOf e).stated c).2 := by
  obtain ⟨status, player⟩ := ownCommand empty count h c .status later call
  rw [Player.stated, Player.told, ← status]
  exact ⟨rfl, player⟩

theorem ownPause (empty : Packet) (h : Listens dvdType chapters e) :
    (JlipClient.pause (transact empty) e.victor.jlipId e).1 = statusOk ∧
    playerOf (JlipClient.pause (transact empty) e.victor.jlipId e).2 = (playerOf e).pause := by
  obtain ⟨status, player⟩ := ownStatus empty h
    (pauseKnown (JlipClient.packetAsks e.victor.jlipId 0x0C436D noParams) e)
  refine ⟨status, Eq.trans player ?_⟩
  rw [playerOf, viewPause h.sound.consistent]
  rfl

theorem ownSeek (empty : Packet) (h : Listens dvdType chapters e) (chapter : UInt32) :
    (JlipClient.seekToChapter (transact empty) e.victor.jlipId chapter e).1 =
      ((playerOf e).seekToChapter chapter).1 ∧
    playerOf (JlipClient.seekToChapter (transact empty) e.victor.jlipId chapter e).2 =
      ((playerOf e).seekToChapter chapter).2 := by
  have asks : Asks (createPacket e.victor.jlipId 0x0C5020
      #v[0x00, (chapter / 10 % 10).toUInt8, (chapter % 10).toUInt8, 0x00]) 0x0C 0x50 0x20 :=
    ⟨rfl, rfl, rfl⟩
  have known := seekKnown asks e
  rw [JlipArguments.chapterArrives] at known
  obtain ⟨status, player⟩ := ownStatus empty h known
  have agrees := JlipSession.viewSeek e.video (sentChapter e.victor.dvdType chapter)
  have device : (playerOf e).seekToChapter chapter = (playerOf e).told
      ((view e.video).seek (sentChapter e.victor.dvdType chapter).toNat) := rfl
  rw [device, ← agrees]
  refine ⟨Eq.trans status ?_, player⟩
  rw [Player.told]
  cases (e.video.seekToChapter (sentChapter e.victor.dvdType chapter)).1 <;> rfl

theorem ownSetId (empty : Packet) (h : Listens dvdType chapters e) (newid : UInt32) :
    (JlipClient.setId (transact empty) e.victor.jlipId newid e).1 = ((playerOf e).setId newid).1 ∧
    playerOf (JlipClient.setId (transact empty) e.victor.jlipId newid e).2 =
      ((playerOf e).setId newid).2 := by
  rw [Player.setId]
  by_cases zero : newid.toNat % 64 = 0
  · rw [if_pos zero]
    exact ownStatus empty h (JlipArguments.idRefused (JlipArguments.idZero _ zero) e)
  · obtain ⟨status, player⟩ :=
      ownStatus empty h (dispatchRenames (JlipArguments.idRenames e.victor.jlipId zero) e)
    rw [if_neg zero]
    refine ⟨status, Eq.trans player ?_⟩
    rw [playerOf, rename, victorSetJlipId, (JlipArguments.idArrives e.victor.jlipId newid).2.2,
      JlipArguments.idSent]
    rfl

theorem wireObeyed (heap : UInt32 → Packet) (count : chapters.toNat < 2147483648) {α : Type}
    (q : Question α) (h : Listens dvdType chapters e) (own : q.id.id = e.victor.jlipId) :
    (wire heap q e).1 = ((playerOf e).obey q.call).1 ∧
    playerOf (wire heap q e).2 = ((playerOf e).obey q.call).2 := by
  have later := wireListens heap q h
  obtain ⟨⟨id, low, high⟩, call⟩ := q
  dsimp only at own
  subst own
  have refused : getPacketStatus
      (VictorPacket.createPacket e.victor.jlipId .unknownCmd VictorPacket.noResponse) ≠ statusOk := by
    rw [JlipClient.replyStatus]
    decide
  have asks := fun command => JlipClient.packetAsks e.victor.jlipId command noParams
  cases call <;> simp only [wire, Question.through] at later ⊢
  case noOp =>
    have listed : (0x4E, 0x20, nop) ∈ answers := by decide
    exact ownStatus _ h (queryKnown (asks 0x7C4E20) listed e)
  case machineCode =>
    obtain ⟨data, player⟩ := ownCommand (heap e.victor.jlipId) count h .machineCode .data later rfl
    exact ⟨JlipSession.Result.data.inj data, player⟩
  case deviceCode =>
    obtain ⟨data, player⟩ := ownCommand (heap e.victor.jlipId) count h .deviceCode .data later rfl
    exact ⟨JlipSession.Result.data.inj data, player⟩
  case maxBaudRate =>
    obtain ⟨rate, player⟩ := ownCommand (heap e.victor.jlipId) count h .maxBaudRate .rate later rfl
    exact ⟨JlipSession.Result.rate.inj rate, player⟩
  case deviceName =>
    obtain ⟨name, player⟩ := ownCommand (heap e.victor.jlipId) count h .deviceName .name later rfl
    exact ⟨JlipSession.Result.name.inj name, player⟩
  case diskLengthTime =>
    obtain ⟨result, player⟩ := ownRefused (heap e.victor.jlipId) h _ (asks 0x0C4C22) (by decide)
    exact ⟨result.trans (if_neg refused), player⟩
  case diskLengthChapters =>
    obtain ⟨result, player⟩ := ownRefused (heap e.victor.jlipId) h _ (asks 0x0C4C23) (by decide)
    exact ⟨result.trans (if_neg refused), player⟩
  case diskStatus =>
    obtain ⟨result, player⟩ := ownRefused (heap e.victor.jlipId) h _ (asks 0x0C4E20) (by decide)
    exact ⟨result.trans (if_neg refused), player⟩
  case setId newid => exact ownSetId _ h newid
  case turnOn => exact ownStated (heap e.victor.jlipId) count h .turnOn later rfl
  case turnOff => exact ownStated (heap e.victor.jlipId) count h .turnOff later rfl
  case powerStatus =>
    obtain ⟨power, player⟩ := ownCommand (heap e.victor.jlipId) count h .powerStatus .power later rfl
    exact ⟨JlipSession.Result.power.inj power, player⟩
  case play => exact ownStated (heap e.victor.jlipId) count h .play later rfl
  case pause => exact ownPause _ h
  case stop => exact ownStated (heap e.victor.jlipId) count h .stop later rfl
  case nextChapter => exact ownStated (heap e.victor.jlipId) count h .nextChapter later rfl
  case prevChapter => exact ownStated (heap e.victor.jlipId) count h .prevChapter later rfl
  case seekToChapter chapter => exact ownSeek _ h chapter
  case eject =>
    obtain ⟨status, player⟩ := ownRefused (heap e.victor.jlipId) h _ (asks 0x0C4161) (by decide)
    exact ⟨status.trans (JlipClient.replyStatus _ _ _), player⟩
  case insert =>
    obtain ⟨status, player⟩ := ownRefused (heap e.victor.jlipId) h _ (asks 0x0C4171) (by decide)
    exact ⟨status.trans (JlipClient.replyStatus _ _ _), player⟩

end Own

def Stands (dvdType : DvdType) (chapters : UInt32) (e : Emulator Q) (p : Player) : Prop :=
  Listens dvdType chapters e ∧ playerOf e = p

theorem wireAgrees (blank : Blank heap) (count : chapters.toNat < 2147483648) {α : Type}
    (q : Question α) {e : Emulator Q} {p : Player} (stands : Stands dvdType chapters e p) :
    (wire heap q e).1 = (p.hears q).1 ∧
    Stands dvdType chapters (wire heap q e).2 (p.hears q).2 := by
  obtain ⟨h, rfl⟩ := stands
  have later := wireListens heap q h
  rw [Player.hears]
  by_cases own : q.id.id = (playerOf e).id
  · obtain ⟨result, player⟩ := wireObeyed heap count q h own
    rw [if_pos own]
    exact ⟨result, later, player⟩
  · rw [if_neg own]
    exact ⟨wireSilent blank q h own, later, wireUnheard heap q h own⟩

end Agreement

end SerialDvdEmu.JlipCommands
