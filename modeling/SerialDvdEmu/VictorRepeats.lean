import SerialDvdEmu.EmulatorThreads
import SerialDvdEmu.VictorFraming

/-! A request that is sent again. Its second copy finds the player where the first one put it,
or carries an ID that the first one has changed. -/
namespace SerialDvdEmu.VictorRepeats
open EventRun
open VideoQueue VideoThread VideoPlayer
open VideoCatchUp (loadsSeek)
open VictorRequests (window turnState)
open VictorPacket VictorHandlers VictorFraming VictorCalls EmulatorThreads
open VideoPlayer.VideoState (Call Consistent)

section Calls
variable {Q : Type} [CommandQueue Q]

theorem powerOnAgain {v : VideoState Q} (powered : v.powerState = true) : v.powerOn = v := by
  simp [VideoState.powerOn, powered]

theorem unpauseAgain {v : VideoState Q} (running : v.pausedState = false) : v.unpause = v := by
  simp [VideoState.unpause, running]

theorem stopAgain {v : VideoState Q} (idle : v.playingState = false)
    (running : v.pausedState = false) : v.stop = v := by
  simp [VideoState.stop, idle, running]

end Calls

theorem callAgain {v : VideoState (Option Playback)} (h : Consistent v) (c : Call) :
    (v.call c).call c = v.call c := by
  cases c with
  | powerOn => exact powerOnAgain (powerOnFlags v h).1
  | powerOff =>
    have off := (powerOffFlags v h).1
    change v.powerOff.powerOff = v.powerOff
    rw [VideoState.powerOff, if_neg (by simp [off])]
  | play =>
    obtain ⟨power, playing, running, _, _⟩ := playFlags v h
    change v.play.play = v.play
    rw [VideoState.play, playPowered, powerOnAgain power]
    simpa [playing] using unpauseAgain running
  | pause =>
    obtain ⟨_, playing, paused, _, _⟩ := pauseFlags v h
    change v.pause.pause = v.pause
    rw [VideoState.pause, if_neg]
    rw [playing, paused]
    cases v.playingState <;> simp
  | unpause => exact unpauseAgain (unpauseFlags v h).2.2.1
  | stop => exact stopAgain (stopFlags v h).2.1 (stopFlags v h).2.2.1
  | seekToChapter c =>
    by_cases reaches : Reaches v c
    · have again : Reaches (v.seekToChapter c).2 c := by
        rw [seekTaken reaches]
        exact reaches
      rw [VideoState.call, VideoState.call, seekTaken again, seekTaken reaches]
      simp only [loadsSeek]
    · simp only [VideoState.call, seekRefused reaches]

def Absolute (packet : Packet) : Prop :=
  ¬ Asks packet 0x0C 0x50 0x73 ∧ ¬ Asks packet 0x0C 0x50 0x61

instance (packet : Packet) : Decidable (Absolute packet) := inferInstanceAs (Decidable (_ ∧ _))

section Frames
variable {Q : Type} [CommandQueue Q]

omit [CommandQueue Q] in
theorem ordersLater {packet : Packet} (absolute : Absolute packet) {e e' : Emulator Q} {c : Call}
    (orders : Orders packet e c) (same : e.victor.dvdType = e'.victor.dvdType) :
    Orders packet e' c := by
  cases orders with
  | pause asks => exact .pause asks
  | play asks => exact .play asks
  | stop asks => exact .stop asks
  | seek asks =>
    rw [same]
    exact .seek asks
  | previous asks => exact absurd asks absolute.2
  | next asks => exact absurd asks absolute.1
  | powerOff asks => exact .powerOff asks
  | powerOn asks => exact .powerOn asks

omit [CommandQueue Q] in
theorem renameAgain (packet : Packet) (e : Emulator Q) :
    rename packet (rename packet e) = rename packet e := rfl

end Frames

theorem handleAgain {packet : Packet} (absolute : Absolute packet)
    {e : Emulator (Option Playback)} (h : Consistent e.video) :
    (handlePacket packet (handlePacket packet e).2).2 = (handlePacket packet e).2 := by
  rcases handleCases packet e with ⟨here, c, orders, called⟩ | ⟨_, renames, renamed⟩ | same
  · have again := handleOrdered (e := { e with video := e.video.call c }) here
      (ordersLater absolute orders rfl)
    rw [called, again]
    exact congrArg (fun video => { e with video := video }) (callAgain h c)
  · rw [renamed]
    cases here : isAddressed packet (rename packet e).victor.jlipId with
    | false => rw [handleElsewhere here]
    | true => rw [handleRenames here renames, renameAgain]
  · rw [same, same]

inductive Feeds : List Event → List UInt8 → Prop where
  | nil : Feeds [] []
  | byte {events bytes} (byte : UInt8) (rest : Feeds events bytes) :
      Feeds (.input byte :: events) (byte :: bytes)
  | work {events bytes} (rest : Feeds events bytes) : Feeds (.worked () :: events) bytes

theorem feedsBytes {events : List Event} {bytes : List UInt8} (feeds : Feeds events bytes)
    (e : Emulator (Option Playback)) : run step e events = after victorTurn e bytes := by
  induction feeds generalizing e with
  | nil => rfl
  | byte byte rest ih =>
    rw [runCons, afterCons, ih, turnState]
    rfl
  | work rest ih => exact ih e

theorem frameHandled {Q : Type} [CommandQueue Q] (packet : Packet) (e : Emulator Q) :
    let before := after victorTurn e (packet.toList.take 10)
    (after victorTurn e packet.toList).victor.packet = packet ∧
    SameDevice (handlePacket packet before).2 (after victorTurn e packet.toList) := by
  intro before
  have filled : (after victorTurn e packet.toList).victor.packet = packet := by
    rw [afterWindow]
    exact Vector.toList_inj.mp
      (ShiftRegister.feedFull e.victor.packet packet.toList (by simp) (by decide))
  have split : packet.toList = packet.toList.take 10 ++ [packet.get crcLoc] := by
    rw [← List.take_append_drop 10 packet.toList]
    simp [List.drop_eq_getElem_cons]
    rfl
  have last : after victorTurn e packet.toList = (victorTurn before (packet.get crcLoc)).2 := by
    rw [split, afterAppend]
    simp [before]
  refine ⟨filled, ?_⟩
  rw [last] at filled ⊢
  rw [turnEq] at filled ⊢
  rw [show window before (packet.get crcLoc) = packet from filled]
  exact sameReceiving _ _ _

theorem afterConsistent {Q : Type} [CommandQueue Q] {e : Emulator Q} (h : Consistent e.video)
    (bytes : List UInt8) : Consistent (after victorTurn e bytes).video := by
  have sound : EmulatorRuns.Sound e.video.maxChapter (after victorTurn e bytes).video :=
    runInvariant (fun d : Emulator Q => EmulatorRuns.Sound e.video.maxChapter d.video)
      (fun d byte sound => EmulatorRuns.soundCalled sound (EmulatorRuns.victorCalled d byte))
      ⟨h, rfl⟩ bytes
  exact sound.consistent

theorem frameTwice (r : Request) (absolute : Absolute r.packet) {e : Emulator (Option Playback)}
    (h : Consistent e.video) :
    SameDevice (after victorTurn e r.packet.toList)
      (after victorTurn e (r.packet.toList ++ r.packet.toList)) := by
  obtain ⟨filled, first⟩ := frameHandled r.packet e
  have steady := handleAgain absolute (afterConsistent h (r.packet.toList.take 10))
  rw [afterAppend]
  revert filled first steady
  generalize (handlePacket r.packet (after victorTurn e (r.packet.toList.take 10))).2 = d
  generalize after victorTurn e r.packet.toList = e₁
  intro filled first steady
  have clean : Clean e₁.victor.packet := filled ▸ requestClean r
  obtain ⟨_, second⟩ := elevenBytes (cleanUninterrupted clean r.packet)
  have framed := handleFramed r.packet e₁.victor.packet e₁.victor.response d
  rw [← first.eq] at framed
  rw [framed, steady] at second
  have moved := sameReceiving e₁.victor.packet e₁.victor.response d
  rw [← first.eq] at moved second
  exact second

theorem feedsPlain (bytes : List UInt8) : Feeds (bytes.map .input) bytes := by
  induction bytes with
  | nil => exact .nil
  | cons byte rest ih => exact .byte byte ih

theorem repeatHarmless [Scanf] (dvdType : DvdType) (jlipIdFile : Option (List UInt8))
    (schedule : List Nat) (chapters : Int32) (events : List Event) (r : Request)
    (absolute : Absolute r.packet) {once twice : List Event} (fed : Feeds once r.packet.toList)
    (fedTwice : Feeds twice (r.packet.toList ++ r.packet.toList)) :
    let e := started dvdType jlipIdFile (videoThreads schedule) chapters events
    let a := run step e once
    let b := run step e twice
    b.video.powerState = a.video.powerState ∧ b.video.playingState = a.video.playingState ∧
    b.video.pausedState = a.video.pausedState ∧ b.video.chapter = a.video.chapter ∧
    b.victor.jlipId = a.victor.jlipId ∧
    (¬ Overrun a → ¬ Overrun b → b.video.queue.drained = a.video.queue.drained) := by
  intro e a b
  have delays := startedDelays dvdType jlipIdFile schedule chapters events
  have sound := startedSound dvdType jlipIdFile (none : Option Playback) chapters events
  have alike := runAlike delaysSimulates delays once
  have alikeTwice := runAlike delaysSimulates delays twice
  rw [feedsBytes fed] at alike
  rw [feedsBytes fedTwice] at alikeTwice
  have same := frameTwice r absolute sound.consistent
  have video := same.video
  refine ⟨?_, ?_, ?_, ?_, ?_, fun fits fitsTwice => ?_⟩
  · rw [alikeTwice.video.power, alike.video.power, video]
  · rw [alikeTwice.video.playing, alike.video.playing, video]
  · rw [alikeTwice.video.paused, alike.video.paused, video]
  · rw [alikeTwice.video.chapter, alike.video.chapter, video]
  · rw [alikeTwice.victor, alike.victor, same.jlipId]
  · rw [alikeDrained alikeTwice fitsTwice, alikeDrained alike fits, video]

def seekSecond : Request := ⟨33, #v[0x0C, 0x50, 0x20, 0, 0, 2, 0], by decide, by decide⟩

def pausedEvents : List Event := [.call .play, .worked (), .call .pause]

theorem repeatHarmlessSeek :
    haveI : Scanf := ⟨Int32.ofInt⟩
    (run step (started .dvd none (videoThreads []) 3 pausedEvents)
        ((seekSecond.packet.toList ++ seekSecond.packet.toList).map .input)).video.queue.drained =
      (run step (started .dvd none (videoThreads []) 3 pausedEvents)
        (seekSecond.packet.toList.map .input)).video.queue.drained := by
  have harmless := @repeatHarmless ⟨Int32.ofInt⟩ .dvd none [] 3 pausedEvents seekSecond (by decide)
    _ _ (feedsPlain _) (feedsPlain _)
  exact harmless.2.2.2.2.2 (by decide +kernel) (by decide +kernel)

end SerialDvdEmu.VictorRepeats
