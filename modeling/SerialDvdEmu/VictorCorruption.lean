import SerialDvdEmu.EmulatorRuns
import SerialDvdEmu.VictorCalls
import SerialDvdEmu.VictorChecksum
import SerialDvdEmu.VictorFraming

/-! One altered byte in a request. The checksum lets through exactly a flipped top bit, and a
request with one is carried out where the byte is read by no test. -/
namespace SerialDvdEmu.VictorCorruption
open EventRun
open VideoQueue VideoPlayer
open VictorPacket VictorChecksum VictorHandlers VictorCalls
open VictorRequests (Addressable)
open VictorFraming (Request requestGood requestLow)
open VideoPlayer.VideoState (Call Consistent)

section Calls
variable {Q : Type} [CommandQueue Q]

def Moves (v : VideoState Q) : Call → Prop
  | .powerOn => v.powerState = false
  | .powerOff => v.powerState = true
  | .play => ¬ (v.playingState = true ∧ v.pausedState = false)
  | .pause => v.playingState = true ∧ v.pausedState = false
  | .unpause => v.pausedState = true
  | .stop => v.playingState = true
  | .seekToChapter c => Reaches v c

def Acts (packet : Packet) (e : Emulator Q) : Prop :=
  (∃ c, Orders packet e c ∧ Moves e.video c) ∨
  Renames packet ∧ (packet.get (commandLoc 2)).toUInt32 ≠ e.victor.jlipId

theorem storePos (q : ByteQueue) (byte : UInt8) : (q.store byte).queuePos = q.queuePos + 1 := by
  unfold ByteQueue.store
  split <;> rfl

theorem seekPushes (v : VideoState ByteQueue) (c : UInt32) : seekQueue v c ≠ v.queue := by
  intro same
  have pushed : ∃ n : UInt32, n ≠ 0 ∧ (seekQueue v c).queuePos = v.queue.queuePos + n := by
    simp only [seekQueue, CommandQueue.videoThreadAction]
    split
    · refine ⟨1 + (1 + (1 + 1)), by decide, ?_⟩
      simp only [ByteQueue.videoThreadAction, storePos, UInt32.add_assoc]
    · refine ⟨1 + (1 + 1), by decide, ?_⟩
      simp only [ByteQueue.videoThreadAction, storePos, UInt32.add_assoc]
  obtain ⟨n, some, pos⟩ := pushed
  rw [same] at pos
  exact some (UInt32.add_eq_left.mp pos.symm)

theorem callStays {v : VideoState ByteQueue} (h : Consistent v) (c : Call) :
    v.call c = v ↔ ¬ Moves v c := by
  have powered := h.playsPowered
  have plays := h.pausedPlays
  constructor
  · intro same moves
    cases c with
    | powerOn =>
      have on : (v.call .powerOn).powerState = true := (powerOnFlags v h).1
      rw [same, (moves : v.powerState = false)] at on
      contradiction
    | powerOff =>
      have off : (v.call .powerOff).powerState = false := (powerOffFlags v h).1
      rw [same, (moves : v.powerState = true)] at off
      contradiction
    | play =>
      obtain ⟨_, playing, running, _⟩ := playFlags v h
      rw [show v.play = v from same] at playing running
      exact moves ⟨playing, running⟩
    | pause =>
      obtain ⟨playing, running⟩ := moves
      have paused := (pauseFlags v h).2.2.1
      rw [show v.pause = v from same, running, playing] at paused
      contradiction
    | unpause =>
      have running := (unpauseFlags v h).2.2.1
      rw [show v.unpause = v from same, (moves : v.pausedState = true)] at running
      contradiction
    | stop =>
      have idle := (stopFlags v h).2.1
      rw [show v.stop = v from same, (moves : v.playingState = true)] at idle
      contradiction
    | seekToChapter c =>
      have sought : seekQueue v c = v.queue := by
        rw [VideoState.call, seekTaken moves] at same
        exact congrArg VideoState.queue same
      exact seekPushes v c sought
  -- where nothing is to be done each call falls through its guard
  · intro stays
    cases c with
    | powerOn => simp_all [Moves, VideoState.call, VideoState.powerOn]
    | powerOff => simp_all [Moves, VideoState.call, VideoState.powerOff]
    | play =>
      obtain ⟨playing, running⟩ := not_not.mp stays
      simp [VideoState.call, VideoState.play, VideoState.unpause, powered playing, playing, running]
    | pause => simp_all [Moves, VideoState.call, VideoState.pause]
    | unpause => simp_all [Moves, VideoState.call, VideoState.unpause]
    | stop =>
      have idle : v.playingState = false := Bool.eq_false_iff.mpr stays
      have running : v.pausedState = false :=
        Bool.eq_false_iff.mpr fun paused => stays (plays paused)
      simp [VideoState.call, VideoState.stop, idle, running]
    | seekToChapter c => rw [VideoState.call, seekRefused stays]

end Calls

theorem requestByteLow (r : Request) {k : Fin 11} (after : 2 ≤ k.val) :
    (r.packet.get k).toNat < 128 := by
  have entry : (r.packet.toList.drop 2)[k.val - 2]? = some (r.packet.get k) := by
    rw [List.getElem?_drop, Nat.add_sub_cancel' after]
    exact (List.getElem?_eq_getElem (by simp)).trans (congrArg some (Vector.getElem_toList _))
  exact UInt8.lt_iff_toNat_lt.mp (requestLow r _ (List.mem_of_getElem? entry))

theorem flipsIff {r : Request} {k : Fin 11} (after : 2 ≤ k.val) {byte : UInt8}
    (differs : byte ≠ r.packet.get k) :
    byte.toNat % 128 = (r.packet.get k).toNat % 128 ↔ byte = r.packet.get k + 0x80 := by
  have low := requestByteLow r after
  have range := byte.toNat_lt
  have other : byte.toNat ≠ (r.packet.get k).toNat := fun same => differs (UInt8.toNat_inj.mp same)
  rw [← UInt8.toNat_inj, UInt8.toNat_add]
  change _ ↔ byte.toNat = ((r.packet.get k).toNat + 128) % 2 ^ 8
  omega

theorem flippedHigh {r : Request} {k : Fin 11} (after : 2 ≤ k.val) :
    128 ≤ (r.packet.get k + 0x80).toNat := by
  have low := requestByteLow r after
  rw [UInt8.toNat_add]
  change 128 ≤ ((r.packet.get k).toNat + 128) % 2 ^ 8
  omega

theorem addressedFlips {r : Request} {k : Fin 11} {byte : UInt8} {jlipId : UInt32}
    (differs : byte ≠ r.packet.get k) (small : jlipId.toNat ≤ 63)
    (here : isAddressed (altered r.packet k byte) jlipId = true) :
    3 ≤ k.val ∧ k.val ≤ 9 ∧ byte = r.packet.get k + 0x80 ∧ r.id.toUInt32 = jlipId := by
  obtain ⟨first, second, sum⟩ := (goodIff r.packet).mp (requestGood r)
  obtain ⟨one, two, same, passes⟩ := (addressedIff _ _).mp here
  have notFirst : k.val ≠ 0 := alteredMoved differs (one.trans first.symm)
  have notSecond : k.val ≠ 1 := alteredMoved differs (two.trans second.symm)
  have notLast : k.val ≠ 10 := by
    intro last
    obtain rfl : k = crcLoc := Fin.ext last
    rw [alteredLast, alteredSame, sum] at passes
    exact differs passes.symm
  have after : 2 ≤ k.val := by omega
  rw [alteredOther r.packet (j := crcLoc) notLast, ← sum, alteredChecksum _ (by omega),
    flipsIff after differs] at passes
  -- a flipped ID is above every ID
  have notId : k.val ≠ 2 := by
    intro id
    obtain rfl : k = jlipIdLoc := Fin.ext id
    have high := flippedHigh (r := r) after
    rw [alteredSame, passes] at same
    rw [← same, UInt8.toNat_toUInt32] at small
    omega
  rw [alteredOther r.packet (j := jlipIdLoc) notId] at same
  exact ⟨by omega, by omega, passes, same⟩

theorem alteredAddressed {r : Request} {k : Fin 11} {byte : UInt8} {jlipId : UInt32}
    (differs : byte ≠ r.packet.get k) (small : jlipId.toNat ≤ 63) :
    isAddressed (altered r.packet k byte) jlipId = true ↔
      3 ≤ k.val ∧ k.val ≤ 9 ∧ byte = r.packet.get k + 0x80 ∧ r.id.toUInt32 = jlipId := by
  refine ⟨addressedFlips differs small, ?_⟩
  rintro ⟨low, high, flipped, same⟩
  obtain ⟨first, second, sum⟩ := (goodIff r.packet).mp (requestGood r)
  have kept : ∀ j : Fin 11, j.val < 3 ∨ j.val = 10 →
      (altered r.packet k byte).get j = r.packet.get j :=
    fun j outside => alteredOther r.packet (by omega) byte
  have checksum := (alteredChecksum r.packet (by omega) byte).mpr
    ((flipsIff (by omega) differs).mpr flipped)
  rw [addressedIff, kept (preambleLoc 0) (.inl (by decide)), kept (preambleLoc 1) (.inl (by decide)),
    kept jlipIdLoc (.inl (by decide)), kept crcLoc (.inr rfl), checksum]
  exact ⟨first, second, same, sum⟩

def Ignored {Q : Type} [CommandQueue Q] (packet : Packet) (e : Emulator Q) : Prop :=
  (handlePacket packet e).2.video = e.video ∧
  (handlePacket packet e).2.victor.jlipId = e.victor.jlipId

theorem renameId {Q : Type} (packet : Packet) (e : Emulator Q) :
    (rename packet e).victor.jlipId = (packet.get (commandLoc 2)).toUInt32 := by
  rw [rename, victorSetJlipId]

theorem ignoredIff {packet : Packet} {e : Emulator ByteQueue} (h : Consistent e.video) :
    Ignored packet e ↔ ¬ (isAddressed packet e.victor.jlipId = true ∧ Acts packet e) := by
  unfold Ignored
  constructor
  · rintro ⟨video, jlipId⟩ ⟨here, ⟨c, orders, moves⟩ | ⟨renames, other⟩⟩
    · rw [handleOrdered here orders] at video
      exact (callStays h c).mp video moves
    · rw [handleRenames here renames, renameId] at jlipId
      exact other jlipId
  · intro idle
    rcases handleCases packet e with ⟨here, c, orders, result⟩ | ⟨here, renames, result⟩ | result
    · rw [result]
      exact ⟨(callStays h c).mpr fun moves => idle ⟨here, .inl ⟨c, orders, moves⟩⟩, rfl⟩
    · rw [result, renameId, renameVideo]
      exact ⟨rfl, not_not.mp fun other => idle ⟨here, .inr ⟨renames, other⟩⟩⟩
    · rw [result]
      exact ⟨rfl, rfl⟩

theorem actsLow {Q : Type} [CommandQueue Q] {packet : Packet} {e : Emulator Q}
    (acts : Acts packet e) : ∀ j < 3, (packet.get (commandLoc j)).toNat < 128 := by
  have asked : ∀ {first second third : UInt8}, Asks packet first second third →
      first.toNat < 128 → second.toNat < 128 → third.toNat < 128 →
      ∀ j < 3, (packet.get (commandLoc j)).toNat < 128 := by
    rintro _ _ _ ⟨rfl, rfl, rfl⟩ first second third j inside
    match j with
    | 0 => exact first
    | 1 => exact second
    | 2 => exact third
    | j + 3 => omega
  rcases acts with ⟨c, orders, _⟩ | ⟨⟨device, change, _, high⟩, _⟩
  · cases orders with
    | pause asks => exact asked asks (by decide) (by decide) (by decide)
    | play asks => exact asked asks (by decide) (by decide) (by decide)
    | stop asks => exact asked asks (by decide) (by decide) (by decide)
    | seek asks => exact asked asks (by decide) (by decide) (by decide)
    | previous asks => exact asked asks (by decide) (by decide) (by decide)
    | next asks => exact asked asks (by decide) (by decide) (by decide)
    | powerOff asks => exact asked asks (by decide) (by decide) (by decide)
    | powerOn asks => exact asked asks (by decide) (by decide) (by decide)
  · exact asked ⟨device, change, rfl⟩ (by decide) (by decide) (by omega)

theorem corruptedIgnoredIff [Scanf] (dvdType : DvdType) (jlipIdFile : Option (List UInt8))
    (chapters : Int32) (events : List (EmulatorRuns.Event ByteQueue)) (r : Request) (k : Fin 11)
    (byte : UInt8) :
    let e := run EmulatorRuns.step
      (victorInit dvdType (Emulator.start ByteQueue.init chapters jlipIdFile)) events
    Addressable e → byte ≠ r.packet.get k →
    (Ignored (altered r.packet k byte) e ↔
      ¬ (6 ≤ k.val ∧ k.val ≤ 9 ∧ byte = r.packet.get k + 0x80 ∧
        r.id.toUInt32 = e.victor.jlipId ∧ Acts (altered r.packet k byte) e)) := by
  intro e addressable differs
  have h : Consistent e.video := (EmulatorRuns.soundRun
    (victorInit dvdType (Emulator.start ByteQueue.init chapters jlipIdFile)) ByteQueue.init
    chapters events).consistent
  rw [ignoredIff h, alteredAddressed differs addressable.2, not_iff_not]
  constructor
  · rintro ⟨⟨low, high, flipped, here⟩, acts⟩
    refine ⟨?_, high, flipped, here, acts⟩
    -- a flipped command byte is no command
    by_contra command
    have place : commandLoc (k.val - 3) = k :=
      Fin.ext (by change (3 + (k.val - 3)) % 11 = k.val; omega)
    have clear := actsLow acts (k.val - 3) (by omega)
    have high := flippedHigh (r := r) (k := k) (by omega)
    rw [place, alteredSame, flipped] at clear
    omega
  · rintro ⟨low, high, flipped, here, acts⟩
    exact ⟨⟨by omega, high, flipped, here⟩, acts⟩

theorem defaultIdLow : (0x21 : UInt8) < 0x80 := by decide

def turnOn : Request := ⟨0x21, #v[0x3E, 0x40, 0x70, 0, 0, 0, 0], defaultIdLow, by decide⟩

theorem corruptedIgnoredCommand :
    haveI : Scanf := ⟨Int32.ofInt⟩
    Ignored (altered turnOn.packet 5 0xF0) (run EmulatorRuns.step
      (victorInit .dvd (Emulator.start ByteQueue.init 3 none)) [.call .powerOn, .call .play]) :=
  (@corruptedIgnoredIff ⟨Int32.ofInt⟩ .dvd none 3 [.call .powerOn, .call .play] turnOn 5 0xF0
    (by decide +kernel) (by decide +kernel)).mpr fun ⟨after, _⟩ => absurd after (by decide)

theorem corruptedTurnsOn :
    haveI : Scanf := ⟨Int32.ofInt⟩
    ¬ Ignored (altered turnOn.packet 6 0x80) (run EmulatorRuns.step
      (victorInit .dvd (Emulator.start ByteQueue.init 3 none)) []) :=
  fun ⟨video, _⟩ => absurd (congrArg VideoState.powerState video) (by decide +kernel)

end SerialDvdEmu.VictorCorruption
