import SerialDvdEmu.VictorRequests

/-! A request as the call of the player that it orders. Emulators that differ in their queues
only answer every request alike and go on alike. -/
namespace SerialDvdEmu.VictorCalls
open VictorPacket VictorHandlers VictorRequests
open VideoPlayer
open VideoPlayer.VideoState (Call)

section Orders
variable {Q : Type} [CommandQueue Q]

inductive Orders (packet : Packet) (e : Emulator Q) : Call → Prop where
  | pause (asks : Asks packet 0x0C 0x43 0x6D) : Orders packet e .pause
  | play (asks : Asks packet 0x0C 0x43 0x75) : Orders packet e .play
  | stop (asks : Asks packet 0x0C 0x44 0x60) : Orders packet e .stop
  | seek (asks : Asks packet 0x0C 0x50 0x20) :
      Orders packet e (.seekToChapter (requestedChapter packet e.victor.dvdType))
  | previous (asks : Asks packet 0x0C 0x50 0x61) :
      Orders packet e (.seekToChapter (previousChapter e.video))
  | next (asks : Asks packet 0x0C 0x50 0x73) :
      Orders packet e (.seekToChapter (nextChapter e.video))
  | powerOff (asks : Asks packet 0x3E 0x40 0x60) : Orders packet e .powerOff
  | powerOn (asks : Asks packet 0x3E 0x40 0x70) : Orders packet e .powerOn

theorem dispatchOrdered {packet : Packet} {e : Emulator Q} {c : Call}
    (orders : Orders packet e c) : ∃ reply,
    dispatch packet e = (some reply, { e with video := e.video.call c }) := by
  cases orders with
  | pause asks => exact ⟨_, pauseKnown asks e⟩
  | play asks => exact ⟨_, playKnown asks e⟩
  | stop asks => exact ⟨_, stopKnown asks e⟩
  | seek asks => exact ⟨_, seekKnown asks e⟩
  | previous asks => exact ⟨_, previousKnown asks e⟩
  | next asks => exact ⟨_, nextKnown asks e⟩
  | powerOff asks =>
    rw [powerOffKnown asks e]
    cases powered : e.video.powerState with
    | true => exact ⟨_, if_pos powered⟩
    | false =>
      have same : e.video.call .powerOff = e.video := by
        simp [VideoState.call, VideoState.powerOff, powered]
      rw [same]
      exact ⟨_, if_neg (by simp [VideoState.isPowered, powered])⟩
  | powerOn asks =>
    rw [powerOnKnown asks e]
    cases powered : e.video.powerState with
    | true =>
      have same : e.video.call .powerOn = e.video := by
        simp [VideoState.call, VideoState.powerOn, powered]
      rw [same]
      exact ⟨_, if_pos powered⟩
    | false => exact ⟨_, if_neg (by simp [VideoState.isPowered, powered])⟩

def Kept (e : Emulator Q) (result : Option Packet × Emulator Q) : Prop := result.2 = e

omit [CommandQueue Q] in
theorem Kept.ite {e : Emulator Q} {c : Prop} [Decidable c] {x y : Option Packet × Emulator Q}
    (yes : c → Kept e x) (no : ¬ c → Kept e y) : Kept e (if c then x else y) := by
  by_cases h : c
  · simpa only [if_pos h] using yes h
  · simpa only [if_neg h] using no h

theorem dispatchUnordered {packet : Packet} {e : Emulator Q} (none : ∀ c, ¬ Orders packet e c)
    (kept : ¬ Renames packet) : Kept e (dispatch packet e) := by
  unfold dispatch
  refine .ite (fun media => ?_) fun _ => .ite (fun power => ?_) fun _ =>
    .ite (fun device => ?_) fun _ => rfl
  · unfold handleMediaPacket
    refine .ite (fun _ => rfl) fun _ => .ite (fun playing => ?_) fun _ => .ite (fun stopping => ?_)
      fun _ => .ite (fun _ => rfl) fun _ => .ite (fun _ => rfl) fun _ => .ite (fun seeking => ?_)
      fun _ => rfl
    · exact .ite (fun third => absurd (.pause ⟨media, playing, third⟩) (none _)) fun _ =>
        .ite (fun third => absurd (.play ⟨media, playing, third⟩) (none _)) fun _ => rfl
    · exact .ite (fun third => absurd (.stop ⟨media, stopping, third⟩) (none _)) fun _ => rfl
    · exact .ite (fun third => absurd (.seek ⟨media, seeking, third⟩) (none _)) fun _ =>
        .ite (fun third => absurd (.previous ⟨media, seeking, third⟩) (none _)) fun _ =>
        .ite (fun third => absurd (.next ⟨media, seeking, third⟩) (none _)) fun _ => rfl
  · unfold handlePowerPacket
    refine .ite (fun switching => ?_) fun _ => .ite (fun _ => ?_) fun _ => rfl
    · exact .ite (fun third => absurd (.powerOff ⟨power, switching, third⟩) (none _)) fun _ =>
        .ite (fun third => absurd (.powerOn ⟨power, switching, third⟩) (none _)) fun _ => rfl
    · exact .ite (fun _ => rfl) fun _ => rfl
  · unfold handleDevicePacket
    refine .ite (fun change => .ite (fun range => ?_) fun _ => rfl) fun _ => ?_
    · simp only [Bool.and_eq_true, decide_eq_true_eq, ge_iff_le, UInt32.le_iff_toNat_le] at range
      exact absurd ⟨device, change, by simpa using range⟩ kept
    · exact .ite (fun _ => rfl) fun _ => .ite (fun _ => rfl) fun _ => .ite (fun _ => rfl) fun _ =>
        .ite (fun _ => rfl) fun _ => .ite (fun _ => rfl) fun _ => .ite (fun _ => rfl) fun _ => rfl

theorem handleOrdered {packet : Packet} {e : Emulator Q}
    (h : isAddressed packet e.victor.jlipId = true) {c : Call} (orders : Orders packet e c) :
    (handlePacket packet e).2 = { e with video := e.video.call c } := by
  obtain ⟨reply, known⟩ := dispatchOrdered orders
  rw [handleKnown h known]

theorem handleRenames {packet : Packet} {e : Emulator Q}
    (h : isAddressed packet e.victor.jlipId = true) (renames : Renames packet) :
    (handlePacket packet e).2 = rename packet e := by
  rw [handleKnown h (dispatchRenames renames e)]

theorem handleUnordered {packet : Packet} {e : Emulator Q} (none : ∀ c, ¬ Orders packet e c)
    (kept : ¬ Renames packet) : (handlePacket packet e).2 = e := by
  cases h : isAddressed packet e.victor.jlipId with
  | false => rw [handleElsewhere h]
  | true =>
    have same := dispatchUnordered none kept
    rw [handleAddressed h]
    match known : dispatch packet e with
    | (some reply, e') => rw [known] at same; exact same
    | (.none, e') => rw [known] at same; exact same

theorem receiveKnown {e e' : Emulator Q} {byte : UInt8} {reply : Packet}
    (replied : (victorReceiveByte byte e).1 = true)
    (known : dispatch (window e byte) e = (some reply, e')) :
    victorReceiveByte byte e = (true, receiving (window e byte) (some reply) e') := by
  rw [receiveResult] at replied
  rw [receiveEq, handleKnown replied known]
  rfl

theorem handleCases (packet : Packet) (e : Emulator Q) :
    (isAddressed packet e.victor.jlipId = true ∧ ∃ c, Orders packet e c ∧
      (handlePacket packet e).2 = { e with video := e.video.call c }) ∨
    (isAddressed packet e.victor.jlipId = true ∧ Renames packet ∧
      (handlePacket packet e).2 = rename packet e) ∨
    (handlePacket packet e).2 = e := by
  cases h : isAddressed packet e.victor.jlipId with
  | false => exact .inr (.inr (by rw [handleElsewhere h]))
  | true =>
    by_cases ordered : ∃ c, Orders packet e c
    · obtain ⟨c, orders⟩ := ordered
      exact .inl ⟨rfl, c, orders, handleOrdered h orders⟩
    · by_cases renames : Renames packet
      · exact .inr (.inl ⟨rfl, renames, handleRenames h renames⟩)
      · exact .inr (.inr (handleUnordered (fun c orders => ordered ⟨c, orders⟩) renames))

end Orders

section Alike
variable {Q Q' : Type} [CommandQueue Q] [CommandQueue Q']

structure Alike (R : Q → Q' → Prop) (e : Emulator Q) (e' : Emulator Q') : Prop where
  video : Follows R e.video e'.video
  victor : e.victor = e'.victor
  toshiba : e.toshiba = e'.toshiba
  jlipIdFile : e.jlipIdFile = e'.jlipIdFile

def AnsweredAlike (R : Q → Q' → Prop) (x : Option Packet × Emulator Q)
    (y : Option Packet × Emulator Q') : Prop := x.1 = y.1 ∧ Alike R x.2 y.2

variable {R : Q → Q' → Prop}

omit [CommandQueue Q] [CommandQueue Q'] in
theorem AnsweredAlike.ite {c : Prop} [Decidable c] {x₁ x₂ : Option Packet × Emulator Q}
    {y₁ y₂ : Option Packet × Emulator Q'} (yes : AnsweredAlike R x₁ y₁)
    (no : AnsweredAlike R x₂ y₂) :
    AnsweredAlike R (if c then x₁ else x₂) (if c then y₁ else y₂) := by
  by_cases h : c
  · simpa only [if_pos h] using yes
  · simpa only [if_neg h] using no

theorem followSeekReply (pushes : Pushes R) {e : Emulator Q} {e' : Emulator Q'} (f : Alike R e e')
    (chapter : UInt32) : AnsweredAlike R (seekReply chapter e) (seekReply chapter e') := by
  obtain ⟨result, state⟩ := followSeek pushes f.video chapter
  refine ⟨?_, state, f.victor, f.toshiba, f.jlipIdFile⟩
  simp only [seekReply, result, f.victor]

theorem followMedia (pushes : Pushes R) {e : Emulator Q} {e' : Emulator Q'} (f : Alike R e e')
    (packet : Packet) :
    AnsweredAlike R (handleMediaPacket packet e) (handleMediaPacket packet e') := by
  have silent : AnsweredAlike R (none, e) (none, e') := ⟨rfl, f⟩
  have called : ∀ {v : VideoState Q} {v' : VideoState Q'}, Follows R v v' →
      AnsweredAlike R
        (some (createPacket e.victor.jlipId .ok noResponse), { e with video := v })
        (some (createPacket e'.victor.jlipId .ok noResponse), { e' with video := v' }) :=
    fun follows => ⟨by rw [f.victor], follows, f.victor, f.toshiba, f.jlipIdFile⟩
  have chapter : e.video.getChapter = e'.video.getChapter := congrArg UInt32.toInt32 f.video.chapter
  have playing : e.video.isPlaying = e'.video.isPlaying := f.video.playing
  have previous : previousChapter e.video = previousChapter e'.video := by
    rw [previousChapter, previousChapter, chapter, playing]
  have next : nextChapter e.video = nextChapter e'.video := by
    rw [nextChapter, nextChapter, chapter]
  unfold handleMediaPacket
  rw [f.victor, previous, next]
  rw [f.victor] at called
  refine .ite silent (.ite ?pausePlay (.ite ?stop (.ite silent (.ite silent (.ite ?seek silent)))))
  case pausePlay =>
    exact .ite (called (followPause pushes f.video)) (.ite (called (followPlay pushes f.video)) silent)
  case stop => exact .ite (called (followStop pushes f.video)) silent
  case seek =>
    exact .ite (followSeekReply pushes f _) (.ite (followSeekReply pushes f _)
      (.ite (followSeekReply pushes f _) silent))

theorem followPower (pushes : Pushes R) {e : Emulator Q} {e' : Emulator Q'} (f : Alike R e e')
    (packet : Packet) :
    AnsweredAlike R (handlePowerPacket packet e) (handlePowerPacket packet e') := by
  have powered : e.video.isPowered = e'.video.isPowered := f.video.power
  have silent : AnsweredAlike R (none, e) (none, e') := ⟨rfl, f⟩
  have answered : ∀ (reply : Packet) {v : VideoState Q} {v' : VideoState Q'}, Follows R v v' →
      AnsweredAlike R (some reply, { e with video := v }) (some reply, { e' with video := v' }) :=
    fun _ _ _ follows => ⟨rfl, follows, f.victor, f.toshiba, f.jlipIdFile⟩
  unfold handlePowerPacket
  simp only [powered, f.victor]
  simp only [f.victor] at answered
  refine .ite (.ite (answered _ ?off) (.ite (answered _ ?on) silent)) (.ite (.ite ⟨rfl, f⟩ silent) silent)
  case off =>
    cases e'.video.isPowered
    · exact f.video
    · exact followPowerOff pushes f.video
  case on =>
    cases e'.video.isPowered
    · exact followPowerOn pushes f.video
    · exact f.video

omit [CommandQueue Q] [CommandQueue Q'] in
theorem followDevice {e : Emulator Q} {e' : Emulator Q'} (f : Alike R e e') (packet : Packet) :
    AnsweredAlike R (handleDevicePacket packet e) (handleDevicePacket packet e') := by
  have answered : ∀ reply, AnsweredAlike R (some reply, e) (some reply, e') := fun _ => ⟨rfl, f⟩
  unfold handleDevicePacket
  simp only [f.victor]
  refine .ite (.ite ⟨rfl, f.video, by simp [victorSetJlipId], f.toshiba, rfl⟩ (answered _)) ?_
  exact .ite (answered _) (.ite (answered _) (.ite (answered _) (.ite (answered _)
    (.ite (answered _) (.ite (answered _) ⟨rfl, f⟩)))))

theorem followHandle (pushes : Pushes R) {e : Emulator Q} {e' : Emulator Q'} (f : Alike R e e')
    (packet : Packet) : AnsweredAlike R (handlePacket packet e) (handlePacket packet e') := by
  have dispatched : AnsweredAlike R (dispatch packet e) (dispatch packet e') :=
    .ite (followMedia pushes f packet) (.ite (followPower pushes f packet)
      (.ite (followDevice f packet) ⟨rfl, f⟩))
  cases h : isAddressed packet e.victor.jlipId with
  | false =>
    rw [handleElsewhere h, handleElsewhere (f.victor ▸ h)]
    exact ⟨rfl, f⟩
  | true =>
    rw [handleAddressed h, handleAddressed (f.victor ▸ h)]
    obtain ⟨same, states⟩ := dispatched
    revert same states
    generalize dispatch packet e = x
    generalize dispatch packet e' = y
    obtain ⟨reply, d⟩ := x
    obtain ⟨reply', d'⟩ := y
    rintro ⟨⟩ states
    cases reply with
    | none =>
      have victor : d.victor = d'.victor := states.victor
      exact ⟨by simp only [victor], states⟩
    | some reply => exact ⟨rfl, states⟩

omit [CommandQueue Q] [CommandQueue Q'] in
theorem alikeReceiving {e : Emulator Q} {e' : Emulator Q'} (f : Alike R e e') (packet : Packet)
    (response : Option Packet) :
    Alike R (receiving packet response e) (receiving packet response e') :=
  ⟨f.video, by simp only [receiving, f.victor], f.toshiba, f.jlipIdFile⟩

theorem followReceive (pushes : Pushes R) {e : Emulator Q} {e' : Emulator Q'} (f : Alike R e e')
    (byte : UInt8) : (victorReceiveByte byte e).1 = (victorReceiveByte byte e').1 ∧
    Alike R (victorReceiveByte byte e).2 (victorReceiveByte byte e').2 := by
  have same : window e byte = window e' byte := by rw [window, window, f.victor]
  obtain ⟨reply, states⟩ := followHandle pushes f (window e' byte)
  rw [receiveEq, receiveEq, same]
  revert reply states
  generalize handlePacket (window e' byte) e = x
  generalize handlePacket (window e' byte) e' = y
  intro reply states
  rw [reply]
  exact ⟨rfl, alikeReceiving states _ _⟩

end Alike
end SerialDvdEmu.VictorCalls
