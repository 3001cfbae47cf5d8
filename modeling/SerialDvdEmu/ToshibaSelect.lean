import SerialDvdEmu.EmulatorRuns

/-! Chapter select on the Toshiba line: which chapter a payload asks for, from what `%d` matches,
and what the player makes of it between any other lines and calls. -/
namespace SerialDvdEmu.ToshibaSelect
open EventRun
open Decimal (Numeral Reads readsScan scanReads)
open ToshibaLine EmulatorRuns
open VideoPlayer

def Selects (payload : List UInt8) (title chapter : Int) : Prop :=
  ∃ middle rest, Reads payload title (0x2C :: middle) ∧ Reads middle chapter rest

theorem digitsSelect {title chapter : List UInt8} (t : Numeral title) (c : Numeral chapter) :
    Selects (title ++ 0x2C :: chapter) (Decimal.value title) (Decimal.value chapter) := by
  have last : Reads (chapter ++ []) (Decimal.value chapter) [] := .unsigned c (by simp)
  rw [List.append_nil] at last
  refine ⟨chapter, [], .unsigned t ?_, last⟩
  intro byte head
  cases Option.some.inj head
  decide

section Lines
variable {Q : Type} [CommandQueue Q] [Scanf]

omit [CommandQueue Q] in
theorem selectedRead {payload : List UInt8} {title chapter : Int}
    (selects : Selects payload title chapter) :
    selectedChapter payload = (Scanf.store chapter).toUInt32 := by
  obtain ⟨middle, rest, first, second⟩ := selects
  simp only [selectedChapter, readsScan first, readsScan second]

theorem selectedUnread {payload : List UInt8}
    (unread : ∀ title chapter, ¬ Selects payload title chapter) : selectedChapter payload = 0 := by
  unfold selectedChapter
  split
  · rename_i title middle first
    split
    · rename_i chapter rest second
      exact absurd ⟨middle, rest, scanReads first, scanReads second⟩ (unread title chapter)
    · rfl
  all_goals rfl

theorem storedChapter {n : Int} (low : -2147483648 ≤ n) (high : n < 2147483648) :
    (Scanf.store n).toUInt32.toNat = (n % 4294967296).toNat := by
  rw [Scanf.store, if_pos ⟨low, high⟩]
  exact BitVec.toNat_ofInt n

theorem selectOrdered (payload : List UInt8) :
    ordered (cs ++ payload) = some (.seekToChapter (selectedChapter payload)) := by
  simp [ordered, cs, re, cl, pl, pu]

abbrev Event (Q : Type) := Happening Line Q

def step : Emulator Q → Event Q → Emulator Q :=
  Emulator.happen (fun e l => after toshibaTurn e l.sent) leaves

def started (e : Emulator Q) (queue : Q) (chapters : Int32) (events : List (Event Q)) : Emulator Q :=
  run step (toshibaInit { e with video := videoInit queue chapters }) events

structure Between (chapters : UInt32) (e : Emulator Q) : Prop where
  ready : Ready e []
  sound : Sound chapters e.video

theorem stepBetween {chapters : UInt32} {e : Emulator Q} (h : Between chapters e)
    (event : Event Q) : Between chapters (step e event) := by
  refine ⟨happenKeeps (fun e => Ready e []) (fun e v ready => ⟨ready.packet, ready.response⟩)
    (fun e l ready => (lineRun ready l).2.2.1) e event h.ready,
    happenSound (fun e l sound => ?_) e event h.sound⟩
  exact runInvariant (fun e : Emulator Q => Sound chapters e.video)
    (fun e byte sound => soundCalled sound (toshibaCalled e byte)) sound l.sent

theorem runBetween (e : Emulator Q) (queue : Q) (chapters : Int32) (events : List (Event Q)) :
    Between chapters.toUInt32 (started e queue chapters events) := by
  have start : Between chapters.toUInt32 (toshibaInit { e with video := videoInit queue chapters }) :=
    ⟨initReady _, initConsistent queue chapters, rfl⟩
  exact runInvariant (Between chapters.toUInt32) (fun _ event h => stepBetween h event) start events

theorem selectObeyed {chapters : UInt32} {e : Emulator Q} (h : Between chapters e) {l : Line}
    {payload : List UInt8} (text : l.text = cs ++ payload) :
    (after toshibaTurn e l.sent).video =
      (e.video.seekToChapter (selectedChapter payload)).2 := by
  rw [(lineRun h.ready l).2.2.2, text, obey, selectOrdered]
  rfl

omit [CommandQueue Q] in
theorem selectReaches {chapters : Int32} (nonneg : 0 ≤ chapters.toInt) {e : Emulator Q}
    (between : Between chapters.toUInt32 e) {title chapter : List UInt8} (t : Numeral title)
    (c : Numeral chapter) (small : Decimal.value chapter ≤ 2147483647) :
    selectedChapter (title ++ 0x2C :: chapter) = UInt32.ofNat (Decimal.value chapter) ∧
    (selectedChapter (title ++ 0x2C :: chapter)).toNat = Decimal.value chapter ∧
    (Reaches e.video (selectedChapter (title ++ 0x2C :: chapter)) ↔
      e.video.powerState = true ∧ 1 ≤ Decimal.value chapter ∧
        (Decimal.value chapter : Int) ≤ chapters.toInt) := by
  have count := chapterCount nonneg
  have number : (selectedChapter (title ++ 0x2C :: chapter)).toNat = Decimal.value chapter := by
    rw [selectedRead (digitsSelect t c), storedChapter (by omega) (by omega)]
    omega
  refine ⟨by rw [← number, UInt32.ofNat_toNat], number, ?_⟩
  rw [Reaches, number, between.sound.bound]
  refine and_congr_right fun _ => ?_
  omega

omit [CommandQueue Q] in
theorem selectNonpositive {chapters : Int32} (nonneg : 0 ≤ chapters.toInt) {e : Emulator Q}
    (between : Between chapters.toUInt32 e) {chapter : Int} (low : -2147483648 ≤ chapter)
    (nonpositive : chapter ≤ 0) : ¬ Reaches e.video (Scanf.store chapter).toUInt32 := by
  have count := chapterCount nonneg
  have top := chapters.toInt_lt
  have number := storedChapter low (by omega)
  rintro ⟨_, positive, high⟩
  rw [number] at positive high
  rw [between.sound.bound] at high
  -- below zero the conversion to unsigned gives at least 2^31
  omega

theorem chapterSelected (e : Emulator Q) (queue : Q) (chapters : Int32)
    (nonneg : 0 ≤ chapters.toInt) (events : List (Event Q)) (l : Line) :
    let before := started e queue chapters events
    let video := (after toshibaTurn before l.sent).video
    (∀ title chapter, Numeral title → Numeral chapter → Decimal.value title ≤ 2147483647 →
      Decimal.value chapter ≤ 2147483647 → l.text = cs ++ (title ++ 0x2C :: chapter) →
      let inside := before.video.powerState = true ∧ 1 ≤ Decimal.value chapter ∧
        (Decimal.value chapter : Int) ≤ chapters.toInt
      (inside →
        video = (before.video.seekToChapter (UInt32.ofNat (Decimal.value chapter))).2 ∧
        video.chapter.toNat = Decimal.value chapter ∧ video.playingState = true ∧
        video.pausedState = before.video.pausedState) ∧
      (¬ inside → video = before.video)) ∧
    (∀ payload, l.text = cs ++ payload → (∀ title chapter, ¬ Selects payload title chapter) →
      video = before.video) ∧
    (∀ payload title chapter, l.text = cs ++ payload → Selects payload title chapter →
      -2147483648 ≤ chapter → chapter ≤ 0 → video = before.video) := by
  intro before video
  have between : Between chapters.toUInt32 before := runBetween e queue chapters events
  refine ⟨fun title chapter t c _ small text => ?_, fun payload text unread => ?_,
    fun payload title chapter text selects low nonpositive => ?_⟩
  · obtain ⟨same, number, reaches⟩ := selectReaches nonneg between t c small
    have obeyed := selectObeyed between text
    constructor
    · intro inside
      have reached := reaches.mpr inside
      rw [← same]
      refine ⟨obeyed, ?_⟩
      rw [seekTaken reached] at obeyed
      simp only [video, obeyed]
      exact ⟨number, trivial, trivial⟩
    · intro outside
      exact obeyed.trans (by rw [seekRefused (fun reached => outside (reaches.mp reached))])
  · have nothing : ¬ Reaches before.video 0 := fun reached => absurd reached.2.1 (by decide)
    refine (selectObeyed between text).trans ?_
    rw [selectedUnread unread, seekRefused nothing]
  · refine (selectObeyed between text).trans ?_
    rw [selectedRead selects, seekRefused (selectNonpositive nonneg between low nonpositive)]

end Lines

def selectLine : Line := ⟨cs ++ [0x30, 0x31, 0x2C, 0x30, 0x32], by decide, by decide⟩

theorem chapterSelectedSecond :
    haveI : Scanf := ⟨Int32.ofInt⟩
    let e := Emulator.start VideoQueue.ByteQueue.init 3 none
    (after toshibaTurn (started e .init 3 [.call .powerOn]) selectLine.sent).video.chapter.toNat =
      Decimal.value [0x30, 0x32] := by
  intro e
  have selected := (@chapterSelected VideoQueue.ByteQueue _ ⟨Int32.ofInt⟩ e .init 3 (by decide)
    [.call .powerOn] selectLine).1 [0x30, 0x31] [0x30, 0x32] ⟨by decide, by decide +kernel⟩
    ⟨by decide, by decide +kernel⟩ (by decide +kernel) (by decide +kernel) (by decide +kernel)
  exact (selected.1 (by decide +kernel)).2.1

end SerialDvdEmu.ToshibaSelect
