import SerialDvdEmu.Base.CString
import SerialDvdEmu.Emulator

/-! The line protocol of the Toshiba SD-B100. The receiver knows where it is only by strlen over
its two arrays, which stand next to each other in memory. -/
namespace SerialDvdEmu.ToshibaLine
open EventRun
open VideoPlayer (CommandQueue VideoState)

section Receiver
variable {Q : Type} [CommandQueue Q] [Scanf]

def wg : List UInt8 := [0x57, 0x47]
def re : List UInt8 := [0x52, 0x45]
def cl : List UInt8 := [0x43, 0x4C]
def kl : List UInt8 := [0x4B, 0x4C]
def vm : List UInt8 := [0x56, 0x4D]
def rp : List UInt8 := [0x52, 0x50]
def pl : List UInt8 := [0x50, 0x4C]
def pu : List UInt8 := [0x50, 0x55]
def cs : List UInt8 := [0x43, 0x53]

/-- sscanf with `%d,%d`; a number that is not read stays 0. -/
def selectedChapter (parameters : List UInt8) : UInt32 :=
  match Decimal.scanInt parameters with
  | some (_, 0x2C :: rest) => match Decimal.scanInt rest with
    | some (chapter, _) => (Scanf.store chapter).toUInt32
    | none => 0
  | some _ | none => 0

omit [CommandQueue Q] [Scanf] in
def toshibaInit (e : Emulator Q) : Emulator Q :=
  { e with toshiba := ⟨Vector.replicate 256 0, Vector.replicate 256 0⟩ }

def answer (out : List UInt8) (e : Emulator Q) : Emulator Q :=
  { e with toshiba := { e.toshiba with response := CString.strcpy e.toshiba.response out } }

def line (e : Emulator Q) : List UInt8 :=
  CString.text (e.toshiba.packet.toList ++ e.toshiba.response.toList)

def processPacket (e : Emulator Q) : Emulator Q :=
  let e := answer [0x4B] e
  let received := line e
  if received.take 2 = wg then e
  else if received = re then { e with video := e.video.powerOn }
  else if received = cl then { e with video := e.video.powerOn }
  else if received.take 2 = kl then e
  else if received.take 2 = vm then e
  else if received.take 2 = rp then e
  else if received = pl then { e with video := e.video.play }
  else if received = pu then { e with video := e.video.pause }
  else if received.take 2 = cs then
    { e with video := (e.video.seekToChapter (selectedChapter (received.drop 2))).2 }
  else answer [0x45] e

/-- An index past the packet is one of the response; past that it is no longer followed. -/
def store (index : Nat) (byte : UInt8) (t : ToshibaState) : ToshibaState :=
  if h : index < 256 then { t with packet := t.packet.set index byte }
  else if h : index - 256 < 256 then { t with response := t.response.set (index - 256) byte }
  else t

def dropResponse (e : Emulator Q) : Emulator Q :=
  if CString.strlen e.toshiba.response.toList > 0 then
    { e with toshiba := { e.toshiba with response := Vector.replicate 256 0 } }
  else e

def toshibaReceiveByte (byte : UInt8) (e : Emulator Q) : Bool × Emulator Q :=
  let e := dropResponse e
  if byte = 0x0D then
    let e := processPacket e
    (true, { e with toshiba := { e.toshiba with packet := Vector.replicate 256 0 } })
  else
    let index := CString.strlen (e.toshiba.packet.toList ++ e.toshiba.response.toList)
    (false, { e with toshiba := store index byte e.toshiba })

def toshibaGetResponse (e : Emulator Q) : Option (List UInt8) × Emulator Q :=
  let length := CString.strlen e.toshiba.response.toList
  if length > 0 then
    let response := e.toshiba.response.setIfInBounds length 0x0D
    (some (response.toList.take (CString.strlen response.toList)),
      { e with toshiba := { e.toshiba with response := response } })
  else (none, e)

def toshibaTurn (e : Emulator Q) (byte : UInt8) :
    (Bool × Option (List UInt8)) × Emulator Q :=
  let received := toshibaReceiveByte byte e
  if received.1 then
    let response := toshibaGetResponse received.2
    ((true, response.1), response.2)
  else ((false, none), received.2)

def Idle (text : List UInt8) : Prop := ∃ word ∈ [wg, kl, vm, rp], word <+: text

def Known (text : List UInt8) : Prop := text ∈ [re, cl, pl, pu] ∨ Idle text ∨ cs <+: text

instance (text : List UInt8) : Decidable (Idle text) :=
  inferInstanceAs (Decidable (∃ word ∈ [wg, kl, vm, rp], word <+: text))

instance (text : List UInt8) : Decidable (Known text) := inferInstanceAs (Decidable (_ ∨ _ ∨ _))

def ordered (text : List UInt8) : Option VideoState.Call :=
  if text = re ∨ text = cl then some .powerOn
  else if text = pl then some .play
  else if text = pu then some .pause
  else if cs <+: text then some (.seekToChapter (selectedChapter (text.drop 2)))
  else none

def obey (text : List UInt8) (v : VideoState Q) : VideoState Q := match ordered text with
  | some c => v.call c
  | none => v

def reply (text : List UInt8) : List UInt8 := if Known text then [0x4B] else [0x45]

theorem idleUnordered {text : List UInt8} (idle : Idle text) : ordered text = none := by
  obtain ⟨word, mem, start⟩ := idle
  have head : text.take 2 ∈ [wg, kl, vm, rp] := by
    have two : word.length = 2 := by
      simp only [List.mem_cons, List.not_mem_nil, or_false] at mem
      rcases mem with rfl | rfl | rfl | rfl <;> rfl
    rwa [← two, ← List.prefix_iff_eq_take.mp start]
  have other : ∀ exact ∈ [re, cl, pl, pu], text ≠ exact := by
    rintro exact word rfl
    revert head
    simp only [List.mem_cons, List.not_mem_nil, or_false] at word
    rcases word with rfl | rfl | rfl | rfl <;> decide
  have noSelect : ¬ cs <+: text := by
    intro select
    have cut : cs = text.take 2 := List.prefix_iff_eq_take.mp select
    rw [← cut] at head
    revert head
    decide
  simp [ordered, other, noSelect]

theorem unknownUnordered {text : List UInt8} (unknown : ¬ Known text) : ordered text = none := by
  simp only [Known, Idle, List.mem_cons, List.not_mem_nil, or_false, not_or] at unknown
  simp [ordered, unknown]

def Answered (text : List UInt8) (e e' : Emulator Q) : Prop :=
  ∃ response, CString.Holds response (reply text) ∧
    e' = { e with
      video := obey text e.video
      toshiba := { e.toshiba with response := response } }

theorem Answered.ite {text : List UInt8} {e x y : Emulator Q} {c : Prop} [Decidable c]
    (yes : c → Answered text e x) (no : ¬ c → Answered text e y) :
    Answered text e (if c then x else y) := by
  by_cases h : c
  · simpa only [if_pos h] using yes h
  · simpa only [if_neg h] using no h

theorem processLine {e : Emulator Q} {text : List UInt8}
    (packet : CString.Holds e.toshiba.packet text)
    (cleared : CString.Holds e.toshiba.response []) : Answered text e (processPacket e) := by
  obtain ⟨out, ok, copied⟩ : ∃ out, CString.Holds out [0x4B] ∧
      answer [0x4B] e = { e with toshiba := { e.toshiba with response := out } } :=
    ⟨_, cleared.strcpy (Nat.zero_le _) (by simp) (by decide), rfl⟩
  have received : line (answer [0x4B] e) = text := by
    rw [line, copied]
    exact packet.text _
  have start : ∀ word : List UInt8, word.length = 2 → (text.take 2 = word ↔ word <+: text) :=
    fun word two => by rw [List.prefix_iff_eq_take, two, eq_comm]
  have known : Known text → ∀ video, video = obey text e.video →
      Answered text e { e with video := video, toshiba := { e.toshiba with response := out } } := by
    rintro known video rfl
    exact ⟨out, by rw [reply, if_pos known]; exact ok, rfl⟩
  have idle : Idle text →
      Answered text e { e with toshiba := { e.toshiba with response := out } } := fun idle =>
    known (.inr (.inl idle)) e.video (by rw [obey, idleUnordered idle])
  unfold processPacket
  simp only [received, start wg rfl, start kl rfl, start vm rfl, start rp rfl, start cs rfl]
  rw [copied]
  refine .ite (fun h => idle ⟨wg, by decide, h⟩) fun noWg => ?_
  refine .ite (fun h => known (h ▸ by decide) _ (by rw [h]; rfl)) fun noRe => ?_
  refine .ite (fun h => known (h ▸ by decide) _ (by rw [h]; rfl)) fun noCl => ?_
  refine .ite (fun h => idle ⟨kl, by decide, h⟩) fun noKl => ?_
  refine .ite (fun h => idle ⟨vm, by decide, h⟩) fun noVm => ?_
  refine .ite (fun h => idle ⟨rp, by decide, h⟩) fun noRp => ?_
  refine .ite (fun h => known (h ▸ by decide) _ (by rw [h]; rfl)) fun noPl => ?_
  refine .ite (fun h => known (h ▸ by decide) _ (by rw [h]; rfl)) fun noPu => ?_
  refine .ite (fun select => ?_) fun noSelect => ?_
  · have order : ordered text = some (.seekToChapter (selectedChapter (text.drop 2))) := by
      simp only [ordered, noRe, noCl, noPl, noPu, select, or_self, if_false, if_true]
    exact known (.inr (.inr select)) _ (by simp only [obey, order, VideoState.call])
  · have unknown : ¬ Known text := by
      simp only [Known, Idle, List.mem_cons, List.not_mem_nil, or_false, exists_eq_or_imp,
        exists_eq_left, noWg, noRe, noCl, noKl, noVm, noRp, noPl, noPu, noSelect, or_self,
        not_false_eq_true]
    have order := unknownUnordered unknown
    refine ⟨CString.strcpy out [0x45], ?_, by rw [obey, order]; rfl⟩
    rw [reply, if_neg unknown]
    exact ok.strcpy (Nat.le_refl _) (by simp) (by decide)

structure Ready (e : Emulator Q) (text : List UInt8) : Prop where
  packet : CString.Holds e.toshiba.packet text
  response : ∃ old, CString.Holds e.toshiba.response old

omit [CommandQueue Q] [Scanf] in
theorem dropReady {e : Emulator Q} {text : List UInt8} (ready : Ready e text) :
    ∃ response, CString.Holds response [] ∧
      dropResponse e = { e with toshiba := { e.toshiba with response := response } } := by
  obtain ⟨old, holds⟩ := ready.response
  have length := holds.strlen []
  rw [List.append_nil] at length
  unfold dropResponse
  split
  · exact ⟨_, CString.holdsCleared (by decide), rfl⟩
  · have none : old = [] := List.length_eq_zero_iff.mp (by omega)
    exact ⟨e.toshiba.response, none ▸ holds, rfl⟩

theorem typedStore {e : Emulator Q} {text : List UInt8} (ready : Ready e text) {byte : UInt8}
    (inner : byte ≠ 0x0D) : ∃ response, CString.Holds response [] ∧
      (toshibaTurn e byte).2 = { e with toshiba :=
        ⟨e.toshiba.packet.set text.length byte ready.packet.room, response⟩ } := by
  obtain ⟨response, cleared, dropped⟩ := dropReady ready
  have index := ready.packet.strlen response.toList
  refine ⟨response, cleared, ?_⟩
  simp only [toshibaTurn, toshibaReceiveByte, if_neg inner, dropped, index, Bool.false_eq_true,
    if_false, store, dif_pos ready.packet.room]

theorem typedTurn {e : Emulator Q} {text : List UInt8} (ready : Ready e text) {byte : UInt8}
    (inner : byte ≠ 0x0D) (room : byte ≠ 0 → text.length + 1 < 256) :
    Ready (toshibaTurn e byte).2 (text ++ [byte].filter (· ≠ 0)) := by
  obtain ⟨response, cleared, turn⟩ := typedStore ready inner
  rw [turn]
  refine ⟨?_, [], cleared⟩
  -- strlen does not count a NUL, so the next byte takes its place
  by_cases nul : byte = 0
  · subst nul
    simpa using ready.packet.addNul
  · simpa [nul] using ready.packet.add nul (room nul)

omit [Scanf] in
theorem replyByte (text : List UInt8) : ∃ byte, reply text = [byte] ∧ byte ≠ 0 := by
  unfold reply
  split
  · exact ⟨0x4B, rfl, by decide⟩
  · exact ⟨0x45, rfl, by decide⟩

omit [CommandQueue Q] [Scanf] in
theorem getReply {e : Emulator Q} {text : List UInt8}
    (holds : CString.Holds e.toshiba.response (reply text)) :
    ∃ response, CString.Holds response (reply text ++ [0x0D]) ∧
      toshibaGetResponse e = (some (reply text ++ [0x0D]),
        { e with toshiba := { e.toshiba with response := response } }) := by
  obtain ⟨byte, one, _⟩ := replyByte text
  have length := holds.strlen []
  have ended := holds.add (show (0x0D : UInt8) ≠ 0 by decide) (by simp [one])
  have whole := ended.text []
  refine ⟨_, ended, ?_⟩
  rw [List.append_nil] at length whole
  have inside : (reply text).length < 256 := by simp [one]
  have positive : (reply text).length > 0 := by simp [one]
  have written : e.toshiba.response.setIfInBounds (reply text).length 0x0D =
      e.toshiba.response.set (reply text).length 0x0D inside := by
    ext i
    simp [Vector.getElem_setIfInBounds, Vector.getElem_set]
  simp only [toshibaGetResponse, length, if_pos positive, written, CString.takeStrlen, whole]

theorem endedReceive {e : Emulator Q} {text : List UInt8} (ready : Ready e text) :
    ∃ out, CString.Holds out (reply text) ∧
      toshibaReceiveByte 0x0D e = (true, { e with
        video := obey text e.video
        toshiba := ⟨Vector.replicate 256 0, out⟩ }) := by
  obtain ⟨response, cleared, dropped⟩ := dropReady ready
  have packet : CString.Holds (dropResponse e).toshiba.packet text := by
    rw [dropped]
    exact ready.packet
  have empty : CString.Holds (dropResponse e).toshiba.response [] := by
    rw [dropped]
    exact cleared
  obtain ⟨out, answered, processed⟩ := processLine packet empty
  refine ⟨out, answered, ?_⟩
  simp only [toshibaReceiveByte, if_true, processed]
  simp only [dropped]

theorem endedTurn {e : Emulator Q} {text : List UInt8} (ready : Ready e text) :
    (toshibaTurn e 0x0D).1 = (true, some (reply text ++ [0x0D])) ∧
    Ready (toshibaTurn e 0x0D).2 [] ∧ (toshibaTurn e 0x0D).2.video = obey text e.video := by
  obtain ⟨out, answered, received⟩ := endedReceive ready
  have replying : CString.Holds (toshibaReceiveByte 0x0D e).2.toshiba.response (reply text) := by
    rw [received]
    exact answered
  obtain ⟨written, holds, got⟩ := getReply replying
  have turn : toshibaTurn e 0x0D = ((true, some (reply text ++ [0x0D])), { e with
      video := obey text e.video
      toshiba := ⟨Vector.replicate 256 0, written⟩ }) := by
    rw [received] at got
    simp only [toshibaTurn, received, if_true, got]
  rw [turn]
  exact ⟨rfl, ⟨CString.holdsCleared (by decide), _, holds⟩, rfl⟩

theorem innerRun (e : Emulator Q) {bytes : List UInt8} (inner : 0x0D ∉ bytes) :
    outputs toshibaTurn e bytes = List.replicate bytes.length (false, none) ∧
    (after toshibaTurn e bytes).video = e.video := by
  induction bytes generalizing e with
  | nil => exact ⟨rfl, rfl⟩
  | cons byte rest ih =>
    simp only [List.mem_cons, not_or] at inner
    have turn : (toshibaTurn e byte).1 = (false, none) ∧ (toshibaTurn e byte).2.video = e.video := by
      simp only [toshibaTurn, toshibaReceiveByte, if_neg (Ne.symm inner.1), dropResponse,
        Bool.false_eq_true, if_false, true_and]
      split <;> rfl
    obtain ⟨silent, same⟩ := ih (toshibaTurn e byte).2 inner.2
    exact ⟨by rw [outputs, turn.1, silent]; rfl, same.trans turn.2⟩

theorem typedRun {e : Emulator Q} {text bytes : List UInt8} (ready : Ready e text)
    (inner : 0x0D ∉ bytes) (room : (text ++ bytes.filter (· ≠ 0)).length < 256) :
    Ready (after toshibaTurn e bytes) (text ++ bytes.filter (· ≠ 0)) := by
  induction bytes generalizing e text with
  | nil => simpa using ready
  | cons byte rest ih =>
    simp only [List.mem_cons, not_or] at inner
    have split : (byte :: rest).filter (· ≠ 0) =
        [byte].filter (· ≠ 0) ++ rest.filter (· ≠ 0) := List.filter_append [byte] rest
    rw [split, ← List.append_assoc] at room ⊢
    refine ih (typedTurn ready (Ne.symm inner.1) fun solid => ?_) inner.2 room
    simp [solid] at room
    omega

structure Line where
  bytes : List UInt8
  inner : 0x0D ∉ bytes
  short : (bytes.filter (· ≠ 0)).length ≤ 255

def Line.text (l : Line) : List UInt8 := l.bytes.filter (· ≠ 0)
def Line.sent (l : Line) : List UInt8 := l.bytes ++ [0x0D]

def Line.due (l : Line) : List (Bool × Option (List UInt8)) :=
  List.replicate l.bytes.length (false, none) ++ [(true, some (reply l.text ++ [0x0D]))]

def handed (e : Emulator Q) : List UInt8 := line (answer [0x4B] (dropResponse e))

theorem lineRun {e : Emulator Q} (ready : Ready e []) (l : Line) :
    outputs toshibaTurn e l.sent = l.due ∧ Ready (after toshibaTurn e l.bytes) l.text ∧
    Ready (after toshibaTurn e l.sent) [] ∧
    (after toshibaTurn e l.sent).video = obey l.text e.video := by
  obtain ⟨silent, same⟩ := innerRun e l.inner
  have typed : Ready (after toshibaTurn e l.bytes) l.text :=
    typedRun ready l.inner (Nat.lt_succ_of_le l.short)
  obtain ⟨replied, cleared, obeyed⟩ := endedTurn typed
  rw [Line.sent, outputsAppend, afterAppend, silent, afterCons, afterNil, obeyed, same]
  exact ⟨by rw [outputs, outputs, replied, Line.due], typed, cleared, rfl⟩

theorem linesRun {e : Emulator Q} (ready : Ready e []) (lines : List Line) :
    outputs toshibaTurn e (lines.flatMap Line.sent) = lines.flatMap Line.due ∧
    Ready (after toshibaTurn e (lines.flatMap Line.sent)) [] ∧
    (after toshibaTurn e (lines.flatMap Line.sent)).video =
      run (fun v l => obey l.text v) e.video lines := by
  induction lines generalizing e with
  | nil => exact ⟨rfl, ready, rfl⟩
  | cons l rest ih =>
    obtain ⟨results, _, cleared, obeyed⟩ := lineRun ready l
    obtain ⟨resultsRest, clearedRest, obeyedRest⟩ := ih cleared
    rw [List.flatMap_cons, List.flatMap_cons, outputsAppend, afterAppend, results, resultsRest,
      runCons, ← obeyed]
    exact ⟨rfl, clearedRest, obeyedRest⟩

omit [CommandQueue Q] [Scanf] in
theorem initReady (e : Emulator Q) : Ready (toshibaInit e) [] :=
  ⟨CString.holdsCleared (by decide), [], CString.holdsCleared (by decide)⟩

omit [CommandQueue Q] [Scanf] in
theorem readyHanded {e : Emulator Q} {text : List UInt8} (ready : Ready e text) :
    handed e = text := by
  obtain ⟨response, cleared, dropped⟩ := dropReady ready
  rw [handed, dropped, line, answer]
  exact ready.packet.text _

theorem linesAnswered (e : Emulator Q) (lines : List Line) (begun : List UInt8)
    (inner : 0x0D ∉ begun) :
    let start := toshibaInit e
    outputs toshibaTurn start (lines.flatMap Line.sent ++ begun) =
      lines.flatMap Line.due ++ List.replicate begun.length (false, none) ∧
    (after toshibaTurn start (lines.flatMap Line.sent ++ begun)).video =
      run (fun v l => obey l.text v) start.video lines ∧
    ∀ done l rest, lines = done ++ l :: rest →
      let before := after toshibaTurn start (done.flatMap Line.sent ++ l.bytes)
      handed before = l.text ∧
      (¬ Known l.text ∨ Idle l.text → (toshibaTurn before 0x0D).2.video = before.video) := by
  intro start
  obtain ⟨results, cleared, obeyed⟩ := linesRun (initReady e) lines
  obtain ⟨silent, same⟩ := innerRun (after toshibaTurn start (lines.flatMap Line.sent)) inner
  refine ⟨by rw [outputsAppend, results, silent], by rw [afterAppend, same, obeyed], ?_⟩
  rintro done l rest rfl before
  obtain ⟨_, clearedDone, _⟩ := linesRun (initReady e) done
  have ready : Ready before l.text := by
    simp only [before, afterAppend]
    exact (lineRun clearedDone l).2.1
  refine ⟨readyHanded ready, fun idle => ?_⟩
  have none : ordered l.text = none := by
    rcases idle with unknown | idle
    · exact unknownUnordered unknown
    · exact idleUnordered idle
  rw [(endedTurn ready).2.2, obey, none]

end Receiver

def playLine : Line := ⟨pl, by decide, by decide⟩

theorem linesAnsweredPlay :
    haveI : Scanf := ⟨Int32.ofInt⟩
    let start := toshibaInit (Emulator.start VideoQueue.ByteQueue.init 3 none)
    outputs toshibaTurn start ([playLine].flatMap Line.sent ++ [0x50]) =
      [(false, none), (false, none), (true, some [0x4B, 0x0D]), (false, none)] :=
  (@linesAnswered VideoQueue.ByteQueue _ ⟨Int32.ofInt⟩ (.start .init 3 none) [playLine] [0x50]
    (by decide)).1.trans (by decide)

end SerialDvdEmu.ToshibaLine
