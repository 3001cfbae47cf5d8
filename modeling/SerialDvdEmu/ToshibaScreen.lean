import SerialDvdEmu.JlipScreen

/-! From the lines of a Toshiba controller to the players on the screen. -/
namespace SerialDvdEmu.ToshibaScreen
open EventRun
open CString (ascii)
open VideoPlayer
open VideoPlayer.VideoState (Consistent)
open ToshibaLine
open EmulatorThreads (Worked started startedAppend startedSound)
open VideoShell
open JlipSession (Device documented view)
open JlipCommands (pausing viewPause)
open JlipScreen (reachedShows shown)

section Lines
variable [Scanf]

def told (d : Device) (text : List UInt8) : Device :=
  if text = re ∨ text = cl then { d with powered := true }
  else if text = pl then (documented d .play).2
  else if text = pu then pausing d
  else if cs <+: text then (d.seek (selectedChapter (text.drop 2)).toNat).2
  else d

section Orders
variable {Q : Type} [CommandQueue Q]

theorem viewObey {v : VideoState Q} (h : Consistent v) (text : List UInt8) :
    view (obey text v) = told (view v) text := by
  rw [obey, ordered, told]
  split_ifs
  · obtain ⟨power, playing, paused, chapter, bound⟩ := powerOnFlags v h
    change view v.powerOn = _
    rw [view, power, playing, paused, chapter, bound]
    rfl
  · exact JlipSession.viewPlay h
  · exact viewPause h
  · exact congrArg Prod.snd (JlipSession.viewSeek v (selectedChapter (text.drop 2)))
  · rfl

variable [Worked Q]

structure Order where
  passes : Nat
  line : Line

def order (e : Emulator Q) (o : Order) : List (Bool × Option (List UInt8)) × Emulator Q :=
  let e := run EmulatorThreads.step e (List.replicate o.passes (.worked ()))
  (outputs toshibaTurn e o.line.sent, after toshibaTurn e o.line.sent)

def said (d : Device) (o : Order) : List (Bool × Option (List UInt8)) × Device :=
  (o.line.due, told d o.line.text)

theorem orderRun {e : Emulator Q} (ready : Ready e []) (o : Order) :
    (order e o).1 = o.line.due ∧ Ready (order e o).2 [] ∧ (order e o).2.video =
      obey o.line.text { e.video with queue := Worked.work^[o.passes] e.video.queue } := by
  have later : Ready (run EmulatorThreads.step e (List.replicate o.passes (.worked ()))) [] := by
    rw [workedOn]
    exact ⟨ready.packet, ready.response⟩
  obtain ⟨results, _, next, obeyed⟩ := lineRun later o.line
  refine ⟨results, next, Eq.trans obeyed ?_⟩
  rw [workedOn]

def Reached (queue : Q) (chapters : Int32) (v : VideoState Q) : Prop :=
  ∃ events, v = (started .dvd none queue chapters events).video

theorem reachedOrder {queue : Q} {chapters : Int32} {v : VideoState Q}
    (reached : Reached queue chapters v) (o : Order) : Reached queue chapters
      (obey o.line.text { v with queue := Worked.work^[o.passes] v.queue }) := by
  obtain ⟨events, rfl⟩ := reached
  have worked : { (started .dvd none queue chapters events).video with
      queue := Worked.work^[o.passes] (started .dvd none queue chapters events).video.queue } =
      (started .dvd none queue chapters (events ++ List.replicate o.passes (.worked ()))).video := by
    rw [startedAppend, workedOn]
  rw [worked, obey]
  cases ordered o.line.text with
  | none => exact ⟨_, rfl⟩
  | some c =>
    refine ⟨events ++ List.replicate o.passes (.worked ()) ++ [.call c], ?_⟩
    rw [startedAppend _ _ _ _ (events ++ _)]
    rfl

def Follows (queue : Q) (chapters : Int32) (e : Emulator Q) (d : Device) : Prop :=
  Ready e [] ∧ view e.video = d ∧ Reached queue chapters e.video

theorem orderFollows {queue : Q} {chapters : Int32} (o : Order) (e : Emulator Q) (d : Device)
    (follows : Follows queue chapters e d) :
    (order e o).1 = (said d o).1 ∧ Follows queue chapters (order e o).2 (said d o).2 := by
  obtain ⟨ready, rfl, reached⟩ := follows
  obtain ⟨results, next, obeyed⟩ := orderRun ready o
  have sound : EmulatorRuns.Sound chapters.toUInt32 e.video := by
    obtain ⟨events, same⟩ := reached
    rw [same]
    exact startedSound .dvd none queue chapters events
  refine ⟨results, next, ?_, ?_⟩
  · rw [obeyed, viewObey (EmulatorRuns.soundWorked sound _).consistent]
    rfl
  · rw [obeyed]
    exact reachedOrder reached o

end Orders

end Lines

end SerialDvdEmu.ToshibaScreen
