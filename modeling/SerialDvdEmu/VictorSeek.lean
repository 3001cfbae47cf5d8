import SerialDvdEmu.VideoTrace

/-! A seek request from its digits to the omxplayer that is started for it. On its way the
chapter is stored as one byte of the queue. -/
namespace SerialDvdEmu.VictorSeek
open EventRun
open VideoQueue VideoThread VideoPlayer VideoTrace
open VictorPacket VictorHandlers VictorCalls EmulatorThreads
open VictorRequests (window receiveType)

def Digits (packet : Packet) : Prop := ∀ k < 3, (packet.get (paramsLoc k)).toNat ≤ 9

instance (packet : Packet) : Decidable (Digits packet) :=
  inferInstanceAs (Decidable (∀ k < 3, _))

def chosenChapter (packet : Packet) (dvdType : DvdType) : Nat :=
  let digit (k : Nat) := (packet.get (paramsLoc k)).toNat
  match dvdType with
  | .dvd => 100 * digit 0 + 10 * digit 1 + digit 2
  | .vcd => 10 * digit 0 + digit 1

theorem digitsValue {hundreds tens units : UInt8} (first : hundreds.toNat ≤ 9)
    (second : tens.toNat ≤ 9) (third : units.toNat ≤ 9) :
    (chapterDigits hundreds tens units).toNat =
      100 * hundreds.toNat + 10 * tens.toNat + units.toNat := by
  have digit : ∀ {n : Nat}, n ≤ 9 → n % 10 = n := fun small => Nat.mod_eq_of_lt (by omega)
  simp [chapterDigits, digit first, digit second, digit third]
  omega

theorem chosenValue {packet : Packet} (digits : Digits packet) (dvdType : DvdType) :
    (requestedChapter packet dvdType).toNat = chosenChapter packet dvdType := by
  have value := digitsValue (digits 0 (by decide)) (digits 1 (by decide)) (digits 2 (by decide))
  have third := digits 2 (by decide)
  cases dvdType with
  | dvd => exact value
  | vcd =>
    simp only [requestedChapter, chosenChapter, if_true, UInt32.toNat_div, value]
    change _ / 10 = _
    omega

theorem chosenSmall {packet : Packet} (digits : Digits packet) (dvdType : DvdType) :
    chosenChapter packet dvdType ≤ 999 := by
  have first := digits 0 (by decide)
  have second := digits 1 (by decide)
  have third := digits 2 (by decide)
  cases dvdType <;> simp only [chosenChapter] <;> omega

def Launches (e : Emulator (Traced ByteQueue)) (place clip : Nat) : Prop :=
  ∀ later, (run step e later).video.queue.threads.buffer.overrun = false →
    (∀ launched, (run step e later).video.queue.launched[place]? = some launched →
      launched = some clip) ∧
    ∃ n, (run step e (later ++ List.replicate n (.worked ()))).video.queue.launched[place]? =
      some (some clip)

def Answered {Q : Type} (clip : Nat) (e e' : Emulator Q) : Prop :=
  (victorGetResponse e').map (·.get statusLoc) = some Status.ok.code ↔
    1 ≤ clip ∧ clip ≤ e.video.maxChapter.toNat

structure Acknowledged (clip : Nat) (e e' : Emulator (Traced ByteQueue)) : Prop where
  answered : Answered clip e e'
  recorded : 1 ≤ clip → clip ≤ e.video.maxChapter.toNat → e'.video.chapter.toNat = clip
  queued : 1 ≤ clip → clip ≤ e.video.maxChapter.toNat →
    e'.video.queue.pushed[e.video.queue.pushed.length + 1]? = some (.play, e'.video.chapter)
  launches : 1 ≤ clip → clip ≤ e.video.maxChapter.toNat →
    Launches e' (e.video.queue.pushed.length + 1) clip

theorem seekReceived {Q : Type} [CommandQueue Q] {e : Emulator Q} {byte : UInt8}
    (asks : Asks (window e byte) 0x0C 0x50 0x20) (replied : (victorReceiveByte byte e).1 = true) :
    let c := requestedChapter (window e byte) e.victor.dvdType
    victorGetResponse (victorReceiveByte byte e).2 = some (createPacket e.victor.jlipId
      (if (e.video.seekToChapter c).1 then .ok else .error) noResponse) ∧
    (victorReceiveByte byte e).2.video = (e.video.seekToChapter c).2 := by
  rw [receiveKnown replied (seekKnown asks e)]
  exact ⟨rfl, rfl⟩

theorem seekAnswered {Q : Type} [CommandQueue Q] {e : Emulator Q} {byte : UInt8}
    (powered : e.video.powerState = true) (asks : Asks (window e byte) 0x0C 0x50 0x20)
    (replied : (victorReceiveByte byte e).1 = true) (digits : Digits (window e byte)) :
    Answered (chosenChapter (window e byte) e.victor.dvdType) e (victorReceiveByte byte e).2 := by
  have value := chosenValue digits e.victor.dvdType
  have differs : Status.error.code ≠ Status.ok.code := by decide
  rw [Answered, (seekReceived asks replied).1, ← value]
  by_cases reaches : Reaches e.video (requestedChapter (window e byte) e.victor.dvdType)
  · rw [seekTaken reaches]
    exact iff_of_true rfl reaches.2
  · rw [seekRefused reaches]
    exact iff_of_false (fun same => differs (Option.some.inj same))
      fun inside => reaches ⟨powered, inside⟩

theorem launchesByte {e : Emulator (Traced ByteQueue)} {before rest : List (Opcode × UInt32)}
    {c : UInt32} (ledger : ∀ later, Ledger (run step e later).video.queue)
    (pushed : e.video.queue.pushed = before ++ (.stop, 0) :: (.play, c) :: rest) :
    Launches e (before.length + 1) (c.toNat % 256) := by
  intro later fits
  have place : before.length + 1 = (before ++ [(Opcode.stop, (0 : UInt32))]).length := by simp
  obtain ⟨more, grown⟩ := pushedStays e later
  have pushed : (run step e later).video.queue.pushed =
      (before ++ [(.stop, 0)]) ++ (.play, c) :: (rest ++ more) := by
    rw [← grown, pushed]
    simp
  -- the STOP leaves no player, so the PLAY starts one
  have starts : launch (run perform none ((before ++ [(Opcode.stop, (0 : UInt32))]).map queued))
      (queued (.play, c)) = some (c.toNat % 256) := by
    simp [runAppend, queued, Instr.of, launch]
  rw [place]
  constructor
  · intro launched entry
    rcases ledger later with bad | ⟨f, performed, h⟩
    · rw [fits] at bad
      contradiction
    · exact (launchedAt h pushed entry).trans starts
  · obtain ⟨n, comes⟩ := launchComes (ledger later) fits pushed
    refine ⟨n, ?_⟩
    rw [runAppend, workedQueue, ← starts]
    exact comes

theorem launchesOne {e : Emulator (Traced ByteQueue)} {place clip other : Nat}
    (fits : e.video.queue.threads.buffer.overrun = false) (one : Launches e place clip)
    (two : Launches e place other) : clip = other := by
  obtain ⟨n, comes⟩ := (one [] fits).2
  have same := (two (List.replicate n (.worked ())) (worksFit fits n)).1 _ comes
  simpa using same

theorem seekAcknowledged {e : Emulator (Traced ByteQueue)} {byte : UInt8}
    (ledger : ∀ later, Ledger (run step (step e (.input byte)) later).video.queue)
    (powered : e.video.powerState = true) (asks : Asks (window e byte) 0x0C 0x50 0x20)
    (replied : (victorReceiveByte byte e).1 = true) (digits : Digits (window e byte))
    (fits : (step e (.input byte)).video.queue.threads.buffer.overrun = false) :
    let clip := chosenChapter (window e byte) e.victor.dvdType
    Acknowledged clip e (step e (.input byte)) ↔
      ¬ (256 ≤ clip ∧ clip ≤ e.video.maxChapter.toNat) := by
  intro clip
  have value : (requestedChapter (window e byte) e.victor.dvdType).toNat = clip :=
    chosenValue digits e.victor.dvdType
  have small : clip ≤ 999 := chosenSmall digits e.victor.dvdType
  have answered : Answered clip e (step e (.input byte)) :=
    seekAnswered powered asks replied digits
  have after : (step e (.input byte)).video = _ := (seekReceived asks replied).2
  revert value after
  generalize requestedChapter (window e byte) e.victor.dvdType = c
  intro value after
  by_cases reaches : Reaches e.video c
  · have inside : 1 ≤ clip ∧ clip ≤ e.video.maxChapter.toNat := value ▸ reaches.2
    rw [seekTaken reaches] at after
    obtain ⟨rest, pushed⟩ : ∃ rest, (step e (.input byte)).video.queue.pushed =
        e.video.queue.pushed ++ (.stop, 0) :: (.play, c) :: rest := by
      rw [after]
      simp only [seekQueue]
      split
      · exact ⟨[(.pause, 0)], by simp⟩
      · exact ⟨[], by simp⟩
    have launches := launchesByte ledger pushed
    rw [value] at launches
    constructor
    · rintro ⟨_, _, _, asked⟩ ⟨wide, _⟩
      have same := launchesOne fits (asked inside.1 inside.2) launches
      omega
    · intro byteSized
      have exact : clip % 256 = clip := Nat.mod_eq_of_lt (by omega)
      refine ⟨answered, fun _ _ => ?_, fun _ _ => ?_, fun _ _ => exact ▸ launches⟩
      · rw [after]
        exact value
      · rw [pushed, after]
        simp
  · have outside : ¬ (1 ≤ clip ∧ clip ≤ e.video.maxChapter.toNat) :=
      fun inside => reaches ⟨powered, value.symm ▸ inside⟩
    exact iff_of_true ⟨answered, fun low high => absurd ⟨low, high⟩ outside,
      fun low high => absurd ⟨low, high⟩ outside, fun low high => absurd ⟨low, high⟩ outside⟩
      fun wide => outside ⟨by omega, wide.2⟩

theorem startedDvdType [Scanf] {Q : Type} [CommandQueue Q] [Worked Q] (dvdType : DvdType)
    (jlipIdFile : Option (List UInt8)) (queue : Q) (chapters : Int32) (events : List Event) :
    (started dvdType jlipIdFile queue chapters events).victor.dvdType = dvdType := by
  refine runInvariant (fun e : Emulator Q => e.victor.dvdType = dvdType) ?_ rfl events
  exact EmulatorRuns.happenKeeps _ (fun _ _ same => same) fun e byte same => (receiveType e byte).trans same

theorem seekAcknowledgedIff [Scanf] (dvdType : DvdType) (jlipIdFile : Option (List UInt8))
    (schedule : List Nat) (chapters : Int32) (events : List Event) (byte : UInt8) :
    let e := started dvdType jlipIdFile (tracedThreads schedule) chapters events
    let e' := step e (.input byte)
    let clip := chosenChapter (window e byte) dvdType
    e.video.powerState = true → Asks (window e byte) 0x0C 0x50 0x20 →
    (victorReceiveByte byte e).1 = true → Digits (window e byte) →
    Answered clip e e' ∧ (e'.video.queue.threads.buffer.overrun = false →
      (Acknowledged clip e e' ↔ ¬ (256 ≤ clip ∧ clip ≤ e.video.maxChapter.toNat))) := by
  intro e
  -- without names for the state after the byte, which would have to be unfolded at the end
  dsimp only
  intro powered asks replied digits
  have ledger : ∀ later, Ledger (run step (step e (.input byte)) later).video.queue := by
    intro later
    rw [← runCons, ← startedAppend]
    exact startedLedger dvdType jlipIdFile schedule chapters _
  have type : e.victor.dvdType = dvdType := startedDvdType dvdType jlipIdFile _ chapters events
  have answered : Answered (chosenChapter (window e byte) e.victor.dvdType) e
      (step e (.input byte)) := seekAnswered powered asks replied digits
  have acknowledged := @seekAcknowledged e byte ledger powered asks replied digits
  rw [type] at answered acknowledged
  exact ⟨answered, acknowledged⟩

def seekArrives (hundreds tens units : UInt8) : List Event :=
  .call .powerOn ::
    [0xFF, 0xFF, 0x21, 0x0C, 0x50, 0x20, hundreds, tens, units, 0].map .input

theorem seekAcknowledgedSecond :
    haveI : Scanf := ⟨Int32.ofInt⟩
    Acknowledged
      (chosenChapter
        (window (started .dvd none (tracedThreads [1]) 300 (seekArrives 0 0 2)) 0x63) .dvd)
      (started .dvd none (tracedThreads [1]) 300 (seekArrives 0 0 2))
      (step (started .dvd none (tracedThreads [1]) 300 (seekArrives 0 0 2)) (.input 0x63)) :=
  ((@seekAcknowledgedIff ⟨Int32.ofInt⟩ .dvd none [1] 300 (seekArrives 0 0 2) 0x63
    (by decide +kernel) (by decide +kernel) (by decide +kernel) (by decide +kernel)).2
    (by decide +kernel)).mpr (by decide +kernel)

theorem seekWraps :
    haveI : Scanf := ⟨Int32.ofInt⟩
    ¬ Acknowledged 256 (started .dvd none (tracedThreads []) 300 (seekArrives 2 5 6))
      (step (started .dvd none (tracedThreads []) 300 (seekArrives 2 5 6)) (.input 0x58)) := by
  rintro ⟨_, _, _, launches⟩
  obtain ⟨none', _⟩ := launches (by decide) (by decide +kernel) (List.replicate 6 (.worked ()))
    (by decide +kernel)
  exact absurd (none' (some 0) (by decide +kernel)) (by decide)

end SerialDvdEmu.VictorSeek
