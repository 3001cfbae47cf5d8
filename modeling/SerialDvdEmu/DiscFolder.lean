import SerialDvdEmu.Base.IntCounter
import SerialDvdEmu.EmulatorRuns

/-! The folder of a disc as main looks at it. getDvdType opens disc.cfg by its name and follows
links; getDirectoryCount goes by the type of each entry, which for a link is not that of the file
behind it. What C leaves open is `none`. -/
namespace SerialDvdEmu.DiscFolder
open EventRun IntCounter
open VideoPlayer (CommandQueue VideoState)
open EmulatorRuns

inductive DirentType where
  | unknown
  | fifo
  | chr
  | dir
  | blk
  | reg
  | lnk
  | sock
  | wht
  deriving DecidableEq, Repr

structure Dirent where
  dName : List UInt8
  dType : DirentType
  deriving DecidableEq, Repr

structure Folder where
  directory : List UInt8
  entries : List Dirent
  fopen : List UInt8 → Option (List UInt8)

inductive DiscType where
  | unknown
  | victorXvD701Vcd
  | victorXvD701Dvd
  | toshibaSdB100Dvd
  deriving DecidableEq, Repr

def discCfg : List UInt8 := ['d', 'i', 's', 'c', '.', 'c', 'f', 'g'].map Char.toUInt8

def xvD701Vcd : List UInt8 :=
  ['X', 'V', '-', 'D', '7', '0', '1', '-', 'V', 'C', 'D'].map Char.toUInt8

def xvD701Dvd : List UInt8 :=
  ['X', 'V', '-', 'D', '7', '0', '1', '-', 'D', 'V', 'D'].map Char.toUInt8

def sdB100Dvd : List UInt8 :=
  ['S', 'D', '-', 'B', '1', '0', '0', '-', 'D', 'V', 'D'].map Char.toUInt8

def getDirectoryCount (entries : List Dirent) : Option Int32 :=
  count (fun entry => entry.dType == .reg) entries 0

def word (contents : List UInt8) : List UInt8 :=
  (contents.dropWhile Decimal.isSpace).takeWhile fun byte => !Decimal.isSpace byte

/-- `value` is what the array of that name happens to hold, and keeps if there is no word to
read. The path and the word have to fit into their arrays. -/
def getDvdType (folder : Folder) (value : List UInt8) : Option DiscType :=
  let file := folder.directory ++ discCfg
  if file.length ≥ 256 then none
  else match folder.fopen file with
    | none => some .unknown
    | some contents =>
      if (word contents).length ≥ 128 then none
      else
        let value := CString.text (if word contents = [] then value else word contents)
        if value = xvD701Vcd then some .victorXvD701Vcd
        else if value = xvD701Dvd then some .victorXvD701Dvd
        else if value = sdB100Dvd then some .toshibaSdB100Dvd
        else some .unknown

section Main
variable {Q : Type} [CommandQueue Q] [Scanf]

def mainInit (folder : Folder) (value : List UInt8) (queue : Q)
    (jlipIdFile : Option (List UInt8)) : Option (Emulator Q) := do
  let dvdType ← getDvdType folder value
  let chapters ← getDirectoryCount folder.entries
  let e := Emulator.start queue (chapters - 1) jlipIdFile
  match dvdType with
  | .unknown => none
  | .victorXvD701Vcd => some (VictorHandlers.victorInit .vcd e)
  | .victorXvD701Dvd => some (VictorHandlers.victorInit .dvd e)
  | .toshibaSdB100Dvd => some (ToshibaLine.toshibaInit e)

omit [CommandQueue Q] in
theorem initInstalls {folder : Folder} {value : List UInt8} {queue : Q}
    {jlipIdFile : Option (List UInt8)} {e : Emulator Q}
    (started : mainInit folder value queue jlipIdFile = some e) :
    ∃ chapters, getDirectoryCount folder.entries = some chapters ∧
      e.video = VideoPlayer.videoInit queue (chapters - 1) := by
  rw [mainInit] at started
  obtain ⟨dvdType, _, rest⟩ := Option.bind_eq_some_iff.mp started
  obtain ⟨chapters, counted, installed⟩ := Option.bind_eq_some_iff.mp rest
  refine ⟨chapters, counted, ?_⟩
  cases dvdType with
  | unknown => contradiction
  | victorXvD701Vcd => exact Option.some.inj installed ▸ rfl
  | victorXvD701Dvd => exact Option.some.inj installed ▸ rfl
  | toshibaSdB100Dvd => exact Option.some.inj installed ▸ rfl

omit [CommandQueue Q] in
theorem initStarts {folder : Folder} {value : List UInt8} {dvdType : DiscType}
    (opened : getDvdType folder value = some dvdType) (recognised : dvdType ≠ .unknown)
    {chapters : Int32} (counted : getDirectoryCount folder.entries = some chapters) (queue : Q)
    (jlipIdFile : Option (List UInt8)) :
    ∃ e, mainInit folder value queue jlipIdFile = some e := by
  rw [mainInit, opened, counted]
  cases dvdType with
  | unknown => contradiction
  | victorXvD701Vcd => exact ⟨_, rfl⟩
  | victorXvD701Dvd => exact ⟨_, rfl⟩
  | toshibaSdB100Dvd => exact ⟨_, rfl⟩

end Main

def typeFiles (entries : List Dirent) : List Dirent :=
  entries.filter fun entry => entry.dType == .reg && entry.dName == discCfg

def videoFiles (entries : List Dirent) : List Dirent :=
  entries.filter fun entry => entry.dType == .reg && entry.dName != discCfg

def regularFiles (entries : List Dirent) : Nat := entries.countP fun entry => entry.dType == .reg

theorem regularSplit (entries : List Dirent) :
    regularFiles entries = (typeFiles entries).length + (videoFiles entries).length := by
  induction entries with
  | nil => rfl
  | cons entry rest ih =>
    rw [regularFiles, typeFiles, videoFiles] at ih ⊢
    rw [List.countP_cons, List.filter_cons, List.filter_cons, ih]
    cases entry.dType == .reg <;> cases named : entry.dName == discCfg <;>
      simp [bne, named] <;> omega

theorem boundInstalled {entries : List Dirent} {chapters : Int32}
    (counted : getDirectoryCount entries = some chapters) :
    regularFiles entries < 2147483648 ∧
    (chapters - 1).toUInt32.toNat = (regularFiles entries + 4294967295) % 4294967296 := by
  have total : chapters.toInt = regularFiles entries := countReached _ counted
  have most := chapters.toInt_lt
  have same := VideoPlayer.chapterCount (show 0 ≤ chapters.toInt by omega)
  refine ⟨by omega, ?_⟩
  rw [Int32.toUInt32_sub, UInt32.toNat_sub]
  change (2 ^ 32 - 1 + chapters.toUInt32.toNat) % 2 ^ 32 = _
  omega

theorem boundExactIff {entries : List Dirent} {chapters : Int32}
    (counted : getDirectoryCount entries = some chapters) :
    (chapters - 1).toUInt32.toNat = (videoFiles entries).length ↔
      (typeFiles entries).length = 1 := by
  obtain ⟨fits, installed⟩ := boundInstalled counted
  have split := regularSplit entries
  rw [installed]
  omega

section Chapters
variable {Q : Type} [CommandQueue Q] [Scanf]

def ChaptersAreFiles (folder : Folder) (value : List UInt8) (queue : Q)
    (jlipIdFile : Option (List UInt8)) : Prop :=
  ∃ e, mainInit folder value queue jlipIdFile = some e ∧
    e.video.maxChapter.toNat = (videoFiles folder.entries).length ∧
    ∀ (events : List (Event Q)) (c : UInt32), (run step e events).video.isPowered = true →
      (((run step e events).video.seekToChapter c).1 = true ↔
        1 ≤ c.toNat ∧ c.toNat ≤ (videoFiles folder.entries).length)

theorem initSound {folder : Folder} {value : List UInt8} {queue : Q}
    {jlipIdFile : Option (List UInt8)} {e : Emulator Q}
    (started : mainInit folder value queue jlipIdFile = some e) (events : List (Event Q)) :
    Sound e.video.maxChapter (run step e events).video := by
  obtain ⟨chapters, _, installed⟩ := initInstalls started
  have initial : Sound e.video.maxChapter e.video := by
    rw [installed]
    exact ⟨VideoPlayer.initConsistent queue _, rfl⟩
  exact runInvariant (fun e' : Emulator Q => Sound e.video.maxChapter e'.video) soundStep initial
    events

omit [Scanf] in
theorem seekSucceeds (v : VideoState Q) (c : UInt32) :
    (v.seekToChapter c).1 = true ↔ VideoPlayer.Reaches v c := by
  by_cases reaches : VideoPlayer.Reaches v c
  · rw [VideoPlayer.seekTaken reaches]
    exact iff_of_true rfl reaches
  · rw [VideoPlayer.seekRefused reaches]
    exact iff_of_false Bool.false_ne_true reaches

theorem seeksBounded {folder : Folder} {value : List UInt8} {queue : Q}
    {jlipIdFile : Option (List UInt8)} {e : Emulator Q}
    (started : mainInit folder value queue jlipIdFile = some e) (events : List (Event Q))
    (c : UInt32) (powered : (run step e events).video.isPowered = true) :
    ((run step e events).video.seekToChapter c).1 = true ↔
      1 ≤ c.toNat ∧ c.toNat ≤ e.video.maxChapter.toNat := by
  have bound := (initSound started events).bound
  rw [seekSucceeds, VideoPlayer.Reaches, bound]
  exact and_iff_right powered

theorem filesCounted {folder : Folder} {value : List UInt8} {queue : Q}
    {jlipIdFile : Option (List UInt8)}
    (exactly : ChaptersAreFiles folder value queue jlipIdFile) :
    (typeFiles folder.entries).length = 1 ∧ regularFiles folder.entries < 2147483648 := by
  obtain ⟨e, started, bound, _⟩ := exactly
  obtain ⟨chapters, counted, installed⟩ := initInstalls started
  rw [installed] at bound
  exact ⟨(boundExactIff counted).mp bound, (boundInstalled counted).1⟩

theorem chaptersAreFilesIff (folder : Folder) (value : List UInt8) (queue : Q)
    (jlipIdFile : Option (List UInt8)) {dvdType : DiscType}
    (opened : getDvdType folder value = some dvdType) (recognised : dvdType ≠ .unknown) :
    ChaptersAreFiles folder value queue jlipIdFile ↔
      (typeFiles folder.entries).length = 1 ∧ regularFiles folder.entries < 2147483648 := by
  constructor
  · exact filesCounted
  · rintro ⟨one, fits⟩
    obtain ⟨chapters, counted, _⟩ := countFits (fun entry : Dirent => entry.dType == .reg) fits
    obtain ⟨e, started⟩ := initStarts opened recognised counted queue jlipIdFile
    have bound : e.video.maxChapter.toNat = (videoFiles folder.entries).length := by
      obtain ⟨chapters', counted', installed⟩ := initInstalls started
      rw [installed]
      exact (boundExactIff counted').mpr one
    refine ⟨e, started, bound, fun events c powered => ?_⟩
    rw [seeksBounded started events c powered, bound]

end Chapters

def dot : List UInt8 := ['.'].map Char.toUInt8
def dvd : List UInt8 := ['/', 'd', 'v', 'd', '/'].map Char.toUInt8
def clip (n : Char) : List UInt8 := ['0', n, '.', 'm', '4', 'v'].map Char.toUInt8

def twoClips (type : DirentType) : Folder where
  directory := dvd
  entries := [⟨dot, .dir⟩, ⟨dot ++ dot, .dir⟩, ⟨clip '1', .reg⟩, ⟨discCfg, type⟩, ⟨clip '2', .reg⟩]
  fopen path := if path = dvd ++ discCfg then some (xvD701Dvd ++ [0x0A]) else none

theorem chaptersAreFilesIffClips :
    haveI : Scanf := ⟨Int32.ofInt⟩
    ChaptersAreFiles (twoClips .reg) [] VideoQueue.ByteQueue.init none :=
  (@chaptersAreFilesIff VideoQueue.ByteQueue _ ⟨Int32.ofInt⟩ (twoClips .reg) [] .init none
    .victorXvD701Dvd (by decide) (by decide)).mpr (by decide)

theorem linkedTypeFile :
    haveI : Scanf := ⟨Int32.ofInt⟩
    getDvdType (twoClips .lnk) [] = some .victorXvD701Dvd ∧
    ¬ ChaptersAreFiles (twoClips .lnk) [] VideoQueue.ByteQueue.init none :=
  ⟨by decide, fun exactly => absurd (@filesCounted VideoQueue.ByteQueue _ ⟨Int32.ofInt⟩ _ _ _ _
    exactly).1 (by decide)⟩

end SerialDvdEmu.DiscFolder
