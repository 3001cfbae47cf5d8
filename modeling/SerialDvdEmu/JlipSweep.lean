import SerialDvdEmu.Base.IntCounter
import SerialDvdEmu.Base.Numeral
import SerialDvdEmu.JlipReplies

/-! The command sweep of JLIPTest: one request for each 24-bit command that starts with the
hexadecimal digits given. What C leaves open is `none`. -/
namespace SerialDvdEmu.JlipSweep
open IntCounter Numeral
open VictorPacket (Packet commandLoc)
open JlipClient (createPacket noParams)
open JlipReplies (presented)

def addHex (value : UInt32) (c : Char) : UInt32 :=
  let value := value <<< 4
  match c with
  | '0' | '1' | '2' | '3' | '4' | '5' | '6' | '7' | '8' | '9' => value ||| (c.val - '0'.val)
  | 'A' | 'B' | 'C' | 'D' | 'E' | 'F' => value ||| ((c.val - 'A'.val) + 10)
  | 'a' | 'b' | 'c' | 'd' | 'e' | 'f' => value ||| ((c.val - 'a'.val) + 10)
  -- any other character leaves its place 0
  | _ => value

def getHexFrom (value : UInt32) (i : Int32) : List Char → Option UInt32
  | [] => some value
  | c :: rest => (increment i).bind fun i => getHexFrom (addHex value c) i rest

def getHex (str : List Char) : Option UInt32 := getHexFrom 0 0 str

def shiftLeft (x amount : UInt32) : Option UInt32 :=
  if amount < 32 then some (x <<< amount) else none

def sweeplen (commandlen : Nat) : UInt32 := 6 - UInt32.ofNat commandlen

def sweep (id : UInt32) (argument : List Char) : Option (List Packet) := do
  let command ← getHex argument
  -- unsigned, so more than six digits wrap
  let sweeplen := sweeplen argument.length
  if sweeplen > 0 then
    let sweepmax ← shiftLeft 1 (sweeplen * 4)
    let command ← shiftLeft command (sweeplen * 4)
    some ((List.range sweepmax.toInt32.toInt.toNat).map fun i =>
      createPacket id (command ||| UInt32.ofNat i) noParams)
  else some []

def hexDigits : List Char :=
  ['0', '1', '2', '3', '4', '5', '6', '7', '8', '9', 'A', 'B', 'C', 'D', 'E', 'F',
    'a', 'b', 'c', 'd', 'e', 'f']

def hexDigit (c : Char) : Nat :=
  if c ≤ '9' then c.toNat - '0'.toNat else c.toLower.toNat - 'a'.toNat + 10

def Hex (str : List Char) : Prop := ∀ c ∈ str, c ∈ hexDigits

instance (str : List Char) : Decidable (Hex str) :=
  List.decidableBAll (fun c => c ∈ hexDigits) str

theorem hexDigitRead {c : Char} (hex : c ∈ hexDigits) :
    hexDigit c < 16 ∧ (hexDigit c).digitChar = c.toLower ∧ hexDigit c.toLower = hexDigit c ∧
    ∀ value, addHex value c = value <<< 4 ||| UInt32.ofNat (hexDigit c) := by
  simp only [hexDigits, List.mem_cons, List.not_mem_nil, or_false] at hex
  rcases hex with rfl | rfl | rfl | rfl | rfl | rfl | rfl | rfl | rfl | rfl | rfl | rfl | rfl |
    rfl | rfl | rfl | rfl | rfl | rfl | rfl | rfl | rfl <;>
    exact ⟨by decide, rfl, rfl, fun _ => rfl⟩

theorem digitCharRead : ∀ digit < 16, hexDigit digit.digitChar = digit := by decide

theorem joinedBits (x amount low : UInt32) (inside : amount.toNat < 32)
    (fits : x.toNat * 2 ^ amount.toNat < 2 ^ 32) (small : low.toNat < 2 ^ amount.toNat) :
    (x <<< amount ||| low).toNat = x.toNat * 2 ^ amount.toNat + low.toNat := by
  rw [UInt32.toNat_or, UInt32.toNat_shiftLeft, Nat.mod_eq_of_lt inside, Nat.shiftLeft_eq,
    Nat.mod_eq_of_lt fits, Nat.mul_comm, Nat.two_pow_add_eq_or_of_lt small]

theorem addHexValue {value : UInt32} (room : value.toNat < 16 ^ 7) {c : Char}
    (hex : c ∈ hexDigits) : (addHex value c).toNat = value.toNat * 16 + hexDigit c := by
  obtain ⟨digit, _, _, added⟩ := hexDigitRead hex
  have same : (UInt32.ofNat (hexDigit c)).toNat = hexDigit c :=
    UInt32.toNat_ofNat_of_lt' (Nat.lt_trans digit (by decide))
  have joined := joinedBits value 4 (UInt32.ofNat (hexDigit c)) (by decide)
    (by change value.toNat * 16 < _; omega) (by rw [same]; exact digit)
  rw [added, joined, same]
  rfl

theorem addHexAll {str : List Char} (hex : Hex str) (value : UInt32) (k : Nat)
    (room : value.toNat < 16 ^ k) (short : k + str.length ≤ 8) :
    (str.foldl addHex value).toNat =
      value.toNat * 16 ^ str.length + Numeral.value 16 (str.map hexDigit) := by
  induction str generalizing value k with
  | nil => simp [Numeral.value]
  | cons c rest ih =>
    rw [List.length_cons] at short
    have first : value.toNat < 16 ^ 7 :=
      Nat.lt_of_lt_of_le room (Nat.pow_le_pow_right (by decide) (by omega))
    have digit := (hexDigitRead (hex c List.mem_cons_self)).1
    have added := addHexValue first (hex c List.mem_cons_self)
    have next : (addHex value c).toNat < 16 ^ (k + 1) := by
      rw [added, Nat.pow_succ]
      omega
    rw [List.foldl_cons, ih (fun c mem => hex c (List.mem_cons_of_mem _ mem)) _ _ next (by omega),
      added, List.map_cons, valueCons, List.length_map, List.length_cons, Nat.pow_succ']
    ring

theorem digitsSmall {str : List Char} (hex : Hex str) : Digits 16 (str.map hexDigit) := by
  intro digit mem
  obtain ⟨c, hc, rfl⟩ := List.mem_map.mp mem
  exact (hexDigitRead (hex c hc)).1

theorem hexValue {str : List Char} (hex : Hex str) (short : str.length ≤ 8) :
    (str.foldl addHex 0).toNat = Numeral.value 16 (str.map hexDigit) := by
  have all := addHexAll hex 0 0 (by decide) (by omega)
  rwa [show (0 : UInt32).toNat = 0 from rfl, Nat.zero_mul, Nat.zero_add] at all

theorem getHexCounts (value : UInt32) (i : Int32) (str : List Char) :
    getHexFrom value i str = (count (fun _ => true) str i).map fun _ => str.foldl addHex value := by
  induction str generalizing value i with
  | nil => rfl
  | cons c rest ih =>
    rw [getHexFrom, count, if_pos rfl, List.foldl_cons]
    cases increment i with
    | none => rfl
    | some next => exact ih (addHex value c) next

theorem getHexFits {str : List Char} (fits : str.length < 2147483648) :
    getHex str = some (str.foldl addHex 0) := by
  have all : str.countP (fun _ => true) = str.length := by simp
  obtain ⟨j, reached, _⟩ := countFits (fun _ => true) (all.symm ▸ fits)
  rw [getHex, getHexCounts, reached, Option.map_some]

theorem getHexReached {str : List Char} {command : UInt32} (read : getHex str = some command) :
    str.length < 2147483648 := by
  rw [getHex, getHexCounts] at read
  obtain ⟨j, reached, _⟩ := Option.map_eq_some_iff.mp read
  have total := countReached _ reached
  have most := j.toInt_lt
  have all : str.countP (fun _ => true) = str.length := by simp
  omega

theorem sweeplenInt {n : Nat} (fits : n < 2147483648) :
    (sweeplen n).toNat = (4294967302 - n) % 4294967296 := by
  have size : (UInt32.ofNat n).toNat = n :=
    UInt32.toNat_ofNat_of_lt' (Nat.lt_trans fits (by decide))
  rw [sweeplen, UInt32.toNat_sub, size, show (6 : UInt32).toNat = 6 from rfl]
  omega

theorem shiftOne {sweeplen sweepmax : UInt32}
    (shifted : shiftLeft 1 (sweeplen * 4) = some sweepmax) :
    sweepmax.toInt32.toInt = 2 ^ (sweeplen * 4).toNat := by
  rw [shiftLeft] at shifted
  split at shifted
  · rename_i inside
    rw [UInt32.lt_iff_toNat_lt] at inside
    change (sweeplen * 4).toNat < 32 at inside
    -- whole digits inside the width leave the sign bit alone
    have digits : (sweeplen * 4).toNat ≤ 28 := by
      rw [UInt32.toNat_mul, show (4 : UInt32).toNat = 4 from rfl] at inside ⊢
      omega
    have power : 2 ^ (sweeplen * 4).toNat ≤ 2 ^ 28 := Nat.pow_le_pow_right (by decide) digits
    have same : sweepmax.toNat = 2 ^ (sweeplen * 4).toNat := by
      rw [← Option.some.inj shifted, UInt32.toNat_shiftLeft, Nat.mod_eq_of_lt inside,
        show (1 : UInt32).toNat = 1 from rfl, Nat.shiftLeft_eq, Nat.one_mul]
      exact Nat.mod_eq_of_lt (by omega)
    have int : sweepmax.toInt32.toInt = sweepmax.toNat :=
      BitVec.toInt_eq_toNat_of_lt (by change 2 * sweepmax.toNat < 2 ^ 32; omega)
    rw [int, same]
    exact Nat.cast_pow 2 _
  · contradiction

def requests (id command amount : UInt32) : List Packet :=
  (List.range (2 ^ amount.toNat)).map fun i =>
    createPacket id (command <<< amount ||| UInt32.ofNat i) noParams

theorem sweepOpen (id : UInt32) {argument : List Char} (fits : argument.length < 2147483648)
    (more : sweeplen argument.length > 0) :
    sweep id argument = if sweeplen argument.length * 4 < 32 then
      some (requests id (argument.foldl addHex 0) (sweeplen argument.length * 4)) else none := by
  have swept : sweep id argument =
      (shiftLeft 1 (sweeplen argument.length * 4)).bind fun sweepmax =>
        (shiftLeft (argument.foldl addHex 0) (sweeplen argument.length * 4)).bind fun command =>
          some ((List.range sweepmax.toInt32.toInt.toNat).map fun i =>
            createPacket id (command ||| UInt32.ofNat i) noParams) := by
    rw [sweep, getHexFits fits]
    exact if_pos more
  rw [swept]
  split
  · rename_i inside
    have shifted : ∀ x, shiftLeft x (sweeplen argument.length * 4) =
        some (x <<< (sweeplen argument.length * 4)) := fun x => if_pos inside
    have power := shiftOne (shifted 1)
    rw [shifted, shifted, Option.bind_some, Option.bind_some, power, requests]
    rfl
  · rename_i outside
    rw [shiftLeft, if_neg outside, Option.bind_none]

theorem sweepClosed (id : UInt32) {argument : List Char} (six : argument.length = 6) :
    sweep id argument = some [] := by
  have closed : ¬ sweeplen argument.length > 0 := by rw [six]; decide
  rw [sweep, getHexFits (six ▸ (by decide))]
  exact if_neg closed

def carried (request : Packet) : Nat :=
  (request.get (commandLoc 0)).toNat * 65536 + (request.get (commandLoc 1)).toNat * 256 +
    (request.get (commandLoc 2)).toNat

def hexForm (command : Nat) : List Char := (written 16 6 command).map Nat.digitChar

def Starts (argument : List Char) (command : Nat) : Prop :=
  argument.map Char.toLower <+: hexForm command

instance (argument : List Char) (command : Nat) : Decidable (Starts argument command) :=
  inferInstanceAs (Decidable (_ <+: _))

theorem startsIff {argument : List Char} (hex : Hex argument) (command : Nat) :
    Starts argument command ↔ argument.map hexDigit <+: written 16 6 command := by
  have lowered : argument.map Char.toLower = (argument.map hexDigit).map Nat.digitChar := by
    rw [List.map_map]
    exact List.map_congr_left fun c mem => (hexDigitRead (hex c mem)).2.1.symm
  have argumentRead : (argument.map Char.toLower).map hexDigit = argument.map hexDigit := by
    rw [List.map_map]
    exact List.map_congr_left fun c mem => (hexDigitRead (hex c mem)).2.2.1
  have formRead : (hexForm command).map hexDigit = written 16 6 command := by
    rw [hexForm, List.map_map]
    have same : ∀ digit ∈ written 16 6 command, hexDigit digit.digitChar = id digit :=
      fun digit mem => digitCharRead digit (writtenDigits (by decide) 6 command digit mem)
    exact (List.map_congr_left same).trans (List.map_id _)
  constructor
  · intro starts
    have read := starts.map hexDigit
    rwa [argumentRead, formRead] at read
  · intro digits
    rw [Starts, lowered]
    exact digits.map Nat.digitChar

theorem sweepShort (id : UInt32) {argument : List Char} {m : Nat}
    (short : argument.length + m = 6) (more : 0 < m) :
    ∃ amount : UInt32, amount.toNat = 4 * m ∧
      sweep id argument = some (requests id (argument.foldl addHex 0) amount) := by
  have length : (sweeplen argument.length).toNat = m := by
    rw [sweeplenInt (by omega)]
    omega
  have amount : (sweeplen argument.length * 4).toNat = 4 * m := by
    rw [UInt32.toNat_mul, length, show (4 : UInt32).toNat = 4 from rfl]
    omega
  refine ⟨sweeplen argument.length * 4, amount, ?_⟩
  rw [sweepOpen id (by omega) (UInt32.lt_iff_toNat_lt.mpr (length.symm ▸ more)), if_pos]
  rw [UInt32.lt_iff_toNat_lt, amount]
  change 4 * m < 32
  omega

theorem carriedShort (id : UInt32) {argument : List Char} (hex : Hex argument)
    {m : Nat} (short : argument.length + m = 6) {amount : UInt32} (digits : amount.toNat = 4 * m) :
    (requests id (argument.foldl addHex 0) amount).map carried =
      (List.range (16 ^ m)).map (Numeral.value 16 (argument.map hexDigit) * 16 ^ m + ·) := by
  have power : 2 ^ amount.toNat = 16 ^ m := by rw [digits, Nat.pow_mul]
  rw [requests, List.map_map, power]
  apply List.map_congr_left
  intro i mem
  have inside := List.mem_range.mp mem
  have length : (argument.map hexDigit).length + m = 6 := by rw [List.length_map, short]
  have fits := ((prefixInterval (by decide) (digitsSmall hex) length _).mpr ⟨i, inside, rfl⟩).1
  have least : 16 ^ m ≤ 16 ^ 6 := Nat.pow_le_pow_right (by decide) (by omega)
  have low : (UInt32.ofNat i).toNat = i := UInt32.toNat_ofNat_of_lt' (by change i < 2 ^ 32; omega)
  have read := hexValue hex (by omega)
  have joined := joinedBits (argument.foldl addHex 0) amount (UInt32.ofNat i) (by omega)
    (by rw [power, read]; omega) (by rw [power, low]; exact inside)
  rw [power, read, low] at joined
  rw [Function.comp_apply, carried, JlipReplies.commandRead id (by omega), joined]

def SweepExact (id : UInt32) (argument : List Char) : Prop :=
  ∃ sent, sweep id argument = some sent ∧
    (argument.length ≤ 5 →
      (sent.map carried).Pairwise (· < ·) ∧
      (∀ command, command ∈ sent.map carried ↔ command < 2 ^ 24 ∧ Starts argument command) ∧
      ∀ request ∈ sent, presented request = noParams) ∧
    (6 ≤ argument.length → sent = [])

theorem sweepShortExact (id : UInt32) {argument : List Char} (hex : Hex argument)
    (short : argument.length ≤ 5) : SweepExact id argument := by
  obtain ⟨m, total⟩ : ∃ m, argument.length + m = 6 := ⟨6 - argument.length, by omega⟩
  obtain ⟨amount, digits, swept⟩ := sweepShort id total (by omega)
  refine ⟨_, swept, fun _ => ⟨?_, ?_, ?_⟩, fun long => by omega⟩
  · rw [carriedShort id hex total digits, List.pairwise_map]
    exact List.pairwise_lt_range.imp (Nat.add_lt_add_left · _)
  · intro command
    have length : (argument.map hexDigit).length + m = 6 := by rw [List.length_map, total]
    have interval := prefixInterval (by decide) (digitsSmall hex) length command
    rw [carriedShort id hex total digits, List.mem_map, startsIff hex,
      show 2 ^ 24 = 16 ^ 6 from rfl]
    simpa only [List.mem_range] using interval.symm
  · intro request mem
    obtain ⟨i, _, rfl⟩ := List.mem_map.mp mem
    exact JlipReplies.paramsRead id _ noParams

theorem sweepLongWrong (id : UInt32) {argument : List Char} (long : 6 < argument.length) :
    ¬ SweepExact id argument := by
  rintro ⟨sent, swept, _, nothing⟩
  have fits : argument.length < 2147483648 := by
    rw [sweep] at swept
    obtain ⟨command, read, _⟩ := Option.bind_eq_some_iff.mp swept
    exact getHexReached read
  have wraps : sweeplen argument.length > 0 := by
    have wrapped := sweeplenInt fits
    rw [gt_iff_lt, UInt32.lt_iff_toNat_lt, wrapped]
    change 0 < _
    omega
  rw [sweepOpen id fits wraps] at swept
  split at swept
  · have one : 0 < 2 ^ (sweeplen argument.length * 4).toNat := Nat.two_pow_pos _
    have count := congrArg List.length (Option.some.inj swept)
    rw [requests, List.length_map, List.length_range, nothing (Nat.le_of_lt long)] at count
    rw [count] at one
    contradiction
  · contradiction

theorem sweepExactIff (id : UInt32) {argument : List Char} (hex : Hex argument) :
    SweepExact id argument ↔ argument.length ≤ 6 := by
  constructor
  · intro exactly
    by_contra long
    exact sweepLongWrong id (Nat.lt_of_not_le long) exactly
  · intro short
    rcases Nat.lt_or_eq_of_le short with fewer | six
    · exact sweepShortExact id hex (Nat.le_of_lt_succ fewer)
    · exact ⟨[], sweepClosed id six, fun fewer => by omega, fun _ => rfl⟩

theorem sweepExactIffPower : SweepExact 33 ['3', 'e', '4', '0'] :=
  (sweepExactIff 33 (by decide)).mpr (by decide)

theorem sweepSevenDigits :
    sweep 33 ['3', 'E', '4', '0', '7', '0', '0'] = none ∧
    ¬ SweepExact 33 ['3', 'E', '4', '0', '7', '0', '0'] :=
  ⟨rfl, sweepLongWrong 33 (by decide)⟩

end SerialDvdEmu.JlipSweep
