import Mathlib.Data.Int.Basic
import Mathlib.Data.List.Basic

/-! Decimal numbers in byte strings: printing as `%d` does and the `%d` conversion of scanf.
The number read is the mathematical one; what a machine integer makes of it is left to users. -/
namespace SerialDvdEmu.Decimal

def isSpace (byte : UInt8) : Bool := byte == 0x20 || (decide (0x09 ≤ byte) && decide (byte ≤ 0x0D))
def isDigit (byte : UInt8) : Bool := decide (0x30 ≤ byte) && decide (byte ≤ 0x39)

def value (digits : List UInt8) : Nat :=
  digits.foldl (fun n digit => 10 * n + (digit.toNat - 48)) 0

def printNat (n : Nat) : List UInt8 := (Nat.toDigits 10 n).map Char.toUInt8

def printInt : Int → List UInt8
  | .ofNat n => printNat n
  | .negSucc n => 0x2D :: printNat (n + 1)

def scanSign : List UInt8 → Bool × List UInt8
  | [] => (false, [])
  | byte :: rest =>
    if byte = 0x2D then (true, rest) else if byte = 0x2B then (false, rest) else (false, byte :: rest)

def scanInt (input : List UInt8) : Option (Int × List UInt8) :=
  let signed := scanSign (input.dropWhile isSpace)
  let digits := signed.2.takeWhile isDigit
  if digits = [] then none
  else some (if signed.1 then -(value digits : Int) else value digits, signed.2.dropWhile isDigit)

theorem digitRange {byte : UInt8} : isDigit byte = true ↔ 48 ≤ byte.toNat ∧ byte.toNat ≤ 57 := by
  simp [isDigit, UInt8.le_iff_toNat_le]

theorem digitByte {n : Nat} {c : Char} (mem : c ∈ Nat.toDigits 10 n) :
    c.toUInt8.toNat = c.toNat ∧ isDigit c.toUInt8 = true := by
  have digit := Nat.isDigit_of_mem_toDigits (by decide) (by decide) mem
  have range : 48 ≤ c.toNat ∧ c.toNat ≤ 57 := by
    simpa [Char.isDigit, UInt32.le_iff_toNat_le] using digit
  have small : c.toUInt8.toNat = c.toNat := by
    change c.toNat % 256 = c.toNat
    omega
  exact ⟨small, digitRange.mpr (by omega)⟩

theorem printedDigits (n : Nat) : ∀ byte ∈ printNat n, isDigit byte = true := by
  intro byte mem
  obtain ⟨c, hc, rfl⟩ := List.mem_map.mp mem
  exact (digitByte hc).2

theorem printedNonempty (n : Nat) : printNat n ≠ [] := by
  simp [printNat, Nat.toDigits_ne_nil]

theorem valuePrinted (n : Nat) : value (printNat n) = n := by
  have bytes : ∀ cs : List Char, (∀ c ∈ cs, c.toUInt8.toNat = c.toNat) → ∀ start,
      (cs.map Char.toUInt8).foldl (fun n digit => 10 * n + (digit.toNat - 48)) start =
        Nat.ofDigitChars 10 cs start := by
    intro cs
    induction cs with
    | nil => exact fun _ _ => rfl
    | cons c cs ih =>
      intro same start
      rw [List.map_cons, List.foldl_cons, ih (fun c mem => same c (List.mem_cons_of_mem _ mem)),
        Nat.ofDigitChars_cons, same c List.mem_cons_self]
      rfl
  rw [value, printNat, bytes _ fun c mem => (digitByte mem).1]
  exact Nat.ofDigitChars_ten_toDigits

def printWide (width n : Nat) : List UInt8 :=
  List.replicate (width - (printNat n).length) 0x30 ++ printNat n

theorem valuePadded (zeros : Nat) (digits : List UInt8) :
    value (List.replicate zeros 0x30 ++ digits) = value digits := by
  induction zeros with
  | zero => rfl
  | succ zeros ih => exact ih

theorem valueWide (width n : Nat) : value (printWide width n) = n :=
  (valuePadded _ _).trans (valuePrinted n)

theorem spanDigits {digits rest : List UInt8} (all : ∀ byte ∈ digits, isDigit byte = true)
    (stop : ∀ byte ∈ rest.head?, isDigit byte = false) :
    (digits ++ rest).takeWhile isDigit = digits ∧ (digits ++ rest).dropWhile isDigit = rest := by
  rw [List.takeWhile_append_of_pos all, List.dropWhile_append_of_pos all]
  cases rest with
  | nil => simp
  | cons byte rest => simp [stop byte rfl]

theorem scanDigits {digits rest : List UInt8} (nonempty : digits ≠ [])
    (all : ∀ byte ∈ digits, isDigit byte = true) (stop : ∀ byte ∈ rest.head?, isDigit byte = false) :
    scanInt (digits ++ rest) = some ((value digits : Int), rest) := by
  obtain ⟨first, others, rfl⟩ := List.exists_cons_of_ne_nil nonempty
  have range := digitRange.mp (all first List.mem_cons_self)
  have solid : isSpace first = false := by
    simp [isSpace, UInt8.le_iff_toNat_le, ← UInt8.toNat_inj]
    omega
  have body : ((first :: others) ++ rest).dropWhile isSpace = first :: (others ++ rest) := by
    simp [solid]
  have unsigned : scanSign (first :: (others ++ rest)) = (false, first :: others ++ rest) := by
    have : first ≠ 0x2D ∧ first ≠ 0x2B := by
      constructor <;> (rintro rfl; simp at range)
    simp [scanSign, this]
  obtain ⟨taken, left⟩ := spanDigits all stop
  simp only [scanInt, body, unsigned, taken, left]
  simp

theorem scanSigned {digits rest : List UInt8} (nonempty : digits ≠ [])
    (all : ∀ byte ∈ digits, isDigit byte = true) (stop : ∀ byte ∈ rest.head?, isDigit byte = false) :
    scanInt (0x2D :: digits ++ rest) = some (-(value digits : Int), rest) := by
  have body : scanSign ((0x2D :: digits ++ rest).dropWhile isSpace) = (true, digits ++ rest) := rfl
  obtain ⟨taken, left⟩ := spanDigits all stop
  simp only [scanInt, body, taken, left]
  simp [nonempty]

theorem scanPrinted (n : Int) {rest : List UInt8} (stop : ∀ byte ∈ rest.head?, isDigit byte = false) :
    scanInt (printInt n ++ rest) = some (n, rest) := by
  cases n with
  | ofNat n =>
    rw [printInt, scanDigits (printedNonempty n) (printedDigits n) stop, valuePrinted]
    rfl
  | negSucc n =>
    rw [printInt, scanSigned (printedNonempty (n + 1)) (printedDigits (n + 1)) stop, valuePrinted]
    rfl

structure Numeral (digits : List UInt8) : Prop where
  nonempty : digits ≠ []
  all : ∀ byte ∈ digits, isDigit byte = true

inductive Reads : List UInt8 → Int → List UInt8 → Prop where
  | blank {byte input n rest} (space : isSpace byte = true) (tail : Reads input n rest) :
      Reads (byte :: input) n rest
  | unsigned {digits rest} (numeral : Numeral digits)
      (stop : ∀ byte ∈ rest.head?, isDigit byte = false) :
      Reads (digits ++ rest) (value digits) rest
  | plus {digits rest} (numeral : Numeral digits)
      (stop : ∀ byte ∈ rest.head?, isDigit byte = false) :
      Reads (0x2B :: (digits ++ rest)) (value digits) rest
  | minus {digits rest} (numeral : Numeral digits)
      (stop : ∀ byte ∈ rest.head?, isDigit byte = false) :
      Reads (0x2D :: (digits ++ rest)) (-(value digits : Int)) rest

theorem scanBlank {byte : UInt8} (space : isSpace byte = true) (input : List UInt8) :
    scanInt (byte :: input) = scanInt input := by
  simp only [scanInt, List.dropWhile_cons, space, if_true]

theorem readsScan {input rest : List UInt8} {n : Int} (reads : Reads input n rest) :
    scanInt input = some (n, rest) := by
  induction reads with
  | blank space tail ih => rw [scanBlank space, ih]
  | unsigned numeral stop => exact scanDigits numeral.nonempty numeral.all stop
  | @plus digits rest numeral stop =>
    have body : scanSign ((0x2B :: (digits ++ rest)).dropWhile isSpace) = (false, digits ++ rest) :=
      rfl
    obtain ⟨taken, left⟩ := spanDigits numeral.all stop
    simp only [scanInt, body, taken, left]
    simp [numeral.nonempty]
  | minus numeral stop => exact scanSigned numeral.nonempty numeral.all stop

theorem spanned {body : List UInt8} (nonempty : body.takeWhile isDigit ≠ []) :
    Numeral (body.takeWhile isDigit) ∧
    (∀ byte ∈ (body.dropWhile isDigit).head?, isDigit byte = false) ∧
    body.takeWhile isDigit ++ body.dropWhile isDigit = body := by
  refine ⟨⟨nonempty, List.all_eq_true.mp List.all_takeWhile⟩, ?_,
    List.takeWhile_append_dropWhile⟩
  intro byte head
  have stopped := List.head?_dropWhile_not isDigit body
  rw [Option.mem_def.mp head] at stopped
  simpa using stopped

theorem scanReads {input rest : List UInt8} {n : Int} (scanned : scanInt input = some (n, rest)) :
    Reads input n rest := by
  induction input with
  | nil => simp [scanInt, scanSign] at scanned
  | cons byte tail ih =>
    cases space : isSpace byte with
    | true =>
      rw [scanBlank space] at scanned
      exact .blank space (ih scanned)
    | false =>
      have solid : (byte :: tail).dropWhile isSpace = byte :: tail := by simp [space]
      simp only [scanInt, solid, scanSign] at scanned
      by_cases minus : byte = 0x2D
      · simp only [minus, if_true, Option.ite_none_left_eq_some, Option.some.injEq,
          Prod.mk.injEq] at scanned ⊢
        obtain ⟨nonempty, rfl, rfl⟩ := scanned
        obtain ⟨numeral, stop, whole⟩ := spanned nonempty
        have read := Reads.minus numeral stop
        rwa [whole] at read
      by_cases plus : byte = 0x2B
      · simp only [plus, if_true, Option.ite_none_left_eq_some, Option.some.injEq,
          Prod.mk.injEq] at scanned
        obtain ⟨nonempty, rfl, rfl⟩ := scanned
        obtain ⟨numeral, stop, whole⟩ := spanned nonempty
        have read := Reads.plus numeral stop
        rw [whole] at read
        rw [plus]
        exact read
      · simp only [minus, plus, if_false, Option.ite_none_left_eq_some, Option.some.injEq,
          Prod.mk.injEq] at scanned
        obtain ⟨nonempty, rfl, rfl⟩ := scanned
        obtain ⟨numeral, stop, whole⟩ := spanned nonempty
        have read := Reads.unsigned numeral stop
        rwa [whole] at read

end SerialDvdEmu.Decimal
