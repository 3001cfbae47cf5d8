import Mathlib.Data.Nat.Digits.Lemmas

/-! Numerals of a fixed length, the highest digit first. Those that start with a given prefix
are the numbers of one interval. -/
namespace SerialDvdEmu.Numeral

variable {b : Nat}

def value (b : Nat) (digits : List Nat) : Nat := Nat.ofDigits b digits.reverse

def written (b n c : Nat) : List Nat := (Nat.digitsAppend b n c).reverse

def Digits (b : Nat) (digits : List Nat) : Prop := ∀ digit ∈ digits, digit < b

theorem valueAppend (front back : List Nat) :
    value b (front ++ back) = value b front * b ^ back.length + value b back := by
  rw [value, List.reverse_append, Nat.ofDigits_append, List.length_reverse, value, value]
  ring

theorem valueCons (digit : Nat) (rest : List Nat) :
    value b (digit :: rest) = digit * b ^ rest.length + value b rest := by
  have single : value b [digit] = digit := Nat.ofDigits_singleton
  rw [← List.singleton_append, valueAppend, single]

theorem valuePaired (ns : List Nat) :
    value b (ns.flatMap fun n => [n / b, n % b]) = value (b * b) ns := by
  induction ns with
  | nil => rfl
  | cons n rest ih =>
    have length : (rest.flatMap fun n => [n / b, n % b]).length = 2 * rest.length := by
      simp [Nat.mul_comm]
    have split : n / b * b + n % b = n := Nat.div_add_mod' n b
    rw [List.flatMap_cons, List.cons_append, List.cons_append, List.nil_append, valueCons, valueCons,
      valueCons, ih, List.length_cons, length, pow_succ, pow_mul, pow_two]
    calc n / b * ((b * b) ^ rest.length * b) + (n % b * (b * b) ^ rest.length + value (b * b) rest)
        = (n / b * b + n % b) * (b * b) ^ rest.length + value (b * b) rest := by ring
      _ = n * (b * b) ^ rest.length + value (b * b) rest := by rw [split]

theorem valueLess (base : 1 < b) {digits : List Nat} (small : Digits b digits) :
    value b digits < b ^ digits.length := by
  rw [value, ← List.length_reverse]
  exact Nat.ofDigits_lt_base_pow_length base fun digit mem => small digit (List.mem_reverse.mp mem)

theorem valueInj (base : 1 < b) {first second : List Nat} (length : first.length = second.length)
    (small : Digits b first) (small' : Digits b second)
    (same : value b first = value b second) : first = second := by
  apply List.reverse_injective
  apply Nat.ofDigits_inj_of_len_eq base (by simpa using length) _ _ same
  · exact fun digit mem => small digit (List.mem_reverse.mp mem)
  · exact fun digit mem => small' digit (List.mem_reverse.mp mem)

theorem writtenDigits (base : 1 < b) (n c : Nat) : Digits b (written b n c) :=
  fun _ mem => Nat.lt_of_mem_digitsAppend base n _ (List.mem_reverse.mp mem)

theorem writtenLength (base : 1 < b) {n c : Nat} (fits : c < b ^ n) :
    (written b n c).length = n := by
  rw [written, List.length_reverse]
  exact Nat.length_digitsAppend base n fits

theorem valueWritten (n c : Nat) : value b (written b n c) = c := by
  rw [value, written, List.reverse_reverse, Nat.digitsAppend, Nat.ofDigits_append_replicate_zero,
    Nat.ofDigits_digits]

theorem writtenValue (base : 1 < b) {digits : List Nat} (small : Digits b digits) :
    written b digits.length (value b digits) = digits :=
  valueInj base (writtenLength base (valueLess base small)) (writtenDigits base _ _) small
    (valueWritten _ _)

theorem prefixInterval (base : 1 < b) {front : List Nat} (small : Digits b front) {n m : Nat}
    (length : front.length + m = n) (c : Nat) :
    c < b ^ n ∧ front <+: written b n c ↔ ∃ i < b ^ m, value b front * b ^ m + i = c := by
  constructor
  · rintro ⟨fits, back, whole⟩
    have backLength : back.length = m := by
      have total := congrArg List.length whole
      rw [List.length_append, writtenLength base fits] at total
      omega
    have backSmall : Digits b back := fun digit mem =>
      writtenDigits base n c digit (whole ▸ List.mem_append_right front mem)
    refine ⟨value b back, backLength ▸ valueLess base backSmall, ?_⟩
    rw [← backLength, ← valueAppend, whole, valueWritten]
  · rintro ⟨i, inside, rfl⟩
    have backSmall := writtenDigits base m i
    have backLength := writtenLength base inside
    have joined : value b (front ++ written b m i) = value b front * b ^ m + i := by
      rw [valueAppend, backLength, valueWritten]
    have wholeLength : (front ++ written b m i).length = n := by
      rw [List.length_append, backLength, length]
    have wholeSmall : Digits b (front ++ written b m i) := by
      intro digit mem
      rcases List.mem_append.mp mem with first | second
      · exact small digit first
      · exact backSmall digit second
    have fits := valueLess base wholeSmall
    rw [joined, wholeLength] at fits
    refine ⟨fits, written b m i, ?_⟩
    rw [← joined, ← wholeLength, writtenValue base wholeSmall]

end SerialDvdEmu.Numeral
