import Mathlib.Data.List.Basic

/-! Self-delimiting codes: the head of a word says where it ends, so a concatenation of
words splits in one way only. Nothing is assumed about the symbols. -/
namespace SerialDvdEmu

structure PrefixCode (α β : Type*) where
  encode : α → List β
  decodeHead : List β → Option (α × List β)
  nonempty : ∀ a, encode a ≠ []
  stops : decodeHead [] = none
  decodeEncode : ∀ a rest, decodeHead (encode a ++ rest) = some (a, rest)

namespace PrefixCode

variable {α β : Type*} (code : PrefixCode α β)

def encodeAll (words : List α) : List β := words.flatMap code.encode

@[simp] theorem encodeAllNil : code.encodeAll [] = [] := rfl

@[simp] theorem encodeAllCons (a : α) (words : List α) :
    code.encodeAll (a :: words) = code.encode a ++ code.encodeAll words := rfl

@[simp] theorem encodeAllAppend (first rest : List α) :
    code.encodeAll (first ++ rest) = code.encodeAll first ++ code.encodeAll rest := by
  simp [encodeAll]

def decodeUpTo : Nat → List β → List α
  | 0, _ => []
  | fuel + 1, symbols => match code.decodeHead symbols with
    | none => []
    | some (a, rest) => a :: decodeUpTo fuel rest

def decodeAll (symbols : List β) : List α := code.decodeUpTo symbols.length symbols

theorem wordsLength (words : List α) : words.length ≤ (code.encodeAll words).length := by
  induction words with
  | nil => exact Nat.le_refl _
  | cons a words ih =>
    have := List.length_pos_iff.mpr (code.nonempty a)
    simp only [encodeAllCons, List.length_append, List.length_cons]
    omega

theorem decodeUpToEncoded {words : List α} {fuel : Nat} (enough : words.length ≤ fuel) :
    code.decodeUpTo fuel (code.encodeAll words) = words := by
  induction words generalizing fuel with
  | nil => cases fuel <;> simp [decodeUpTo, code.stops]
  | cons a words ih =>
    cases fuel with
    | zero => simp at enough
    | succ fuel =>
      rw [encodeAllCons, decodeUpTo, code.decodeEncode]
      simpa using ih (Nat.le_of_succ_le_succ enough)

theorem decodeAllEncoded (words : List α) : code.decodeAll (code.encodeAll words) = words :=
  code.decodeUpToEncoded (code.wordsLength words)

end PrefixCode
end SerialDvdEmu
