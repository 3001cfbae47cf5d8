import Mathlib.Data.List.Basic
import SerialDvdEmu.Base.EventRun

/-! A register of fixed length that keeps the last symbols of a stream: each new symbol moves
the others one place towards the front. -/
namespace SerialDvdEmu.ShiftRegister
open EventRun (run)

variable {α : Type*} {n : Nat}

def shift (register : Vector α n) (symbol : α) : Vector α n :=
  Vector.ofFn fun i => if h : i.val + 1 < n then register[i.val + 1] else symbol

theorem shiftGet (register : Vector α n) (symbol : α) {i : Nat} (h : i + 1 < n) :
    (shift register symbol)[i] = register[i + 1] := by
  simp [shift, h]

theorem shiftToList (register : Vector α n) (symbol : α) (h : 0 < n) :
    (shift register symbol).toList = register.toList.drop 1 ++ [symbol] := by
  apply List.ext_getElem
  · simp; omega
  · intro i hi _
    simp only [Vector.length_toList] at hi
    by_cases inner : i + 1 < n
    · rw [List.getElem_append_left (by simp; omega)]
      simp [shift, inner]
    · rw [List.getElem_append_right (by simp; omega)]
      simp [shift, inner]

theorem feedToList (register : Vector α n) (h : 0 < n) (symbols : List α) :
    (run shift register symbols).toList = (register.toList ++ symbols).drop symbols.length := by
  induction symbols generalizing register with
  | nil => simp
  | cons symbol rest ih =>
    have long : 1 ≤ register.toList.length := by simp; omega
    rw [EventRun.runCons, ih, shiftToList register symbol h, List.append_assoc,
      List.singleton_append, ← List.drop_append_of_le_length long, List.drop_drop,
      List.length_cons, Nat.add_comm]

theorem feedGet (register : Vector α n) (symbols : List α) {i : Nat} (h : i < n) :
    (run shift register symbols)[i]? = (register.toList ++ symbols)[i + symbols.length]? := by
  have list := congrArg (fun xs => xs[i]?) (feedToList register (Nat.zero_lt_of_lt h) symbols)
  simpa [List.getElem?_drop, Nat.add_comm] using list

theorem feedOld (register : Vector α n) (symbols : List α) {i : Nat} (h : i + symbols.length < n) :
    (run shift register symbols)[i] = register[i + symbols.length] := by
  have get := feedGet register symbols (i := i) (by omega)
  rw [List.getElem?_append_left (by simpa using h)] at get
  simpa [h, show i < n by omega] using get

theorem feedFull (register : Vector α n) (symbols : List α) (full : symbols.length = n) (h : 0 < n) :
    (run shift register symbols).toList = symbols := by
  rw [feedToList register h symbols, full]
  simp

end SerialDvdEmu.ShiftRegister
