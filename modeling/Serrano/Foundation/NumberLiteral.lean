import Mathlib.Algebra.Ring.Nat
import Mathlib.Algebra.Ring.Int.Defs
import Serrano.Foundation.PrintedNumber
import Serrano.Foundation.Strtol

/-! # Number literals

A literal of base 16 has the letters `0x` in front. A decimal literal has digits, with a
sign, a point and an exponent where there is one. None of these characters is white
space, so a literal is a word of its own.
-/

namespace Strtol

/-- The digits of a literal of base 16. -/
def hexLiteral : List Char → Option (List Char)
  | zero :: x :: digits =>
      if zero = '0' ∧ (x = 'x' ∨ x = 'X') ∧ digits ≠ [] ∧ digits.all (isDigit 16) = true then
        some digits
      else none
  | _ => none

/-- The number that a decimal literal stands for, when it is an integer. -/
def decimalInteger : List Char → Option Int
  | '+' :: digits => (natural 10 digits).map fun (n : Nat) => (n : Int)
  | text => numeral 10 text

/-- The characters of decimal literals. -/
def isDecimal (c : Char) : Bool :=
  isDigit 10 c || c = '+' || c = '-' || c = '.' || c = 'e' || c = 'E'

/-- Whether a text has the characters of a decimal literal. -/
def decimalLiteral (text : List Char) : Bool := text ≠ [] && text.all isDecimal

variable {bits base : Nat} {c : Char} {text digits : List Char}

theorem hexLiteral_eq_some (h : hexLiteral text = some digits) :
    ∃ x, (x = 'x' ∨ x = 'X') ∧ text = '0' :: x :: digits ∧
      natural 16 digits = some (value 16 digits) := by
  rw [hexLiteral.eq_def] at h
  split at h
  next zero x more =>
    split at h
    next hmore =>
      obtain ⟨rfl, hx, hdigits⟩ := hmore
      cases h
      exact ⟨x, hx, rfl, if_pos hdigits⟩
    next => cases h
  next => cases h

/-- The conversion of the digits, as far as their value is in range. -/
theorem strtol_hexLiteral (h : hexLiteral text = some digits) :
    strtol bits 16 digits = clamp bits (value 16 digits) := by
  obtain ⟨x, -, -, hdigits⟩ := hexLiteral_eq_some h
  exact strtol_natural hdigits

theorem value_hexLiteral_lt (h : hexLiteral text = some digits) :
    value 16 digits < 16 ^ digits.length := by
  obtain ⟨x, -, -, hdigits⟩ := hexLiteral_eq_some h
  exact PrintedNumber.value_lt_pow (natural_eq_some hdigits).2.1

theorem strtol_plus_natural {n : Nat} (h : natural base text = some n) :
    strtol bits base ('+' :: text) = clamp bits n := by
  rw [strtol, List.dropWhile_cons_of_neg (by decide), sign]
  dsimp only
  rw [value_takeWhile h, if_neg Bool.false_ne_true]

/-- The conversion of a decimal literal, as far as its value is in range. -/
theorem strtol_decimalInteger {n : Int} (h : decimalInteger text = some n) :
    strtol bits 10 text = clamp bits n := by
  rw [decimalInteger.eq_def] at h
  split at h
  next =>
    obtain ⟨m, hnatural, rfl⟩ := Option.map_eq_some_iff.mp h
    exact strtol_plus_natural hnatural
  next => exact strtol_numeral h

theorem isDecimal_of_isDigit (h : isDigit 10 c = true) : isDecimal c = true := by
  rw [isDecimal, h]
  rfl

theorem all_isDecimal_of_natural {n : Nat} (h : natural 10 text = some n) :
    text.all isDecimal = true :=
  List.all_eq_true.mpr fun c hc =>
    isDecimal_of_isDigit (List.all_eq_true.mp (natural_eq_some h).2.1 c hc)

theorem all_isDecimal_of_numeral {n : Int} (h : numeral 10 text = some n) :
    text.all isDecimal = true := by
  rw [numeral.eq_def] at h
  split at h
  next =>
    obtain ⟨m, hnatural, -⟩ := Option.map_eq_some_iff.mp h
    rw [List.all_cons, all_isDecimal_of_natural hnatural]
    rfl
  next =>
    obtain ⟨m, hnatural, -⟩ := Option.map_eq_some_iff.mp h
    exact all_isDecimal_of_natural hnatural

theorem all_isDecimal_of_decimalInteger {n : Int} (h : decimalInteger text = some n) :
    text.all isDecimal = true := by
  rw [decimalInteger.eq_def] at h
  split at h
  next =>
    obtain ⟨m, hnatural, -⟩ := Option.map_eq_some_iff.mp h
    rw [List.all_cons, all_isDecimal_of_natural hnatural]
    rfl
  next => exact all_isDecimal_of_numeral h

theorem decimalInteger_ne_nil {n : Int} (h : decimalInteger text = some n) : text ≠ [] := by
  rintro rfl
  cases h

/-- A letter of the prefix is not a character of a decimal literal. -/
theorem toLower_ne_of_isDecimal (h : isDecimal c = true) : c.toLower ≠ 'x' := by
  intro hx
  have hc : c = 'x' ∨ c = 'X' := by
    delta Char.toLower at hx
    split at hx
    next =>
      have hval : c.val + ('a'.val - 'A'.val) = 'x'.val := congrArg Char.val hx
      have hletter : 'X'.val + ('a'.val - 'A'.val) = 'x'.val := by decide
      exact .inr (Char.ext ((UInt32.add_left_inj _).mp (hval.trans hletter.symm)))
    next => exact .inl hx
  rcases hc with rfl | rfl
  · exact absurd h (by decide)
  · exact absurd h (by decide)

/-- A character that no digit, sign or letter of a literal is. -/
theorem not_mem_of_all_isDecimal (hc : isDecimal c = false) (h : text.all isDecimal = true) :
    c ∉ text := fun hmem =>
  Bool.false_ne_true (hc.symm.trans (List.all_eq_true.mp h c hmem))

theorem not_mem_of_hexLiteral (hc : isDigit 16 c = false) (hx : c ≠ 'x') (hX : c ≠ 'X')
    (h : hexLiteral text = some digits) : c ∉ text := by
  obtain ⟨x, hletter, rfl, hdigits⟩ := hexLiteral_eq_some h
  have hzero : c ≠ '0' := by
    rintro rfl
    exact absurd hc (by decide)
  have hmem : c ∉ digits := fun hmem =>
    Bool.false_ne_true
      (hc.symm.trans (List.all_eq_true.mp (natural_eq_some hdigits).2.1 c hmem))
  rw [List.mem_cons, List.mem_cons, not_or, not_or]
  refine ⟨hzero, ?_, hmem⟩
  rcases hletter with rfl | rfl
  · exact hx
  · exact hX

end Strtol
