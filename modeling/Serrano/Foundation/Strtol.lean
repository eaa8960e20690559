import Mathlib.Algebra.Ring.Nat
import Mathlib.Algebra.Ring.Int.Defs
import Mathlib.Data.List.TakeWhile

/-! # Numbers in text

The C conversion of text to a `long` skips blanks, takes a sign, for base 16 the
letters `0x`, and then as many digits as there are, and stops at the ends of the
range. A numeral is text that consists of digits only, with a minus sign if it is
negative, and the conversion finds its value when that is in range.
-/

namespace Strtol

/-- `isspace` -/
def isSpace (c : Char) : Bool :=
  c = ' ' || c = '\t' || c = '\n' || c = '\x0b' || c = '\x0c' || c = '\r'

/-- What a character counts for, as a digit of any base up to 36. -/
def digitValue (c : Char) : Option Nat :=
  if '0' ≤ c ∧ c ≤ '9' then some (c.toNat - '0'.toNat)
  else if 'a' ≤ c ∧ c ≤ 'z' then some (c.toNat - 'a'.toNat + 10)
  else if 'A' ≤ c ∧ c ≤ 'Z' then some (c.toNat - 'A'.toNat + 10)
  else none

def isDigit (base : Nat) (c : Char) : Bool := (digitValue c).any (· < base)

/-- The value of digits, the first of which counts for most. -/
def value (base : Nat) (digits : List Char) : Nat :=
  digits.foldl (fun total c => total * base + (digitValue c).getD 0) 0

/-- A sign in front, and what follows it. -/
def sign : List Char → Bool × List Char
  | '-' :: rest => (true, rest)
  | '+' :: rest => (false, rest)
  | text => (false, text)

/-- The prefix of base 16. -/
def skipPrefix (base : Nat) : List Char → List Char
  | '0' :: x :: rest => if base = 16 ∧ (x = 'x' ∨ x = 'X') then rest else '0' :: x :: rest
  | text => text

/-- A number that is out of range becomes the nearest one in range. -/
def clamp (bits : Nat) (number : Int) : Int :=
  if number < -2 ^ (bits - 1) then -2 ^ (bits - 1)
  else if 2 ^ (bits - 1) ≤ number then 2 ^ (bits - 1) - 1
  else number

/-- `strtol`, where `long` has a number of bits. -/
def strtol (bits base : Nat) (text : List Char) : Int :=
  let (negative, rest) := sign (text.dropWhile isSpace)
  let magnitude := value base ((skipPrefix base rest).takeWhile (isDigit base))
  clamp bits (if negative then -magnitude else magnitude)

/-- `atoi` converts the `long` to an `int`. -/
def atoi (bits : Nat) (text : List Char) : Int32 := Int32.ofInt (strtol bits 10 text)

/-- Digits only. -/
def natural (base : Nat) (text : List Char) : Option Nat :=
  if text ≠ [] ∧ text.all (isDigit base) then some (value base text) else none

/-- The number that a numeral stands for. -/
def numeral (base : Nat) : List Char → Option Int
  | '-' :: digits => (natural base digits).map fun (n : Nat) => -(n : Int)
  | digits => (natural base digits).map fun (n : Nat) => (n : Int)

variable {bits base : Nat} {c : Char} {text : List Char}

theorem isDigit_eq_false (h : digitValue c = none) : isDigit base c = false := by
  rw [isDigit, h, Option.any_none]

theorem not_isSpace_of_isDigit (h : isDigit base c = true) : isSpace c = false := by
  by_contra hspace
  rw [Bool.not_eq_false, isSpace] at hspace
  simp only [Bool.or_eq_true, decide_eq_true_eq] at hspace
  have hnone : digitValue c = none := by
    rcases hspace with ((((rfl | rfl) | rfl) | rfl) | rfl) | rfl <;> decide
  rw [isDigit_eq_false hnone] at h
  cases h

theorem sign_of_isDigit {rest : List Char} (h : isDigit base c = true) :
    sign (c :: rest) = (false, c :: rest) := by
  have hminus : c ≠ '-' := by
    rintro rfl
    rw [isDigit_eq_false (by decide)] at h
    cases h
  have hplus : c ≠ '+' := by
    rintro rfl
    rw [isDigit_eq_false (by decide)] at h
    cases h
  simp [sign, hminus, hplus]

/-- Digits are no prefix. -/
theorem skipPrefix_of_all (h : text.all (isDigit base) = true) : skipPrefix base text = text := by
  cases text with
  | nil => rfl
  | cons c more =>
      cases more with
      | nil => simp [skipPrefix]
      | cons x rest =>
          rw [List.all_cons, List.all_cons, Bool.and_eq_true, Bool.and_eq_true] at h
          by_cases hzero : c = '0'
          · subst hzero
            rw [skipPrefix, if_neg]
            rintro ⟨rfl, rfl | rfl⟩ <;> exact absurd h.2.1 (by decide)
          · simp [skipPrefix, hzero]

theorem natural_eq_some {n : Nat} (h : natural base text = some n) :
    text ≠ [] ∧ text.all (isDigit base) = true ∧ value base text = n := by
  rw [natural] at h
  split at h
  · next hdigits => exact ⟨hdigits.1, hdigits.2, Option.some.inj h⟩
  · cases h

/-- All the digits of a numeral are taken. -/
theorem value_takeWhile {n : Nat} (h : natural base text = some n) :
    value base ((skipPrefix base text).takeWhile (isDigit base)) = n := by
  obtain ⟨-, hall, hvalue⟩ := natural_eq_some h
  rw [skipPrefix_of_all hall, List.takeWhile_eq_self_iff.mpr (List.all_eq_true.mp hall), hvalue]

theorem strtol_natural {n : Nat} (h : natural base text = some n) :
    strtol bits base text = clamp bits n := by
  obtain ⟨hne, hall, -⟩ := natural_eq_some h
  obtain ⟨c, rest, rfl⟩ := List.exists_cons_of_ne_nil hne
  have hdigit : isDigit base c = true := List.all_eq_true.mp hall c List.mem_cons_self
  have hspace := not_isSpace_of_isDigit hdigit
  rw [strtol, List.dropWhile_cons_of_neg (by simp [hspace]), sign_of_isDigit hdigit]
  dsimp only
  rw [value_takeWhile h, if_neg Bool.false_ne_true]

theorem strtol_neg_natural {n : Nat} (h : natural base text = some n) :
    strtol bits base ('-' :: text) = clamp bits (-n) := by
  rw [strtol, List.dropWhile_cons_of_neg (by decide), sign]
  dsimp only
  rw [value_takeWhile h, if_pos rfl]

/-- The conversion of a numeral is its value, as far as it is in range. -/
theorem strtol_numeral {number : Int} (h : numeral base text = some number) :
    strtol bits base text = clamp bits number := by
  rw [numeral.eq_def] at h
  split at h
  · obtain ⟨n, hnatural, rfl⟩ := Option.map_eq_some_iff.mp h
    exact strtol_neg_natural hnatural
  · obtain ⟨n, hnatural, rfl⟩ := Option.map_eq_some_iff.mp h
    exact strtol_natural hnatural

theorem clamp_of_le {number : Int} (hlower : -2 ^ (bits - 1) ≤ number)
    (hupper : number < 2 ^ (bits - 1)) : clamp bits number = number := by
  rw [clamp, if_neg (Int.not_lt.mpr hlower), if_neg (Int.not_le.mpr hupper)]

end Strtol
