import Serrano.Foundation.PrintedNumber

/-! # Numbers that are read from strings and streams

Both skip blanks and take a sign and as many decimal digits as there are. A string without a
number, or with one that is out of range, is refused. A stream fails then too, but what it
leaves in the variable depends on what it met.
-/

namespace NumberInput

open Strtol

/-- The number at the front of a text, however large. -/
def scan (text : List Char) : Option Int :=
  let (negative, rest) := sign (text.dropWhile isSpace)
  let digits := rest.takeWhile (isDigit 10)
  if digits = [] then none
  else some (if negative then -(value 10 digits : Int) else value 10 digits)

/-- `std::stoi`, which throws where this is `none`. -/
def stoi (text : List Char) : Option Int32 :=
  match scan text with
  | none => none
  | some number =>
      if -2 ^ 31 ≤ number ∧ number < 2 ^ 31 then some (Int32.ofInt number) else none

/-- What `operator>>` does to a variable of type `int`. -/
inductive Extraction
  /-- There are only blanks: the stream fails before the variable is assigned. -/
  | untouched
  /-- The stream fails, and the variable is assigned all the same. -/
  | failed (value : Int32)
  | read (value : Int32)
  deriving DecidableEq

def extract (text : List Char) : Extraction :=
  if text.all isSpace then .untouched
  else
    match scan text with
    | none => .failed 0
    | some number =>
        if number < -2 ^ 31 then .failed Int32.minValue
        else if 2 ^ 31 ≤ number then .failed Int32.maxValue
        else .read (Int32.ofInt number)

/-- `std::to_string`, and `operator<<` for an `int`. -/
def printed (number : Int32) : List Char := DecimalText.integer 0 number.toInt

variable {text rest blanks : List Char} {number : Int}

/-- What follows the digits does not begin with one. -/
def Ends (rest : List Char) : Prop := ∀ c ∈ rest.head?, isDigit 10 c = false

theorem ends_nil : Ends [] := by
  intro c hc
  cases hc

theorem takeWhile_append_of_ends (hall : text.all (isDigit 10) = true) (hrest : Ends rest) :
    (text ++ rest).takeWhile (isDigit 10) = text := by
  rw [List.takeWhile_append_of_pos (List.all_eq_true.mp hall)]
  cases rest with
  | nil => rw [List.takeWhile_nil, List.append_nil]
  | cons c rest =>
      rw [List.takeWhile_cons_of_neg (by simp [hrest c rfl]), List.append_nil]

theorem dropWhile_blanks (hblanks : ∀ c ∈ blanks, isSpace c = true) :
    (blanks ++ text).dropWhile isSpace = text.dropWhile isSpace :=
  List.dropWhile_append_of_pos hblanks

theorem natural_cons {n : Nat} (h : natural 10 text = some n) :
    ∃ c more, text = c :: more ∧ isDigit 10 c = true := by
  obtain ⟨hne, hall, -⟩ := natural_eq_some h
  obtain ⟨c, more, rfl⟩ := List.exists_cons_of_ne_nil hne
  exact ⟨c, more, rfl, List.all_eq_true.mp hall c List.mem_cons_self⟩

theorem scan_natural {n : Nat} (h : natural 10 text = some n) (hrest : Ends rest) :
    scan (text ++ rest) = some (n : Int) := by
  obtain ⟨hne, hall, hvalue⟩ := natural_eq_some h
  obtain ⟨c, more, rfl, hdigit⟩ := natural_cons h
  have hspace := not_isSpace_of_isDigit hdigit
  rw [scan, List.cons_append, List.dropWhile_cons_of_neg (by simp [hspace]),
    sign_of_isDigit hdigit]
  dsimp only
  rw [← List.cons_append, takeWhile_append_of_ends hall hrest, if_neg hne, hvalue,
    if_neg Bool.false_ne_true]

theorem scan_neg_natural {n : Nat} (h : natural 10 text = some n) (hrest : Ends rest) :
    scan ('-' :: text ++ rest) = some (-(n : Int)) := by
  obtain ⟨hne, hall, hvalue⟩ := natural_eq_some h
  rw [scan, List.cons_append, List.dropWhile_cons_of_neg (by decide), sign]
  dsimp only
  rw [takeWhile_append_of_ends hall hrest, if_neg hne, hvalue, if_pos rfl]

/-- A numeral is scanned whatever stands around it, if that is no digit. -/
theorem scan_numeral (hblanks : ∀ c ∈ blanks, isSpace c = true)
    (h : numeral 10 text = some number) (hrest : Ends rest) :
    scan (blanks ++ (text ++ rest)) = some number := by
  have hskip : scan (blanks ++ (text ++ rest)) = scan (text ++ rest) := by
    rw [scan, dropWhile_blanks hblanks, scan]
  rw [hskip]
  rw [numeral.eq_def] at h
  split at h
  next digits =>
    obtain ⟨n, hn, rfl⟩ := Option.map_eq_some_iff.mp h
    exact scan_neg_natural hn hrest
  next =>
    obtain ⟨n, hn, rfl⟩ := Option.map_eq_some_iff.mp h
    exact scan_natural hn hrest

theorem scan_printed (n : Int32) (hblanks : ∀ c ∈ blanks, isSpace c = true) (hrest : Ends rest) :
    scan (blanks ++ (printed n ++ rest)) = some n.toInt :=
  scan_numeral hblanks (PrintedNumber.numeral_integer n.toInt) hrest

/-- What was printed is read again from a string. -/
theorem stoi_printed (n : Int32) : stoi (printed n) = some n := by
  have hscan := scan_printed n (by simp : ∀ c ∈ ([] : List Char), isSpace c = true) ends_nil
  rw [List.nil_append, List.append_nil] at hscan
  have hlower := n.le_toInt
  have hupper := n.toInt_lt
  simp only [stoi, hscan]
  rw [if_pos ⟨by omega, by omega⟩, Int32.ofInt_toInt]

theorem printed_ne_blank (n : Int32) : (printed n).any (fun c => !isSpace c) = true := by
  rw [printed, PrintedNumber.integer_zero]
  split
  next => rfl
  next =>
    obtain ⟨c, more, heq, hdigit⟩ := natural_cons (PrintedNumber.natural_digits n.toInt.natAbs)
    rw [heq, List.any_cons, not_isSpace_of_isDigit hdigit]
    rfl

/-- What was printed is read again from a stream. -/
theorem extract_printed (n : Int32) : extract (printed n) = .read n := by
  have hscan := scan_printed n (by simp : ∀ c ∈ ([] : List Char), isSpace c = true) ends_nil
  rw [List.nil_append, List.append_nil] at hscan
  have hblank : ¬(printed n).all isSpace = true := by
    have hany := printed_ne_blank n
    rw [List.any_eq_true] at hany
    obtain ⟨c, hmem, hc⟩ := hany
    intro hall
    rw [List.all_eq_true.mp hall c hmem] at hc
    cases hc
  have hlower := n.le_toInt
  have hupper := n.toInt_lt
  simp only [extract, hscan]
  rw [if_neg hblank, if_neg (by omega), if_neg (by omega), Int32.ofInt_toInt]

end NumberInput
