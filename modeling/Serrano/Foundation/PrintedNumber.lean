import Mathlib.Data.List.Induction
import Serrano.Foundation.DecimalText
import Serrano.Foundation.Strtol

/-! # Printed numbers

What is printed for a number in some base is read back as the number, with zeros in front
or without. When the end of it is lost, it is read as another number or not at all.
-/

namespace PrintedNumber

open Strtol

variable {base n : ℕ} {text : List Char}

theorem digitValue_digitChar {d : ℕ} (h : d < 16) : digitValue (Nat.digitChar d) = some d := by
  have hdigits : ∀ d : Fin 16, digitValue (Nat.digitChar d) = some d.val := by decide
  exact hdigits ⟨d, h⟩

theorem value_concat (base : ℕ) (text : List Char) (c : Char) :
    value base (text ++ [c]) = value base text * base + (digitValue c).getD 0 := by
  rw [value, List.foldl_append]
  rfl

theorem value_lt_pow (h : text.all (isDigit base) = true) :
    value base text < base ^ text.length := by
  induction text using List.reverseRecOn with
  | nil => exact Nat.one_pos
  | append_singleton text c ih =>
      rw [List.all_append, Bool.and_eq_true, List.all_cons, Bool.and_eq_true] at h
      obtain ⟨htext, hc, -⟩ := h
      obtain ⟨d, hd, hlt⟩ := (Option.any_eq_true _ _).mp hc
      rw [value_concat, hd, Option.getD_some, List.length_append, List.length_singleton, pow_succ]
      calc
        value base text * base + d < value base text * base + base :=
          Nat.add_lt_add_left (of_decide_eq_true hlt) _
        _ = (value base text + 1) * base := (Nat.succ_mul _ _).symm
        _ ≤ base ^ text.length * base := Nat.mul_le_mul_right base (ih htext)

/-- Zeros in front do not count. -/
theorem value_zeros (base k : ℕ) (text : List Char) :
    value base (List.replicate k '0' ++ text) = value base text := by
  induction k with
  | zero => rfl
  | succ k ih =>
      rw [List.replicate_succ, List.cons_append, value, List.foldl_cons, Nat.zero_mul]
      exact ih

/-- The digits are read as what was printed. -/
theorem natural_toDigits (hbase : 1 < base) (hle : base ≤ 16) (n : ℕ) :
    (Nat.toDigits base n).all (isDigit base) = true ∧ value base (Nat.toDigits base n) = n := by
  induction n using Nat.strongRecOn with
  | ind n ih =>
      have hdigit : ∀ d < base, isDigit base (Nat.digitChar d) = true := by
        intro d hd
        rw [isDigit, digitValue_digitChar (hd.trans_le hle)]
        exact decide_eq_true hd
      rw [Nat.toDigits_eq_if hbase]
      split
      next hlt =>
        refine ⟨by rw [List.all_cons, hdigit n hlt]; rfl, ?_⟩
        rw [value, List.foldl_cons, digitValue_digitChar (hlt.trans_le hle), Nat.zero_mul,
          Nat.zero_add]
        rfl
      next hle' =>
        have hmod := Nat.mod_lt n (Nat.zero_lt_of_lt hbase)
        have hpos : 0 < n := by omega
        obtain ⟨hall, hvalue⟩ := ih (n / base) (Nat.div_lt_self hpos hbase)
        refine ⟨by rw [List.all_append, hall, List.all_cons, hdigit _ hmod]; rfl, ?_⟩
        rw [value_concat, hvalue, digitValue_digitChar (hmod.trans_le hle), Option.getD_some,
          Nat.div_add_mod']

theorem isDigit_zero (hbase : 1 < base) : isDigit base '0' = true :=
  decide_eq_true (Nat.zero_lt_of_lt hbase)

/-- Padded digits are read as what was printed. -/
theorem natural_leftpad (hbase : 1 < base) (hle : base ≤ 16) (width n : ℕ) :
    natural base ((Nat.toDigits base n).leftpad width '0') = some n := by
  obtain ⟨hall, hvalue⟩ := natural_toDigits hbase hle n
  have hpad : ((Nat.toDigits base n).leftpad width '0').all (isDigit base) = true := by
    rw [List.leftpad, List.all_append, hall, Bool.and_true, List.all_eq_true]
    intro c hc
    rw [List.eq_of_mem_replicate hc]
    exact isDigit_zero hbase
  have hne : (Nat.toDigits base n).leftpad width '0' ≠ [] :=
    List.append_ne_nil_of_right_ne_nil _ Nat.toDigits_ne_nil
  rw [natural, if_pos ⟨hne, hpad⟩, List.leftpad, value_zeros, hvalue]

/-- A number without a sign. -/
theorem numeral_of_natural (h : natural base text = some n) : numeral base text = some (n : ℤ) := by
  rw [numeral.eq_def]
  split
  next digits =>
    obtain ⟨-, hall, -⟩ := natural_eq_some h
    rw [List.all_cons, isDigit_eq_false (by decide), Bool.false_and] at hall
    cases hall
  next => rw [h, Option.map_some]

/-- A number that was printed without a width. -/
theorem integer_zero (n : ℤ) :
    DecimalText.integer 0 n =
      if n < 0 then '-' :: Nat.toDigits 10 n.natAbs else Nat.toDigits 10 n.natAbs := by
  have hpad : ∀ digits : List Char, digits.leftpad 0 '0' = digits := fun digits => by
    rw [List.leftpad, Nat.zero_sub]
    rfl
  rw [DecimalText.integer, DecimalText.signed, hpad, DecimalText.digits]
  simp only [decide_eq_true_eq]

theorem natural_digits (n : ℕ) : natural 10 (Nat.toDigits 10 n) = some n := by
  have hpad : natural 10 ((Nat.toDigits 10 n).leftpad 0 '0') = some n :=
    natural_leftpad (by decide) (by decide) 0 n
  rwa [List.leftpad, Nat.zero_sub] at hpad

theorem numeral_integer (n : ℤ) : numeral 10 (DecimalText.integer 0 n) = some n := by
  rw [integer_zero]
  split
  next hneg =>
    rw [numeral, natural_digits, Option.map_some]
    exact congrArg some (by omega)
  next hnonneg =>
    rw [numeral_of_natural (natural_digits _)]
    exact congrArg some (by omega)

/-- Digits of which the end is lost are too few for the number. -/
theorem natural_ne_of_lost {kept lost : List Char} (hlost : lost ≠ [])
    (h : kept ++ lost = Nat.toDigits 10 n) : natural 10 kept ≠ some n := by
  intro hnatural
  obtain ⟨hne, hall, hvalue⟩ := natural_eq_some hnatural
  have hlt := value_lt_pow hall
  have hkept : 0 < kept.length := List.length_pos_of_ne_nil hne
  have hle : (Nat.toDigits 10 n).length ≤ kept.length :=
    (Nat.length_toDigits_le_iff (by decide) hkept).mpr (hvalue ▸ hlt)
  rw [← h, List.length_append] at hle
  have hpos := List.length_pos_of_ne_nil hlost
  omega

theorem numeral_ne_of_lost {n : ℤ} {kept lost : List Char} (hlost : lost ≠ [])
    (h : kept ++ lost = DecimalText.integer 0 n) : numeral 10 kept ≠ some n := by
  rw [integer_zero] at h
  intro hnumeral
  split at h
  next hneg =>
    cases kept with
    | nil => cases hnumeral
    | cons first kept =>
        injection h with hfirst h
        subst hfirst
        rw [numeral] at hnumeral
        obtain ⟨m, hm, heq⟩ := Option.map_eq_some_iff.mp hnumeral
        have habs : m = n.natAbs := by omega
        exact natural_ne_of_lost hlost h (habs ▸ hm)
  next hnonneg =>
    rw [numeral.eq_def] at hnumeral
    split at hnumeral
    next digits =>
      have hmem : '-' ∈ Nat.toDigits 10 n.natAbs := h ▸ List.mem_cons_self
      exact absurd (Nat.isDigit_of_mem_toDigits (by decide) (by decide) hmem) (by decide)
    next =>
      obtain ⟨m, hm, heq⟩ := Option.map_eq_some_iff.mp hnumeral
      have habs : m = n.natAbs := by omega
      exact natural_ne_of_lost hlost h (habs ▸ hm)

end PrintedNumber
