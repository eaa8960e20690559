import Mathlib.Algebra.Order.Round
import Mathlib.Data.Nat.Log
import Mathlib.Data.Rat.Floor
import Mathlib.Tactic.Linarith
import Mathlib.Tactic.NormNum

/-! # Numbers in decimal notation

The text that `printf` makes of an integer and of a rational number, and the number that is
read from such a text. A rational is rounded to the given number of places, to the nearest
and to the even one of two.
-/

namespace DecimalText

/-! ## Rounding -/

/-- The nearest integer, the even one of two. -/
def nearest (q : ℚ) : ℤ :=
  if q - ⌊q⌋ < 1 / 2 then ⌊q⌋
  else if 1 / 2 < q - ⌊q⌋ then ⌊q⌋ + 1
  else if Even ⌊q⌋ then ⌊q⌋ else ⌊q⌋ + 1

/-- Without the digits after the point. -/
def truncate (q : ℚ) : ℤ := if q < 0 then ⌈q⌉ else ⌊q⌋

/-- The remainder of a division whose quotient is truncated. -/
def fmod (x y : ℚ) : ℚ := x - y * truncate (x / y)

theorem nearest_eq_or (q : ℚ) :
    (nearest q = ⌊q⌋ ∧ q - ⌊q⌋ ≤ 1 / 2) ∨ (nearest q = ⌊q⌋ + 1 ∧ 1 / 2 ≤ q - ⌊q⌋) := by
  rw [nearest]
  split
  next h => exact .inl ⟨rfl, h.le⟩
  next h =>
    split
    next habove => exact .inr ⟨rfl, habove.le⟩
    next habove =>
      split
      next => exact .inl ⟨rfl, not_lt.mp habove⟩
      next => exact .inr ⟨rfl, not_lt.mp h⟩

theorem abs_nearest_sub_le (q : ℚ) : |(nearest q : ℚ) - q| ≤ 1 / 2 := by
  have hfloor := Int.floor_le q
  have habove := Int.lt_floor_add_one q
  obtain ⟨heq, hle⟩ | ⟨heq, hle⟩ := nearest_eq_or q
  · rw [heq, abs_le]
    constructor <;> linarith
  · rw [heq, Int.cast_add, Int.cast_one, abs_le]
    constructor <;> linarith

theorem le_nearest {n : ℤ} {q : ℚ} (h : n ≤ q) : n ≤ nearest q := by
  have hfloor : n ≤ ⌊q⌋ := Int.le_floor.mpr h
  obtain ⟨heq, -⟩ | ⟨heq, -⟩ := nearest_eq_or q
  · exact heq ▸ hfloor
  · exact heq ▸ hfloor.trans (Int.le_add_one le_rfl)

theorem nearest_le {n : ℤ} {q : ℚ} (h : q ≤ n) : nearest q ≤ n := by
  obtain ⟨heq, -⟩ | ⟨heq, hle⟩ := nearest_eq_or q
  · exact heq ▸ Int.cast_le.mp ((Int.floor_le q).trans h)
  · rw [heq, Int.add_one_le_iff, Int.floor_lt]
    refine h.lt_of_ne ?_
    rintro rfl
    rw [Int.floor_intCast, sub_self] at hle
    norm_num at hle

theorem nearest_intCast (n : ℤ) : nearest (n : ℚ) = n :=
  le_antisymm (nearest_le le_rfl) (le_nearest le_rfl)

/-- A tie below an even number is rounded to it. -/
theorem nearest_lt_iff_of_even {n : ℤ} (hn : Even n) {q : ℚ} :
    nearest q < n ↔ q < n - 1 / 2 := by
  constructor
  · intro hlt
    by_contra hge
    rw [not_lt] at hge
    have hfloor : n - 1 ≤ ⌊q⌋ := Int.le_floor.mpr (by push_cast; linarith)
    rcases hfloor.lt_or_eq with hlt' | heq
    -- at or above the number there is nothing to round up
    · have hn' : n ≤ q := Int.le_floor.mp (by omega)
      have := le_nearest hn'
      omega
    -- from the tie on the odd number below loses
    · have hodd : ¬ Even ⌊q⌋ := by
        rw [← heq, Int.even_sub_one]
        exact not_not.mpr hn
      have hge' : ¬ q - ⌊q⌋ < 1 / 2 := by
        rw [← heq, Int.cast_sub, Int.cast_one]
        linarith
      rw [nearest, if_neg hge', if_neg hodd] at hlt
      split at hlt <;> omega
  · intro hlt
    obtain ⟨heq, -⟩ | ⟨heq, hle⟩ := nearest_eq_or q
    · rw [heq, Int.floor_lt]
      linarith
    · rw [heq]
      have : (⌊q⌋ : ℚ) + 1 < n := by linarith
      exact_mod_cast this

theorem truncate_of_nonneg {q : ℚ} (h : 0 ≤ q) : truncate q = ⌊q⌋ := if_neg (not_lt.mpr h)

theorem fmod_of_nonneg {x y : ℚ} (hx : 0 ≤ x) (hy : 0 < y) :
    fmod x y = y * Int.fract (x / y) := by
  rw [fmod, truncate_of_nonneg (div_nonneg hx hy.le), Int.fract, mul_sub,
    mul_div_cancel₀ x hy.ne']

/-! ## Printing -/

/-- The digits of a number without a sign. -/
def digits (n : ℕ) : List Char := Nat.toDigits 10 n

/-- A sign in front of a magnitude, which is padded with zeros to the width. -/
def signed (negative : Bool) (width : ℕ) (magnitude : List Char) : List Char :=
  if negative then '-' :: magnitude.leftpad (width - 1) '0' else magnitude.leftpad width '0'

/-- What `%0{width}d` makes of an integer. -/
def integer (width : ℕ) (n : ℤ) : List Char := signed (n < 0) width (digits n.natAbs)

/-- What `%.{places}d` makes of an integer: the places do not count the sign. -/
def precise (places : ℕ) (n : ℤ) : List Char :=
  signed (n < 0) 0 ((digits n.natAbs).leftpad places '0')

/-- A number of units of the last of so many places after the point. -/
def pointed (places m : ℕ) : List Char :=
  digits (m / 10 ^ places) ++ '.' :: (digits (m % 10 ^ places)).leftpad places '0'

/-- The magnitude of a rational in units of the last place. -/
def units (places : ℕ) (q : ℚ) : ℕ := (nearest (|q| * 10 ^ places)).toNat

/-- What `%0{width}.{places}f` makes of a rational. -/
def fixed (width places : ℕ) (q : ℚ) : List Char :=
  signed (q < 0) width (pointed places (units places q))

/-- The characters a printed number consists of. -/
def Numeral (c : Char) : Prop := c.isDigit ∨ c = '.' ∨ c = '-'

instance (c : Char) : Decidable (Numeral c) := by unfold Numeral; infer_instance

theorem isDigit_of_mem_digits {c : Char} {n : ℕ} (h : c ∈ digits n) : c.isDigit :=
  Nat.isDigit_of_mem_toDigits (by decide) (by decide) h

theorem isDigit_of_mem_leftpad {c : Char} {width : ℕ} {text : List Char}
    (htext : ∀ d ∈ text, d.isDigit) (h : c ∈ text.leftpad width '0') : c.isDigit := by
  obtain hzero | hmem := List.mem_append.mp h
  · rw [List.eq_of_mem_replicate hzero]
    rfl
  · exact htext c hmem

theorem numeral_of_mem_signed {c : Char} {negative : Bool} {width : ℕ} {magnitude : List Char}
    (hmagnitude : ∀ d ∈ magnitude, Numeral d) (h : c ∈ signed negative width magnitude) :
    Numeral c := by
  have hpad : ∀ w, c ∈ magnitude.leftpad w '0' → Numeral c := by
    intro w hmem
    obtain hzero | hmem := List.mem_append.mp hmem
    · rw [List.eq_of_mem_replicate hzero]
      exact .inl rfl
    · exact hmagnitude c hmem
  cases negative with
  | false => exact hpad width h
  | true =>
      obtain rfl | hmem := List.mem_cons.mp h
      · exact .inr (.inr rfl)
      · exact hpad _ hmem

theorem numeral_of_mem_integer {c : Char} {width : ℕ} {n : ℤ} (h : c ∈ integer width n) :
    Numeral c :=
  numeral_of_mem_signed (fun _ hd => .inl (isDigit_of_mem_digits hd)) h

theorem numeral_of_mem_precise {c : Char} {places : ℕ} {n : ℤ} (h : c ∈ precise places n) :
    Numeral c :=
  numeral_of_mem_signed
    (fun _ hd => .inl (isDigit_of_mem_leftpad (fun _ => isDigit_of_mem_digits) hd)) h

theorem numeral_of_mem_pointed {c : Char} {places m : ℕ} (h : c ∈ pointed places m) :
    Numeral c := by
  obtain hmem | hmem := List.mem_append.mp h
  · exact .inl (isDigit_of_mem_digits hmem)
  · obtain rfl | hmem := List.mem_cons.mp hmem
    · exact .inr (.inl rfl)
    · exact .inl (isDigit_of_mem_leftpad (fun _ => isDigit_of_mem_digits) hmem)

theorem numeral_of_mem_fixed {c : Char} {width places : ℕ} {q : ℚ}
    (h : c ∈ fixed width places q) : Numeral c :=
  numeral_of_mem_signed (fun _ => numeral_of_mem_pointed) h

/-! ## Lengths -/

theorem length_digits (n : ℕ) : (digits n).length = Nat.log 10 n + 1 := by
  refine Nat.le_antisymm ?_ ?_
  · exact (Nat.length_toDigits_le_iff (by decide) (Nat.succ_pos _)).mpr
      (Nat.lt_pow_succ_log_self (by decide) n)
  · by_contra hlt
    have hpos : 0 < (digits n).length := Nat.length_toDigits_pos
    have hlen : (Nat.toDigits 10 n).length ≤ Nat.log 10 n := by
      rw [digits] at hlt
      omega
    have hlog : 0 < Nat.log 10 n := hpos.trans_le hlen
    have hn : n < 10 ^ Nat.log 10 n := (Nat.length_toDigits_le_iff (by decide) hlog).mp hlen
    have hne : n ≠ 0 := by
      rintro rfl
      rw [Nat.log_zero_right] at hlog
      exact lt_irrefl 0 hlog
    exact absurd (Nat.pow_log_le_self 10 hne) (not_le.mpr hn)

theorem length_digits_le {n k : ℕ} (hk : 0 < k) (h : n < 10 ^ k) : (digits n).length ≤ k :=
  (Nat.length_toDigits_le_iff (by decide) hk).mpr h

theorem length_leftpad_digits {n k : ℕ} (hk : 0 < k) (h : n < 10 ^ k) :
    ((digits n).leftpad k '0').length = k := by
  rw [List.length_leftpad]
  exact Nat.max_eq_left (length_digits_le hk h)

theorem length_signed_le (negative : Bool) (width : ℕ) (magnitude : List Char) :
    (signed negative width magnitude).length ≤ max width (magnitude.length + 1) := by
  cases negative with
  | false =>
      rw [signed, if_neg Bool.false_ne_true, List.length_leftpad]
      omega
  | true =>
      rw [signed, if_pos rfl, List.length_cons, List.length_leftpad]
      omega

theorem length_signed_false (width : ℕ) (magnitude : List Char) :
    (signed false width magnitude).length = max width magnitude.length := by
  rw [signed, if_neg Bool.false_ne_true, List.length_leftpad]

theorem length_integer_le {width k : ℕ} (hk : 0 < k) {n : ℤ} (h : n.natAbs < 10 ^ k) :
    (integer width n).length ≤ max width (k + 1) := by
  have hle := length_signed_le (n < 0) width (digits n.natAbs)
  have hdigits := length_digits_le hk h
  rw [integer]
  omega

theorem length_integer_natCast {width n : ℕ} (hw : 0 < width) (h : n < 10 ^ width) :
    (integer width n).length = width := by
  have hneg : ¬ (n : ℤ) < 0 := not_lt.mpr (Int.natCast_nonneg n)
  rw [integer, decide_eq_false hneg, length_signed_false, Int.natAbs_natCast]
  exact Nat.max_eq_left (length_digits_le hw h)

theorem length_pointed {places m : ℕ} (hp : 0 < places) :
    (pointed places m).length = Nat.log 10 (m / 10 ^ places) + 1 + (places + 1) := by
  rw [pointed, List.length_append, length_digits, List.length_cons,
    length_leftpad_digits hp (Nat.mod_lt m (Nat.pow_pos (by decide)))]

theorem length_fixed {places : ℕ} (hp : 0 < places) (q : ℚ) :
    (fixed 0 places q).length =
      (if q < 0 then 1 else 0) +
        (Nat.log 10 (units places q / 10 ^ places) + 1 + (places + 1)) := by
  by_cases hneg : q < 0
  · rw [fixed, decide_eq_true hneg, signed, if_pos rfl, if_pos hneg, List.length_cons,
      List.length_leftpad, length_pointed hp]
    omega
  · rw [fixed, decide_eq_false hneg, length_signed_false, if_neg hneg, length_pointed hp]
    omega

theorem cast_units (places : ℕ) (q : ℚ) :
    ((units places q : ℕ) : ℚ) = nearest (|q| * 10 ^ places) := by
  have hnonneg : (0 : ℤ) ≤ nearest (|q| * 10 ^ places) :=
    le_nearest (by rw [Int.cast_zero]; positivity)
  rw [units]
  exact_mod_cast congrArg (Int.cast (R := ℚ)) (Int.toNat_of_nonneg hnonneg)

theorem units_le {places n : ℕ} {q : ℚ} (h : |q| ≤ n) : units places q ≤ n * 10 ^ places := by
  refine Int.toNat_le.mpr (nearest_le ?_)
  push_cast
  exact mul_le_mul_of_nonneg_right h (by positivity)

/-- The digits in front of the point are as many as those of a bound. -/
theorem length_pointed_units_le {places k : ℕ} (hp : 0 < places) (hk : 0 < k) {q : ℚ}
    (h : |q| ≤ (10 ^ k - 1 : ℕ)) :
    (pointed places (units places q)).length ≤ k + (places + 1) := by
  have hunits : units places q ≤ (10 ^ k - 1) * 10 ^ places := units_le h
  have hdiv : units places q / 10 ^ places ≤ 10 ^ k - 1 :=
    Nat.div_le_of_le_mul (hunits.trans_eq (Nat.mul_comm _ _))
  have hpos : 0 < 10 ^ k := Nat.pow_pos (by decide)
  have hlt : units places q / 10 ^ places < 10 ^ k := by omega
  have hdigits := length_digits_le hk hlt
  have hpad := length_leftpad_digits hp (Nat.mod_lt (units places q) (Nat.pow_pos (by decide)))
  rw [pointed, List.length_append, List.length_cons, hpad]
  omega

theorem length_fixed_le {width places k : ℕ} (hp : 0 < places) (hk : 0 < k) {q : ℚ}
    (h : |q| ≤ (10 ^ k - 1 : ℕ)) :
    (fixed width places q).length ≤ max width (k + (places + 2)) := by
  have hsigned := length_signed_le (q < 0) width (pointed places (units places q))
  have hpointed := length_pointed_units_le hp hk h
  rw [fixed]
  omega

/-! ## Reading -/

/-- The number whose digits a text consists of. -/
def number? (text : List Char) : Option ℕ :=
  if text ≠ [] ∧ text.all Char.isDigit then some (Nat.ofDigitChars 10 text 0) else none

theorem number?_of_isDigit {text : List Char} (hne : text ≠ []) (h : ∀ c ∈ text, c.isDigit) :
    number? text = some (Nat.ofDigitChars 10 text 0) :=
  if_pos ⟨hne, List.all_eq_true.mpr h⟩

/-- Padding does not change the number that is read. -/
theorem number?_leftpad_digits (width n : ℕ) :
    number? ((digits n).leftpad width '0') = some n := by
  have hne : (digits n).leftpad width '0' ≠ [] :=
    List.append_ne_nil_of_right_ne_nil _ Nat.toDigits_ne_nil
  rw [number?_of_isDigit hne fun c hc => isDigit_of_mem_leftpad (fun _ => isDigit_of_mem_digits) hc,
    List.leftpad, Nat.ofDigitChars_append, Nat.ofDigitChars_replicate_zero, Nat.mul_zero, digits,
    Nat.ofDigitChars_ten_toDigits]

theorem integer_natCast (width n : ℕ) : integer width n = (digits n).leftpad width '0' := by
  have hneg : ¬ (n : ℤ) < 0 := not_lt.mpr (Int.natCast_nonneg n)
  rw [integer, decide_eq_false hneg, signed, if_neg Bool.false_ne_true, Int.natAbs_natCast]

theorem number?_integer (width n : ℕ) : number? (integer width n) = some n := by
  rw [integer_natCast, number?_leftpad_digits]

/-- The point is at the same distance from the end. -/
theorem pointed_inj {places m n : ℕ} (hp : 0 < places) :
    pointed places m = pointed places n ↔ m = n := by
  constructor
  · intro heq
    have hm := length_leftpad_digits hp (Nat.mod_lt m (Nat.pow_pos (by decide : 0 < 10)))
    have hn := length_leftpad_digits hp (Nat.mod_lt n (Nat.pow_pos (by decide : 0 < 10)))
    obtain ⟨hdigits, hrest⟩ :=
      List.append_inj' heq (by rw [List.length_cons, List.length_cons, hm, hn])
    have hdiv : m / 10 ^ places = n / 10 ^ places := by
      have hread := congrArg (fun text => Nat.ofDigitChars 10 text 0) hdigits
      simpa only [digits, Nat.ofDigitChars_ten_toDigits] using hread
    have hmod : m % 10 ^ places = n % 10 ^ places := by
      have hread := congrArg number? (List.cons.inj hrest).2
      rw [number?_leftpad_digits, number?_leftpad_digits] at hread
      exact Option.some.inj hread
    rw [← Nat.div_add_mod m (10 ^ places), hdiv, hmod, Nat.div_add_mod]
  · rintro rfl
    rfl

theorem fixed_of_nonneg {places : ℕ} {q : ℚ} (h : 0 ≤ q) :
    fixed 0 places q = pointed places (units places q) := by
  rw [fixed, decide_eq_false (not_lt.mpr h), signed, if_neg Bool.false_ne_true, List.leftpad,
    Nat.zero_sub, List.replicate_zero, List.nil_append]

/-- Two magnitudes are printed alike when they round alike. -/
theorem fixed_eq_iff {places : ℕ} (hp : 0 < places) {q r : ℚ} (hq : 0 ≤ q) (hr : 0 ≤ r) :
    fixed 0 places q = fixed 0 places r ↔
      nearest (q * 10 ^ places) = nearest (r * 10 ^ places) := by
  rw [fixed_of_nonneg hq, fixed_of_nonneg hr, pointed_inj hp, ← Nat.cast_inj (R := ℚ), cast_units,
    cast_units, Int.cast_inj, abs_of_nonneg hq, abs_of_nonneg hr]

end DecimalText
