import Serrano.Nmea.PosReport

/-! # The sentences of a position report in the buffer

What is checked always has room: a report gives no sentence up. Of the five sentences of a final
fix all but the last have room for the checksum too.
-/

namespace Serrano.Nmea

open DecimalText

/-! ## Pieces -/

theorem FiniteFloat.abs_le (v : FiniteFloat) : |v.value| ≤ ((10 ^ 39 - 1 : ℕ) : ℚ) :=
  v.finite.le.trans (by norm_num)

theorem length_fixed_float_le (v : FiniteFloat) : (fixed 0 1 v.value).length ≤ 42 :=
  length_fixed_le (by decide) (by decide) v.abs_le

/-- A conversion to other units may take one digit more. -/
theorem length_fixed_float_mul_le (v : FiniteFloat) {factor : ℚ} (hpos : 0 ≤ factor)
    (h : factor ≤ 4) : (fixed 0 1 (v.value * factor)).length ≤ 43 := by
  refine length_fixed_le (by decide) (k := 40) (by decide) ?_
  rw [abs_mul, abs_of_nonneg hpos]
  calc |v.value| * factor ≤ 2 ^ 128 * 4 := mul_le_mul v.finite.le h hpos (by norm_num)
    _ ≤ ((10 ^ 40 - 1 : ℕ) : ℚ) := by norm_num

theorem usedList_lt {offset mask i count k : ℕ} (hmask : mask < 2 ^ k) :
    ∀ id ∈ usedList offset mask i count, id < i + k + offset := by
  fun_induction usedList offset mask i count generalizing k with
  | case1 mask i count h hodd ih =>
      cases k with
      | zero => omega
      | succ k =>
          intro id hid
          have hhalf : mask / 2 < 2 ^ k := by
            rw [Nat.pow_succ] at hmask
            omega
          obtain rfl | hid := List.mem_cons.mp hid
          · omega
          · have := ih hhalf id hid
            omega
  | case2 mask i count h heven ih =>
      cases k with
      | zero => omega
      | succ k =>
          intro id hid
          have hhalf : mask / 2 < 2 ^ k := by
            rw [Nat.pow_succ] at hmask
            omega
          have := ih hhalf id hid
          omega
  | case3 => intro id hid; cases hid

theorem length_usedList_le (offset mask i count : ℕ) :
    (usedList offset mask i count).length ≤ 32 - count := by
  fun_induction usedList offset mask i count with
  | case1 mask i count h hodd ih =>
      rw [List.length_cons]
      omega
  | case2 mask i count h heven ih => exact ih
  | case3 => exact Nat.zero_le _

theorem usedList_uInt32_lt (offset : ℕ) (mask : UInt32) (hoffset : offset ≤ 64) :
    ∀ id ∈ usedList offset mask.toNat 1 0, id < 10 ^ 2 := by
  intro id hid
  have hlt := usedList_lt (k := 32) mask.toNat_lt id hid
  omega

theorem length_usedPiece_le {used : List ℕ} (hused : ∀ id ∈ used, id < 10 ^ 2) (i : ℕ) :
    (usedPiece used i).length ≤ 3 := by
  rw [usedPiece]
  split
  next id hid =>
    have hlt := hused id (List.mem_of_getElem? hid)
    rw [List.length_append, length_integer_natCast (by decide) hlt]
    decide
  next => decide

theorem length_dopPiece_le (engine : LocEngData) (locationExtended : GpsLocationExtended) :
    (dopPiece engine locationExtended).length ≤ 128 := by
  have htriple : ∀ a b c : FiniteFloat,
      (fixed 0 1 a.value ++ ',' :: fixed 0 1 b.value ++ ',' :: fixed 0 1 c.value).length ≤ 128 := by
    intro a b c
    have ha := length_fixed_float_le a
    have hb := length_fixed_float_le b
    have hc := length_fixed_float_le c
    simp only [List.length_append, List.length_cons]
    omega
  rw [dopPiece]
  split
  next => exact htriple _ _ _
  next =>
    split
    next => exact htriple _ _ _
    next => decide

theorem length_modePiece (engine : LocEngData) (location : GpsLocation) :
    (modePiece engine location).length = 1 := by
  rw [modePiece]
  split
  next => rfl
  next => split <;> rfl

theorem length_trackPiece_le (location : GpsLocation) (locationExtended : GpsLocationExtended) :
    (trackPiece location locationExtended).length ≤ 97 := by
  have hbearing := length_fixed_float_le location.bearing
  rw [trackPiece]
  split
  next =>
    simp only [List.length_append, String.length_toList]
    have h₁ : "$GPVTG,".length = 7 := rfl
    have h₂ : ",T,".length = 3 := rfl
    have h₃ : ",M,".length = 3 := rfl
    omega
  next => decide

theorem length_speedKnots_le (location : GpsLocation) :
    (fixed 0 1 (speedKnots location)).length ≤ 43 :=
  length_fixed_float_mul_le location.speed (by norm_num) (by norm_num)

theorem length_vtgSpeedPiece_le (location : GpsLocation) :
    (vtgSpeedPiece location).length ≤ 92 := by
  have hknots := length_speedKnots_le location
  have hkm : (fixed 0 1 (speedKmPerHour location)).length ≤ 43 :=
    length_fixed_float_mul_le location.speed (by norm_num) (by norm_num)
  rw [vtgSpeedPiece]
  split
  next =>
    simp only [List.length_append, String.length_toList]
    have h₁ : ",N,".length = 3 := rfl
    have h₂ : ",K,".length = 3 := rfl
    omega
  next => decide

variable (p : Platform)

theorem length_timeText (tm : Tm) : (timeText tm).length = 6 := by
  have hhour := tm.hour_le
  have hmin := tm.min_le
  have hsec := tm.sec_le
  rw [timeText, List.length_append, List.length_append,
    length_integer_natCast (by decide) (by omega), length_integer_natCast (by decide) (by omega),
    length_integer_natCast (by decide) (by omega)]

/-- The degrees of a byte take a digit more than two from a hundred on. -/
theorem length_integer_two {n : ℕ} (h : n < 256) :
    (integer 2 n).length = if n < 100 then 2 else 3 := by
  split
  next hlt => exact length_integer_natCast (by decide) hlt
  next hge =>
    have hthree : (digits n).length ≤ 3 := length_digits_le (by decide) (by omega)
    have htwo : ¬ (digits n).length ≤ 2 := fun hle =>
      absurd ((Nat.length_toDigits_le_iff (by decide) (by decide)).mp hle) hge
    rw [integer_natCast, List.length_leftpad]
    omega

theorem fmod_minutes {magnitude : ℚ} (h : 0 ≤ magnitude) :
    fmod (magnitude * 60) 60 = 60 * Int.fract magnitude := by
  rw [fmod_of_nonneg (mul_nonneg h (by norm_num)) (by norm_num),
    mul_div_cancel_right₀ magnitude (by norm_num)]

theorem units_minutes_le {minutes : ℚ} (h : 0 ≤ minutes) (hlt : minutes < 60) :
    units 6 minutes ≤ 60 * 10 ^ 6 :=
  units_le (n := 60) (by rw [abs_of_nonneg h]; exact_mod_cast hlt.le)

/-- Minutes below sixty are printed in nine characters. -/
theorem signed_minutes {minutes : ℚ} (h : 0 ≤ minutes) (hlt : minutes < 60) :
    signed false 9 (pointed 6 (units 6 minutes)) =
      (digits (units 6 minutes / 10 ^ 6)).leftpad 2 '0' ++ '.' ::
        (digits (units 6 minutes % 10 ^ 6)).leftpad 6 '0' := by
  have hunits := units_minutes_le h hlt
  have hdigits : (digits (units 6 minutes / 10 ^ 6)).length ≤ 2 :=
    length_digits_le (by decide) (by omega)
  have hplaces := length_leftpad_digits (k := 6) (by decide)
    (Nat.mod_lt (units 6 minutes) (by decide : 0 < 10 ^ 6))
  have hwidth : 9 - (pointed 6 (units 6 minutes)).length =
      2 - (digits (units 6 minutes / 10 ^ 6)).length := by
    rw [pointed, List.length_append, List.length_cons, hplaces]
    omega
  -- the padding to nine is the padding of the digits in front to two
  rw [signed, if_neg Bool.false_ne_true, List.leftpad, hwidth, pointed, ← List.append_assoc]
  rfl

theorem length_signed_minutes {minutes : ℚ} (h : 0 ≤ minutes) (hlt : minutes < 60) :
    (signed false 9 (pointed 6 (units 6 minutes))).length = 9 := by
  have hunits := units_minutes_le h hlt
  rw [signed_minutes h hlt, List.length_append, List.length_cons,
    length_leftpad_digits (by decide) (by omega),
    length_leftpad_digits (by decide) (Nat.mod_lt _ (by decide))]

/-- The sign of a zero takes the place of a digit. -/
theorem signed_minutes_zero : signed true 9 (pointed 6 (units 6 0)) = "-0.000000".toList := by
  have hunits : units 6 0 = 0 := by
    have hzero : |(0 : ℚ)| * 10 ^ 6 = ((0 : ℤ) : ℚ) := by norm_num
    rw [units, hzero, nearest_intCast, Int.toNat_zero]
  rw [hunits]
  rfl

theorem value_northing (latitude : SignedDouble) : (northing latitude).value = |latitude.value| := by
  rw [northing]
  split
  next h => exact (abs_of_pos h).symm
  next h => rw [abs_of_nonpos (not_lt.mp h), SignedDouble.value_negated]

theorem value_easting (longitude : SignedDouble) :
    (easting longitude).value = |longitude.value| := by
  rw [easting]
  split
  next h => rw [abs_of_neg h, SignedDouble.value_negated]
  next h => exact (abs_of_nonneg (not_lt.mp h)).symm

theorem minutes_nonneg (magnitude : ℚ) : 0 ≤ 60 * Int.fract magnitude :=
  mul_nonneg (by norm_num) (Int.fract_nonneg magnitude)

theorem minutes_lt (magnitude : ℚ) : 60 * Int.fract magnitude < 60 := by
  have hlt := Int.fract_lt_one magnitude
  linarith

/-- Only a zero is printed with a sign. -/
theorem SignedDouble.value_eq_zero_of_negative {x : SignedDouble} (h : 0 ≤ x.value)
    (hneg : x.negative = true) : x.value = 0 := by
  by_contra hne
  rw [x.negative_eq hne, decide_eq_true_eq] at hneg
  exact not_lt.mpr h hneg

/-- Degrees, and the minutes that are left. -/
theorem angleText_of_nonneg (width : ℕ) {angle : SignedDouble} (h : 0 ≤ angle.value)
    (hsign : angle.negative = false) :
    angleText p width angle =
      integer width (p.toUInt8 ⌊angle.value⌋) ++
        signed false 9 (pointed 6 (units 6 (60 * Int.fract angle.value))) := by
  rw [angleText, fmod_minutes h, hsign]

theorem angleText_of_negative (width : ℕ) {angle : SignedDouble} (h : 0 ≤ angle.value)
    (hsign : angle.negative = true) :
    angleText p width angle = integer width (p.toUInt8 ⌊angle.value⌋) ++ "-0.000000".toList := by
  have hfract : 60 * Int.fract angle.value = 0 := by
    rw [SignedDouble.value_eq_zero_of_negative h hsign, Int.fract_zero, mul_zero]
  rw [angleText, fmod_minutes h, hsign, hfract, signed_minutes_zero]

theorem length_angleText (width : ℕ) {angle : SignedDouble} (h : 0 ≤ angle.value) :
    (angleText p width angle).length =
      (integer width (p.toUInt8 ⌊angle.value⌋)).length + 9 := by
  cases hsign : angle.negative with
  | false =>
      rw [angleText_of_nonneg p width h hsign, List.length_append,
        length_signed_minutes (minutes_nonneg _) (minutes_lt _)]
  | true =>
      rw [angleText_of_negative p width h hsign, List.length_append]
      rfl

/-- How many characters a position takes. -/
def positionWidth (location : GpsLocation) : ℕ :=
  if Has location.flags gpsLocationHasLatLong then
    if p.toUInt8 ⌊|location.latitude.value|⌋ < 100 then 29 else 30
  else 4

theorem length_positionPiece (location : GpsLocation) :
    (positionPiece p location).length = positionWidth p location := by
  have hlat := p.toUInt8_lt ⌊|location.latitude.value|⌋
  have hlon := p.toUInt8_lt ⌊|location.longitude.value|⌋
  have hlonDegrees : (integer 3 (p.toUInt8 ⌊|location.longitude.value|⌋)).length = 3 :=
    length_integer_natCast (by decide) (by omega)
  have hnorth : 0 ≤ (northing location.latitude).value := by
    rw [value_northing]
    exact abs_nonneg _
  have heast : 0 ≤ (easting location.longitude).value := by
    rw [value_easting]
    exact abs_nonneg _
  have hlatText := length_angleText p 2 hnorth
  have hlonText := length_angleText p 3 heast
  rw [value_northing] at hlatText
  rw [value_easting] at hlonText
  rw [positionPiece, positionWidth]
  split
  next =>
    simp only [List.length_append, List.length_cons, List.length_nil, hlatText, hlonText,
      length_integer_two hlat, hlonDegrees]
    split <;> rfl
  next => rfl

theorem positionWidth_le (location : GpsLocation) : positionWidth p location ≤ 30 := by
  rw [positionWidth]
  split
  next => split <;> decide
  next => decide

theorem length_rmcSpeedPiece_le (location : GpsLocation) :
    (rmcSpeedPiece location).length ≤ 44 := by
  have hknots := length_speedKnots_le location
  rw [rmcSpeedPiece]
  split
  next =>
    rw [List.length_append, List.length_singleton]
    omega
  next => decide

theorem length_bearingPiece_le (location : GpsLocation) :
    (bearingPiece location).length ≤ 43 := by
  have hbearing := length_fixed_float_le location.bearing
  rw [bearingPiece]
  split
  next =>
    rw [List.length_append, List.length_singleton]
    omega
  next => decide

/-- A year before 1900 has a sign. -/
theorem length_precise_le {n : ℤ} (h : n.natAbs < 100) : (precise 2 n).length ≤ 3 := by
  have hdigits := length_leftpad_digits (by decide : 0 < 2) h
  have hsigned := length_signed_le (n < 0) 0 ((digits n.natAbs).leftpad 2 '0')
  rw [precise]
  omega

theorem length_datePiece_le (tm : Tm) : (datePiece tm).length ≤ 10 := by
  have hmday := tm.mday_le
  have hmon := tm.mon_le
  have hday := length_precise_le (n := (tm.tmMday : ℤ)) (by omega)
  have hmonth := length_precise_le (n := (tm.tmMon : ℤ) + 1) (by omega)
  have hyear := length_precise_le (n := tm.tmYear.toInt.tmod 100) (by
    rw [Int.natAbs_tmod]
    exact Nat.mod_lt _ (by decide))
  rw [datePiece]
  simp only [List.length_append, List.length_singleton]
  omega

theorem magnitude_eq_abs (q : ℚ) : (if q < 0 then q * -1 else q) = |q| := by
  split
  next h => rw [abs_of_neg h, mul_neg_one]
  next h => exact (abs_of_nonneg (not_lt.mp h)).symm

theorem length_variationPiece_le (locationExtended : GpsLocationExtended) :
    (variationPiece locationExtended).length ≤ 45 := by
  rw [variationPiece]
  split
  next =>
    have hvariation : (fixed 0 1 |locationExtended.magneticDeviation.value|).length ≤ 42 :=
      length_fixed_le (by decide) (by decide)
        ((abs_abs _).trans_le locationExtended.magneticDeviation.abs_le)
    simp only [magnitude_eq_abs, List.length_append, List.length_cons, List.length_nil]
    omega
  next => decide

/-! ## Sentences -/

theorem length_gsa_le {talker dop : Text} {used : List ℕ} (htalker : talker.length = 5)
    (hused : ∀ id ∈ used, id < 10 ^ 2) (hdop : dop.length ≤ 128) :
    (gsa talker used dop).full.length ≤ 175 := by
  have hpiece : ∀ piece ∈ (List.range 12).map (usedPiece used), piece.length ≤ 3 := by
    intro piece hmem
    obtain ⟨i, -, rfl⟩ := List.mem_map.mp hmem
    exact length_usedPiece_le hused i
  have hpieces := length_flatten_le hpiece
  have hmode : ",A,".length = 3 := rfl
  rw [List.length_map, List.length_range] at hpieces
  simp only [Sentence.full, gsa, List.flatten_cons, List.length_append, List.length_cons,
    List.length_nil, String.length_toList, htalker, hmode]
  omega

theorem length_gpgsa_le (engine : LocEngData) (locationExtended : GpsLocationExtended) :
    (gpgsa engine locationExtended).full.length ≤ 175 :=
  length_gsa_le rfl (usedList_uInt32_lt 0 engine.gpsUsedMask (Nat.zero_le 64))
    (length_dopPiece_le engine locationExtended)

theorem length_gngsa_le (engine : LocEngData) (locationExtended : GpsLocationExtended) :
    (gngsa engine locationExtended).full.length ≤ 175 :=
  length_gsa_le rfl (usedList_uInt32_lt glonassSvIdOffset engine.gloUsedMask le_rfl)
    (length_dopPiece_le engine locationExtended)

theorem length_gpvtg_le (engine : LocEngData) (location : GpsLocation)
    (locationExtended : GpsLocationExtended) :
    (gpvtg engine location locationExtended).full.length ≤ 190 := by
  have htrack := length_trackPiece_le location locationExtended
  have hspeed := length_vtgSpeedPiece_le location
  have hmode := length_modePiece engine location
  simp only [Sentence.full, gpvtg, List.flatten_cons, List.flatten_nil, List.length_append,
    List.length_nil]
  omega

theorem length_gprmc_le (engine : LocEngData) (tm : Tm) (location : GpsLocation)
    (locationExtended : GpsLocationExtended) :
    (gprmc p engine tm location locationExtended).full.length ≤ 190 := by
  have htime := length_timeText tm
  have hposition := length_positionPiece p location
  have hwidth := positionWidth_le p location
  have hspeed := length_rmcSpeedPiece_le location
  have hbearing := length_bearingPiece_le location
  have hdate := length_datePiece_le tm
  have hvariation := length_variationPiece_le locationExtended
  have hmode := length_modePiece engine location
  have hname : "$GPRMC,".length = 7 := rfl
  have hvalid : ",A,".length = 3 := rfl
  simp only [Sentence.full, gprmc, List.flatten_cons, List.flatten_nil, List.length_append,
    List.length_nil, String.length_toList]
  omega

/-! ### Quality and altitude -/

/-- How many characters a number with one place takes: sign, digits, point and digit. -/
def numeralWidth (q : ℚ) : ℕ := (if q < 0 then 1 else 0) + (Nat.log 10 (units 1 q / 10) + 3)

theorem length_fixed_one (q : ℚ) : (fixed 0 1 q).length = numeralWidth q := by
  rw [length_fixed (by decide), numeralWidth, Nat.pow_one]

def hdopWidth (engine : LocEngData) (locationExtended : GpsLocationExtended) : ℕ :=
  if Has locationExtended.flags gpsLocationExtendedHasDop then
    numeralWidth locationExtended.hdop.value
  else if engine.DopCached then numeralWidth engine.hdop.value
  else 0

theorem hdopWidth_le (engine : LocEngData) (locationExtended : GpsLocationExtended) :
    hdopWidth engine locationExtended ≤ 42 := by
  rw [hdopWidth, ← length_fixed_one, ← length_fixed_one]
  split
  next => exact length_fixed_float_le _
  next =>
    split
    next => exact length_fixed_float_le _
    next => decide

theorem length_qualityPiece (engine : LocEngData) (location : GpsLocation)
    (locationExtended : GpsLocationExtended) :
    (qualityPiece engine location locationExtended).length =
      6 + hdopWidth engine locationExtended := by
  have hused : (svUsedList engine).length ≤ 32 := length_usedList_le _ _ _ _
  have hcount : (integer 2 (svUsedList engine).length).length = 2 :=
    length_integer_natCast (by decide) (by omega)
  rw [qualityPiece, hdopWidth]
  split
  next =>
    simp only [List.length_append, List.length_cons, List.length_nil, hcount, length_fixed_one]
    omega
  next =>
    split
    next =>
      simp only [List.length_append, List.length_cons, List.length_nil, hcount, length_fixed_one]
      omega
    next => simp only [List.length_append, List.length_cons, List.length_nil, hcount]

theorem length_altitudeMeanSeaLevelPiece_le (locationExtended : GpsLocationExtended) :
    (altitudeMeanSeaLevelPiece locationExtended).length ≤ 45 := by
  have haltitude := length_fixed_float_le locationExtended.altitudeMeanSeaLevel
  have hunit : ",M,".length = 3 := rfl
  rw [altitudeMeanSeaLevelPiece]
  split
  next =>
    rw [List.length_append, String.length_toList]
    omega
  next => decide

/-- Everything up to the altitude difference. -/
theorem length_checked_gpgga (engine : LocEngData) (tm : Tm) (location : GpsLocation)
    (locationExtended : GpsLocationExtended) :
    (gpgga p engine tm location locationExtended).checked.flatten.length =
      14 + positionWidth p location + (6 + hdopWidth engine locationExtended) +
        (altitudeMeanSeaLevelPiece locationExtended).length := by
  have htime := length_timeText tm
  have hname : "$GPGGA,".length = 7 := rfl
  simp only [gpgga, List.flatten_cons, List.flatten_nil, List.length_append, List.length_cons,
    List.length_nil, String.length_toList, length_positionPiece, length_qualityPiece]
  omega

theorem length_checked_gpgga_le (engine : LocEngData) (tm : Tm) (location : GpsLocation)
    (locationExtended : GpsLocationExtended) :
    (gpgga p engine tm location locationExtended).checked.flatten.length ≤ 137 := by
  have hposition := positionWidth_le p location
  have hhdop := hdopWidth_le engine locationExtended
  have haltitude := length_altitudeMeanSeaLevelPiece_le locationExtended
  rw [length_checked_gpgga]
  omega

/-! ### The body holds no star -/

@[simp] theorem star_not_mem_modePiece (engine : LocEngData) (location : GpsLocation) :
    '*' ∉ modePiece engine location := by
  rw [modePiece]
  split
  next => decide
  next => split <;> decide

@[simp] theorem star_not_mem_usedPiece (used : List ℕ) (i : ℕ) : '*' ∉ usedPiece used i := by
  rw [usedPiece]
  split <;> simp

@[simp] theorem star_not_mem_dopPiece (engine : LocEngData)
    (locationExtended : GpsLocationExtended) : '*' ∉ dopPiece engine locationExtended := by
  rw [dopPiece]
  split
  next => simp
  next => split <;> simp

@[simp] theorem star_not_mem_timeText (tm : Tm) : '*' ∉ timeText tm := by simp [timeText]

theorem solid_angleText (width : ℕ) (angle : SignedDouble) : Solid (angleText p width angle) :=
  (solid_integer width _).append
    (solid_of_numeral fun _ => numeral_of_mem_signed fun _ => numeral_of_mem_pointed)

@[simp] theorem star_not_mem_angleText (width : ℕ) (angle : SignedDouble) :
    '*' ∉ angleText p width angle :=
  fun h => (solid_angleText p width angle '*' h).2 rfl

@[simp] theorem star_not_mem_positionPiece (location : GpsLocation) :
    '*' ∉ positionPiece p location := by
  have hlat : ∀ q : ℚ, '*' ≠ latHemisphere q := by
    intro q
    rw [latHemisphere]
    split <;> decide
  have hlon : ∀ q : ℚ, '*' ≠ lonHemisphere q := by
    intro q
    rw [lonHemisphere]
    split <;> decide
  rw [positionPiece]
  split <;> simp [hlat, hlon]

theorem fixType_ne_star (usedCount : ℕ) : '*' ≠ fixType usedCount := by
  rw [fixType]
  split
  next => decide
  next => split <;> decide

theorem opened_gsa {talker dop : Text} (used : List ℕ) (htalker : '*' ∉ talker)
    (hdop : '*' ∉ dop) : Opened (gsa talker used dop).full := by
  refine opened_of_head rfl ?_
  simp [Sentence.full, gsa, htalker, hdop, fixType_ne_star]

theorem opened_gpvtg (engine : LocEngData) (location : GpsLocation)
    (locationExtended : GpsLocationExtended) :
    Opened (gpvtg engine location locationExtended).full := by
  have hspeed : '*' ∉ vtgSpeedPiece location := by
    rw [vtgSpeedPiece]
    split <;> simp
  have htrack : '*' ∉ trackPiece location locationExtended := by
    rw [trackPiece]
    split <;> simp
  refine opened_of_head ?_ (by simp [Sentence.full, gpvtg, htrack, hspeed])
  rw [Sentence.full, gpvtg, List.flatten_cons, trackPiece]
  split <;> rfl

theorem opened_gprmc (engine : LocEngData) (tm : Tm) (location : GpsLocation)
    (locationExtended : GpsLocationExtended) :
    Opened (gprmc p engine tm location locationExtended).full := by
  have hspeed : '*' ∉ rmcSpeedPiece location := by
    rw [rmcSpeedPiece]
    split <;> simp
  have hbearing : '*' ∉ bearingPiece location := by
    rw [bearingPiece]
    split <;> simp
  have hvariation : '*' ∉ variationPiece locationExtended := by
    rw [variationPiece]
    split
    next =>
      simp only []
      split <;> simp
    next => decide
  refine opened_of_head rfl ?_
  simp [Sentence.full, gprmc, datePiece, hspeed, hbearing, hvariation]

theorem opened_gpgga (engine : LocEngData) (tm : Tm) (location : GpsLocation)
    (locationExtended : GpsLocationExtended) :
    Opened (gpgga p engine tm location locationExtended).full := by
  have hquality : '*' ∉ qualityPiece engine location locationExtended := by
    have hmode : '*' ≠ gpsQuality engine location := by
      rw [gpsQuality]
      split
      next => decide
      next => split <;> decide
    rw [qualityPiece]
    split
    next => simp [hmode]
    next => split <;> simp [hmode]
  have haltitude : '*' ∉ altitudeMeanSeaLevelPiece locationExtended := by
    rw [altitudeMeanSeaLevelPiece]
    split <;> simp
  have hseparation : '*' ∉ separationPiece location locationExtended := by
    rw [separationPiece]
    split <;> simp
  refine opened_of_head rfl ?_
  simp [Sentence.full, gpgga, hquality, haltitude, hseparation]

/-! ## What is sent -/

/-- The sentences of a report as they are without a buffer. -/
def posTexts (engine : LocEngData) (location : GpsLocation)
    (locationExtended : GpsLocationExtended) (generateNmea : UInt8) : List Text :=
  match p.gmtime (location.timestamp / 1000) with
  | none => []
  | some tm =>
      if generateNmea ≠ 0 then
        [(gpgsa engine locationExtended).full, (gngsa engine locationExtended).full,
          (gpvtg engine location locationExtended).full,
          (gprmc p engine tm location locationExtended).full,
          (gpgga p engine tm location locationExtended).full]
      else blankSentences

theorem Sentence.format_of_full_lt {s : Sentence} (h : s.full.length < nmeaSentenceMaxLength) :
    s.format = some (stored nmeaSentenceMaxLength s.full) := by
  rw [full, List.length_append] at h
  exact s.format_of_lt (by omega)

/-- No sentence is given up: what is sent is as much of each as the buffer holds. -/
theorem sent_generatePos (engine : LocEngData) (location : GpsLocation)
    (locationExtended : GpsLocationExtended) (generateNmea : UInt8) :
    (generatePos p engine location locationExtended generateNmea).sent =
      (posTexts p engine location locationExtended generateNmea).map fun text =>
        finish (stored nmeaSentenceMaxLength text) := by
  rw [generatePos, posTexts]
  cases p.gmtime (location.timestamp / 1000) with
  | none => rfl
  | some tm =>
      by_cases hgenerate : generateNmea ≠ 0
      · have hgpgsa := Sentence.format_of_full_lt
          ((length_gpgsa_le engine locationExtended).trans_lt (by decide))
        have hgngsa := Sentence.format_of_full_lt
          ((length_gngsa_le engine locationExtended).trans_lt (by decide))
        have hgpvtg := Sentence.format_of_full_lt
          ((length_gpvtg_le engine location locationExtended).trans_lt (by decide))
        have hgprmc := Sentence.format_of_full_lt
          ((length_gprmc_le p engine tm location locationExtended).trans_lt (by decide))
        have hgpgga := Sentence.format_of_lt
          ((length_checked_gpgga_le p engine tm location locationExtended).trans_lt (by decide))
        simp only [if_pos hgenerate, hgpgsa, hgngsa, hgpvtg, hgprmc, hgpgga]
        rfl
      · simp only [if_neg hgenerate]

end Serrano.Nmea
