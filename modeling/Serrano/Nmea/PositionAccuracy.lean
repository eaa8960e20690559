import Serrano.Nmea.PosFields

/-! # The position that a report states

Degrees and minutes are read back from the fields of the RMC and GGA sentences. Minutes are
reduced below sixty before they are rounded, so that the sixty is reached again where they round
up to it. A zero whose sign is printed is not read at all: of a latitude this is `0.0`, which is
multiplied by `-1.0`, and of a longitude `-0.0`, which is not.
-/

namespace Serrano.Nmea

open DecimalText

/-! ## Reading -/

/-- Degrees and millionths of a minute. -/
structure Angle where
  degrees : ℕ
  millionths : ℕ
  deriving DecidableEq

/-- So many digits of degrees, two of minutes, a point and six more. -/
def readAngle (places : ℕ) (text : Text) : Option Angle :=
  if text.length = places + 9 ∧ (text.drop (places + 2)).head? = some '.' then do
    let degrees ← number? (text.take places)
    let minutes ← number? ((text.drop places).take 2)
    let millionths ← number? (text.drop (places + 3))
    some ⟨degrees, minutes * 10 ^ 6 + millionths⟩
  else none

def Angle.minutes (angle : Angle) : ℚ := angle.millionths / 10 ^ 6

/-- Degrees plus minutes by sixty. -/
def Angle.decode (angle : Angle) : ℚ := angle.degrees + angle.minutes / 60

/-- The text is well formed, and with the sign of the hemisphere it is within half a millionth of
a minute of the value. -/
def States (places : ℕ) (positive negative : Char) (value : ℚ) (text hemisphere : Text) : Prop :=
  ∃ angle, readAngle places text = some angle ∧ angle.minutes < 60 ∧
    ((hemisphere = [positive] ∧ 60 * |angle.decode - value| ≤ 1 / 2 * (1 / 10 ^ 6)) ∨
      (hemisphere = [negative] ∧ 60 * |-angle.decode - value| ≤ 1 / 2 * (1 / 10 ^ 6)))

/-- Both sentences have the same fields for the position, and these state it. -/
def Run.StatesPosition (run : Run) (latitude longitude : ℚ) : Prop :=
  ∃ rmc gga : Sent, named "GPRMC".toList run.sent = [rmc] ∧
    named "GPGGA".toList run.sent = [gga] ∧
    ∃ latText latHem lonText lonHem : Text,
      ((fields rmc.text).drop 3).take 4 = [latText, latHem, lonText, lonHem] ∧
      ((fields gga.text).drop 2).take 4 = [latText, latHem, lonText, lonHem] ∧
      States 2 'N' 'S' latitude latText latHem ∧ States 3 'E' 'W' longitude lonText lonHem

/-! ## What is printed -/

/-- The minutes that are left of a magnitude. -/
def minutesOf (magnitude : ℚ) : ℚ := 60 * Int.fract magnitude

/-- The angle that is printed for a magnitude. -/
def printed (magnitude : ℚ) : Angle := ⟨⌊magnitude⌋.toNat, units 6 (minutesOf magnitude)⟩

theorem minutesOf_nonneg (magnitude : ℚ) : 0 ≤ minutesOf magnitude := minutes_nonneg magnitude

theorem cast_millionths_printed (magnitude : ℚ) :
    ((printed magnitude).millionths : ℚ) = nearest (minutesOf magnitude * 10 ^ 6) := by
  rw [printed, cast_units, abs_of_nonneg (minutesOf_nonneg magnitude)]

/-- The minutes round up to sixty from half a millionth below on. -/
theorem minutes_printed_lt_iff (magnitude : ℚ) :
    (printed magnitude).minutes < 60 ↔ minutesOf magnitude < 60 - 1 / 2 * (1 / 10 ^ 6) := by
  have heven : Even (60000000 : ℤ) := by decide
  have hround := nearest_lt_iff_of_even heven (q := minutesOf magnitude * 10 ^ 6)
  have hminutes : (printed magnitude).minutes < 60 ↔
      nearest (minutesOf magnitude * 10 ^ 6) < 60000000 := by
    rw [Angle.minutes, cast_millionths_printed, div_lt_iff₀ (by norm_num)]
    norm_num
    exact_mod_cast Iff.rfl
  rw [hminutes, hround]
  push_cast
  constructor
  · intro h
    linarith
  · intro h
    linarith

/-- Rounding is all that is lost. -/
theorem abs_decode_printed_sub_le {magnitude : ℚ} (h : 0 ≤ magnitude) :
    60 * |(printed magnitude).decode - magnitude| ≤ 1 / 2 * (1 / 10 ^ 6) := by
  have hdegrees : ((printed magnitude).degrees : ℚ) = magnitude - Int.fract magnitude := by
    have hfloor : ((⌊magnitude⌋.toNat : ℕ) : ℤ) = ⌊magnitude⌋ :=
      Int.toNat_of_nonneg (Int.floor_nonneg.mpr h)
    rw [Int.self_sub_fract, ← hfloor]
    rfl
  have herror := abs_nearest_sub_le (minutesOf magnitude * 10 ^ 6)
  have hsplit : (printed magnitude).decode - magnitude =
      (nearest (minutesOf magnitude * 10 ^ 6) - minutesOf magnitude * 10 ^ 6) /
        (60 * 10 ^ 6) := by
    rw [Angle.decode, Angle.minutes, cast_millionths_printed, hdegrees, minutesOf]
    ring
  rw [hsplit, abs_div, abs_of_pos (by norm_num : (0 : ℚ) < 60 * 10 ^ 6)]
  linarith

variable (p : Platform)

/-- The degrees are those of a byte. -/
theorem toUInt8_floor {magnitude : ℚ} (h : 0 ≤ magnitude) (hbyte : magnitude < 256) :
    p.toUInt8 ⌊magnitude⌋ = ⌊magnitude⌋.toNat := by
  have hnonneg : (0 : ℚ) ≤ ⌊magnitude⌋ := by exact_mod_cast Int.floor_nonneg.mpr h
  have hle : (⌊magnitude⌋ : ℚ) < 2 ^ 8 := (Int.floor_le magnitude).trans_lt (by linarith)
  rw [p.toUInt8_of_nonneg hnonneg hle, Int.floor_intCast]

theorem readAngle_angleText {places : ℕ} (hplaces : 0 < places) {angle : SignedDouble}
    {magnitude : ℚ} (hvalue : angle.value = magnitude) (hsign : angle.negative = false)
    (h : 0 ≤ magnitude) (hbyte : magnitude < 256) (hlt : ⌊magnitude⌋.toNat < 10 ^ places) :
    readAngle places (angleText p places angle) = some (printed magnitude) := by
  have hunits := units_minutes_le (minutes_nonneg magnitude) (minutes_lt magnitude)
  have hdegrees : (integer places (⌊magnitude⌋.toNat : ℕ)).length = places :=
    length_integer_natCast hplaces hlt
  have hminutes : ((digits (units 6 (minutesOf magnitude) / 10 ^ 6)).leftpad 2 '0').length = 2 :=
    length_leftpad_digits (by decide) (by rw [minutesOf]; omega)
  have hmillionths :
      ((digits (units 6 (minutesOf magnitude) % 10 ^ 6)).leftpad 6 '0').length = 6 :=
    length_leftpad_digits (by decide) (Nat.mod_lt _ (by decide))
  rw [angleText_of_nonneg p places (hvalue ▸ h) hsign, hvalue, toUInt8_floor p h hbyte,
    signed_minutes (minutes_nonneg magnitude) (minutes_lt magnitude), ← minutesOf]
  have hreadDegrees := number?_integer places ⌊magnitude⌋.toNat
  have hreadMinutes := number?_leftpad_digits 2 (units 6 (minutesOf magnitude) / 10 ^ 6)
  have hreadMillionths := number?_leftpad_digits 6 (units 6 (minutesOf magnitude) % 10 ^ 6)
  -- the three numbers stand side by side with known lengths
  generalize integer places (⌊magnitude⌋.toNat : ℕ) = degrees at *
  generalize (digits (units 6 (minutesOf magnitude) / 10 ^ 6)).leftpad 2 '0' = minutes at *
  generalize (digits (units 6 (minutesOf magnitude) % 10 ^ 6)).leftpad 6 '0' = millionths at *
  have hdrop : (degrees ++ (minutes ++ '.' :: millionths)).drop places =
      minutes ++ '.' :: millionths := by
    rw [← hdegrees, List.drop_left]
  have hpoint : (degrees ++ (minutes ++ '.' :: millionths)).drop (places + 2) =
      '.' :: millionths := by
    rw [← List.drop_drop, hdrop, ← hminutes, List.drop_left]
  have hrest : (degrees ++ (minutes ++ '.' :: millionths)).drop (places + 3) = millionths := by
    have hsucc : places + 3 = places + 2 + 1 := rfl
    rw [hsucc, ← List.drop_drop, hpoint, List.drop_succ_cons, List.drop_zero]
  have htake : (degrees ++ (minutes ++ '.' :: millionths)).take places = degrees := by
    rw [← hdegrees, List.take_left]
  have htakeMinutes : (minutes ++ '.' :: millionths).take 2 = minutes := by
    rw [← hminutes, List.take_left]
  have hlength : (degrees ++ (minutes ++ '.' :: millionths)).length = places + 9 := by
    rw [List.length_append, List.length_append, List.length_cons, hdegrees, hminutes, hmillionths]
  rw [readAngle, if_pos ⟨hlength, by rw [hpoint]; rfl⟩, htake, hdrop, htakeMinutes, hrest,
    hreadDegrees, hreadMinutes, hreadMillionths]
  have hsum := Nat.div_add_mod' (units 6 (minutesOf magnitude)) (10 ^ 6)
  exact congrArg (fun millionths => some (Angle.mk ⌊magnitude⌋.toNat millionths)) hsum

/-- No number is read behind a sign. -/
theorem readAngle_of_negative {places : ℕ} (hplaces : 0 < places) {angle : SignedDouble}
    (h : 0 ≤ angle.value) (hsign : angle.negative = true) :
    readAngle places (angleText p places angle) = none := by
  have hzero : angle.value = 0 := SignedDouble.value_eq_zero_of_negative h hsign
  have hdegrees : (integer places (p.toUInt8 ⌊angle.value⌋)).length = places := by
    refine length_integer_natCast hplaces ?_
    rw [hzero, toUInt8_floor p le_rfl (by norm_num), Int.floor_zero]
    exact Nat.pow_pos (by decide)
  have hdrop : (angleText p places angle).drop places = "-0.000000".toList := by
    rw [angleText_of_negative p places h hsign]
    exact List.drop_left' hdegrees
  rw [readAngle]
  split
  next =>
    have hminutes : number? ("-0.000000".toList.take 2) = none := rfl
    rw [hdrop, hminutes]
    cases number? ((angleText p places angle).take places) <;> rfl
  next => rfl

/-! ## The fields -/

/-- A field that reads as the printed angle states the value unless the minutes reach sixty. -/
theorem states_iff {places : ℕ} {positive negative : Char} {value : ℚ} {text hemisphere : Text}
    (hread : readAngle places text = some (printed |value|))
    (hhemisphere : (0 ≤ value ∧ hemisphere = [positive]) ∨
      (value ≤ 0 ∧ hemisphere = [negative])) :
    States places positive negative value text hemisphere ↔
      minutesOf |value| < 60 - 1 / 2 * (1 / 10 ^ 6) := by
  have haccurate := abs_decode_printed_sub_le (abs_nonneg value)
  rw [← minutes_printed_lt_iff]
  constructor
  · rintro ⟨angle, hangle, hlt, -⟩
    cases hread.symm.trans hangle
    exact hlt
  · intro hlt
    refine ⟨_, hread, hlt, ?_⟩
    obtain ⟨hsign, hhem⟩ | ⟨hsign, hhem⟩ := hhemisphere
    · rw [abs_of_nonneg hsign] at haccurate ⊢
      exact .inl ⟨hhem, haccurate⟩
    · rw [abs_of_nonpos hsign] at haccurate ⊢
      have hflip : -(printed (-value)).decode - value = -((printed (-value)).decode - -value) := by
        ring
      rw [hflip, abs_neg]
      exact .inr ⟨hhem, haccurate⟩

theorem not_states_of_unread {places : ℕ} {positive negative : Char} {value : ℚ}
    {text hemisphere : Text} (hread : readAngle places text = none) :
    ¬ States places positive negative value text hemisphere := by
  rintro ⟨angle, hangle, -⟩
  cases hread.symm.trans hangle

theorem floor_abs_le {value : ℚ} {bound : ℕ} (h : |value| ≤ bound) :
    ⌊|value|⌋.toNat ≤ bound :=
  Int.toNat_le.mpr (Int.cast_le.mp ((Int.floor_le |value|).trans h))

/-- `0.0`. -/
def SignedDouble.PlusZero (x : SignedDouble) : Prop := x.value = 0 ∧ x.negative = false

/-- `-0.0`. -/
def SignedDouble.MinusZero (x : SignedDouble) : Prop := x.value = 0 ∧ x.negative = true

theorem negative_northing_iff (latitude : SignedDouble) :
    (northing latitude).negative = true ↔ latitude.PlusZero := by
  rw [northing]
  split
  next hpos =>
    rw [latitude.negative_eq hpos.ne', decide_eq_true_eq]
    exact ⟨fun h => absurd h (not_lt.mpr hpos.le), fun h => absurd h.1 hpos.ne'⟩
  next hpos =>
    rw [SignedDouble.negative_negated, Bool.not_eq_true']
    constructor
    · intro hsign
      by_contra hplus
      have hne : latitude.value ≠ 0 := fun hzero => hplus ⟨hzero, hsign⟩
      rw [latitude.negative_eq hne, decide_eq_false_iff_not] at hsign
      exact hne (le_antisymm (not_lt.mp hpos) (not_lt.mp hsign))
    · exact fun h => h.2

theorem negative_easting_iff (longitude : SignedDouble) :
    (easting longitude).negative = true ↔ longitude.MinusZero := by
  rw [easting]
  split
  next hneg =>
    rw [SignedDouble.negative_negated, longitude.negative_eq hneg.ne, decide_eq_true hneg]
    exact ⟨fun h => absurd h (by decide), fun h => absurd h.1 hneg.ne⟩
  next hneg =>
    constructor
    · intro hsign
      refine ⟨?_, hsign⟩
      by_contra hne
      rw [longitude.negative_eq hne, decide_eq_true_eq] at hsign
      exact hneg hsign
    · exact fun h => h.2

theorem states_latitude_iff {latitude : SignedDouble} (h : |latitude.value| ≤ 90) :
    States 2 'N' 'S' latitude.value (angleText p 2 (northing latitude))
        [latHemisphere latitude.value] ↔
      ¬ latitude.PlusZero ∧ minutesOf |latitude.value| < 60 - 1 / 2 * (1 / 10 ^ 6) := by
  have hvalue := value_northing latitude
  have hnonneg : 0 ≤ (northing latitude).value := hvalue ▸ abs_nonneg _
  have hfloor : ⌊|latitude.value|⌋.toNat ≤ 90 := floor_abs_le h
  cases hsign : (northing latitude).negative with
  | true =>
      have hplus := (negative_northing_iff latitude).mp hsign
      have hread := readAngle_of_negative p (by decide : 0 < 2) hnonneg hsign
      exact iff_of_false (not_states_of_unread hread) fun h => h.1 hplus
  | false =>
      have hplus : ¬ latitude.PlusZero := by
        rw [← negative_northing_iff, hsign]
        exact Bool.false_ne_true
      rw [and_iff_right hplus]
      refine states_iff
        (readAngle_angleText p (by decide) hvalue hsign (abs_nonneg _) (by linarith) (by omega)) ?_
      rw [latHemisphere]
      split
      next hpos => exact .inl ⟨hpos.le, rfl⟩
      next hpos => exact .inr ⟨not_lt.mp hpos, rfl⟩

theorem states_longitude_iff {longitude : SignedDouble} (h : |longitude.value| ≤ 180) :
    States 3 'E' 'W' longitude.value (angleText p 3 (easting longitude))
        [lonHemisphere longitude.value] ↔
      ¬ longitude.MinusZero ∧ minutesOf |longitude.value| < 60 - 1 / 2 * (1 / 10 ^ 6) := by
  have hvalue := value_easting longitude
  have hnonneg : 0 ≤ (easting longitude).value := hvalue ▸ abs_nonneg _
  have hfloor : ⌊|longitude.value|⌋.toNat ≤ 180 := floor_abs_le h
  cases hsign : (easting longitude).negative with
  | true =>
      have hminus := (negative_easting_iff longitude).mp hsign
      have hread := readAngle_of_negative p (by decide : 0 < 3) hnonneg hsign
      exact iff_of_false (not_states_of_unread hread) fun h => h.1 hminus
  | false =>
      have hminus : ¬ longitude.MinusZero := by
        rw [← negative_easting_iff, hsign]
        exact Bool.false_ne_true
      rw [and_iff_right hminus]
      refine states_iff
        (readAngle_angleText p (by decide) hvalue hsign (abs_nonneg _) (by linarith) (by omega)) ?_
      rw [lonHemisphere]
      split
      next hneg => exact .inr ⟨hneg.le, rfl⟩
      next hneg => exact .inl ⟨not_lt.mp hneg, rfl⟩

section Report

variable {engine : LocEngData} {location : GpsLocation} {locationExtended : GpsLocationExtended}
  {generateNmea : UInt8} {tm : Tm}

/-- Both sentences hold the four fields of the position. -/
theorem statesPosition_iff_states (htime : p.gmtime (location.timestamp / 1000) = some tm)
    (hgenerate : generateNmea ≠ 0) (hflag : Has location.flags gpsLocationHasLatLong) :
    (generatePos p engine location locationExtended generateNmea).StatesPosition
        location.latitude.value location.longitude.value ↔
      States 2 'N' 'S' location.latitude.value (angleText p 2 (northing location.latitude))
          [latHemisphere location.latitude.value] ∧
        States 3 'E' 'W' location.longitude.value (angleText p 3 (easting location.longitude))
          [lonHemisphere location.longitude.value] := by
  obtain ⟨-, hrmc, hgga⟩ := named_generatePos p engine locationExtended htime hgenerate
  have hposition : positionFields p location =
      [angleText p 2 (northing location.latitude), [latHemisphere location.latitude.value],
        angleText p 3 (easting location.longitude), [lonHemisphere location.longitude.value]] :=
    if_pos hflag
  obtain ⟨rmcMore, hrmcFields⟩ := fields_finish_stored
    (solid_rmcFields p tm location locationExtended) (length_commaed_rmcFields p ..)
    (modePiece engine location)
  obtain ⟨rest, hfull⟩ := full_gpgga p engine tm location locationExtended
  obtain ⟨ggaMore, hggaFields⟩ := fields_finish_stored (solid_ggaFields p tm location)
    (length_commaed_ggaFields p ..) rest
  rw [← full_gprmc, rmcFields, hposition] at hrmcFields
  rw [← hfull, ggaFields, hposition] at hggaFields
  constructor
  · rintro ⟨rmc, gga, hrmc', hgga', latText, latHem, lonText, lonHem, hrmcPosition, -, hstates⟩
    cases hrmc.symm.trans hrmc'
    rw [buffered, hrmcFields] at hrmcPosition
    cases hrmcPosition
    exact hstates
  · intro hstates
    refine ⟨_, _, hrmc, hgga, _, _, _, _, ?_, ?_, hstates⟩
    · rw [buffered, hrmcFields]
      rfl
    · rw [buffered, hggaFields]
      rfl

/-- A report states its position exactly when no zero is printed with a sign and neither of the
minutes rounds up to sixty. -/
theorem statesPosition_iff (htime : p.gmtime (location.timestamp / 1000) = some tm)
    (hgenerate : generateNmea ≠ 0) (hflag : Has location.flags gpsLocationHasLatLong)
    (hlatitude : |location.latitude.value| ≤ 90) (hlongitude : |location.longitude.value| ≤ 180) :
    (generatePos p engine location locationExtended generateNmea).StatesPosition
        location.latitude.value location.longitude.value ↔
      (¬ location.latitude.PlusZero ∧ ¬ location.longitude.MinusZero) ∧
        minutesOf |location.latitude.value| < 60 - 1 / 2 * (1 / 10 ^ 6) ∧
        minutesOf |location.longitude.value| < 60 - 1 / 2 * (1 / 10 ^ 6) := by
  rw [statesPosition_iff_states p htime hgenerate hflag, states_latitude_iff p hlatitude,
    states_longitude_iff p hlongitude, and_and_and_comm]

/-- Forty-five degrees north and ninety degrees east. -/
theorem statesPosition_fortyFive :
    let location : GpsLocation :=
      { (default : GpsLocation) with
        flags := gpsLocationHasLatLong
        latitude := .ofNat 45 (by decide)
        longitude := .ofNat 90 (by decide) }
    (generatePos default ⟨true, .standalone, 0, 0, .zero, .zero, .zero⟩ location default
        1).StatesPosition location.latitude.value location.longitude.value ↔
      (¬ location.latitude.PlusZero ∧ ¬ location.longitude.MinusZero) ∧
        minutesOf |location.latitude.value| < 60 - 1 / 2 * (1 / 10 ^ 6) ∧
        minutesOf |location.longitude.value| < 60 - 1 / 2 * (1 / 10 ^ 6) := by
  refine statesPosition_iff default rfl (by decide) (by decide) ?_ ?_
  · norm_num [SignedDouble.ofNat, FiniteDouble.ofNat]
  · norm_num [SignedDouble.ofNat, FiniteDouble.ofNat]

theorem belowOne_finite : |(1 - 1 / 2 ^ 30 : ℚ)| < 2 ^ 1024 := by
  have hlt : |(1 - 1 / 2 ^ 30 : ℚ)| < 2 := by norm_num
  exact hlt.trans_le (le_self_pow₀ (by norm_num) (by norm_num))

/-- Less than a degree by less than a millionth of a minute. -/
def belowOne : SignedDouble where
  value := 1 - 1 / 2 ^ 30
  finite := belowOne_finite
  negative := false
  negative_eq := fun _ => by norm_num

/-- A report of a latitude on the prime meridian. -/
def runAt (latitude : SignedDouble) : Run :=
  let location : GpsLocation :=
    { (default : GpsLocation) with flags := gpsLocationHasLatLong, latitude := latitude }
  generatePos default ⟨true, .standalone, 0, 0, .zero, .zero, .zero⟩ location default 1

/-- The minutes of a latitude just below a degree are printed as sixty, those of the equator with
a sign. -/
theorem not_statesPosition_belowOne_equator :
    ¬ (runAt belowOne).StatesPosition belowOne.value 0 ∧
      ¬ (runAt (.ofNat 0 (by decide))).StatesPosition 0 0 := by
  have hstates : ∀ latitude : SignedDouble, (runAt latitude).StatesPosition latitude.value 0 →
      States 2 'N' 'S' latitude.value (angleText default 2 (northing latitude))
        [latHemisphere latitude.value] := by
    intro latitude h
    have hflag : Has gpsLocationHasLatLong gpsLocationHasLatLong := by decide
    exact ((statesPosition_iff_states default rfl (by decide) hflag).mp h).1
  constructor
  · intro h
    have habs : |belowOne.value| = 1 - 1 / 2 ^ 30 := abs_of_pos (by norm_num [belowOne])
    have hminutes : minutesOf |belowOne.value| = 60 * (1 - 1 / 2 ^ 30) := by
      rw [habs, minutesOf, Int.fract_eq_self.mpr ⟨by norm_num, by norm_num⟩]
    have hlt := ((states_latitude_iff default (by rw [habs]; norm_num)).mp (hstates _ h)).2
    rw [hminutes] at hlt
    norm_num at hlt
  · intro h
    have hzero : (SignedDouble.ofNat 0 (by decide)).value = 0 := Nat.cast_zero
    rw [← hzero] at h
    have hplus := ((states_latitude_iff default (by rw [hzero]; norm_num)).mp (hstates _ h)).1
    exact hplus ⟨hzero, rfl⟩

end Report

end Serrano.Nmea
