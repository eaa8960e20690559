import Serrano.Nmea.PosFields

/-! # The magnetic track that a report states

The VTG sentence prints the true track twice. It states the magnetic track only where the
deviation does not change the tenth of a degree.
-/

namespace Serrano.Nmea

open DecimalText

/-- A direction in degrees from zero up to a full turn. -/
def reduced (degrees : ℚ) : ℚ := degrees - 360 * ⌊degrees / 360⌋

/-- The VTG sentence states the true and the magnetic track, and the RMC sentence the deviation by
which they differ. -/
def Run.StatesTracks (run : Run) (location : GpsLocation)
    (locationExtended : GpsLocationExtended) : Prop :=
  ∃ vtg rmc : Sent, named "GPVTG".toList run.sent = [vtg] ∧
    named "GPRMC".toList run.sent = [rmc] ∧
    ∃ trueTrack magTrack : Text,
      ((fields vtg.text).drop 1).take 4 = [trueTrack, ['T'], magTrack, ['M']] ∧
      trueTrack = fixed 0 1 location.bearing.value ∧
      if Has locationExtended.flags gpsLocationExtendedHasMagDev then
        magTrack = fixed 0 1
            (reduced (location.bearing.value - locationExtended.magneticDeviation.value)) ∧
          ((fields rmc.text).drop 10).take 2 =
            [fixed 0 1 |locationExtended.magneticDeviation.value|,
              [if locationExtended.magneticDeviation.value < 0 then 'W' else 'E']]
      else magTrack = trueTrack

theorem reduced_of_mem {degrees : ℚ} (turns : ℤ) (hle : 360 * turns ≤ degrees)
    (hlt : degrees < 360 * turns + 360) : reduced degrees = degrees - 360 * turns := by
  have hfloor : ⌊degrees / 360⌋ = turns := by
    rw [Int.floor_eq_iff]
    constructor
    · rw [le_div_iff₀ (by norm_num)]
      linarith
    · rw [div_lt_iff₀ (by norm_num)]
      linarith
  rw [reduced, hfloor]

/-- Directions that are a degree apart do not round to the same tenth. -/
theorem nearest_ne_of_apart {q r : ℚ} (h : q + 1 ≤ r) :
    nearest (q * 10 ^ 1) ≠ nearest (r * 10 ^ 1) := by
  intro heq
  have hq := abs_le.mp (abs_nearest_sub_le (q * 10 ^ 1))
  have hr := abs_le.mp (abs_nearest_sub_le (r * 10 ^ 1))
  rw [heq] at hq
  linarith [hq.2, hr.1]

/-- The magnetic track is printed as the true one exactly when the deviation neither takes it
around the north nor out of its tenth of a degree. -/
theorem fixed_reduced_eq_iff {bearing deviation : ℚ} (hbearing : 0 ≤ bearing)
    (hturn : bearing < 360) (hdeviation : |deviation| ≤ 180) :
    fixed 0 1 bearing = fixed 0 1 (reduced (bearing - deviation)) ↔
      0 ≤ bearing - deviation ∧ bearing - deviation < 360 ∧
        nearest (bearing * 10 ^ 1) = nearest ((bearing - deviation) * 10 ^ 1) := by
  obtain ⟨hlow, hhigh⟩ := abs_le.mp hdeviation
  rcases lt_or_ge (bearing - deviation) 0 with hneg | hnonneg
  -- around the north in either direction the two are at least half a turn apart
  · have hreduced : reduced (bearing - deviation) = bearing - deviation + 360 := by
      rw [reduced_of_mem (-1) (by push_cast; linarith) (by push_cast; linarith)]
      push_cast
      ring
    rw [hreduced, fixed_eq_iff (by decide) hbearing (by linarith)]
    exact iff_of_false (nearest_ne_of_apart (by linarith)) fun h => absurd h.1 (not_le.mpr hneg)
  · rcases lt_or_ge (bearing - deviation) 360 with hlt | hge
    · have hreduced : reduced (bearing - deviation) = bearing - deviation := by
        rw [reduced_of_mem 0 (by push_cast; linarith) (by push_cast; linarith)]
        push_cast
        ring
      rw [hreduced, fixed_eq_iff (by decide) hbearing hnonneg]
      exact ⟨fun heq => ⟨hnonneg, hlt, heq⟩, fun h => h.2.2⟩
    · have hreduced : reduced (bearing - deviation) = bearing - deviation - 360 := by
        rw [reduced_of_mem 1 (by push_cast; linarith) (by push_cast; linarith)]
        push_cast
        ring
      rw [hreduced, fixed_eq_iff (by decide) hbearing (by linarith)]
      exact iff_of_false (nearest_ne_of_apart (by linarith)).symm fun h =>
        absurd h.2.1 (not_lt.mpr hge)

section Report

variable {p : Platform} {engine : LocEngData} {location : GpsLocation}
  {locationExtended : GpsLocationExtended} {generateNmea : UInt8} {tm : Tm}

/-- The track is printed in both places, and the deviation is stated in the RMC sentence. -/
theorem statesTracks_iff_fixed (htime : p.gmtime (location.timestamp / 1000) = some tm)
    (hgenerate : generateNmea ≠ 0) (hflag : Has location.flags gpsLocationHasBearing) :
    (generatePos p engine location locationExtended generateNmea).StatesTracks location
        locationExtended ↔
      (Has locationExtended.flags gpsLocationExtendedHasMagDev →
        fixed 0 1 location.bearing.value = fixed 0 1
          (reduced (location.bearing.value - locationExtended.magneticDeviation.value))) := by
  obtain ⟨hvtg, hrmc, -⟩ := named_generatePos p engine locationExtended htime hgenerate
  have htrack : optionalField location.flags gpsLocationHasBearing location.bearing.value =
      fixed 0 1 location.bearing.value := if_pos hflag
  have hshort : (commaed (vtgFields location)).length < nmeaSentenceMaxLength - 1 := by
    have hle := length_trackPiece_le location locationExtended
    rw [trackPiece_eq, List.length_cons] at hle
    rw [vtgFields, nmeaSentenceMaxLength]
    omega
  obtain ⟨vtgMore, hvtgFields⟩ := fields_finish_stored (solid_trackFields location) hshort
    (vtgSpeedPiece location ++ modePiece engine location)
  obtain ⟨rmcMore, hrmcFields⟩ := fields_finish_stored
    (solid_rmcFields p tm location locationExtended)
    (length_commaed_rmcFields p tm location locationExtended) (modePiece engine location)
  have hvariation : ((fields (buffered
      (gprmc p engine tm location locationExtended).full).text).drop 10).take 2 =
        variationFields locationExtended := by
    rw [buffered, full_gprmc, hrmcFields, drop_rmcFields, variationFields]
    split <;> rfl
  have htracks : ((fields (buffered
      (gpvtg engine location locationExtended).full).text).drop 1).take 4 =
        [fixed 0 1 location.bearing.value, ['T'], fixed 0 1 location.bearing.value, ['M']] := by
    rw [buffered, full_gpvtg, vtgFields, hvtgFields, trackFields, htrack]
    rfl
  constructor
  · rintro ⟨vtg, rmc, hvtg', -, trueTrack, magTrack, hfields, -, hstates⟩ hdeviation
    cases hvtg.symm.trans hvtg'
    cases htracks.symm.trans hfields
    rw [if_pos hdeviation] at hstates
    exact hstates.1
  · intro hequal
    refine ⟨_, _, hvtg, hrmc, _, _, htracks, rfl, ?_⟩
    split
    next hdeviation =>
      refine ⟨hequal hdeviation, hvariation.trans ?_⟩
      rw [variationFields, if_pos hdeviation]
    next => rfl

/-- A report states its tracks exactly when there is no deviation, or one that does not change the
tenth of a degree. -/
theorem statesTracks_iff (htime : p.gmtime (location.timestamp / 1000) = some tm)
    (hgenerate : generateNmea ≠ 0) (hflag : Has location.flags gpsLocationHasBearing)
    (hbearing : 0 ≤ location.bearing.value) (hturn : location.bearing.value < 360)
    (hdeviation : |locationExtended.magneticDeviation.value| ≤ 180) :
    (generatePos p engine location locationExtended generateNmea).StatesTracks location
        locationExtended ↔
      (Has locationExtended.flags gpsLocationExtendedHasMagDev →
        0 ≤ location.bearing.value - locationExtended.magneticDeviation.value ∧
          location.bearing.value - locationExtended.magneticDeviation.value < 360 ∧
          nearest (location.bearing.value * 10 ^ 1) =
            nearest ((location.bearing.value - locationExtended.magneticDeviation.value) *
              10 ^ 1)) := by
  rw [statesTracks_iff_fixed htime hgenerate hflag,
    fixed_reduced_eq_iff hbearing hturn hdeviation]

/-- A bearing to the east and a deviation of nothing. -/
theorem statesTracks_east :
    let location : GpsLocation :=
      { (default : GpsLocation) with
        flags := gpsLocationHasBearing
        bearing := .ofNat 90 (by decide) }
    let locationExtended : GpsLocationExtended :=
      { (default : GpsLocationExtended) with
        flags := gpsLocationExtendedHasMagDev
        magneticDeviation := .zero }
    (generatePos default ⟨true, .standalone, 0, 0, .zero, .zero, .zero⟩ location locationExtended
        1).StatesTracks location locationExtended ↔
      (Has locationExtended.flags gpsLocationExtendedHasMagDev →
        0 ≤ location.bearing.value - locationExtended.magneticDeviation.value ∧
          location.bearing.value - locationExtended.magneticDeviation.value < 360 ∧
          nearest (location.bearing.value * 10 ^ 1) =
            nearest ((location.bearing.value - locationExtended.magneticDeviation.value) *
              10 ^ 1)) := by
  refine statesTracks_iff rfl (by decide) (by decide) ?_ ?_ ?_
  · norm_num [FiniteFloat.ofNat]
  · norm_num [FiniteFloat.ofNat]
  · norm_num [FiniteFloat.zero]

/-- A bearing to the east with a deviation of ten degrees: both tracks are printed as ninety. -/
theorem not_statesTracks_ten :
    let location : GpsLocation :=
      { (default : GpsLocation) with
        flags := gpsLocationHasBearing
        bearing := .ofNat 90 (by decide) }
    let locationExtended : GpsLocationExtended :=
      { (default : GpsLocationExtended) with
        flags := gpsLocationExtendedHasMagDev
        magneticDeviation := .ofNat 10 (by decide) }
    ¬ (generatePos default ⟨true, .standalone, 0, 0, .zero, .zero, .zero⟩ location
        locationExtended 1).StatesTracks location locationExtended := by
  intro location locationExtended hstates
  have hequal := (statesTracks_iff_fixed rfl (by decide) (by decide)).mp hstates (by decide)
  have hnearest := ((fixed_reduced_eq_iff (by norm_num [location, FiniteFloat.ofNat])
    (by norm_num [location, FiniteFloat.ofNat])
    (by norm_num [locationExtended, FiniteFloat.ofNat])).mp hequal).2.2
  have hapart : location.bearing.value - locationExtended.magneticDeviation.value + 1 ≤
      location.bearing.value := by
    norm_num [location, locationExtended, FiniteFloat.ofNat]
  exact nearest_ne_of_apart hapart hnearest.symm

end Report

end Serrano.Nmea
