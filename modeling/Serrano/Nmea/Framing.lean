import Serrano.Nmea.PosSentences
import Serrano.Nmea.SvGroups

/-! # Which texts are framed

A text that is handed out is a whole sentence with its checksum exactly when the sentence leaves
room for the checksum. The one piece that may need more room than there is, and whose length is
not looked at, is the difference of the altitudes at the end of the GGA sentence.
-/

namespace Serrano.Nmea

open DecimalText

variable (p : Platform)

/-- Every text is framed and is the whole of one of the sentences: one that does not fit is not
handed out, not even in part. -/
def Run.Sound (run : Run) (sentences : List Text) : Prop :=
  ∀ call ∈ run.calls, call.sent.Framed ∧ ∃ text ∈ sentences, call.sent.text = complete text

/-- A sentence that leaves room for the checksum. -/
def Fits (text : Text) : Prop := text.length + 5 < nmeaSentenceMaxLength

instance : DecidablePred Fits := fun text => Nat.decLt (text.length + 5) nmeaSentenceMaxLength

theorem stored_of_fits {text : Text} (h : Fits text) :
    stored nmeaSentenceMaxLength text = text := by
  rw [Fits] at h
  exact List.take_of_length_le (by omega)

theorem framed_stored_iff {text : Text} (hopened : Opened text) :
    (finish (stored nmeaSentenceMaxLength text)).Framed ↔ Fits text := by
  have hcut : Opened (stored nmeaSentenceMaxLength text) := hopened.take 198
  rw [framed_finish_iff hcut, stored, List.length_take, Fits, nmeaSentenceMaxLength]
  omega

/-- A run that hands out its sentences is sound when all of them fit. -/
theorem sound_iff_fits {run : Run} {sentences : List Text}
    (hopened : ∀ text ∈ sentences, Opened text)
    (hsent : run.sent = sentences.map fun text => finish (stored nmeaSentenceMaxLength text)) :
    run.Sound sentences ↔ ∀ text ∈ sentences, Fits text := by
  constructor
  · intro hsound text htext
    have hmem : finish (stored nmeaSentenceMaxLength text) ∈ run.sent := by
      rw [hsent]
      exact List.mem_map.mpr ⟨text, htext, rfl⟩
    obtain ⟨call, hcall, heq⟩ := Run.mem_calls_iff.mpr hmem
    have hframed := (hsound call hcall).1
    rw [heq] at hframed
    exact (framed_stored_iff (hopened text htext)).mp hframed
  · intro hfits call hcall
    have hmem := Run.mem_calls_iff.mp ⟨call, hcall, rfl⟩
    rw [hsent] at hmem
    obtain ⟨text, htext, heq⟩ := List.mem_map.mp hmem
    have htextFits := hfits text htext
    rw [← heq]
    refine ⟨(framed_stored_iff (hopened text htext)).mpr htextFits, text, htext, ?_⟩
    rw [stored_of_fits htextFits]
    exact text_finish (hopened text htext).ne_nil htextFits

/-! ## Satellite reports -/

/-- The sentences of a satellite report. -/
def svTexts {p : Platform} (status : HaxxSvStatus p) : List Text :=
  gsvTexts p gps (status.svsOf gps) ++ gsvTexts p glonass (status.svsOf glonass)

theorem sound_generateSv {p : Platform} (engine : LocEngData) (status : HaxxSvStatus p)
    (locationExtended : GpsLocationExtended) :
    (generateSv engine status locationExtended).Sound (svTexts status) := by
  have hwhole : ∀ system : SvSystem, ∀ text ∈ gsvTexts p system (status.svsOf system),
      Opened text ∧ Fits text := fun system _ htext =>
    mem_gsvTexts (fun _ => covers_of_mem_svsOf) (length_svsOf_lt status system) htext
  have htexts : ∀ text ∈ svTexts status, Opened text ∧ Fits text := by
    intro text htext
    obtain hgps | hgln := List.mem_append.mp htext
    · exact hwhole gps text hgps
    · exact hwhole glonass text hgln
  refine (sound_iff_fits (fun text htext => (htexts text htext).1) ?_).mpr
    fun text htext => (htexts text htext).2
  rw [sent_generateSv]
  refine List.map_congr_left fun text htext => ?_
  rw [stored_of_fits (htexts text htext).2]

/-! ## Position reports -/

theorem opened_posTexts (engine : LocEngData) (location : GpsLocation)
    (locationExtended : GpsLocationExtended) (generateNmea : UInt8) :
    ∀ text ∈ posTexts p engine location locationExtended generateNmea, Opened text := by
  intro text htext
  rw [posTexts] at htext
  split at htext
  next => cases htext
  next tm _ =>
    split at htext
    next =>
      simp only [List.mem_cons, List.not_mem_nil, or_false] at htext
      obtain rfl | rfl | rfl | rfl | rfl := htext
      · exact opened_gsa _ (by decide) (star_not_mem_dopPiece engine locationExtended)
      · exact opened_gsa _ (by decide) (star_not_mem_dopPiece engine locationExtended)
      · exact opened_gpvtg engine location locationExtended
      · exact opened_gprmc p engine tm location locationExtended
      · exact opened_gpgga p engine tm location locationExtended
    next =>
      simp only [blankSentences, List.mem_cons, List.not_mem_nil, or_false] at htext
      obtain rfl | rfl | rfl | rfl | rfl := htext <;> exact opened_of_head rfl (by decide)

/-- The difference of the altitudes leaves room for the checksum, or is not printed. -/
def AltitudeFits (engine : LocEngData) (location : GpsLocation)
    (locationExtended : GpsLocationExtended) (generateNmea : UInt8) : Prop :=
  generateNmea = 0 ∨ p.gmtime (location.timestamp / 1000) = none ∨
    ¬ Has location.flags gpsLocationHasAltitude ∨
    ¬ Has locationExtended.flags gpsLocationExtendedHasAltitudeMeanSeaLevel ∨
    14 + positionWidth p location + (6 + hdopWidth engine locationExtended) +
      (numeralWidth locationExtended.altitudeMeanSeaLevel.value + 3) +
      (numeralWidth
        (location.altitude.value - locationExtended.altitudeMeanSeaLevel.value) + 4) ≤ 194

theorem length_altitudeMeanSeaLevelPiece {locationExtended : GpsLocationExtended}
    (h : Has locationExtended.flags gpsLocationExtendedHasAltitudeMeanSeaLevel) :
    (altitudeMeanSeaLevelPiece locationExtended).length =
      numeralWidth locationExtended.altitudeMeanSeaLevel.value + 3 := by
  rw [altitudeMeanSeaLevelPiece, if_pos h, List.length_append, length_fixed_one]
  rfl

theorem length_separationPiece_of_not {location : GpsLocation}
    {locationExtended : GpsLocationExtended}
    (h : ¬ (Has location.flags gpsLocationHasAltitude ∧
      Has locationExtended.flags gpsLocationExtendedHasAltitudeMeanSeaLevel)) :
    (separationPiece location locationExtended).length = 3 := by
  rw [separationPiece, if_neg h]
  rfl

theorem length_separationPiece {location : GpsLocation}
    {locationExtended : GpsLocationExtended}
    (h : Has location.flags gpsLocationHasAltitude ∧
      Has locationExtended.flags gpsLocationExtendedHasAltitudeMeanSeaLevel) :
    (separationPiece location locationExtended).length =
      numeralWidth
        (location.altitude.value - locationExtended.altitudeMeanSeaLevel.value) + 4 := by
  rw [separationPiece, if_pos h, List.length_append, length_fixed_one]
  rfl

/-- The last sentence is the one that may not fit. -/
theorem fits_posTexts_iff (engine : LocEngData) (location : GpsLocation)
    (locationExtended : GpsLocationExtended) (generateNmea : UInt8) :
    (∀ text ∈ posTexts p engine location locationExtended generateNmea, Fits text) ↔
      AltitudeFits p engine location locationExtended generateNmea := by
  rw [posTexts, AltitudeFits]
  cases htime : p.gmtime (location.timestamp / 1000) with
  | none => exact iff_of_true (fun text htext => by cases htext) (.inr (.inl rfl))
  | some tm =>
      by_cases hgenerate : generateNmea = 0
      · have hblank : ∀ text ∈ blankSentences, Fits text := by
          intro text htext
          simp only [blankSentences, List.mem_cons, List.not_mem_nil, or_false] at htext
          obtain rfl | rfl | rfl | rfl | rfl := htext <;> decide
        simp only [if_neg (not_not.mpr hgenerate)]
        exact iff_of_true hblank (.inl hgenerate)
      · have hgpgsa := length_gpgsa_le engine locationExtended
        have hgngsa := length_gngsa_le engine locationExtended
        have hgpvtg := length_gpvtg_le engine location locationExtended
        have hgprmc := length_gprmc_le p engine tm location locationExtended
        have hchecked := length_checked_gpgga p engine tm location locationExtended
        have hbound := length_checked_gpgga_le p engine tm location locationExtended
        have hlength : (gpgga p engine tm location locationExtended).full.length =
            (gpgga p engine tm location locationExtended).checked.flatten.length +
              (separationPiece location locationExtended).length := by
          rw [Sentence.full, List.length_append]
          rfl
        simp only [if_pos hgenerate, List.forall_mem_cons, List.not_mem_nil, false_imp_iff,
          forall_const, and_true, Fits, nmeaSentenceMaxLength, hgenerate, false_or, reduceCtorEq,
          hlength]
        -- only the printed difference can take the last sentence over the limit
        by_cases hflags : Has location.flags gpsLocationHasAltitude ∧
            Has locationExtended.flags gpsLocationExtendedHasAltitudeMeanSeaLevel
        · have hmsl := length_altitudeMeanSeaLevelPiece hflags.2
          have hseparation := length_separationPiece hflags
          simp only [hflags.1, hflags.2, not_true_eq_false, false_or]
          omega
        · have hseparation := length_separationPiece_of_not hflags
          refine iff_of_true ⟨by omega, by omega, by omega, by omega, by omega⟩ ?_
          by_cases haltitude : Has location.flags gpsLocationHasAltitude
          · exact .inr (.inl fun hmsl => hflags ⟨haltitude, hmsl⟩)
          · exact .inl haltitude

/-- Whatever is reported, every text is framed and whole if and only if the difference of the
altitudes fits. -/
theorem sound_iff_altitudeFits (engine : LocEngData) (status : HaxxSvStatus p)
    (svExtended : GpsLocationExtended) (location : GpsLocation)
    (locationExtended : GpsLocationExtended) (generateNmea : UInt8) :
    ((generateSv engine status svExtended).Sound (svTexts status) ∧
      (generatePos p engine location locationExtended generateNmea).Sound
        (posTexts p engine location locationExtended generateNmea)) ↔
      AltitudeFits p engine location locationExtended generateNmea := by
  have hsound := sound_iff_fits (opened_posTexts p engine location locationExtended generateNmea)
    (sent_generatePos p engine location locationExtended generateNmea)
  rw [hsound, fits_posTexts_iff]
  exact and_iff_right (sound_generateSv engine status svExtended)

theorem remote_finite : |(2 ^ 664 : ℚ)| < 2 ^ 1024 := by
  rw [abs_of_pos (by positivity)]
  exact pow_lt_pow_right₀ (by norm_num) (by norm_num)

theorem ten_pow_le : 10 ^ 199 ≤ 2 ^ 664 := by
  calc 10 ^ 199 = (10 ^ 3) ^ 66 * 10 := by rw [← pow_mul, ← pow_succ]
    _ ≤ (2 ^ 10) ^ 66 * 2 ^ 4 :=
      Nat.mul_le_mul (Nat.pow_le_pow_left (by decide) 66) (by decide)
    _ = 2 ^ 664 := by rw [← pow_mul, ← pow_add]

/-- An altitude that takes two hundred digits is a finite `double`. -/
def remote : FiniteDouble := ⟨2 ^ 664, remote_finite⟩

/-- The report of such an altitude. -/
theorem not_sound_remote :
    let engine : LocEngData := ⟨true, .standalone, 0, 0, .zero, .zero, .zero⟩
    let location : GpsLocation :=
      { (default : GpsLocation) with flags := gpsLocationHasAltitude, altitude := remote }
    let locationExtended : GpsLocationExtended :=
      { (default : GpsLocationExtended) with
        flags := gpsLocationExtendedHasAltitudeMeanSeaLevel }
    ¬ (generatePos default engine location locationExtended 1).Sound
      (posTexts default engine location locationExtended 1) := by
  intro engine location locationExtended hsound
  have hfits := (sound_iff_fits (opened_posTexts default engine location locationExtended 1)
    (sent_generatePos default engine location locationExtended 1)).mp hsound
  have hunits : units 1 (remote.value - 0) = 2 ^ 664 * 10 := by
    have hvalue : |remote.value - 0| * 10 ^ 1 = ((2 ^ 664 * 10 : ℕ) : ℤ) := by
      have hpos : (0 : ℚ) < 2 ^ 664 := by positivity
      change |(2 : ℚ) ^ 664 - 0| * 10 ^ 1 = _
      rw [sub_zero, abs_of_pos hpos, pow_one, Int.cast_natCast, Nat.cast_mul, Nat.cast_pow]
      rfl
    rw [units, hvalue, nearest_intCast, Int.toNat_natCast]
  have hwidth : 202 ≤ numeralWidth (remote.value - 0) := by
    have hlog : 199 ≤ Nat.log 10 (units 1 (remote.value - 0) / 10) := by
      rw [hunits, Nat.mul_div_cancel _ (by decide)]
      exact Nat.le_log_of_pow_le (by decide) ten_pow_le
    exact (Nat.add_le_add_right hlog 3).trans (Nat.le_add_left _ _)
  have haltitude := (fits_posTexts_iff default engine location locationExtended 1).mp hfits
  obtain h | h | h | h | h := haltitude
  · exact absurd h (by decide)
  · cases h
  · exact h (by decide)
  · exact h (by decide)
  · have hle : numeralWidth (remote.value - 0) ≤ 194 := by
      refine le_trans ?_ h
      show numeralWidth (location.altitude.value - locationExtended.altitudeMeanSeaLevel.value) ≤ _
      omega
    omega

end Serrano.Nmea
