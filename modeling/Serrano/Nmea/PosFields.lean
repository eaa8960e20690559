import Serrano.Nmea.PosSentences

/-! # The fields of a position report

Each piece of a sentence is a number of fields with their commas, so that a reader finds the same
fields in the same places whatever the flags say. A reader knows a sentence by its first field.
-/

namespace Serrano.Nmea

open DecimalText

/-- Fields, each with its comma. -/
def commaed (parts : List Text) : Text := parts.flatMap fun part => part ++ [',']

theorem commaed_append (parts more : List Text) :
    commaed (parts ++ more) = commaed parts ++ commaed more := List.flatMap_append

theorem fieldsOf_commaed {parts : List Text} (h : ∀ part ∈ parts, Solid part) (rest : Text) :
    fieldsOf (commaed parts ++ rest) = parts ++ fieldsOf rest := by
  induction parts with
  | nil => rfl
  | cons part parts ih =>
      have htext : commaed (part :: parts) ++ rest = part ++ ',' :: (commaed parts ++ rest) := by
        simp [commaed]
      rw [htext, fieldsOf_append (h part List.mem_cons_self),
        ih fun other hother => h other (List.mem_cons_of_mem part hother), List.cons_append]

/-- Where the buffer ends does not matter for the fields in front. -/
theorem fields_finish_stored {parts : List Text} (h : ∀ part ∈ parts, Solid part)
    (hlength : (commaed parts).length < nmeaSentenceMaxLength - 1) (rest : Text) :
    ∃ more, fields (finish (stored nmeaSentenceMaxLength ('$' :: (commaed parts ++ rest)))).text =
      parts ++ more := by
  have hcut : stored nmeaSentenceMaxLength ('$' :: (commaed parts ++ rest)) =
      '$' :: (commaed parts ++ rest.take (198 - (commaed parts).length)) := by
    rw [stored, nmeaSentenceMaxLength, List.take_succ_cons, List.take_append,
      List.take_of_length_le (Nat.le_of_lt_succ hlength)]
  rw [hcut, finish, putChecksum, fields, List.cons_append, List.tail_cons, List.append_assoc,
    fieldsOf_commaed h]
  exact ⟨_, rfl⟩

/-! ## Pieces -/

section Pieces

variable (p : Platform)

theorem solid_timeText (tm : Tm) : Solid (timeText tm) :=
  ((solid_integer 2 _).append (solid_integer 2 _)).append (solid_integer 2 _)

/-- Latitude, hemisphere, longitude and hemisphere. -/
def positionFields (location : GpsLocation) : List Text :=
  if Has location.flags gpsLocationHasLatLong then
    [angleText p 2 (northing location.latitude), [latHemisphere location.latitude.value],
      angleText p 3 (easting location.longitude), [lonHemisphere location.longitude.value]]
  else [[], [], [], []]

theorem positionPiece_eq (location : GpsLocation) :
    positionPiece p location = commaed (positionFields p location) := by
  rw [positionPiece, positionFields]
  split
  next => simp [commaed]
  next => rfl

theorem solid_positionFields (location : GpsLocation) :
    ∀ part ∈ positionFields p location, Solid part := by
  have hlat : Solid [latHemisphere location.latitude.value] := by
    rw [latHemisphere]
    split <;> decide
  have hlon : Solid [lonHemisphere location.longitude.value] := by
    rw [lonHemisphere]
    split <;> decide
  intro part hpart
  rw [positionFields] at hpart
  split at hpart
  next =>
    simp only [List.mem_cons, List.not_mem_nil, or_false] at hpart
    obtain rfl | rfl | rfl | rfl := hpart
    · exact solid_angleText p 2 _
    · exact hlat
    · exact solid_angleText p 3 _
    · exact hlon
  next =>
    simp only [List.mem_cons, List.not_mem_nil, or_false, or_self] at hpart
    exact hpart ▸ solid_nil

/-- A value that is there when its flag is set. -/
def optionalField (flags flag : UInt16) (value : ℚ) : Text :=
  if Has flags flag then fixed 0 1 value else []

theorem solid_optionalField (flags flag : UInt16) (value : ℚ) :
    Solid (optionalField flags flag value) := by
  rw [optionalField]
  split
  next => exact solid_fixed 0 1 value
  next => exact solid_nil

theorem rmcSpeedPiece_eq (location : GpsLocation) :
    rmcSpeedPiece location =
      commaed [optionalField location.flags gpsLocationHasSpeed (speedKnots location)] := by
  rw [rmcSpeedPiece, optionalField]
  split <;> simp [commaed]

theorem bearingPiece_eq (location : GpsLocation) :
    bearingPiece location =
      commaed [optionalField location.flags gpsLocationHasBearing location.bearing.value] := by
  rw [bearingPiece, optionalField]
  split <;> simp [commaed]

/-- Magnetic variation and its direction. -/
def variationFields (locationExtended : GpsLocationExtended) : List Text :=
  if Has locationExtended.flags gpsLocationExtendedHasMagDev then
    [fixed 0 1 |locationExtended.magneticDeviation.value|,
      [if locationExtended.magneticDeviation.value < 0 then 'W' else 'E']]
  else [[], []]

theorem variationPiece_eq (locationExtended : GpsLocationExtended) :
    variationPiece locationExtended = commaed (variationFields locationExtended) := by
  rw [variationPiece, variationFields]
  split
  next =>
    simp only [magnitude_eq_abs]
    simp [commaed]
  next => rfl

theorem solid_variationFields (locationExtended : GpsLocationExtended) :
    ∀ part ∈ variationFields locationExtended, Solid part := by
  intro part hpart
  rw [variationFields] at hpart
  split at hpart
  next =>
    simp only [List.mem_cons, List.not_mem_nil, or_false] at hpart
    obtain rfl | rfl := hpart
    · exact solid_fixed 0 1 _
    · split <;> decide
  next =>
    simp only [List.mem_cons, List.not_mem_nil, or_false, or_self] at hpart
    exact hpart ▸ solid_nil

def dateText (tm : Tm) : Text :=
  precise 2 tm.tmMday ++ precise 2 (tm.tmMon + 1) ++ precise 2 (tm.tmYear.toInt.tmod 100)

theorem datePiece_eq (tm : Tm) : datePiece tm = commaed [dateText tm] := by
  simp [datePiece, dateText, commaed]

theorem solid_dateText (tm : Tm) : Solid (dateText tm) :=
  ((solid_precise 2 _).append (solid_precise 2 _)).append (solid_precise 2 _)

/-- The true and the magnetic track are printed from the same value. -/
def trackFields (location : GpsLocation) : List Text :=
  [optionalField location.flags gpsLocationHasBearing location.bearing.value, ['T'],
    optionalField location.flags gpsLocationHasBearing location.bearing.value, ['M']]

theorem trackPiece_eq (location : GpsLocation) (locationExtended : GpsLocationExtended) :
    trackPiece location locationExtended =
      '$' :: commaed ("GPVTG".toList :: trackFields location) := by
  rw [trackPiece, trackFields, optionalField]
  split
  next =>
    have hname : "$GPVTG,".toList = '$' :: ("GPVTG".toList ++ [',']) := rfl
    have htrue : ",T,".toList = [',', 'T', ','] := rfl
    have hmagnetic : ",M,".toList = [',', 'M', ','] := rfl
    rw [hname, htrue, hmagnetic]
    simp [commaed]
  next => rfl

theorem solid_trackFields (location : GpsLocation) :
    ∀ part ∈ "GPVTG".toList :: trackFields location, Solid part := by
  intro part hpart
  simp only [trackFields, List.mem_cons, List.not_mem_nil, or_false] at hpart
  obtain rfl | rfl | rfl | rfl | rfl := hpart
  · decide
  · exact solid_optionalField _ _ _
  · decide
  · exact solid_optionalField _ _ _
  · decide

/-! ## Sentences -/

/-- The fields of the RMC sentence up to the mode. -/
def rmcFields (tm : Tm) (location : GpsLocation) (locationExtended : GpsLocationExtended) :
    List Text :=
  ["GPRMC".toList, timeText tm, ['A']] ++ positionFields p location ++
    [optionalField location.flags gpsLocationHasSpeed (speedKnots location),
      optionalField location.flags gpsLocationHasBearing location.bearing.value, dateText tm] ++
    variationFields locationExtended

/-- The fields of the GGA sentence up to the position. -/
def ggaFields (tm : Tm) (location : GpsLocation) : List Text :=
  ["GPGGA".toList, timeText tm] ++ positionFields p location

/-- The fields of the VTG sentence up to the tracks. -/
def vtgFields (location : GpsLocation) : List Text := "GPVTG".toList :: trackFields location

theorem full_gprmc (engine : LocEngData) (tm : Tm) (location : GpsLocation)
    (locationExtended : GpsLocationExtended) :
    (gprmc p engine tm location locationExtended).full =
      '$' :: (commaed (rmcFields p tm location locationExtended) ++ modePiece engine location) := by
  have hname : "$GPRMC,".toList = '$' :: ("GPRMC".toList ++ [',']) := rfl
  have hvalid : ",A,".toList = [',', 'A', ','] := rfl
  simp only [Sentence.full, gprmc, positionPiece_eq, rmcSpeedPiece_eq, bearingPiece_eq,
    datePiece_eq, variationPiece_eq, rmcFields, commaed_append, hname, hvalid]
  simp [commaed]

theorem full_gpgga (engine : LocEngData) (tm : Tm) (location : GpsLocation)
    (locationExtended : GpsLocationExtended) :
    ∃ rest, (gpgga p engine tm location locationExtended).full =
      '$' :: (commaed (ggaFields p tm location) ++ rest) := by
  have hname : "$GPGGA,".toList = '$' :: ("GPGGA".toList ++ [',']) := rfl
  refine ⟨qualityPiece engine location locationExtended ++
    (altitudeMeanSeaLevelPiece locationExtended ++ separationPiece location locationExtended), ?_⟩
  simp only [Sentence.full, gpgga, positionPiece_eq, ggaFields, commaed_append, hname]
  simp [commaed]

theorem full_gpvtg (engine : LocEngData) (location : GpsLocation)
    (locationExtended : GpsLocationExtended) :
    (gpvtg engine location locationExtended).full =
      '$' :: (commaed (vtgFields location) ++
        (vtgSpeedPiece location ++ modePiece engine location)) := by
  simp [Sentence.full, gpvtg, trackPiece_eq, vtgFields]

theorem full_gsa (talker dop : Text) (used : List ℕ) :
    ∃ rest, (gsa talker used dop).full = '$' :: (commaed [talker] ++ rest) := by
  have hmode : ",A,".toList = [',', 'A', ','] := rfl
  refine ⟨'A' :: ',' :: fixType used.length :: ',' ::
    (((List.range 12).map (usedPiece used)).flatten ++ dop), ?_⟩
  simp only [Sentence.full, gsa, hmode]
  simp [commaed]

theorem solid_rmcFields (tm : Tm) (location : GpsLocation)
    (locationExtended : GpsLocationExtended) :
    ∀ part ∈ rmcFields p tm location locationExtended, Solid part := by
  intro part hpart
  simp only [rmcFields, List.mem_append, List.mem_cons, List.not_mem_nil, or_false] at hpart
  obtain (((rfl | rfl | rfl) | hpart) | rfl | rfl | rfl) | hpart := hpart
  · decide
  · exact solid_timeText tm
  · decide
  · exact solid_positionFields p location part hpart
  · exact solid_optionalField _ _ _
  · exact solid_optionalField _ _ _
  · exact solid_dateText tm
  · exact solid_variationFields locationExtended part hpart

theorem solid_ggaFields (tm : Tm) (location : GpsLocation) :
    ∀ part ∈ ggaFields p tm location, Solid part := by
  intro part hpart
  simp only [ggaFields, List.mem_append, List.mem_cons, List.not_mem_nil, or_false] at hpart
  obtain (rfl | rfl) | hpart := hpart
  · decide
  · exact solid_timeText tm
  · exact solid_positionFields p location part hpart

theorem length_commaed_rmcFields (tm : Tm) (location : GpsLocation)
    (locationExtended : GpsLocationExtended) :
    (commaed (rmcFields p tm location locationExtended)).length < nmeaSentenceMaxLength - 1 := by
  have hle := length_gprmc_le p ⟨true, .standalone, 0, 0, .zero, .zero, .zero⟩ tm location
    locationExtended
  rw [full_gprmc, List.length_cons, List.length_append] at hle
  rw [nmeaSentenceMaxLength]
  omega

theorem length_commaed_ggaFields (tm : Tm) (location : GpsLocation) :
    (commaed (ggaFields p tm location)).length < nmeaSentenceMaxLength - 1 := by
  have htime := length_timeText tm
  have hposition := length_positionPiece p location
  have hwidth := positionWidth_le p location
  rw [positionPiece_eq] at hposition
  rw [ggaFields, commaed_append, List.length_append, hposition, nmeaSentenceMaxLength]
  simp only [commaed, List.flatMap_cons, List.flatMap_nil, List.length_append, List.length_cons,
    List.length_nil, String.length_toList, htime]
  have hname : "GPGGA".length = 5 := rfl
  omega

/-- The position takes four fields, whether it is there or not. -/
theorem drop_rmcFields (tm : Tm) (location : GpsLocation)
    (locationExtended : GpsLocationExtended) (more : List Text) :
    (rmcFields p tm location locationExtended ++ more).drop 10 =
      variationFields locationExtended ++ more := by
  rw [rmcFields, positionFields]
  split <;> rfl

end Pieces

/-! ## Reports -/

/-- The sentences that a reader knows by this name. -/
def named (name : Text) (sent : List Sent) : List Sent :=
  sent.filter fun s => decide ((fields s.text).head? = some name)

/-- A sentence in the buffer, with the checksum that fits. -/
def buffered (text : Text) : Sent := finish (stored nmeaSentenceMaxLength text)

theorem head?_fields_buffered {name : Text} (hsolid : Solid name) (hlength : name.length = 5)
    {text : Text} (h : ∃ rest, text = '$' :: (commaed [name] ++ rest)) :
    (fields (buffered text).text).head? = some name := by
  obtain ⟨rest, rfl⟩ := h
  have hsolid' : ∀ part ∈ [name], Solid part := fun part hpart =>
    List.mem_singleton.mp hpart ▸ hsolid
  have hshort : (commaed [name]).length < nmeaSentenceMaxLength - 1 := by
    simp [commaed, hlength, nmeaSentenceMaxLength]
  obtain ⟨more, hfields⟩ := fields_finish_stored hsolid' hshort rest
  rw [buffered, hfields]
  rfl

theorem exists_commaed_singleton {name : Text} {parts : List Text} {rest text : Text}
    (h : text = '$' :: (commaed (name :: parts) ++ rest)) :
    ∃ rest, text = '$' :: (commaed [name] ++ rest) := by
  refine ⟨commaed parts ++ rest, h.trans ?_⟩
  rw [← List.append_assoc, ← commaed_append, List.singleton_append]

/-- A report of a final fix has one sentence of each name. -/
theorem named_generatePos (p : Platform) (engine : LocEngData) {location : GpsLocation}
    (locationExtended : GpsLocationExtended) {generateNmea : UInt8} {tm : Tm}
    (htime : p.gmtime (location.timestamp / 1000) = some tm) (hgenerate : generateNmea ≠ 0) :
    let sent := (generatePos p engine location locationExtended generateNmea).sent
    named "GPVTG".toList sent = [buffered (gpvtg engine location locationExtended).full] ∧
      named "GPRMC".toList sent =
        [buffered (gprmc p engine tm location locationExtended).full] ∧
      named "GPGGA".toList sent =
        [buffered (gpgga p engine tm location locationExtended).full] := by
  have hgpgsa := head?_fields_buffered (by decide : Solid "GPGSA".toList) rfl
    (full_gsa "GPGSA".toList (dopPiece engine locationExtended) (svUsedList engine))
  have hgngsa := head?_fields_buffered (by decide : Solid "GNGSA".toList) rfl
    (full_gsa "GNGSA".toList (dopPiece engine locationExtended) (gloUsedList engine))
  have hgpvtg := head?_fields_buffered (by decide : Solid "GPVTG".toList) rfl
    (exists_commaed_singleton (full_gpvtg engine location locationExtended))
  have hgprmc := head?_fields_buffered (by decide : Solid "GPRMC".toList) rfl
    (exists_commaed_singleton (full_gprmc p engine tm location locationExtended))
  obtain ⟨rest, hfull⟩ := full_gpgga p engine tm location locationExtended
  have hgpgga := head?_fields_buffered (by decide : Solid "GPGGA".toList) rfl
    (exists_commaed_singleton hfull)
  intro sent
  have hsent : sent = [buffered (gpgsa engine locationExtended).full,
      buffered (gngsa engine locationExtended).full,
      buffered (gpvtg engine location locationExtended).full,
      buffered (gprmc p engine tm location locationExtended).full,
      buffered (gpgga p engine tm location locationExtended).full] := by
    have heq := sent_generatePos p engine location locationExtended generateNmea
    rw [posTexts, htime] at heq
    simp only [if_pos hgenerate] at heq
    exact heq
  rw [hsent]
  refine ⟨?_, ?_, ?_⟩
  all_goals
    simp only [named, List.filter_cons, List.filter_nil, gpgsa, gngsa, hgpgsa, hgngsa, hgpvtg,
      hgprmc, hgpgga]
    rfl

end Serrano.Nmea
