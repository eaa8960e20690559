import Serrano.Nmea.Report

/-! # Sentences of a position report

`loc_eng_nmea_generate_pos` sends five sentences for a final fix and five blank ones otherwise.
A sentence that is given up ends the report.
-/

namespace Serrano.Nmea

open DecimalText

/-! ## Satellites and dilution of precision -/

/-- The numbers of the satellites in a mask, from the bit of `i` on. -/
def usedList (offset mask i count : ℕ) : List ℕ :=
  if 0 < mask ∧ count < 32 then
    if mask % 2 = 1 then (i + offset) :: usedList offset (mask / 2) (i + 1) (count + 1)
    else usedList offset (mask / 2) (i + 1) count
  else []
termination_by mask

def svUsedList (engine : LocEngData) : List ℕ := usedList 0 engine.gpsUsedMask.toNat 1 0

def glonassSvIdOffset : ℕ := 64

def gloUsedList (engine : LocEngData) : List ℕ :=
  usedList glonassSvIdOffset engine.gloUsedMask.toNat 1 0

/-- No fix, a fix in two dimensions or one in three. -/
def fixType (usedCount : ℕ) : Char :=
  if usedCount = 0 then '1' else if usedCount ≤ 3 then '2' else '3'

/-- Only the first twelve go in the sentence: `"%02d,"` or `","`. -/
def usedPiece (used : List ℕ) (i : ℕ) : Text :=
  match used[i]? with
  | some id => integer 2 id ++ [',']
  | none => [',']

/-- The cached values are there when all of them are positive. -/
def LocEngData.DopCached (engine : LocEngData) : Prop :=
  0 < engine.pdop.value ∧ 0 < engine.hdop.value ∧ 0 < engine.vdop.value

instance (engine : LocEngData) : Decidable engine.DopCached := by
  unfold LocEngData.DopCached
  infer_instance

/-- `"%.1f,%.1f,%.1f"` of the three dilutions, or `",,"`. -/
def dopPiece (engine : LocEngData) (locationExtended : GpsLocationExtended) : Text :=
  if Has locationExtended.flags gpsLocationExtendedHasDop then
    fixed 0 1 locationExtended.pdop.value ++ ',' :: fixed 0 1 locationExtended.hdop.value ++
      ',' :: fixed 0 1 locationExtended.vdop.value
  else if engine.DopCached then
    fixed 0 1 engine.pdop.value ++ ',' :: fixed 0 1 engine.hdop.value ++
      ',' :: fixed 0 1 engine.vdop.value
  else ",,".toList

/-- `"$GPGSA,A,%c,"`, twelve satellites and the dilution, whose length is not checked. -/
def gsa (talker : Text) (used : List ℕ) (dop : Text) : Sentence where
  checked := ('$' :: talker ++ ",A,".toList ++ [fixType used.length, ',']) ::
    (List.range 12).map (usedPiece used)
  last := dop

def gpgsa (engine : LocEngData) (locationExtended : GpsLocationExtended) : Sentence :=
  gsa "GPGSA".toList (svUsedList engine) (dopPiece engine locationExtended)

def gngsa (engine : LocEngData) (locationExtended : GpsLocationExtended) : Sentence :=
  gsa "GNGSA".toList (gloUsedList engine) (dopPiece engine locationExtended)

/-! ## Track and speed -/

/-- No fix, an autonomous one or a differential one. -/
def modePiece (engine : LocEngData) (location : GpsLocation) : Text :=
  if ¬ Has location.flags gpsLocationHasLatLong then ['N']
  else if engine.mode = .standalone then ['A']
  else ['D']

def speedKnots (location : GpsLocation) : ℚ := location.speed.value * (3600 / 1852)
def speedKmPerHour (location : GpsLocation) : ℚ := location.speed.value * (36 / 10)

/-- `"$GPVTG,%.1lf,T,%.1lf,M,"` of the true and the magnetic track. -/
def trackPiece (location : GpsLocation) (locationExtended : GpsLocationExtended) : Text :=
  if Has location.flags gpsLocationHasBearing then
    let magTrack := location.bearing.value
    -- The block for a deviation declares a `magTrack` of its own, which ends with the block.
    let _magTrack :=
      if Has locationExtended.flags gpsLocationExtendedHasMagDev then
        let magTrack := location.bearing.value - locationExtended.magneticDeviation.value
        if magTrack < 0 then magTrack + 360
        else if 360 < magTrack then magTrack - 360 else magTrack
      else magTrack
    "$GPVTG,".toList ++ fixed 0 1 location.bearing.value ++ ",T,".toList ++ fixed 0 1 magTrack ++
      ",M,".toList
  else "$GPVTG,,T,,M,".toList

def vtgSpeedPiece (location : GpsLocation) : Text :=
  if Has location.flags gpsLocationHasSpeed then
    fixed 0 1 (speedKnots location) ++ ",N,".toList ++ fixed 0 1 (speedKmPerHour location) ++
      ",K,".toList
  else ",N,,K,".toList

def gpvtg (engine : LocEngData) (location : GpsLocation)
    (locationExtended : GpsLocationExtended) : Sentence where
  checked := [trackPiece location locationExtended, vtgSpeedPiece location]
  last := modePiece engine location

/-! ## Time, place and date -/

variable (p : Platform)

/-- `"%02d%02d%02d"` of the time of the day. -/
def timeText (tm : Tm) : Text := integer 2 tm.tmHour ++ integer 2 tm.tmMin ++ integer 2 tm.tmSec

/-- Degrees and minutes: `"%02d%09.6lf"` or `"%03d%09.6lf"`. The minutes have the sign of the
angle, that of a zero too. -/
def angleText (width : ℕ) (angle : SignedDouble) : Text :=
  integer width (p.toUInt8 ⌊angle.value⌋) ++
    signed angle.negative 9 (pointed 6 (units 6 (fmod (angle.value * 60) 60)))

def latHemisphere (latitude : ℚ) : Char := if 0 < latitude then 'N' else 'S'
def lonHemisphere (longitude : ℚ) : Char := if longitude < 0 then 'W' else 'E'

/-- What is printed of a latitude. One of zero is multiplied too. -/
def northing (latitude : SignedDouble) : SignedDouble :=
  if 0 < latitude.value then latitude else latitude.negated

def easting (longitude : SignedDouble) : SignedDouble :=
  if longitude.value < 0 then longitude.negated else longitude

/-- The same in two sentences: `"%02d%09.6lf,%c,%03d%09.6lf,%c,"`. -/
def positionPiece (location : GpsLocation) : Text :=
  if Has location.flags gpsLocationHasLatLong then
    angleText p 2 (northing location.latitude) ++
      ',' :: latHemisphere location.latitude.value :: ',' ::
        angleText p 3 (easting location.longitude) ++
          [',', lonHemisphere location.longitude.value, ',']
  else ",,,,".toList

def rmcSpeedPiece (location : GpsLocation) : Text :=
  if Has location.flags gpsLocationHasSpeed then fixed 0 1 (speedKnots location) ++ [',']
  else [',']

def bearingPiece (location : GpsLocation) : Text :=
  if Has location.flags gpsLocationHasBearing then fixed 0 1 location.bearing.value ++ [',']
  else [',']

/-- `"%2.2d%2.2d%2.2d,"` of day, month and year. -/
def datePiece (tm : Tm) : Text :=
  precise 2 tm.tmMday ++ precise 2 (tm.tmMon + 1) ++ precise 2 (tm.tmYear.toInt.tmod 100) ++ [',']

/-- `"%.1lf,%c,"` of the magnetic variation and its direction. -/
def variationPiece (locationExtended : GpsLocationExtended) : Text :=
  if Has locationExtended.flags gpsLocationExtendedHasMagDev then
    let deviation := locationExtended.magneticDeviation.value
    let magneticVariation := if deviation < 0 then deviation * -1 else deviation
    let direction := if deviation < 0 then 'W' else 'E'
    fixed 0 1 magneticVariation ++ [',', direction, ',']
  else ",,".toList

def gprmc (engine : LocEngData) (tm : Tm) (location : GpsLocation)
    (locationExtended : GpsLocationExtended) : Sentence where
  checked :=
    ["$GPRMC,".toList ++ timeText tm ++ ",A,".toList, positionPiece p location,
      rmcSpeedPiece location, bearingPiece location, datePiece tm, variationPiece locationExtended]
  last := modePiece engine location

/-! ## Quality and altitude -/

/-- No fix, a fix or a differential one. -/
def gpsQuality (engine : LocEngData) (location : GpsLocation) : Char :=
  if ¬ Has location.flags gpsLocationHasLatLong then '0'
  else if engine.mode = .standalone then '1'
  else '2'

/-- `"%c,%02d,%.1f,"` or `"%c,%02d,,"`. -/
def qualityPiece (engine : LocEngData) (location : GpsLocation)
    (locationExtended : GpsLocationExtended) : Text :=
  gpsQuality engine location :: ',' :: integer 2 (svUsedList engine).length ++ ',' ::
    if Has locationExtended.flags gpsLocationExtendedHasDop then
      fixed 0 1 locationExtended.hdop.value ++ [',']
    else if engine.DopCached then fixed 0 1 engine.hdop.value ++ [',']
    else [',']

def altitudeMeanSeaLevelPiece (locationExtended : GpsLocationExtended) : Text :=
  if Has locationExtended.flags gpsLocationExtendedHasAltitudeMeanSeaLevel then
    fixed 0 1 locationExtended.altitudeMeanSeaLevel.value ++ ",M,".toList
  else ",,".toList

/-- The difference is one of a `double`, and the length of its text is not checked. -/
def separationPiece (location : GpsLocation) (locationExtended : GpsLocationExtended) : Text :=
  if Has location.flags gpsLocationHasAltitude ∧
      Has locationExtended.flags gpsLocationExtendedHasAltitudeMeanSeaLevel then
    fixed 0 1 (location.altitude.value - locationExtended.altitudeMeanSeaLevel.value) ++
      ",M,,".toList
  else ",,,".toList

def gpgga (engine : LocEngData) (tm : Tm) (location : GpsLocation)
    (locationExtended : GpsLocationExtended) : Sentence where
  checked :=
    ["$GPGGA,".toList ++ timeText tm ++ [','], positionPiece p location,
      qualityPiece engine location locationExtended, altitudeMeanSeaLevelPiece locationExtended]
  last := separationPiece location locationExtended

/-! ## The report -/

/-- The sentences that are sent for a fix that is not final. -/
def blankSentences : List Text :=
  ["$GPGSA,A,1,,,,,,,,,,,,,,,".toList, "$GNGSA,A,1,,,,,,,,,,,,,,,".toList,
    "$GPVTG,,T,,M,,N,,K,N".toList, "$GPRMC,,V,,,,,,,,,,N".toList,
    "$GPGGA,,,,,,0,,,,,,,,".toList]

/-- The cached dilution is not used again. -/
def clearDop (engine : LocEngData) : LocEngData :=
  { engine with pdop := .zero, hdop := .zero, vdop := .zero }

/-- `loc_eng_nmea_generate_pos`. The masks are cleared when they have been read, the dilution
at the end only. -/
def generatePos (engine : LocEngData) (location : GpsLocation)
    (locationExtended : GpsLocationExtended) (generateNmea : UInt8) : Run :=
  match p.gmtime (location.timestamp / 1000) with
  | none => ⟨engine, []⟩
  | some tm =>
      if generateNmea ≠ 0 then
        let gpsCleared := { engine with gpsUsedMask := 0 }
        match (gpgsa engine locationExtended).format with
        | none => ⟨gpsCleared, []⟩
        | some gpgsa =>
            let cleared := { gpsCleared with gloUsedMask := 0 }
            match (gngsa engine locationExtended).format with
            | none => ⟨cleared, [gpgsa].map finish⟩
            | some gngsa =>
                match (gpvtg engine location locationExtended).format with
                | none => ⟨cleared, [gpgsa, gngsa].map finish⟩
                | some gpvtg =>
                    match (gprmc p engine tm location locationExtended).format with
                    | none => ⟨cleared, [gpgsa, gngsa, gpvtg].map finish⟩
                    | some gprmc =>
                        match (gpgga p engine tm location locationExtended).format with
                        | none => ⟨cleared, [gpgsa, gngsa, gpvtg, gprmc].map finish⟩
                        | some gpgga =>
                            ⟨clearDop cleared, [gpgsa, gngsa, gpvtg, gprmc, gpgga].map finish⟩
      else
        ⟨clearDop engine, blankSentences.map fun text => finish (stored nmeaSentenceMaxLength text)⟩

end Serrano.Nmea
