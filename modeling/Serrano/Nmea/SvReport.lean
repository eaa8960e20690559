import Serrano.Nmea.Report

/-! # Sentences of a satellite report

`loc_eng_nmea_generate_sv` goes through the list of satellites once for each of the two systems.
The loop over the sentences and the loop over the satellites of a sentence share one cursor.
-/

namespace Serrano.Nmea

open DecimalText

/-- A system with sentences of its own, whose satellites have numbers of at most two digits. -/
structure SvSystem where
  talker : Text
  prnStart : ℤ
  prnEnd : ℤ
  length_talker : talker.length = 5
  solid_talker : Solid talker
  prnStart_nonneg : 0 ≤ prnStart
  prnEnd_lt : prnEnd < 100

/-- `GPS_PRN_START` and `GPS_PRN_END`. -/
def gps : SvSystem where
  talker := "GPGSV".toList
  prnStart := 1
  prnEnd := 32
  length_talker := rfl
  solid_talker := by decide
  prnStart_nonneg := by omega
  prnEnd_lt := by omega

/-- `GLONASS_PRN_START` and `GLONASS_PRN_END`. -/
def glonass : SvSystem where
  talker := "GLGSV".toList
  prnStart := 65
  prnEnd := 96
  length_talker := rfl
  solid_talker := by decide
  prnStart_nonneg := by omega
  prnEnd_lt := by omega

def SvSystem.Covers (system : SvSystem) (sv : GpsSvInfo) : Prop :=
  system.prnStart ≤ sv.prn ∧ sv.prn ≤ system.prnEnd

instance (system : SvSystem) : DecidablePred system.Covers := fun sv => by
  unfold SvSystem.Covers
  infer_instance

variable {p : Platform}

/-- `svStatus.sv_list[svNumber - 1]`. -/
def HaxxSvStatus.sv (status : HaxxSvStatus p) (svNumber : ℕ) : Option GpsSvInfo :=
  status.svList[svNumber - 1]?

/-- The numbers of satellites of the two systems, from the cursor on. -/
def countSvs (status : HaxxSvStatus p) (svNumber gpsCount glnCount : ℕ) : ℕ × ℕ :=
  if svNumber ≤ status.numSvs then
    match status.sv svNumber with
    | none => (gpsCount, glnCount)
    | some sv =>
        if gps.Covers sv then countSvs status (svNumber + 1) (gpsCount + 1) glnCount
        else if glonass.Covers sv then countSvs status (svNumber + 1) gpsCount (glnCount + 1)
        else countSvs status (svNumber + 1) gpsCount glnCount
  else (gpsCount, glnCount)
termination_by (status.numSvs + 1 - svNumber).toNat

/-- Number, elevation and azimuth of a satellite: `",%02d,%02d,%03d,"`. -/
def svPosition (p : Platform) (sv : GpsSvInfo) : Text :=
  ',' :: integer 2 sv.prn ++ ',' :: integer 2 (p.toInt (1 / 2 + sv.elevation.value)) ++
    ',' :: integer 3 (p.toInt (1 / 2 + sv.azimuth.value)) ++ [',']

/-- Its signal strength: `"%02d"`. -/
def svStrength (p : Platform) (sv : GpsSvInfo) : Text := integer 2 (p.toInt (1 / 2 + sv.snr.value))

def formatSv (p : Platform) (sentence : Text) (sv : GpsSvInfo) : Option Text :=
  match append sentence (svPosition p sv) with
  | none => none
  | some sentence =>
      if 0 < sv.snr.value then append sentence (svStrength p sv) else some sentence

/-- The inner loop, with the number of satellites that the sentence has already. -/
def listSvs (status : HaxxSvStatus p) (system : SvSystem) (svNumber i : ℕ) (sentence : Text) :
    Option (ℕ × Text) :=
  if svNumber ≤ status.numSvs ∧ i < 4 then
    match status.sv svNumber with
    | none => none
    | some sv =>
        if system.Covers sv then
          match formatSv p sentence sv with
          | none => none
          | some sentence => listSvs status system (svNumber + 1) (i + 1) sentence
        else listSvs status system (svNumber + 1) i sentence
  else some (svNumber, sentence)
termination_by (status.numSvs + 1 - svNumber).toNat

/-- How a sentence starts: `"$GPGSV,%d,%d,%02d"`. -/
def gsvHeader (system : SvSystem) (sentenceCount sentenceNumber svTotal : ℕ) : Text :=
  '$' :: system.talker ++ ',' :: integer 1 sentenceCount ++ ',' :: integer 1 sentenceNumber ++
    ',' :: integer 2 svTotal

/-- The outer loop, with what has been sent so far. Without room for a piece all of
`loc_eng_nmea_generate_sv` is given up. -/
def sendGsv (status : HaxxSvStatus p) (system : SvSystem) (sentenceCount svTotal : ℕ)
    (sentenceNumber svNumber : ℕ) (sent : List Sent) : Except (List Sent) (List Sent) :=
  if sentenceNumber ≤ sentenceCount then
    match append [] (gsvHeader system sentenceCount sentenceNumber svTotal) with
    | none => .error sent
    | some sentence =>
        match listSvs status system svNumber 0 sentence with
        | none => .error sent
        | some (svNumber, sentence) =>
            sendGsv status system sentenceCount svTotal (sentenceNumber + 1) svNumber
              (sent ++ [finish sentence])
  else .ok sent
termination_by sentenceCount + 1 - sentenceNumber

/-- The sentence of a system without satellites: `"$GPGSV,1,1,0,"`. -/
def blankGsv (system : SvSystem) : Text := '$' :: system.talker ++ ",1,1,0,".toList

/-- All sentences of a system. -/
def generateGsv (status : HaxxSvStatus p) (system : SvSystem) (svTotal : ℕ) (sent : List Sent) :
    Except (List Sent) (List Sent) :=
  if svTotal = 0 then .ok (sent ++ [finish (stored nmeaSentenceMaxLength (blankGsv system))])
  else
    let sentenceCount := svTotal / 4 + if svTotal % 4 ≠ 0 then 1 else 0
    sendGsv status system sentenceCount svTotal 1 1 sent

/-- `loc_eng_nmea_generate_sv`. -/
def generateSv (engine : LocEngData) (status : HaxxSvStatus p)
    (locationExtended : GpsLocationExtended) : Run :=
  let counts := countSvs status 1 0 0
  match generateGsv status gps counts.1 [] with
  | .error sent => ⟨engine, sent⟩
  | .ok sent =>
      match generateGsv status glonass counts.2 sent with
      | .error sent => ⟨engine, sent⟩
      | .ok sent =>
          let masked := { engine with
            gpsUsedMask := status.gpsUsedInFixMask
            gloUsedMask := status.gloUsedInFixMask }
          if Has locationExtended.flags gpsLocationExtendedHasDop then
            ⟨{ masked with
                pdop := locationExtended.pdop
                hdop := locationExtended.hdop
                vdop := locationExtended.vdop }, sent⟩
          else ⟨{ masked with pdop := .zero, hdop := .zero, vdop := .zero }, sent⟩

end Serrano.Nmea
