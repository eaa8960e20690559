import Serrano.Nmea.SvGroups

/-! # What a satellite report says to a reader

The sentences are read back: a reader finds, in the sentences of a system, their numbers from one
to the stated total, the number of satellites in view, and every satellite of the system once.
-/

namespace Serrano.Nmea

open DecimalText

variable {p : Platform}

/-! ## Reading -/

/-- What a sentence says of a satellite. -/
structure Listed where
  prn : ℕ
  elevation : ℕ
  azimuth : ℕ
  snr : Option ℕ
  deriving DecidableEq

/-- What a sentence about satellites in view says. -/
structure Gsv where
  talker : Text
  sentenceCount : ℕ
  sentenceNumber : ℕ
  svTotal : ℕ
  svs : List Listed
  deriving DecidableEq

/-- The satellites of a sentence: four fields for each. A sentence without satellites ends in an
empty field. -/
def readSvs : List Text → Option (List Listed)
  | [] => some []
  | [last] => if last = [] then some [] else none
  | prn :: elevation :: azimuth :: snr :: rest => do
      let prn ← number? prn
      let elevation ← number? elevation
      let azimuth ← number? azimuth
      let svs ← readSvs rest
      if snr = [] then some (⟨prn, elevation, azimuth, none⟩ :: svs)
      else do
        let snr ← number? snr
        some (⟨prn, elevation, azimuth, some snr⟩ :: svs)
  | _ => none

def readGsv (text : Text) : Option Gsv :=
  match fields text with
  | talker :: sentenceCount :: sentenceNumber :: svTotal :: rest => do
      let sentenceCount ← number? sentenceCount
      let sentenceNumber ← number? sentenceNumber
      let svTotal ← number? svTotal
      let svs ← readSvs rest
      some ⟨talker, sentenceCount, sentenceNumber, svTotal, svs⟩
  | _ => none

/-! ## Statement -/

/-- The nearest whole number. -/
def rounded (value : FiniteFloat) : ℕ := (round value.value).toNat

/-- What is to be said of a satellite. -/
def listed (sv : GpsSvInfo) : Listed where
  prn := sv.prn.toNat
  elevation := rounded sv.elevation
  azimuth := rounded sv.azimuth
  snr := if 0 < sv.snr.value then some (rounded sv.snr) else none

/-- The sentences list the satellites in their order, four in each but the last. -/
def Lists (talker : Text) (svs : List GpsSvInfo) (sent : List Sent) : Prop :=
  ∃ groups : List (List GpsSvInfo),
    groups.length = max 1 ((svs.length + 3) / 4) ∧
    groups.flatten = svs ∧
    (∀ group ∈ groups, group.length ≤ 4) ∧
    (∀ group ∈ groups.dropLast, group.length = 4) ∧
    (∀ s ∈ sent, s.Framed) ∧
    sent.map (fun s => readGsv s.text) = groups.mapIdx fun k group =>
      some ⟨talker, groups.length, k + 1, svs.length, group.map listed⟩

/-- The values that are measured are in the ranges of what they measure. -/
structure GpsSvInfo.InRange (sv : GpsSvInfo) : Prop where
  elevation_nonneg : 0 ≤ sv.elevation.value
  elevation_le : sv.elevation.value ≤ 90
  azimuth_nonneg : 0 ≤ sv.azimuth.value
  azimuth_le : sv.azimuth.value ≤ 360
  snr_lt : sv.snr.value < 100

/-! ## Reading back -/

/-- The fields of a satellite. -/
def svFields (p : Platform) (sv : GpsSvInfo) : List Text :=
  [integer 2 sv.prn, integer 2 (p.toInt (1 / 2 + sv.elevation.value)),
    integer 3 (p.toInt (1 / 2 + sv.azimuth.value)),
    if 0 < sv.snr.value then svStrength p sv else []]

theorem svEntry_append (sv : GpsSvInfo) (rest : Text) :
    svEntry p sv ++ rest =
      ',' :: (integer 2 sv.prn ++ ',' :: (integer 2 (p.toInt (1 / 2 + sv.elevation.value)) ++
        ',' :: (integer 3 (p.toInt (1 / 2 + sv.azimuth.value)) ++ ',' ::
          ((if 0 < sv.snr.value then svStrength p sv else []) ++ rest)))) := by
  simp only [svEntry, svPosition, List.append_assoc, List.cons_append, List.nil_append]

/-- Every satellite begins with a comma, which ends the field before it. -/
theorem fieldsOf_flatMap_svEntry {before : Text} (hsolid : Solid before)
    (group : List GpsSvInfo) (rest : Text) :
    fieldsOf (before ++ (group.flatMap (svEntry p) ++ '*' :: rest)) =
      before :: group.flatMap (svFields p) := by
  induction group generalizing before with
  | nil => exact fieldsOf_append_star hsolid rest
  | cons sv group ih =>
      have hstrength : Solid (if 0 < sv.snr.value then svStrength p sv else []) := by
        split
        next => exact solid_integer 2 _
        next => exact solid_nil
      rw [List.flatMap_cons, List.append_assoc, svEntry_append, fieldsOf_append hsolid,
        fieldsOf_append (solid_integer 2 _), fieldsOf_append (solid_integer 2 _),
        fieldsOf_append (solid_integer 3 _), ih hstrength]
      rfl

/-- The half that is added makes the conversion round. -/
theorem toInt_half_add {q : ℚ} (h : 0 ≤ q) (hle : q ≤ 360) :
    p.toInt (1 / 2 + q) = ((round q).toNat : ℕ) := by
  have hround : round q = ⌊1 / 2 + q⌋ := by rw [round_eq, add_comm]
  have hnonneg : 0 ≤ ⌊1 / 2 + q⌋ := Int.floor_nonneg.mpr (by linarith)
  rw [p.toInt_of_nonneg (by linarith) (by linarith), hround, Int.toNat_of_nonneg hnonneg]

theorem number?_measured (width : ℕ) {q : ℚ} (h : 0 ≤ q) (hle : q ≤ 360) :
    number? (integer width (p.toInt (1 / 2 + q))) = some (round q).toNat := by
  rw [toInt_half_add h hle, number?_integer]

theorem integer_ne_nil (width : ℕ) (n : ℕ) : integer width n ≠ [] := by
  rw [integer_natCast]
  exact List.append_ne_nil_of_right_ne_nil _ Nat.toDigits_ne_nil

theorem readSvs_svFields {system : SvSystem} {group : List GpsSvInfo}
    (hcovers : ∀ sv ∈ group, system.Covers sv) (hrange : ∀ sv ∈ group, sv.InRange) :
    readSvs (group.flatMap (svFields p)) = some (group.map listed) := by
  induction group with
  | nil => rfl
  | cons sv group ih =>
      have hsv := hrange sv List.mem_cons_self
      have hnonneg : 0 ≤ sv.prn :=
        system.prnStart_nonneg.trans (hcovers sv List.mem_cons_self).1
      have hprn : number? (integer 2 sv.prn) = some sv.prn.toNat := by
        conv_lhs => rw [← Int.toNat_of_nonneg hnonneg, number?_integer]
      have helevation := number?_measured (p := p) 2 hsv.elevation_nonneg
        (hsv.elevation_le.trans (by norm_num))
      have hazimuth := number?_measured (p := p) 3 hsv.azimuth_nonneg hsv.azimuth_le
      have hgroup := ih (fun other hother => hcovers other (List.mem_cons_of_mem sv hother))
        fun other hother => hrange other (List.mem_cons_of_mem sv hother)
      rw [List.flatMap_cons, svFields, List.cons_append, List.cons_append, List.cons_append,
        List.cons_append, List.nil_append, readSvs, hprn, helevation, hazimuth, hgroup,
        List.map_cons, listed]
      by_cases hsnr : 0 < sv.snr.value
      · have hle : sv.snr.value ≤ 360 := hsv.snr_lt.le.trans (by norm_num)
        have hstrength : number? (svStrength p sv) = some (rounded sv.snr) :=
          number?_measured 2 hsnr.le hle
        have hne : svStrength p sv ≠ [] := by
          rw [svStrength, toInt_half_add hsnr.le hle]
          exact integer_ne_nil 2 _
        simp only [if_pos hsnr, if_neg hne, hstrength]
        rfl
      · simp only [if_neg hsnr]
        rfl

theorem readGsv_complete_gsvText (system : SvSystem) (sentenceCount sentenceNumber svTotal : ℕ)
    {group : List GpsSvInfo} (hcovers : ∀ sv ∈ group, system.Covers sv)
    (hrange : ∀ sv ∈ group, sv.InRange) :
    readGsv (complete (gsvText p system sentenceCount sentenceNumber svTotal group)) =
      some ⟨system.talker, sentenceCount, sentenceNumber, svTotal, group.map listed⟩ := by
  have hfields : fields (complete (gsvText p system sentenceCount sentenceNumber svTotal group)) =
      system.talker :: integer 1 sentenceCount :: integer 1 sentenceNumber ::
        integer 2 svTotal :: group.flatMap (svFields p) := by
    simp only [fields, complete, trailer, gsvText_eq, List.cons_append, List.tail_cons,
      List.append_assoc]
    rw [fieldsOf_append system.solid_talker, fieldsOf_append (solid_integer 1 _),
      fieldsOf_append (solid_integer 1 _), fieldsOf_flatMap_svEntry (solid_integer 2 _)]
  simp only [readGsv, hfields, number?_integer, readSvs_svFields hcovers hrange]
  rfl

theorem readGsv_complete_blankGsv (system : SvSystem) :
    readGsv (complete (blankGsv system)) = some ⟨system.talker, 1, 1, 0, []⟩ := by
  have hfields : fields (complete (blankGsv system)) =
      [system.talker, ['1'], ['1'], ['0'], []] := by
    simp only [fields, complete, trailer, blankGsv, List.cons_append, List.tail_cons,
      List.append_assoc]
    exact fieldsOf_append system.solid_talker _
  simp only [readGsv, hfields]
  rfl

/-! ## The groups together -/

theorem flatten_quads (svs : List GpsSvInfo) (count : ℕ) :
    ((List.range count).map (quad svs)).flatten = svs.take (4 * count) := by
  induction count with
  | zero => rfl
  | succ count ih =>
      rw [List.range_succ, List.map_append, List.flatten_append, ih, List.map_singleton,
        List.flatten_singleton, quad, Nat.mul_succ, List.take_add]

theorem length_quad {svs : List GpsSvInfo} {number : ℕ} (h : 4 * (number + 1) ≤ svs.length) :
    (quad svs number).length = 4 := by
  rw [quad, List.length_take, List.length_drop]
  omega

/-- The sentences of a system list its satellites. -/
theorem lists_gsvTexts (system : SvSystem) {svs : List GpsSvInfo}
    (hcovers : ∀ sv ∈ svs, system.Covers sv) (hlength : svs.length < 10 ^ 6)
    (hrange : ∀ sv ∈ svs, sv.InRange) :
    Lists system.talker svs ((gsvTexts p system svs).map finish) := by
  have hframed : ∀ s ∈ (gsvTexts p system svs).map finish, s.Framed := by
    intro s hs
    obtain ⟨text, htext, rfl⟩ := List.mem_map.mp hs
    obtain ⟨hopened, hroom⟩ := mem_gsvTexts hcovers hlength htext
    exact (framed_finish_iff hopened).mpr hroom
  have hwhole : ∀ text ∈ gsvTexts p system svs, (finish text).text = complete text := by
    intro text htext
    obtain ⟨hopened, hroom⟩ := mem_gsvTexts hcovers hlength htext
    exact text_finish hopened.ne_nil hroom
  by_cases hnil : svs = []
  -- the blank sentence is one group of none
  · subst hnil
    have htexts : gsvTexts p system [] = [blankGsv system] := if_pos rfl
    rw [htexts] at hframed hwhole ⊢
    refine ⟨[[]], rfl, rfl, ?_, ?_, hframed, ?_⟩
    · intro group hgroup
      rw [List.mem_singleton.mp hgroup]
      exact Nat.zero_le 4
    · intro group hgroup
      cases hgroup
    · rw [List.map_singleton, List.map_singleton, hwhole _ List.mem_cons_self,
        readGsv_complete_blankGsv]
      rfl
  · have htexts : gsvTexts p system svs = (List.range ((svs.length + 3) / 4)).map fun number =>
        gsvText p system ((svs.length + 3) / 4) (number + 1) svs.length (quad svs number) :=
      if_neg hnil
    have hpos : 0 < svs.length := List.length_pos_iff.mpr hnil
    have hlen : ((List.range ((svs.length + 3) / 4)).map (quad svs)).length =
        (svs.length + 3) / 4 := by
      rw [List.length_map, List.length_range]
    refine ⟨(List.range ((svs.length + 3) / 4)).map (quad svs), ?_, ?_, ?_, ?_, hframed, ?_⟩
    · rw [hlen]
      omega
    · rw [flatten_quads, List.take_of_length_le (by omega)]
    · intro group hgroup
      obtain ⟨number, -, rfl⟩ := List.mem_map.mp hgroup
      exact length_quad_le svs number
    · intro group hgroup
      rw [← List.map_dropLast] at hgroup
      obtain ⟨number, hnumber, rfl⟩ := List.mem_map.mp hgroup
      rw [List.dropLast_eq_take, List.length_range, List.take_range, List.mem_range] at hnumber
      exact length_quad (by omega)
    · rw [hlen]
      apply List.ext_getElem
      · rw [List.length_map, List.length_map, htexts, List.length_map, List.length_mapIdx,
          List.length_map]
      · intro k hk hk'
        have hmem : gsvText p system ((svs.length + 3) / 4) (k + 1) svs.length (quad svs k) ∈
            gsvTexts p system svs := by
          rw [List.length_mapIdx, hlen] at hk'
          rw [htexts]
          exact List.mem_map.mpr ⟨k, List.mem_range.mpr hk', rfl⟩
        have hquad : ∀ sv ∈ quad svs k, sv ∈ svs := fun _ => mem_quad
        have hread := readGsv_complete_gsvText (p := p) system ((svs.length + 3) / 4) (k + 1)
          svs.length (fun sv hsv => hcovers sv (hquad sv hsv))
          fun sv hsv => hrange sv (hquad sv hsv)
        simp only [htexts, List.getElem_map, List.getElem_range, List.getElem_mapIdx,
          hwhole _ hmem, hread]

/-- Both systems are listed, one after the other, and nothing else is sent. -/
theorem lists_generateSv (engine : LocEngData) (status : HaxxSvStatus p)
    (locationExtended : GpsLocationExtended) (hrange : ∀ sv ∈ status.svs, sv.InRange) :
    ∃ gpsSent glnSent, (generateSv engine status locationExtended).sent = gpsSent ++ glnSent ∧
      Lists "GPGSV".toList (status.svsOf gps) gpsSent ∧
      Lists "GLGSV".toList (status.svsOf glonass) glnSent := by
  have hlists : ∀ system : SvSystem, Lists system.talker (status.svsOf system)
      ((gsvTexts p system (status.svsOf system)).map finish) := fun system =>
    lists_gsvTexts system (fun _ => covers_of_mem_svsOf) (length_svsOf_lt status system)
      fun sv hsv => hrange sv (List.mem_filter.mp hsv).1
  refine ⟨_, _, ?_, hlists gps, hlists glonass⟩
  rw [sent_generateSv, List.map_append]

/-- Five satellites of which every one is GPS. -/
theorem lists_generateSv_five :
    let sv : GpsSvInfo := ⟨7, .ofNat 30 (by decide), .ofNat 45 (by decide), .ofNat 90 (by decide)⟩
    let status : HaxxSvStatus default := ⟨5, Vector.replicate 32 sv, 64, 0, by decide⟩
    let engine : LocEngData := ⟨true, .standalone, 0, 0, .zero, .zero, .zero⟩
    ∃ gpsSent glnSent, (generateSv engine status default).sent = gpsSent ++ glnSent ∧
      Lists "GPGSV".toList (status.svsOf gps) gpsSent ∧
      Lists "GLGSV".toList (status.svsOf glonass) glnSent := by
  intro sv status engine
  refine lists_generateSv engine status default fun sv' hsv => ?_
  have heq : sv' = sv := by
    have hmem : sv' ∈ (Vector.replicate 32 sv).toList := List.mem_of_mem_take hsv
    rw [Vector.toList_replicate] at hmem
    exact List.eq_of_mem_replicate hmem
  subst heq
  constructor <;> norm_num [sv, FiniteFloat.ofNat]

end Serrano.Nmea
