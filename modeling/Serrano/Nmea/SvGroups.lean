import Serrano.Nmea.SvReport

/-! # The sentences of a satellite report as groups of four

Whatever the list, the two loops send one sentence for every four satellites of a system: the
cursor leaves behind the satellites that have been listed, and the buffer has room for four.
-/

namespace Serrano.Nmea

open DecimalText

variable {p : Platform}

/-- The satellites that count. -/
def HaxxSvStatus.svs (status : HaxxSvStatus p) : List GpsSvInfo :=
  status.svList.toList.take status.numSvs.toNat

/-- Those of a system, in their order. -/
def HaxxSvStatus.svsOf (status : HaxxSvStatus p) (system : SvSystem) : List GpsSvInfo :=
  status.svs.filter system.Covers

/-- What a sentence says of a satellite. -/
def svEntry (p : Platform) (sv : GpsSvInfo) : Text :=
  svPosition p sv ++ if 0 < sv.snr.value then svStrength p sv else []

/-- A sentence about a group of satellites. -/
def gsvText (p : Platform) (system : SvSystem) (sentenceCount sentenceNumber svTotal : ℕ)
    (group : List GpsSvInfo) : Text :=
  gsvHeader system sentenceCount sentenceNumber svTotal ++ group.flatMap (svEntry p)

/-- The group of so many from its number on. -/
def quad (svs : List GpsSvInfo) (number : ℕ) : List GpsSvInfo := (svs.drop (4 * number)).take 4

/-- The sentences about the satellites of a system. -/
def gsvTexts (p : Platform) (system : SvSystem) (svs : List GpsSvInfo) : List Text :=
  if svs = [] then [blankGsv system]
  else
    (List.range ((svs.length + 3) / 4)).map fun number =>
      gsvText p system ((svs.length + 3) / 4) (number + 1) svs.length (quad svs number)

/-! ## The cursor -/

section Cursor

variable (status : HaxxSvStatus p)

/-- The cursor is at the first of the satellites that are left. -/
theorem sv_of_le {svNumber : ℕ} (hpos : 0 < svNumber) (hle : (svNumber : ℤ) ≤ status.numSvs) :
    ∃ sv, status.sv svNumber = some sv ∧
      status.svs.drop (svNumber - 1) = sv :: status.svs.drop svNumber := by
  have hmax := status.numSvs_le
  have hlt : svNumber - 1 < p.gpsMaxSvs := by omega
  have hlen : svNumber - 1 < status.svs.length := by
    rw [HaxxSvStatus.svs, List.length_take, Vector.length_toList]
    omega
  refine ⟨status.svs[svNumber - 1], ?_, ?_⟩
  · rw [HaxxSvStatus.sv, Vector.getElem?_eq_getElem hlt]
    simp only [HaxxSvStatus.svs, List.getElem_take, Vector.getElem_toList]
  · rw [List.drop_eq_getElem_cons hlen, Nat.sub_add_cancel hpos]

theorem drop_of_lt {svNumber : ℕ} (hlt : status.numSvs < svNumber) :
    status.svs.drop (svNumber - 1) = [] := by
  rw [List.drop_eq_nil_iff, HaxxSvStatus.svs, List.length_take]
  omega

/-- The satellites of a system that are left. -/
def left (system : SvSystem) (svNumber : ℕ) : List GpsSvInfo :=
  (status.svs.drop (svNumber - 1)).filter system.Covers

theorem left_one (system : SvSystem) : left status system 1 = status.svsOf system := rfl

theorem left_of_lt (system : SvSystem) {svNumber : ℕ} (hlt : status.numSvs < svNumber) :
    left status system svNumber = [] := by
  rw [left, drop_of_lt status hlt, List.filter_nil]

theorem left_of_sv {system : SvSystem} {svNumber : ℕ} {sv : GpsSvInfo}
    (h : status.svs.drop (svNumber - 1) = sv :: status.svs.drop svNumber) :
    left status system svNumber =
      if system.Covers sv then sv :: left status system (svNumber + 1)
      else left status system (svNumber + 1) := by
  rw [left, h, List.filter_cons, left, Nat.add_sub_cancel]
  by_cases hcovers : system.Covers sv
  · rw [if_pos hcovers, if_pos (decide_eq_true hcovers)]
  · rw [if_neg hcovers, if_neg (by rw [decide_eq_false hcovers]; exact Bool.false_ne_true)]

/-- No satellite is of both systems. -/
theorem not_glonass_of_gps {sv : GpsSvInfo} (h : gps.Covers sv) : ¬ glonass.Covers sv := by
  rintro ⟨hstart, -⟩
  have hend := h.2
  simp only [gps, glonass] at hstart hend
  omega

theorem countSvs_eq (svNumber gpsCount glnCount : ℕ) (hpos : 0 < svNumber) :
    countSvs status svNumber gpsCount glnCount =
      (gpsCount + (left status gps svNumber).length,
        glnCount + (left status glonass svNumber).length) := by
  fun_induction countSvs status svNumber gpsCount glnCount with
  | case1 svNumber gpsCount glnCount hle hsv =>
      obtain ⟨sv, hsome, -⟩ := sv_of_le status hpos hle
      rw [hsv] at hsome
      cases hsome
  | case2 svNumber gpsCount glnCount hle sv hsv hgps ih =>
      obtain ⟨sv', hsome, hdrop⟩ := sv_of_le status hpos hle
      cases hsv.symm.trans hsome
      rw [ih (Nat.succ_pos _), left_of_sv status hdrop, if_pos hgps, left_of_sv status hdrop,
        if_neg (not_glonass_of_gps hgps), List.length_cons]
      congr 1
      omega
  | case3 svNumber gpsCount glnCount hle sv hsv hgps hgln ih =>
      obtain ⟨sv', hsome, hdrop⟩ := sv_of_le status hpos hle
      cases hsv.symm.trans hsome
      rw [ih (Nat.succ_pos _), left_of_sv status hdrop, if_neg hgps, left_of_sv status hdrop,
        if_pos hgln, List.length_cons]
      congr 1
      omega
  | case4 svNumber gpsCount glnCount hle sv hsv hgps hgln ih =>
      obtain ⟨sv', hsome, hdrop⟩ := sv_of_le status hpos hle
      cases hsv.symm.trans hsome
      rw [ih (Nat.succ_pos _), left_of_sv status hdrop, if_neg hgps, left_of_sv status hdrop,
        if_neg hgln]
  | case5 svNumber gpsCount glnCount hlt =>
      rw [left_of_lt status gps (not_le.mp hlt), left_of_lt status glonass (not_le.mp hlt)]
      rfl

end Cursor

/-! ## Lengths -/

theorem length_integer_toInt_le (p : Platform) (q : ℚ) {width : ℕ} (hw : width ≤ 11) :
    (integer width (p.toInt q)).length ≤ 11 := by
  have hle : (integer width (p.toInt q)).length ≤ max width 11 :=
    length_integer_le (by decide) (p.natAbs_toInt_lt q)
  omega

theorem length_integer_natCast_le {width n : ℕ} (hw : width ≤ 6) (h : n < 10 ^ 6) :
    (integer width (n : ℤ)).length ≤ 6 := by
  rw [integer_natCast, List.length_leftpad]
  have hdigits := length_digits_le (by decide) h
  omega

theorem length_integer_prn {system : SvSystem} {sv : GpsSvInfo} (h : system.Covers sv) :
    (integer 2 sv.prn).length = 2 := by
  have hstart := system.prnStart_nonneg
  have hend := system.prnEnd_lt
  obtain ⟨n, hn⟩ := Int.eq_ofNat_of_zero_le (hstart.trans h.1)
  have hlt : n < 10 ^ 2 := by
    have := h.2
    omega
  rw [hn]
  exact length_integer_natCast (by decide) hlt

theorem length_svEntry_le {system : SvSystem} {sv : GpsSvInfo} (h : system.Covers sv) :
    (svEntry p sv).length ≤ 39 := by
  have hprn := length_integer_prn h
  have helevation :=
    length_integer_toInt_le p (1 / 2 + sv.elevation.value) (by decide : 2 ≤ 11)
  have hazimuth := length_integer_toInt_le p (1 / 2 + sv.azimuth.value) (by decide : 3 ≤ 11)
  have hsnr := length_integer_toInt_le p (1 / 2 + sv.snr.value) (by decide : 2 ≤ 11)
  rw [svEntry, svPosition]
  split
  next =>
    simp only [svStrength, List.length_append, List.length_cons, List.length_nil]
    omega
  next =>
    simp only [List.length_append, List.length_cons, List.length_nil]
    omega

theorem length_flatMap_svEntry_le {system : SvSystem} {group : List GpsSvInfo}
    (h : ∀ sv ∈ group, system.Covers sv) :
    (group.flatMap (svEntry p)).length ≤ 39 * group.length := by
  rw [List.flatMap_def, ← List.length_map (f := svEntry p)]
  apply length_flatten_le
  intro piece hpiece
  obtain ⟨sv, hsv, rfl⟩ := List.mem_map.mp hpiece
  exact length_svEntry_le (h sv hsv)

theorem length_gsvHeader_le (system : SvSystem) {sentenceCount sentenceNumber svTotal : ℕ}
    (hcount : sentenceCount < 10 ^ 6) (hnumber : sentenceNumber < 10 ^ 6)
    (htotal : svTotal < 10 ^ 6) :
    (gsvHeader system sentenceCount sentenceNumber svTotal).length ≤ 27 := by
  have hc := length_integer_natCast_le (by decide : 1 ≤ 6) hcount
  have hn := length_integer_natCast_le (by decide : 1 ≤ 6) hnumber
  have ht := length_integer_natCast_le (by decide : 2 ≤ 6) htotal
  have htalker := system.length_talker
  simp only [gsvHeader, List.length_append, List.length_cons]
  omega

/-! ## The loops -/

theorem formatSv_of_room {sentence : Text} {sv : GpsSvInfo}
    (h : sentence.length + (svEntry p sv).length < nmeaSentenceMaxLength) :
    formatSv p sentence sv = some (sentence ++ svEntry p sv) := by
  rw [svEntry, List.length_append] at h
  rw [formatSv, append_of_lt (by omega), svEntry]
  by_cases hsnr : 0 < sv.snr.value
  · rw [if_pos hsnr] at h
    have hroom : (sentence ++ svPosition p sv).length + (svStrength p sv).length <
        nmeaSentenceMaxLength := by
      rw [List.length_append]
      omega
    simp only [if_pos hsnr, append_of_lt hroom, List.append_assoc]
  · simp only [if_neg hsnr, List.append_nil]

/-- The inner loop lists the next satellites of the system, up to four in a sentence. -/
theorem listSvs_eq (status : HaxxSvStatus p) (system : SvSystem) (svNumber i : ℕ)
    (sentence : Text) (hpos : 0 < svNumber) (hi : i ≤ 4)
    (hroom : sentence.length + 39 * (4 - i) < nmeaSentenceMaxLength) :
    ∃ svNumber', listSvs status system svNumber i sentence =
        some (svNumber',
          sentence ++ ((left status system svNumber).take (4 - i)).flatMap (svEntry p)) ∧
      0 < svNumber' ∧
      left status system svNumber' = (left status system svNumber).drop (4 - i) := by
  -- the satellites left behind the cursor and the room for `4 - i` more are what carries over
  fun_induction listSvs status system svNumber i sentence with
  | case1 svNumber i sentence h hsv =>
      obtain ⟨sv, hsome, -⟩ := sv_of_le status hpos h.1
      rw [hsv] at hsome
      cases hsome
  | case2 svNumber i sentence h sv hsv hcovers hformat =>
      have hentry := length_svEntry_le (p := p) hcovers
      rw [formatSv_of_room (by omega)] at hformat
      cases hformat
  | case3 svNumber i sentence h sv hsv hcovers sentence' hformat ih =>
      obtain ⟨sv', hsome, hdrop⟩ := sv_of_le status hpos h.1
      cases hsv.symm.trans hsome
      have hentry := length_svEntry_le (p := p) hcovers
      rw [formatSv_of_room (by omega)] at hformat
      cases hformat
      have hsucc : 4 - i = 4 - (i + 1) + 1 := (Nat.succ_sub_succ_eq_sub 4 i ▸ Nat.succ_sub h.2)
      have hroom' : (sentence ++ svEntry p sv).length + 39 * (4 - (i + 1)) <
          nmeaSentenceMaxLength := by
        rw [List.length_append]
        omega
      obtain ⟨svNumber', heq, hpos', hleft⟩ := ih (Nat.succ_pos _) h.2 hroom'
      have hcons := (left_of_sv status hdrop).trans (if_pos hcovers)
      refine ⟨svNumber', ?_, hpos', ?_⟩
      · rw [heq, hcons, hsucc, List.take_succ_cons, List.flatMap_cons, List.append_assoc]
      · rw [hleft, hcons, hsucc, List.drop_succ_cons]
  | case4 svNumber i sentence h sv hsv hcovers ih =>
      obtain ⟨sv', hsome, hdrop⟩ := sv_of_le status hpos h.1
      cases hsv.symm.trans hsome
      rw [left_of_sv status hdrop, if_neg hcovers]
      exact ih (Nat.succ_pos _) hi hroom
  | case5 svNumber i sentence h =>
      -- either the list has ended or the sentence is full
      refine ⟨svNumber, ?_, hpos, ?_⟩
      · rcases not_and_or.mp h with hlt | hfull
        · rw [left_of_lt status system (not_le.mp hlt), List.take_nil, List.flatMap_nil,
            List.append_nil]
        · have hzero : 4 - i = 0 := by omega
          rw [hzero, List.take_zero, List.flatMap_nil, List.append_nil]
      · rcases not_and_or.mp h with hlt | hfull
        · rw [left_of_lt status system (not_le.mp hlt), List.drop_nil]
        · have hzero : 4 - i = 0 := by omega
          rw [hzero, List.drop_zero]

/-- The outer loop sends a sentence for each of the groups that are left. -/
theorem sendGsv_eq (status : HaxxSvStatus p) (system : SvSystem) {sentenceCount svTotal : ℕ}
    (hcount : sentenceCount < 10 ^ 6) (htotal : svTotal < 10 ^ 6) (number svNumber : ℕ)
    (sent : List Sent) (hpos : 0 < svNumber)
    (hleft : left status system svNumber = (status.svsOf system).drop (4 * number)) :
    sendGsv status system sentenceCount svTotal (number + 1) svNumber sent =
      .ok (sent ++ (List.range' number (sentenceCount - number)).map fun k =>
        finish (gsvText p system sentenceCount (k + 1) svTotal
          (quad (status.svsOf system) k))) := by
  -- on the sentences that are still to come
  induction hsize : sentenceCount - number generalizing number svNumber sent with
  | zero =>
      have hdone : ¬ number + 1 ≤ sentenceCount := by omega
      rw [sendGsv, if_neg hdone, List.range'_zero, List.map_nil, List.append_nil]
  | succ size ih =>
      have hmore : number + 1 ≤ sentenceCount := by omega
      have hheader := length_gsvHeader_le system hcount (hmore.trans_lt hcount) htotal
      have hfirst : ([] : Text).length +
          (gsvHeader system sentenceCount (number + 1) svTotal).length <
            nmeaSentenceMaxLength := by
        rw [List.length_nil, nmeaSentenceMaxLength]
        omega
      have hroom : ([] ++ gsvHeader system sentenceCount (number + 1) svTotal).length +
          39 * (4 - 0) < nmeaSentenceMaxLength := by
        rw [List.nil_append, nmeaSentenceMaxLength]
        omega
      obtain ⟨svNumber', heq, hpos', hleft'⟩ :=
        listSvs_eq status system svNumber 0 _ hpos (Nat.zero_le 4) hroom
      have hnext : left status system svNumber' =
          (status.svsOf system).drop (4 * (number + 1)) := by
        rw [hleft', hleft, List.drop_drop, Nat.mul_succ]
      rw [sendGsv, if_pos hmore, append_of_lt hfirst]
      simp only [heq]
      rw [ih (number + 1) svNumber' _ hpos' hnext (by omega), hleft, List.nil_append,
        List.append_assoc, List.range'_succ, List.map_cons]
      rfl

theorem length_svsOf_lt (status : HaxxSvStatus p) (system : SvSystem) :
    (status.svsOf system).length < 10 ^ 6 := by
  have hfilter : (status.svsOf system).length ≤ status.svs.length := List.length_filter_le _ _
  have htake : status.svs.length ≤ p.gpsMaxSvs := by
    rw [HaxxSvStatus.svs, List.length_take, Vector.length_toList]
    exact Nat.min_le_right _ _
  exact (hfilter.trans htake).trans_lt p.gpsMaxSvs_lt

/-- All sentences of a system are sent. -/
theorem generateGsv_eq (status : HaxxSvStatus p) (system : SvSystem) (sent : List Sent) :
    generateGsv status system (status.svsOf system).length sent =
      .ok (sent ++ (gsvTexts p system (status.svsOf system)).map finish) := by
  have htotal := length_svsOf_lt status system
  by_cases hnil : status.svsOf system = []
  · have hblank : (blankGsv system).length ≤ nmeaSentenceMaxLength - 1 := by
      have htalker := system.length_talker
      rw [blankGsv, List.length_append, List.length_cons, htalker]
      decide
    rw [generateGsv, if_pos (List.length_eq_zero_iff.mpr hnil), gsvTexts, if_pos hnil,
      List.map_singleton, stored, List.take_of_length_le hblank]
  · have hne : (status.svsOf system).length ≠ 0 := fun h => hnil (List.length_eq_zero_iff.mp h)
    have hcount : (status.svsOf system).length / 4 +
        (if (status.svsOf system).length % 4 ≠ 0 then 1 else 0) =
          ((status.svsOf system).length + 3) / 4 := by
      split <;> omega
    have hlt : ((status.svsOf system).length + 3) / 4 < 10 ^ 6 := by omega
    rw [generateGsv, if_neg hne, hcount, gsvTexts, if_neg hnil,
      sendGsv_eq status system hlt htotal 0 1 sent Nat.one_pos (left_one status system),
      Nat.sub_zero, ← List.range_eq_range', List.map_map]
    rfl

/-- What `loc_eng_nmea_generate_sv` sends. -/
theorem sent_generateSv (engine : LocEngData) (status : HaxxSvStatus p)
    (locationExtended : GpsLocationExtended) :
    (generateSv engine status locationExtended).sent =
      (gsvTexts p gps (status.svsOf gps) ++
        gsvTexts p glonass (status.svsOf glonass)).map finish := by
  have hcounts := countSvs_eq status 1 0 0 Nat.one_pos
  rw [Nat.zero_add, Nat.zero_add, left_one, left_one] at hcounts
  rw [List.map_append, generateSv, hcounts]
  simp only [generateGsv_eq, List.nil_append]
  split <;> rfl

/-! ## What is sent is whole -/

theorem star_not_mem_svEntry (sv : GpsSvInfo) : '*' ∉ svEntry p sv := by
  have hcomma : ('*' : Char) ≠ ',' := by decide
  rw [svEntry, svPosition]
  split
  next =>
    simp only [svStrength, List.mem_append, List.mem_cons, List.not_mem_nil, hcomma,
      star_not_mem_integer, or_self, not_false_eq_true]
  next =>
    simp only [List.mem_append, List.mem_cons, List.not_mem_nil, hcomma, star_not_mem_integer,
      or_self, not_false_eq_true]

theorem gsvText_eq (system : SvSystem) (sentenceCount sentenceNumber svTotal : ℕ)
    (group : List GpsSvInfo) :
    gsvText p system sentenceCount sentenceNumber svTotal group =
      '$' :: (system.talker ++ ',' :: (integer 1 sentenceCount ++ ',' ::
        (integer 1 sentenceNumber ++ ',' ::
          (integer 2 svTotal ++ group.flatMap (svEntry p))))) := by
  simp only [gsvText, gsvHeader, List.append_assoc, List.cons_append]

theorem opened_gsvText (system : SvSystem) (sentenceCount sentenceNumber svTotal : ℕ)
    (group : List GpsSvInfo) :
    Opened (gsvText p system sentenceCount sentenceNumber svTotal group) := by
  refine ⟨_, gsvText_eq .., fun hstar => ?_⟩
  have hcomma : ('*' : Char) ≠ ',' := by decide
  simp only [List.mem_append, List.mem_cons, hcomma, false_or, star_not_mem_integer] at hstar
  obtain htalker | hgroup := hstar
  · exact (system.solid_talker '*' htalker).2 rfl
  · obtain ⟨sv, -, hmem⟩ := List.mem_flatMap.mp hgroup
    exact star_not_mem_svEntry sv hmem

theorem mem_quad {svs : List GpsSvInfo} {number : ℕ} {sv : GpsSvInfo} (h : sv ∈ quad svs number) :
    sv ∈ svs :=
  List.mem_of_mem_drop (List.mem_of_mem_take h)

theorem length_quad_le (svs : List GpsSvInfo) (number : ℕ) : (quad svs number).length ≤ 4 := by
  rw [quad, List.length_take]
  exact Nat.min_le_left _ _

/-- Every sentence of a satellite report leaves room for the checksum. -/
theorem mem_gsvTexts {system : SvSystem} {svs : List GpsSvInfo} {text : Text}
    (hcovers : ∀ sv ∈ svs, system.Covers sv) (hlength : svs.length < 10 ^ 6)
    (h : text ∈ gsvTexts p system svs) :
    Opened text ∧ text.length + 5 < nmeaSentenceMaxLength := by
  rw [gsvTexts] at h
  split at h
  next =>
    obtain rfl := List.mem_singleton.mp h
    refine ⟨⟨_, rfl, fun hstar => ?_⟩, ?_⟩
    · obtain htalker | hrest := List.mem_append.mp hstar
      · exact (system.solid_talker '*' htalker).2 rfl
      · exact absurd hrest (by decide)
    · have htalker := system.length_talker
      rw [blankGsv, List.length_append, List.length_cons, htalker]
      decide
  next =>
    obtain ⟨number, hnumber, rfl⟩ := List.mem_map.mp h
    have hnumber := List.mem_range.mp hnumber
    refine ⟨opened_gsvText .., ?_⟩
    have hheader := length_gsvHeader_le system (by omega : (svs.length + 3) / 4 < 10 ^ 6)
      (by omega : number + 1 < 10 ^ 6) hlength
    have hgroup : ((quad svs number).flatMap (svEntry p)).length ≤ 39 * (quad svs number).length :=
      length_flatMap_svEntry_le fun sv hsv => hcovers sv (mem_quad hsv)
    have hquad := length_quad_le svs number
    rw [gsvText, List.length_append, nmeaSentenceMaxLength]
    omega

theorem covers_of_mem_svsOf {status : HaxxSvStatus p} {system : SvSystem} {sv : GpsSvInfo}
    (h : sv ∈ status.svsOf system) : system.Covers sv :=
  of_decide_eq_true (List.mem_filter.mp h).2

end Serrano.Nmea
