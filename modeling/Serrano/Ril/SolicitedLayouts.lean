import Mathlib.Algebra.Ring.Int.Defs
import Mathlib.Tactic.SplitIfs
import Serrano.Ril.SolicitedDecoders

/-! # Layouts of solicited responses

A layout says which buffers hold a value. A decoder is faithful to its layout on a
response when it reads nothing outside it, reports a response without a value as
invalid, and passes on a value without such a report. Each decoder is faithful on the
responses that its checks tell apart, and on no others.
-/

namespace Serrano.Ril

namespace VendorPointer

/-- A buffer that consists of these words. -/
def Consists (response : VendorPointer) (ws : List UInt32) : Prop :=
  ∃ bytes lt, response = .buffer bytes lt ∧ words bytes = ws ∧ bytes.length = 4 * ws.length

/-- A buffer without a byte. -/
def Empty (response : VendorPointer) : Prop := ∃ lt, response = .buffer [] lt

/-- The length that comes with the response. -/
def responseLen : VendorPointer → Nat
  | .null responseLen => responseLen
  | .buffer bytes _ => bytes.length

/-- The words that can be read. -/
def readable : VendorPointer → List UInt32
  | .null _ => []
  | .buffer bytes _ => words bytes

end VendorPointer

section

variable (strings : UInt32 → String)

def HoldsInt (response : VendorPointer) (ret : Int32) : Prop :=
  ∃ first rest, response.Consists (first :: rest) ∧ ret = first.toInt32

/-- No response stands for -1. -/
def HoldsIntOrEmpty (response : VendorPointer) (ret : Int32) : Prop :=
  (response = .null 0 ∧ ret = -1) ∨ HoldsInt response ret

/-- The cause with what the vendor says about it, or an `int`. -/
def HoldsCause (response : VendorPointer) (info : LastCallFailCauseInfo) : Prop :=
  (∃ cause_code vendor_cause, response.Consists [cause_code, vendor_cause] ∧
      info = ⟨cause_code.toInt32, convertCharPtrToHidlString strings vendor_cause⟩) ∨
    ∃ first rest, response.Consists (first :: rest) ∧ rest.length ≠ 1 ∧
      info = { causeCode := first.toInt32 }

/-- No response stands for no data call. The first of several data calls counts. -/
def HoldsDataCall (response : VendorPointer) (result : SetupDataCallResult) : Prop :=
  ((∃ responseLen, response = .null responseLen) ∧ result = noDataCall) ∨
    ∃ ws, response.Consists ws ∧ ws ≠ [] ∧
      ((11 ∣ ws.length ∧ ∃ r, RilDataCallResponseV11.record.load ws = some r ∧
          result = r.convertRilDataCallToHal strings) ∨
        (¬ 11 ∣ ws.length ∧ 10 ∣ ws.length ∧
          ∃ r, RilDataCallResponseV9.record.load ws = some r ∧
            result = r.convertRilDataCallToHal strings) ∨
        (¬ 11 ∣ ws.length ∧ ¬ 10 ∣ ws.length ∧ 9 ∣ ws.length ∧
          ∃ r, RilDataCallResponseV6.record.load ws = some r ∧
            result = r.convertRilDataCallToHal strings))

/-- The applications are those of the array, no more than it has room for. -/
def HoldsCardStatus (response : VendorPointer) (cardStatus : CardStatus) : Prop :=
  ∃ ws p_cur, ∃ applications : List RilAppStatus, response.Consists ws ∧
    4 * ws.length = sizeofRilCardStatusV6 ∧
    loadCardStatus ws = some p_cur ∧ p_cur.IndicesBelow ∧
    p_cur.num_applications.toInt = (applications.length : Int) ∧
    applications.length ≤ rilCardMaxApps ∧
    (∀ i, i < applications.length →
      loadAppStatus (ws.drop (6 + sizeofRilAppStatus * i)) = applications[i]?) ∧
    cardStatus = p_cur.convert (applications.map (RilAppStatus.convert strings))

/-- So many strings for each operator, of which the first four are read. -/
inductive OperatorStrings (qanRespStrings : Int) : List UInt32 → List OperatorInfo → Prop
  | nil : OperatorStrings qanRespStrings [] []
  | cons (alphaLong alphaShort operatorNumeric str : UInt32) (more resp : List UInt32)
      (status : OperatorStatus) (networks : List OperatorInfo)
      (hlength : (more.length : Int) + 4 = qanRespStrings) (hstr : str ≠ 0)
      (hstatus : convertOperatorStatusToInt (strings str) = some status)
      (hrest : OperatorStrings qanRespStrings resp networks) :
      OperatorStrings qanRespStrings
        (alphaLong :: alphaShort :: operatorNumeric :: str :: (more ++ resp))
        ({ alphaLong := convertCharPtrToHidlString strings alphaLong
           alphaShort := convertCharPtrToHidlString strings alphaShort
           operatorNumeric := convertCharPtrToHidlString strings operatorNumeric
           status := status } :: networks)

/-- No response stands for no operators. -/
def HoldsNetworks (qanRespStrings : Int32) (response : VendorPointer)
    (networks : List OperatorInfo) : Prop :=
  (response = .null 0 ∧ networks = []) ∨
    ∃ ws, response.Consists ws ∧ OperatorStrings strings qanRespStrings.toInt ws networks

/-- Every fourth string of an operator is there and is not `NULL`. -/
def StatusesPresent (k : Nat) (resp : List UInt32) : Prop :=
  ∀ i, k ∣ i → i < resp.length → ∃ str, resp[i + 3]? = some str ∧ str ≠ 0

/-- Nothing outside of the response is read; a value that it holds is passed on, and a response
that does not hold one is reported. -/
def FaithfulTo {α : Type} (holds : α → Prop)
    (run : Int32 → Int32 → Int32 → Option (RadioResponseInfo × α)) : Prop :=
  ∀ responseType serial e, ∃ info value, run responseType serial e = some (info, value) ∧
    (e = rilESuccess → (∃ v, holds v) →
      info = populateResponseInfo serial responseType e ∧ holds value) ∧
    (e = rilESuccess → (¬ ∃ v, holds v) → info.error = .invalidResponse)

inductive SolicitedDecoder
  | responseInt
  | responseIntOrEmpty
  | getLastCallFailCauseResponse
  | setupDataCallResponse
  | getIccCardStatusResponse
  | getAvailableNetworksResponse (qanRespStrings : Int32)

namespace SolicitedDecoder

/-- A decoder is faithful to the layout of its responses. -/
def Faithful (response : VendorPointer) : SolicitedDecoder → Prop
  | responseInt =>
      FaithfulTo (HoldsInt response) (Ril.responseInt · · · response)
  | responseIntOrEmpty =>
      FaithfulTo (HoldsIntOrEmpty response) (Ril.responseIntOrEmpty · · · response)
  | getLastCallFailCauseResponse =>
      FaithfulTo (HoldsCause strings response)
        (Ril.getLastCallFailCauseResponse strings · · · response)
  | setupDataCallResponse =>
      FaithfulTo (HoldsDataCall strings response)
        (Ril.setupDataCallResponse strings · · · response)
  | getIccCardStatusResponse =>
      FaithfulTo (HoldsCardStatus strings response)
        (Ril.getIccCardStatusResponse strings · · · response)
  | getAvailableNetworksResponse qanRespStrings =>
      FaithfulTo (HoldsNetworks strings qanRespStrings response)
        (Ril.getAvailableNetworksResponse strings · · · qanRespStrings response)

/-- The responses that the checks of a decoder tell apart. -/
def Checked (response : VendorPointer) : SolicitedDecoder → Prop
  | responseInt => ¬ response.Empty
  | responseIntOrEmpty => ¬ response.Empty
  | setupDataCallResponse => ¬ response.Empty
  | getLastCallFailCauseResponse =>
      response.responseLen = 0 ∨ response.responseLen = 8 ∨
        ∃ responseLen, response = .null responseLen
  | getIccCardStatusResponse =>
      response.responseLen = sizeofRilCardStatusV6 →
        ∀ p_cur, loadCardStatus response.readable = some p_cur → p_cur.IndicesBelow →
          0 ≤ p_cur.num_applications.toInt ∧ p_cur.num_applications.toInt ≤ rilCardMaxApps
  | getAvailableNetworksResponse qanRespStrings =>
      (∃ responseLen, response = .null responseLen ∧ responseLen ≠ 0) ∨
        sizeofOperator qanRespStrings ≠ 0 ∧
          (sizeofOperator qanRespStrings ∣ response.responseLen → response.readable ≠ [] →
            0 < qanRespStrings.toInt ∧ 4 * qanRespStrings.toInt ∣ response.responseLen ∧
              StatusesPresent qanRespStrings.toInt.toNat response.readable)

end SolicitedDecoder

variable {strings}

theorem exists_cons_of_lt {α : Type} {n : Nat} {ws : List α} (h : n < ws.length) :
    ∃ w rest, ws = w :: rest ∧ n ≤ rest.length := by
  obtain _ | ⟨w, rest⟩ := ws
  · exact absurd h (Nat.not_lt_zero n)
  · exact ⟨w, rest, rfl, Nat.le_of_lt_succ h⟩

/-- What is left over is not a word. -/
theorem length_words (bytes : List UInt8) : (words bytes).length = bytes.length / 4 := by
  induction bytes using words.induct with
  | case1 b0 b1 b2 b3 rest ih =>
      have hfour : (b0 :: b1 :: b2 :: b3 :: rest).length = rest.length + 4 := rfl
      rw [words, List.length_cons, ih, hfour, Nat.add_div_right _ (by decide)]
  | case2 bytes hshort =>
      have hlt : bytes.length < 4 := by
        by_contra hfour
        obtain ⟨b0, rest0, rfl, h0⟩ := exists_cons_of_lt (Nat.not_lt.mp hfour)
        obtain ⟨b1, rest1, rfl, h1⟩ := exists_cons_of_lt h0
        obtain ⟨b2, rest2, rfl, h2⟩ := exists_cons_of_lt h1
        obtain ⟨b3, rest3, rfl, -⟩ := exists_cons_of_lt h2
        exact hshort b0 b1 b2 b3 rest3 rfl
      rw [words.eq_2 _ hshort, List.length_nil, Nat.div_eq_of_lt hlt]

namespace VendorPointer

variable {bytes : List UInt8} {lt : bytes.length < 2 ^ 32} {ws : List UInt32}

theorem consists_buffer :
    (buffer bytes lt).Consists ws ↔ 4 ∣ bytes.length ∧ words bytes = ws := by
  constructor
  · rintro ⟨bytes', lt', heq, rfl, hlength⟩
    cases heq
    exact ⟨⟨_, hlength⟩, rfl⟩
  · rintro ⟨hfour, rfl⟩
    exact ⟨bytes, lt, rfl, rfl, by rw [length_words]; omega⟩

theorem not_consists_null (responseLen : Nat) : ¬ (null responseLen).Consists ws := by
  rintro ⟨bytes, lt, heq, -⟩
  cases heq

theorem empty_buffer : (buffer bytes lt).Empty ↔ bytes.length = 0 := by
  constructor
  · rintro ⟨lt', heq⟩
    cases heq
    rfl
  · intro hlength
    obtain rfl := List.length_eq_zero_iff.mp hlength
    exact ⟨lt, rfl⟩

theorem not_empty_null (responseLen : Nat) : ¬ (null responseLen).Empty := by
  rintro ⟨lt, heq⟩
  cases heq

end VendorPointer

section

variable {α : Type} {holds : α → Prop}
  {run : Int32 → Int32 → Int32 → Option (RadioResponseInfo × α)} {v : α}

theorem faithfulTo_of_passed (v : α)
    (hrun : ∀ responseType serial e,
      run responseType serial e = some (populateResponseInfo serial responseType e, v))
    (hv : holds v) : FaithfulTo holds run := by
  intro responseType serial e
  refine ⟨_, v, hrun responseType serial e, fun _ _ => ⟨rfl, hv⟩, fun _ hno => ?_⟩
  exact absurd ⟨v, hv⟩ hno

theorem faithfulTo_of_reported (v : α)
    (hrun : ∀ responseType serial e,
      run responseType serial e =
        some ((populateResponseInfo serial responseType e).invalid e, v))
    (hno : ∀ w, ¬ holds w) : FaithfulTo holds run := by
  intro responseType serial e
  refine ⟨_, v, hrun responseType serial e, ?_, ?_⟩
  · rintro - ⟨w, hw⟩
    exact absurd hw (hno w)
  · intro hsuccess _
    rw [RadioResponseInfo.invalid, if_pos hsuccess]

theorem not_faithfulTo_of_fault (hrun : run 0 0 rilESuccess = none) : ¬ FaithfulTo holds run := by
  intro h
  obtain ⟨info, value, hsome, -⟩ := h 0 0 rilESuccess
  rw [hrun] at hsome
  cases hsome

/-- What is passed on by a faithful decoder is in the response. -/
theorem FaithfulTo.holds_of_passed (h : FaithfulTo holds run)
    (hrun : run 0 0 rilESuccess = some (populateResponseInfo 0 0 rilESuccess, v)) : holds v := by
  obtain ⟨info, value, hsome, hpassed, hreported⟩ := h 0 0 rilESuccess
  rw [hrun] at hsome
  cases hsome
  by_cases hany : ∃ w, holds w
  · exact (hpassed rfl hany).2
  · cases hreported rfl hany

theorem FaithfulTo.not_holds_of_reported (h : FaithfulTo holds run)
    (hrun : run 0 0 rilESuccess =
      some ((populateResponseInfo 0 0 rilESuccess).invalid rilESuccess, v)) (w : α) :
    ¬ holds w := by
  intro hw
  obtain ⟨info, value, hsome, hpassed, -⟩ := h 0 0 rilESuccess
  rw [hrun] at hsome
  cases hsome
  cases (hpassed rfl ⟨w, hw⟩).1

end

/-! Words that are there can be loaded. -/

theorem loadV6_of_length {ws : List UInt32} (h : 9 ≤ ws.length) :
    ∃ r, RilDataCallResponseV6.record.load ws = some r := by
  obtain ⟨_, ws1, rfl, h1⟩ := exists_cons_of_lt h
  obtain ⟨_, ws2, rfl, h2⟩ := exists_cons_of_lt h1
  obtain ⟨_, ws3, rfl, h3⟩ := exists_cons_of_lt h2
  obtain ⟨_, ws4, rfl, h4⟩ := exists_cons_of_lt h3
  obtain ⟨_, ws5, rfl, h5⟩ := exists_cons_of_lt h4
  obtain ⟨_, ws6, rfl, h6⟩ := exists_cons_of_lt h5
  obtain ⟨_, ws7, rfl, h7⟩ := exists_cons_of_lt h6
  obtain ⟨_, ws8, rfl, h8⟩ := exists_cons_of_lt h7
  obtain ⟨_, ws9, rfl, -⟩ := exists_cons_of_lt h8
  exact ⟨_, rfl⟩

theorem loadV9_of_length {ws : List UInt32} (h : 10 ≤ ws.length) :
    ∃ r, RilDataCallResponseV9.record.load ws = some r := by
  obtain ⟨r, hr⟩ := loadV6_of_length (Nat.le_of_succ_le h)
  refine ⟨⟨r, ws[9]⟩, ?_⟩
  change (RilDataCallResponseV6.record.load ws).bind _ = _
  rw [hr, Option.bind_some]
  change (ws[9]?).map _ = _
  rw [List.getElem?_eq_getElem h, Option.map_some]

theorem loadV11_of_length {ws : List UInt32} (h : 11 ≤ ws.length) :
    ∃ r, RilDataCallResponseV11.record.load ws = some r := by
  obtain ⟨r, hr⟩ := loadV9_of_length (Nat.le_of_succ_le h)
  refine ⟨⟨r, ws[10].toInt32⟩, ?_⟩
  change (RilDataCallResponseV9.record.load ws).bind _ = _
  rw [hr, Option.bind_some]
  change (ws[10]?).map _ = _
  rw [List.getElem?_eq_getElem h, Option.map_some]

/-! One decoder after the other. -/

section

variable {bytes : List UInt8} {lt : bytes.length < 2 ^ 32}

theorem words_eq_nil (h : 4 ∣ bytes.length) : words bytes = [] ↔ bytes.length = 0 := by
  rw [← List.length_eq_zero_iff, length_words]
  omega

theorem faithful_responseInt (response : VendorPointer) :
    FaithfulTo (HoldsInt response) (responseInt · · · response) ↔ ¬ response.Empty := by
  cases response with
  | null responseLen =>
      refine iff_of_true (faithfulTo_of_reported _ (fun _ _ _ => rfl) ?_)
        (VendorPointer.not_empty_null responseLen)
      rintro w ⟨first, rest, hconsists, -⟩
      exact VendorPointer.not_consists_null responseLen hconsists
  | buffer bytes lt =>
      rw [VendorPointer.empty_buffer]
      by_cases hfour : 4 ∣ bytes.length
      · have hrun : ∀ responseType serial e, responseInt responseType serial e (.buffer bytes lt) =
            (firstInt (words bytes)).map
              fun ret => (populateResponseInfo serial responseType e, ret) := by
          intro responseType serial e
          exact if_neg (not_not.mpr (Nat.mod_eq_zero_of_dvd hfour))
        rw [← words_eq_nil hfour]
        cases hwords : words bytes with
        | nil =>
            refine iff_of_false (not_faithfulTo_of_fault ?_) (not_not.mpr rfl)
            rw [hrun, hwords]
            rfl
        | cons first rest =>
            refine iff_of_true (faithfulTo_of_passed first.toInt32
              (fun responseType serial e => ?_) ?_) (List.cons_ne_nil first rest)
            · rw [hrun, hwords]
              rfl
            · exact ⟨first, rest, VendorPointer.consists_buffer.mpr ⟨hfour, hwords⟩, rfl⟩
      · refine iff_of_true (faithfulTo_of_reported (-1) (fun responseType serial e => ?_) ?_)
          (by omega)
        · exact if_pos fun hzero => hfour (Nat.dvd_of_mod_eq_zero hzero)
        · rintro w ⟨first, rest, hconsists, -⟩
          exact hfour (VendorPointer.consists_buffer.mp hconsists).1

/-- The two decoders of an `int` differ in what they make of `NULL` only. -/
theorem faithful_responseIntOrEmpty (response : VendorPointer) :
    FaithfulTo (HoldsIntOrEmpty response) (responseIntOrEmpty · · · response) ↔
      ¬ response.Empty := by
  cases response with
  | null responseLen =>
      refine iff_of_true ?_ (VendorPointer.not_empty_null responseLen)
      by_cases hzero : responseLen = 0
      · subst hzero
        exact faithfulTo_of_passed _ (fun _ _ _ => rfl) (.inl ⟨rfl, rfl⟩)
      · refine faithfulTo_of_reported _ (fun _ _ _ => if_neg hzero) ?_
        rintro w (⟨heq, -⟩ | ⟨first, rest, hconsists, -⟩)
        · cases heq
          exact hzero rfl
        · exact VendorPointer.not_consists_null responseLen hconsists
  | buffer bytes lt =>
      have hholds : HoldsIntOrEmpty (.buffer bytes lt) = HoldsInt (.buffer bytes lt) := by
        funext ret
        refine propext ⟨?_, .inr⟩
        rintro (⟨heq, -⟩ | h)
        · cases heq
        · exact h
      rw [hholds, ← faithful_responseInt]
      exact Iff.rfl

theorem faithful_getLastCallFailCauseResponse (response : VendorPointer) :
    FaithfulTo (HoldsCause strings response)
        (getLastCallFailCauseResponse strings · · · response) ↔
      SolicitedDecoder.getLastCallFailCauseResponse.Checked response := by
  cases response with
  | null responseLen =>
      refine iff_of_true (faithfulTo_of_reported _ (fun _ _ _ => rfl) ?_)
        (.inr (.inr ⟨responseLen, rfl⟩))
      rintro w (⟨cause_code, vendor_cause, hconsists, -⟩ | ⟨first, rest, hconsists, -⟩)
      · exact VendorPointer.not_consists_null responseLen hconsists
      · exact VendorPointer.not_consists_null responseLen hconsists
  | buffer bytes lt =>
      have hchecked : SolicitedDecoder.getLastCallFailCauseResponse.Checked (.buffer bytes lt) ↔
          bytes.length = 0 ∨ bytes.length = 8 := by
        refine or_congr_right ⟨?_, .inl⟩
        rintro (height | ⟨responseLen, heq⟩)
        · exact height
        · cases heq
      have hlength := length_words bytes
      rw [hchecked]
      by_cases height : bytes.length = 8
      · rw [height] at hlength
        obtain ⟨cause_code, vendor_cause, hwords⟩ := List.length_eq_two.mp hlength
        refine iff_of_true (faithfulTo_of_passed _ (fun responseType serial e => ?_) (.inl
          ⟨cause_code, vendor_cause, VendorPointer.consists_buffer.mpr ⟨by omega, hwords⟩, rfl⟩))
          (.inr height)
        rw [getLastCallFailCauseResponse, if_pos height, hwords]
        rfl
      · by_cases hfour : bytes.length % 4 = 0
        · have hrun : ∀ responseType serial e,
              getLastCallFailCauseResponse strings responseType serial e (.buffer bytes lt) =
                some ((populateResponseInfo serial responseType e).invalid e, {}) := by
            intro responseType serial e
            rw [getLastCallFailCauseResponse, if_neg height, if_neg (not_not.mpr hfour)]
          have hdvd := Nat.dvd_of_mod_eq_zero hfour
          rw [← words_eq_nil hdvd]
          cases hwords : words bytes with
          | nil =>
              refine iff_of_true (faithfulTo_of_reported _ hrun ?_) (.inl rfl)
              rintro w (⟨cause_code, vendor_cause, hconsists, -⟩ | ⟨first, rest, hconsists, -⟩)
              · have hcons := (VendorPointer.consists_buffer.mp hconsists).2
                rw [hwords] at hcons
                cases hcons
              · have hcons := (VendorPointer.consists_buffer.mp hconsists).2
                rw [hwords] at hcons
                cases hcons
          | cons first rest =>
              rw [hwords, List.length_cons] at hlength
              refine iff_of_false (fun h => ?_) (by simp [height])
              exact h.not_holds_of_reported (hrun 0 0 rilESuccess) { causeCode := first.toInt32 }
                (.inr ⟨first, rest, VendorPointer.consists_buffer.mpr ⟨hdvd, hwords⟩, by omega,
                  rfl⟩)
        · refine iff_of_false (fun h => ?_) (by omega)
          have hrun : getLastCallFailCauseResponse strings 0 0 rilESuccess (.buffer bytes lt) =
              (firstInt (words bytes)).map fun causeCode =>
                (populateResponseInfo 0 0 rilESuccess, { causeCode := causeCode }) := by
            rw [getLastCallFailCauseResponse, if_neg height, if_pos hfour]
          cases hwords : words bytes with
          | nil =>
              refine not_faithfulTo_of_fault ?_ h
              rw [hrun, hwords]
              rfl
          | cons first rest =>
              rw [hwords] at hrun
              obtain ⟨cause_code, vendor_cause, hconsists, -⟩ | ⟨first, rest, hconsists, -⟩ :=
                h.holds_of_passed hrun
              · exact hfour (Nat.mod_eq_zero_of_dvd (VendorPointer.consists_buffer.mp hconsists).1)
              · exact hfour (Nat.mod_eq_zero_of_dvd (VendorPointer.consists_buffer.mp hconsists).1)

/-- A record of the version that is tried is loaded unless the buffer is empty. -/
theorem faithful_of_version {α : Type} (record : Record UInt32 α)
    (convert : α → SetupDataCallResult) (hnil : record.load [] = none)
    (hload : ∀ ws, record.words ≤ ws.length → ∃ r, record.load ws = some r)
    (hfour : 4 ∣ bytes.length) (hdvd : record.words ∣ (words bytes).length)
    (hrun : ∀ responseType serial e,
      setupDataCallResponse strings responseType serial e (.buffer bytes lt) =
        (record.load (words bytes)).map fun dcResponse =>
          (populateResponseInfo serial responseType e, convert dcResponse))
    (hholds : ∀ r, record.load (words bytes) = some r → words bytes ≠ [] →
      HoldsDataCall strings (.buffer bytes lt) (convert r)) :
    FaithfulTo (HoldsDataCall strings (.buffer bytes lt))
        (setupDataCallResponse strings · · · (.buffer bytes lt)) ↔
      ¬ (VendorPointer.buffer bytes lt).Empty := by
  rw [VendorPointer.empty_buffer, ← words_eq_nil hfour]
  by_cases hwords : words bytes = []
  · refine iff_of_false (not_faithfulTo_of_fault ?_) (not_not.mpr hwords)
    rw [hrun, hwords, hnil, Option.map_none]
  · obtain ⟨r, hr⟩ := hload (words bytes)
      (Nat.le_of_dvd (List.length_pos_iff.mpr hwords) hdvd)
    refine iff_of_true (faithfulTo_of_passed (convert r) (fun responseType serial e => ?_)
      (hholds r hr hwords)) hwords
    rw [hrun, hr, Option.map_some]

theorem faithful_setupDataCallResponse (response : VendorPointer) :
    FaithfulTo (HoldsDataCall strings response) (setupDataCallResponse strings · · · response) ↔
      ¬ response.Empty := by
  cases response with
  | null responseLen =>
      exact iff_of_true
        (faithfulTo_of_passed _ (fun _ _ _ => rfl) (.inl ⟨⟨responseLen, rfl⟩, rfl⟩))
        (VendorPointer.not_empty_null responseLen)
  | buffer bytes lt =>
      have hlength := length_words bytes
      have hconsists : 4 ∣ bytes.length →
          (VendorPointer.buffer bytes lt).Consists (words bytes) :=
        fun hfour => VendorPointer.consists_buffer.mpr ⟨hfour, rfl⟩
      by_cases h11 : bytes.length % 44 = 0
      · refine faithful_of_version RilDataCallResponseV11.record
          (RilDataCallResponseV11.convertRilDataCallToHal strings) rfl
          (fun _ => loadV11_of_length) (by omega) ?_ (fun _ _ _ => if_pos h11) ?_
        · change 11 ∣ _
          omega
        · intro r hr hne
          exact .inr ⟨_, hconsists (by omega), hne, .inl ⟨by omega, r, hr, rfl⟩⟩
      · by_cases h9 : bytes.length % 40 = 0
        · refine faithful_of_version RilDataCallResponseV9.record
            (RilDataCallResponseV9.convertRilDataCallToHal strings) rfl
            (fun _ => loadV9_of_length) (by omega) ?_
            (fun _ _ _ => (if_neg h11).trans (if_pos h9)) ?_
          · change 10 ∣ _
            omega
          · intro r hr hne
            exact .inr ⟨_, hconsists (by omega), hne,
              .inr (.inl ⟨by omega, by omega, r, hr, rfl⟩)⟩
        · by_cases h6 : bytes.length % 36 = 0
          · refine faithful_of_version RilDataCallResponseV6.record
              (RilDataCallResponseV6.convertRilDataCallToHal strings) rfl
              (fun _ => loadV6_of_length) (by omega) ?_
              (fun _ _ _ => (if_neg h11).trans ((if_neg h9).trans (if_pos h6))) ?_
            · change 9 ∣ _
              omega
            · intro r hr hne
              exact .inr ⟨_, hconsists (by omega), hne,
                .inr (.inr ⟨by omega, by omega, by omega, r, hr, rfl⟩)⟩
          · refine iff_of_true (faithfulTo_of_reported noDataCall
              (fun _ _ _ => (if_neg h11).trans ((if_neg h9).trans (if_neg h6))) ?_) ?_
            · rintro w (⟨⟨responseLen, heq⟩, -⟩ | ⟨ws, hws, -, hversion⟩)
              · cases heq
              · obtain ⟨hfour, rfl⟩ := VendorPointer.consists_buffer.mp hws
                obtain ⟨hdvd, -⟩ | ⟨-, hdvd, -⟩ | ⟨-, -, hdvd, -⟩ := hversion
                · omega
                · omega
                · omega
            · rw [VendorPointer.empty_buffer]
              omega

theorem loadAppStatus_of_length {ws : List UInt32} (h : 8 ≤ ws.length) :
    ∃ status, loadAppStatus ws = some status := by
  obtain ⟨_, ws1, rfl, h1⟩ := exists_cons_of_lt h
  obtain ⟨_, ws2, rfl, h2⟩ := exists_cons_of_lt h1
  obtain ⟨_, ws3, rfl, h3⟩ := exists_cons_of_lt h2
  obtain ⟨_, ws4, rfl, h4⟩ := exists_cons_of_lt h3
  obtain ⟨_, ws5, rfl, h5⟩ := exists_cons_of_lt h4
  obtain ⟨_, ws6, rfl, h6⟩ := exists_cons_of_lt h5
  obtain ⟨_, ws7, rfl, h7⟩ := exists_cons_of_lt h6
  obtain ⟨_, ws8, rfl, -⟩ := exists_cons_of_lt h7
  exact ⟨_, rfl⟩

theorem loadCardStatus_of_length {ws : List UInt32} (h : 6 ≤ ws.length) :
    ∃ p_cur, loadCardStatus ws = some p_cur := by
  obtain ⟨_, ws1, rfl, h1⟩ := exists_cons_of_lt h
  obtain ⟨_, ws2, rfl, h2⟩ := exists_cons_of_lt h1
  obtain ⟨_, ws3, rfl, h3⟩ := exists_cons_of_lt h2
  obtain ⟨_, ws4, rfl, h4⟩ := exists_cons_of_lt h3
  obtain ⟨_, ws5, rfl, h5⟩ := exists_cons_of_lt h4
  obtain ⟨_, ws6, rfl, -⟩ := exists_cons_of_lt h5
  exact ⟨_, rfl⟩

theorem length_of_loadAppStatus {ws : List UInt32} {status : RilAppStatus}
    (h : loadAppStatus ws = some status) : 8 ≤ ws.length := by
  unfold loadAppStatus at h
  split at h
  · simp only [List.length_cons]
    omega
  · cases h

/-- An array with room for so many applications has them converted. -/
theorem convertApps_of_length (strings : UInt32 → String) {ws : List UInt32} {num : Nat}
    (h : sizeofRilAppStatus * num ≤ ws.length) :
    ∃ applications : List RilAppStatus, applications.length = num ∧
      (∀ i, i < num → loadAppStatus (ws.drop (sizeofRilAppStatus * i)) = applications[i]?) ∧
      convertApps strings ws num =
        some (applications.map (RilAppStatus.convert strings)) := by
  induction num generalizing ws with
  | zero => exact ⟨[], rfl, fun i hi => absurd hi (Nat.not_lt_zero i), rfl⟩
  | succ num ih =>
      rw [Nat.mul_succ] at h
      have hsize : sizeofRilAppStatus = 13 := rfl
      have height : 8 ≤ ws.length := by omega
      obtain ⟨status, hstatus⟩ := loadAppStatus_of_length height
      have hrest : sizeofRilAppStatus * num ≤ (ws.drop sizeofRilAppStatus).length := by
        rw [List.length_drop]
        omega
      obtain ⟨applications, hlength, hload, hconvert⟩ := ih hrest
      refine ⟨status :: applications, by rw [List.length_cons, hlength], ?_, ?_⟩
      · intro i hi
        cases i with
        | zero => exact hstatus
        | succ i =>
            rw [List.getElem?_cons_succ, ← hload i (Nat.lt_of_succ_lt_succ hi), List.drop_drop,
              Nat.mul_succ, Nat.add_comm]
      · rw [convertApps, hstatus, Option.bind_some, hconvert, Option.map_some, List.map_cons]

/-- The last application that is converted lies within the array. -/
theorem length_of_convertApps {ws : List UInt32} {num : Nat} {applications : List AppStatus}
    (h : convertApps strings ws (num + 1) = some applications) :
    sizeofRilAppStatus * num + 8 ≤ ws.length := by
  induction num generalizing ws applications with
  | zero =>
      obtain ⟨status, hstatus, -⟩ := Option.bind_eq_some_iff.mp h
      rw [Nat.mul_zero, Nat.zero_add]
      exact length_of_loadAppStatus hstatus
  | succ num ih =>
      obtain ⟨status, hstatus, hrest⟩ := Option.bind_eq_some_iff.mp h
      obtain ⟨applications, happlications, -⟩ := Option.map_eq_some_iff.mp hrest
      have hrest := ih happlications
      rw [List.length_drop] at hrest
      rw [Nat.mul_succ]
      omega

theorem getIccCardStatusResponse_of_indicesBelow {p_cur : RilCardStatusV6}
    (hlen : bytes.length = sizeofRilCardStatusV6)
    (hload : loadCardStatus (words bytes) = some p_cur)
    (hbelow : p_cur.IndicesBelow) (responseType serial e : Int32) :
    getIccCardStatusResponse strings responseType serial e (.buffer bytes lt) =
      if p_cur.num_applications < 0 then none
      else (convertApps strings ((words bytes).drop 6)
        p_cur.num_applications.toInt.toNat).map fun applications =>
          (populateResponseInfo serial responseType e, p_cur.convert applications) := by
  rw [getIccCardStatusResponse, if_neg (not_not.mpr hlen), hload, Option.bind_some,
    if_neg (not_not.mpr hbelow)]

/-- The array of the response has room for eight applications. -/
theorem faithful_of_indicesBelow {p_cur : RilCardStatusV6}
    (hlen : bytes.length = sizeofRilCardStatusV6)
    (hload : loadCardStatus (words bytes) = some p_cur)
    (hbelow : p_cur.IndicesBelow) :
    FaithfulTo (HoldsCardStatus strings (.buffer bytes lt))
        (getIccCardStatusResponse strings · · · (.buffer bytes lt)) ↔
      0 ≤ p_cur.num_applications.toInt ∧ p_cur.num_applications.toInt ≤ 8 := by
  have hsize : sizeofRilCardStatusV6 = 440 := rfl
  have happ : sizeofRilAppStatus = 13 := rfl
  have hmax : rilCardMaxApps = 8 := rfl
  have hlength := length_words bytes
  by_cases hneg : p_cur.num_applications < 0
  · refine iff_of_false (not_faithfulTo_of_fault ?_) ?_
    · rw [getIccCardStatusResponse_of_indicesBelow hlen hload hbelow, if_pos hneg]
    · have hlt := Int32.lt_iff_toInt_lt.mp hneg
      rw [Int32.toInt_zero] at hlt
      intro h
      exact Int.not_le.mpr hlt h.1
  · have hnonneg : 0 ≤ p_cur.num_applications.toInt := by
      rw [Int32.lt_iff_toInt_lt, Int32.toInt_zero] at hneg
      exact Int.not_lt.mp hneg
    have hdrop : ((words bytes).drop 6).length = 104 := by
      rw [List.length_drop]
      omega
    by_cases hmany : p_cur.num_applications.toInt ≤ 8
    · have hroom : sizeofRilAppStatus * p_cur.num_applications.toInt.toNat ≤
          ((words bytes).drop 6).length := by
        rw [hdrop, happ]
        omega
      obtain ⟨applications, hcount, hloads, hconvert⟩ := convertApps_of_length strings hroom
      have hconsists : (VendorPointer.buffer bytes lt).Consists (words bytes) :=
        VendorPointer.consists_buffer.mpr ⟨by omega, rfl⟩
      refine iff_of_true (faithfulTo_of_passed
        (p_cur.convert (applications.map (RilAppStatus.convert strings)))
        (fun responseType serial e => ?_) ?_) ⟨hnonneg, hmany⟩
      · rw [getIccCardStatusResponse_of_indicesBelow hlen hload hbelow, if_neg hneg, hconvert,
          Option.map_some]
      · refine ⟨words bytes, p_cur, applications, hconsists, by omega, hload, hbelow,
          by omega, by omega, fun i hi => ?_, rfl⟩
        rw [← hloads i (by omega), List.drop_drop]
    · refine iff_of_false (not_faithfulTo_of_fault ?_) fun h => hmany h.2
      rw [getIccCardStatusResponse_of_indicesBelow hlen hload hbelow, if_neg hneg,
        Option.map_eq_none_iff]
      cases hconvert : convertApps strings ((words bytes).drop 6)
        p_cur.num_applications.toInt.toNat with
      | none => rfl
      | some applications =>
          obtain ⟨num, hnum⟩ : ∃ num, p_cur.num_applications.toInt.toNat = num + 1 :=
            Nat.exists_eq_succ_of_ne_zero (by omega)
          rw [hnum] at hconvert
          have hroom := length_of_convertApps hconvert
          rw [happ, hdrop] at hroom
          omega

theorem faithful_getIccCardStatusResponse (response : VendorPointer) :
    FaithfulTo (HoldsCardStatus strings response)
        (getIccCardStatusResponse strings · · · response) ↔
      SolicitedDecoder.getIccCardStatusResponse.Checked response := by
  cases response with
  | null responseLen =>
      refine iff_of_true (faithfulTo_of_reported _ (fun _ _ _ => rfl) ?_) ?_
      · rintro w ⟨ws, p_cur, applications, hconsists, -⟩
        exact VendorPointer.not_consists_null responseLen hconsists
      · intro _ p_cur hload
        cases hload
  | buffer bytes lt =>
      by_cases hlen : bytes.length = sizeofRilCardStatusV6
      · have hsize : sizeofRilCardStatusV6 = 440 := rfl
        have hlength := length_words bytes
        have hsix : 6 ≤ (words bytes).length := by omega
        obtain ⟨p_cur, hload⟩ := loadCardStatus_of_length hsix
        -- the header is determined by the words
        have hholds : ∀ w, HoldsCardStatus strings (.buffer bytes lt) w → p_cur.IndicesBelow := by
          rintro w ⟨ws, p_cur', applications, hws, -, hload', hbelow, -⟩
          obtain ⟨-, rfl⟩ := VendorPointer.consists_buffer.mp hws
          rw [hload] at hload'
          cases hload'
          exact hbelow
        have hchecked : SolicitedDecoder.getIccCardStatusResponse.Checked (.buffer bytes lt) ↔
            (p_cur.IndicesBelow →
              0 ≤ p_cur.num_applications.toInt ∧ p_cur.num_applications.toInt ≤ 8) := by
          constructor
          · exact fun h => h hlen p_cur hload
          · intro h _ p_cur' hload'
            obtain rfl := Option.some.inj (hload.symm.trans hload')
            exact h
        rw [hchecked]
        by_cases hbelow : p_cur.IndicesBelow
        · rw [faithful_of_indicesBelow hlen hload hbelow]
          exact ⟨fun h _ => h, fun h => h hbelow⟩
        · refine iff_of_true (faithfulTo_of_reported {} (fun responseType serial e => ?_) ?_)
            fun h => absurd h hbelow
          · rw [getIccCardStatusResponse, if_neg (not_not.mpr hlen), hload, Option.bind_some,
              if_pos hbelow]
          · exact fun w hw => hbelow (hholds w hw)
      · refine iff_of_true (faithfulTo_of_reported {} (fun _ _ _ => if_pos hlen) ?_)
          fun h => absurd h hlen
        rintro w ⟨ws, p_cur, applications, ⟨bytes', lt', heq, -, hws⟩, hlength, -⟩
        cases heq
        exact hlen (hws.trans hlength)

/-! The operators. -/

theorem StatusesPresent.drop {k : Nat} {resp : List UInt32} (h : StatusesPresent k resp) :
    StatusesPresent k (resp.drop k) := by
  intro i hi hlt
  rw [List.length_drop] at hlt
  rw [List.getElem?_drop, ← Nat.add_assoc]
  exact h (k + i) (Nat.dvd_add (Nat.dvd_refl k) hi) (by omega)

theorem four_le_of_statusesPresent {k networks : Nat} {resp : List UInt32} (hk : 0 < k)
    (hlength : resp.length = k * (networks + 1)) (h : StatusesPresent k resp) : 4 ≤ k := by
  rw [Nat.mul_succ] at hlength
  obtain ⟨str, hstr, -⟩ := h (k * networks) (Nat.dvd_mul_right k networks) (by omega)
  obtain ⟨hlt, -⟩ := List.getElem?_eq_some_iff.mp hstr
  omega

/-- The loop ends only when every operator has its strings. -/
theorem statusesPresent_of_availableNetworks {k networks : Nat} {resp : List UInt32}
    {result : List OperatorInfo × Bool} (hk : 0 < k) (hlength : k * networks ≤ resp.length)
    (h : availableNetworks strings k networks resp = some result) :
    resp.length = k * networks ∧ StatusesPresent k resp := by
  induction networks generalizing resp result with
  | zero =>
      rw [availableNetworks] at h
      split_ifs at h with hnil
      subst hnil
      exact ⟨rfl, fun i _ hi => absurd hi (Nat.not_lt_zero i)⟩
  | succ networks ih =>
      rw [Nat.mul_succ] at hlength
      have hne : resp ≠ [] := List.length_pos_iff.mp (by omega)
      rw [availableNetworks, if_neg hne] at h
      obtain ⟨alphaLong, -, h⟩ := Option.bind_eq_some_iff.mp h
      obtain ⟨alphaShort, -, h⟩ := Option.bind_eq_some_iff.mp h
      obtain ⟨operatorNumeric, -, h⟩ := Option.bind_eq_some_iff.mp h
      obtain ⟨str, hstr, h⟩ := Option.bind_eq_some_iff.mp h
      split_ifs at h with hnull
      obtain ⟨rest, hrest, -⟩ := Option.map_eq_some_iff.mp h
      obtain ⟨htail, hpresent⟩ := ih (by rw [List.length_drop]; omega) hrest
      rw [List.length_drop] at htail
      refine ⟨by rw [Nat.mul_succ]; omega, fun i hi hlt => ?_⟩
      obtain rfl | hpos := Nat.eq_zero_or_pos i
      · exact ⟨str, hstr, hnull⟩
      · obtain ⟨j, rfl⟩ := Nat.exists_eq_add_of_le (Nat.le_of_dvd hpos hi)
        obtain ⟨later, hlater, hset⟩ := hpresent j ((Nat.dvd_add_right (Nat.dvd_refl k)).mp hi)
          (by rw [List.length_drop]; omega)
        rw [List.getElem?_drop, ← Nat.add_assoc] at hlater
        exact ⟨later, hlater, hset⟩

/-- The loop tells the operators from strings that are not. -/
theorem availableNetworks_of_statusesPresent (strings : UInt32 → String) {k networks : Nat}
    {resp : List UInt32} (hfour : 4 ≤ k) (hlength : resp.length = k * networks)
    (h : StatusesPresent k resp) :
    ∃ infos unset, availableNetworks strings k networks resp = some (infos, unset) ∧
      (unset = false → OperatorStrings strings k resp infos) ∧
      (unset = true → ∀ others, ¬ OperatorStrings strings k resp others) := by
  induction networks generalizing resp with
  | zero =>
      obtain rfl := List.length_eq_zero_iff.mp hlength
      exact ⟨[], false, rfl, fun _ => .nil, fun h => absurd h Bool.false_ne_true⟩
  | succ networks ih =>
      rw [Nat.mul_succ] at hlength
      have htail : (resp.drop k).length = k * networks := by
        rw [List.length_drop]
        omega
      obtain ⟨infos, unset, hrest, hset, hunset⟩ := ih htail h.drop
      have hpos : 4 ≤ resp.length := by omega
      obtain ⟨alphaLong, resp1, rfl, h1⟩ := exists_cons_of_lt hpos
      obtain ⟨alphaShort, resp2, rfl, h2⟩ := exists_cons_of_lt h1
      obtain ⟨operatorNumeric, resp3, rfl, h3⟩ := exists_cons_of_lt h2
      obtain ⟨str, resp4, rfl, -⟩ := exists_cons_of_lt h3
      obtain ⟨str', hstr, hnull⟩ := h 0 (Nat.dvd_zero k) (by omega)
      obtain rfl := Option.some.inj hstr
      have hdrop : (alphaLong :: alphaShort :: operatorNumeric :: str :: resp4).drop k =
          resp4.drop (k - 4) := by
        obtain ⟨j, rfl⟩ := Nat.exists_eq_add_of_le hfour
        rw [Nat.add_comm, Nat.add_sub_cancel]
        rfl
      have hmore : ((resp4.take (k - 4)).length : Int) + 4 = k := by
        simp only [List.length_cons] at hlength
        rw [List.length_take]
        omega
      rw [hdrop] at hrest hset hunset
      have hrun : availableNetworks strings k (networks + 1)
          (alphaLong :: alphaShort :: operatorNumeric :: str :: resp4) =
            some ({ alphaLong := convertCharPtrToHidlString strings alphaLong
                    alphaShort := convertCharPtrToHidlString strings alphaShort
                    operatorNumeric := convertCharPtrToHidlString strings operatorNumeric
                    status := (convertOperatorStatusToInt (strings str)).getD .unknown } :: infos,
              unset || (convertOperatorStatusToInt (strings str)).isNone) := by
        rw [availableNetworks, if_neg (List.cons_ne_nil _ _)]
        simp only [List.getElem?_cons_zero, List.getElem?_cons_succ, Option.bind_some,
          if_neg hnull, hdrop, hrest, Option.map_some]
      have hinv : ∀ others, OperatorStrings strings k
          (alphaLong :: alphaShort :: operatorNumeric :: str :: resp4) others →
          (∃ status, convertOperatorStatusToInt (strings str) = some status) ∧
            ∃ rest, OperatorStrings strings k (resp4.drop (k - 4)) rest := by
        intro others hothers
        generalize hresp : alphaLong :: alphaShort :: operatorNumeric :: str :: resp4 = resp
          at hothers
        cases hothers with
        | nil => cases hresp
        | cons alphaLong' alphaShort' operatorNumeric' str' more resp' status rest hcount _
            hstatus hothers =>
            cases hresp
            refine ⟨⟨status, hstatus⟩, rest, ?_⟩
            rw [List.drop_left' (by omega)]
            exact hothers
      cases hstatus : convertOperatorStatusToInt (strings str) with
      | none =>
          rw [hstatus, Option.isNone_none, Bool.or_true] at hrun
          refine ⟨_, true, hrun, fun h => absurd h.symm Bool.false_ne_true, ?_⟩
          intro _ others hothers
          obtain ⟨⟨status, hsome⟩, -⟩ := hinv others hothers
          rw [hstatus] at hsome
          cases hsome
      | some status =>
          rw [hstatus, Option.isNone_some, Bool.or_false, Option.getD_some] at hrun
          refine ⟨_, unset, hrun, fun hfalse => ?_, fun htrue others hothers => ?_⟩
          · have hcons := OperatorStrings.cons alphaLong alphaShort operatorNumeric str _ _ status
              infos hmore hnull hstatus (hset hfalse)
            rw [List.take_append_drop] at hcons
            exact hcons
          · obtain ⟨-, rest, hrest⟩ := hinv others hothers
            exact hunset htrue rest hrest

theorem length_of_operatorStrings {k : Int} {ws : List UInt32} {networks : List OperatorInfo}
    (h : OperatorStrings strings k ws networks) :
    k * networks.length = ws.length ∧ (ws ≠ [] → 4 ≤ k) := by
  induction h with
  | nil => exact ⟨by simp, fun h => absurd rfl h⟩
  | cons alphaLong alphaShort operatorNumeric str more resp status networks hlength _ _ _ ih =>
      simp only [List.length_cons, List.length_append, Int.natCast_add, Int.natCast_one,
        Int.mul_add, Int.mul_one]
      exact ⟨by omega, fun _ => by omega⟩

theorem sizeofOperator_of_nonneg {qanRespStrings : Int32} (hpos : 0 ≤ qanRespStrings.toInt)
    (hlt : 4 * qanRespStrings.toInt < 2 ^ 32) :
    (sizeofOperator qanRespStrings : Int) = 4 * qanRespStrings.toInt := by
  have hword : (qanRespStrings.toUInt32.toNat : Int) = qanRespStrings.toInt := by
    rw [Int32.toInt, BitVec.toInt_eq_toNat_cond] at hpos ⊢
    split_ifs at hpos ⊢ with hsign
    · rfl
    · have hbound := qanRespStrings.toBitVec.isLt
      omega
  rw [sizeofOperator, UInt32.toNat_mul]
  change ((qanRespStrings.toUInt32.toNat * 4 % 2 ^ 32 : Nat) : Int) = _
  omega

theorem four_dvd_sizeofOperator (qanRespStrings : Int32) : 4 ∣ sizeofOperator qanRespStrings := by
  rw [sizeofOperator, UInt32.toNat_mul]
  change 4 ∣ qanRespStrings.toUInt32.toNat * 4 % 2 ^ 32
  omega

/-- With strings in the buffer, the loop takes place only for a positive number of them that
divides it. -/
theorem getAvailableNetworksResponse_of_divides {qanRespStrings : Int32}
    (hsize : sizeofOperator qanRespStrings ≠ 0)
    (hdvd : sizeofOperator qanRespStrings ∣ bytes.length) (responseType serial e : Int32) :
    getAvailableNetworksResponse strings responseType serial e qanRespStrings
        (.buffer bytes lt) =
      if Int.tdiv (words bytes).length qanRespStrings.toInt < 0 then none
      else
        (availableNetworks strings qanRespStrings.toInt.toNat
          (Int.tdiv (words bytes).length qanRespStrings.toInt).toNat (words bytes)).map
          ((populateResponseInfo serial responseType e).withNetworks e) := by
  rw [getAvailableNetworksResponse, if_neg hsize,
    if_neg (not_not.mpr (Nat.mod_eq_zero_of_dvd hdvd)), length_words]

/-- The list is of a negative length, or its first element has no string. -/
theorem fault_of_nonpos {qanRespStrings : Int32} (hsize : sizeofOperator qanRespStrings ≠ 0)
    (hdvd : sizeofOperator qanRespStrings ∣ bytes.length) (hne : words bytes ≠ [])
    (hpos : ¬ 0 < qanRespStrings.toInt) (responseType serial e : Int32) :
    getAvailableNetworksResponse strings responseType serial e qanRespStrings
      (.buffer bytes lt) = none := by
  obtain hzero | hneg : qanRespStrings.toInt = 0 ∨ qanRespStrings.toInt < 0 := by omega
  · have hnone : (sizeofOperator qanRespStrings : Int) = 4 * qanRespStrings.toInt :=
      sizeofOperator_of_nonneg (by omega) (by omega)
    omega
  · obtain ⟨k, hk⟩ := Int.eq_ofNat_of_zero_le (Int.neg_nonneg_of_nonpos (Int.le_of_lt hneg))
    have hdiv : Int.tdiv (words bytes).length qanRespStrings.toInt =
        -(((words bytes).length / k : Nat) : Int) := by
      rw [← Int.neg_neg qanRespStrings.toInt, hk, Int.tdiv_neg, Int.ofNat_tdiv]
    rw [getAvailableNetworksResponse_of_divides hsize hdvd, hdiv]
    split_ifs with hlt
    · rfl
    · have hnone : (-(((words bytes).length / k : Nat) : Int)).toNat = 0 :=
        Int.toNat_of_nonpos (Int.neg_nonpos_of_nonneg (Int.natCast_nonneg _))
      rw [hnone, availableNetworks, if_neg hne, Option.map_none]

/-- A list that ends with the response, all of whose statuses are there. -/
theorem faithful_of_present {qanRespStrings : Int32} {k networks : Nat}
    (hsize : sizeofOperator qanRespStrings ≠ 0)
    (hdvd : sizeofOperator qanRespStrings ∣ bytes.length) (hne : words bytes ≠ [])
    (hk : qanRespStrings.toInt = k) (hkpos : 0 < k)
    (hcount : (words bytes).length = k * networks) (hpresent : StatusesPresent k (words bytes)) :
    FaithfulTo (HoldsNetworks strings qanRespStrings (.buffer bytes lt))
      (getAvailableNetworksResponse strings · · · qanRespStrings (.buffer bytes lt)) := by
  have hpos : 0 < (words bytes).length := List.length_pos_iff.mpr hne
  obtain ⟨others, rfl⟩ : ∃ others, networks = others + 1 := by
    refine Nat.exists_eq_succ_of_ne_zero ?_
    rintro rfl
    rw [hcount, Nat.mul_zero] at hpos
    exact Nat.lt_irrefl 0 hpos
  obtain ⟨infos, unset, hloop, hset, hunset⟩ := availableNetworks_of_statusesPresent
    strings (four_le_of_statusesPresent hkpos hcount hpresent) hcount hpresent
  have hended : ∀ responseType serial e,
      getAvailableNetworksResponse strings responseType serial e qanRespStrings
          (.buffer bytes lt) =
        some ((populateResponseInfo serial responseType e).withNetworks e (infos, unset)) := by
    intro responseType serial e
    rw [getAvailableNetworksResponse_of_divides hsize hdvd, hk, ← Int.ofNat_tdiv, hcount,
      Nat.mul_div_cancel_left _ hkpos, if_neg (Int.not_lt.mpr (Int.natCast_nonneg _)),
      Int.toNat_natCast, Int.toNat_natCast, hloop, Option.map_some]
  cases unset with
  | false =>
      have hconsists : (VendorPointer.buffer bytes lt).Consists (words bytes) :=
        VendorPointer.consists_buffer.mpr
          ⟨Nat.dvd_trans (four_dvd_sizeofOperator qanRespStrings) hdvd, rfl⟩
      refine faithfulTo_of_passed infos hended (.inr ⟨_, hconsists, ?_⟩)
      rw [hk]
      exact hset rfl
  | true =>
      refine faithfulTo_of_reported infos hended ?_
      rintro w (⟨heq, -⟩ | ⟨ws, hws, hstrings⟩)
      · cases heq
      · obtain ⟨-, rfl⟩ := VendorPointer.consists_buffer.mp hws
        rw [hk] at hstrings
        exact hunset rfl w hstrings

theorem faithful_of_divides {qanRespStrings : Int32} (hsize : sizeofOperator qanRespStrings ≠ 0)
    (hdvd : sizeofOperator qanRespStrings ∣ bytes.length) (hne : words bytes ≠ []) :
    FaithfulTo (HoldsNetworks strings qanRespStrings (.buffer bytes lt))
        (getAvailableNetworksResponse strings · · · qanRespStrings (.buffer bytes lt)) ↔
      0 < qanRespStrings.toInt ∧ 4 * qanRespStrings.toInt ∣ bytes.length ∧
        StatusesPresent qanRespStrings.toInt.toNat (words bytes) := by
  have hfour := Nat.dvd_trans (four_dvd_sizeofOperator qanRespStrings) hdvd
  have hlength := length_words bytes
  by_cases hpos : 0 < qanRespStrings.toInt
  · obtain ⟨k, hk⟩ := Int.eq_ofNat_of_zero_le (Int.le_of_lt hpos)
    rw [hk, Int.toNat_natCast]
    have hkpos : 0 < k := by omega
    by_cases hall : 4 * (k : Int) ∣ bytes.length ∧ StatusesPresent k (words bytes)
    · obtain ⟨networks, hnetworks⟩ : 4 * k ∣ bytes.length := by exact_mod_cast hall.1
      have hcount : (words bytes).length = k * networks := by
        rw [hlength, hnetworks, Nat.mul_assoc, Nat.mul_div_cancel_left _ (by decide)]
      exact iff_of_true (faithful_of_present hsize hdvd hne hk hkpos hcount hall.2)
        ⟨by omega, hall⟩
    · refine iff_of_false (not_faithfulTo_of_fault ?_) fun h => hall h.2
      rw [getAvailableNetworksResponse_of_divides hsize hdvd, hk, ← Int.ofNat_tdiv,
        if_neg (Int.not_lt.mpr (Int.natCast_nonneg _)), Option.map_eq_none_iff,
        Int.toNat_natCast, Int.toNat_natCast]
      cases hloop : availableNetworks strings k ((words bytes).length / k) (words bytes) with
      | none => rfl
      | some result =>
          obtain ⟨hcount, hpresent⟩ :=
            statusesPresent_of_availableNetworks hkpos (Nat.mul_div_le _ k) hloop
          refine absurd ⟨?_, hpresent⟩ hall
          have hbytes : bytes.length = 4 * k * ((words bytes).length / k) := by
            rw [Nat.mul_assoc, ← hcount]
            omega
          have hnat : 4 * k ∣ bytes.length := ⟨_, hbytes⟩
          exact_mod_cast hnat
  · refine iff_of_false (not_faithfulTo_of_fault ?_) fun h => hpos h.1
    exact fault_of_nonpos hsize hdvd hne hpos 0 0 rilESuccess

theorem faithful_null (qanRespStrings : Int32) (responseLen : Nat) :
    FaithfulTo (HoldsNetworks strings qanRespStrings (.null responseLen))
        (getAvailableNetworksResponse strings · · · qanRespStrings (.null responseLen)) ↔
      (SolicitedDecoder.getAvailableNetworksResponse qanRespStrings).Checked
        (.null responseLen) := by
  by_cases hzero : responseLen = 0
  · subst hzero
    by_cases hsize : sizeofOperator qanRespStrings = 0
    · refine iff_of_false (not_faithfulTo_of_fault ?_) ?_
      · rw [getAvailableNetworksResponse, if_neg (not_not.mpr rfl), if_pos hsize]
      · rintro (⟨responseLen, heq, hne⟩ | ⟨hne, -⟩)
        · cases heq
          exact hne rfl
        · exact hne hsize
    · refine iff_of_true (faithfulTo_of_passed [] (fun responseType serial e => ?_)
        (.inl ⟨rfl, rfl⟩)) (.inr ⟨hsize, fun _ hne => absurd rfl hne⟩)
      rw [getAvailableNetworksResponse, if_neg (not_not.mpr rfl), if_neg hsize]
  · refine iff_of_true (faithfulTo_of_reported _ (fun _ _ _ => if_pos hzero) ?_)
      (.inl ⟨responseLen, rfl, hzero⟩)
    rintro w (⟨heq, -⟩ | ⟨ws, hconsists, -⟩)
    · cases heq
      exact hzero rfl
    · exact VendorPointer.not_consists_null responseLen hconsists

/-- A response that is not as long as a list of operators holds no list. -/
theorem not_holdsNetworks_of_not_divides {qanRespStrings : Int32}
    (hdvd : ¬ sizeofOperator qanRespStrings ∣ bytes.length) (w : List OperatorInfo) :
    ¬ HoldsNetworks strings qanRespStrings (.buffer bytes lt) w := by
  rintro (⟨heq, -⟩ | ⟨ws, hconsists, hstrings⟩)
  · cases heq
  · obtain ⟨hfour, rfl⟩ := VendorPointer.consists_buffer.mp hconsists
    have hlength := length_words bytes
    obtain ⟨hcount, hmin⟩ := length_of_operatorStrings hstrings
    by_cases hwords : words bytes = []
    · rw [(words_eq_nil hfour).mp hwords] at hdvd
      exact hdvd (Nat.dvd_zero _)
    · have hpos : 0 < (words bytes).length := List.length_pos_iff.mpr hwords
      have hdiv : 4 * qanRespStrings.toInt ∣ bytes.length := by
        refine ⟨w.length, ?_⟩
        rw [Int.mul_assoc, hcount]
        omega
      have hle := Int.le_of_dvd (by omega) hdiv
      have hmin := hmin hwords
      rw [← sizeofOperator_of_nonneg (by omega) (by omega)] at hdiv
      exact hdvd (Int.natCast_dvd_natCast.mp hdiv)

theorem faithful_getAvailableNetworksResponse (qanRespStrings : Int32)
    (response : VendorPointer) :
    FaithfulTo (HoldsNetworks strings qanRespStrings response)
        (getAvailableNetworksResponse strings · · · qanRespStrings response) ↔
      (SolicitedDecoder.getAvailableNetworksResponse qanRespStrings).Checked response := by
  cases response with
  | null responseLen => exact faithful_null qanRespStrings responseLen
  | buffer bytes lt =>
      have hchecked :
          (SolicitedDecoder.getAvailableNetworksResponse qanRespStrings).Checked
              (.buffer bytes lt) ↔
            sizeofOperator qanRespStrings ≠ 0 ∧
              (sizeofOperator qanRespStrings ∣ bytes.length → words bytes ≠ [] →
                0 < qanRespStrings.toInt ∧ 4 * qanRespStrings.toInt ∣ bytes.length ∧
                  StatusesPresent qanRespStrings.toInt.toNat (words bytes)) := by
        refine ⟨?_, .inr⟩
        rintro (⟨responseLen, heq, -⟩ | h)
        · cases heq
        · exact h
      rw [hchecked]
      by_cases hsize : sizeofOperator qanRespStrings = 0
      · refine iff_of_false (not_faithfulTo_of_fault ?_) fun h => h.1 hsize
        rw [getAvailableNetworksResponse, if_pos hsize]
      · by_cases hdvd : sizeofOperator qanRespStrings ∣ bytes.length
        · by_cases hwords : words bytes = []
          · have hfour := Nat.dvd_trans (four_dvd_sizeofOperator qanRespStrings) hdvd
            refine iff_of_true (faithfulTo_of_passed [] (fun responseType serial e => ?_) ?_)
              ⟨hsize, fun _ hne => absurd hwords hne⟩
            · rw [getAvailableNetworksResponse_of_divides hsize hdvd, hwords, List.length_nil,
                Int.natCast_zero, Int.zero_tdiv, if_neg (Int.lt_irrefl 0)]
              rfl
            · exact .inr ⟨[], VendorPointer.consists_buffer.mpr ⟨hfour, hwords⟩, .nil⟩
          · rw [faithful_of_divides hsize hdvd hwords]
            exact ⟨fun h => ⟨hsize, fun _ _ => h⟩, fun h => h.2 hdvd hwords⟩
        · refine iff_of_true (faithfulTo_of_reported [] (fun responseType serial e => ?_)
            (not_holdsNetworks_of_not_divides hdvd)) ⟨hsize, fun h => absurd h hdvd⟩
          rw [getAvailableNetworksResponse, if_neg hsize,
            if_pos fun hzero => hdvd (Nat.dvd_of_mod_eq_zero hzero)]

theorem faithful_iff_checked (strings : UInt32 → String) (response : VendorPointer)
    (decoder : SolicitedDecoder) :
    decoder.Faithful strings response ↔ decoder.Checked response := by
  cases decoder with
  | responseInt => exact faithful_responseInt response
  | responseIntOrEmpty => exact faithful_responseIntOrEmpty response
  | getLastCallFailCauseResponse => exact faithful_getLastCallFailCauseResponse response
  | setupDataCallResponse => exact faithful_setupDataCallResponse response
  | getIccCardStatusResponse => exact faithful_getIccCardStatusResponse response
  | getAvailableNetworksResponse qanRespStrings =>
      exact faithful_getAvailableNetworksResponse qanRespStrings response

end

/-- A cause of four bytes is reported, and the first `int` of a response without a byte is read. -/
theorem unfaithful_decoders :
    ¬ SolicitedDecoder.getLastCallFailCauseResponse.Faithful (fun _ => "")
        (.buffer [16, 0, 0, 0] (by decide)) ∧
      ¬ SolicitedDecoder.responseInt.Faithful (fun _ => "") (.buffer [] (by decide)) := by
  constructor
  · intro h
    obtain ⟨info, value, hrun, hpassed, -⟩ := h 0 0 rilESuccess
    cases hrun
    have hinfo := (hpassed rfl ⟨{ causeCode := 16 }, .inr ⟨16, [],
      ⟨[16, 0, 0, 0], by decide, rfl, rfl, rfl⟩, by decide, rfl⟩⟩).1
    cases hinfo
  · intro h
    obtain ⟨info, value, hrun, -⟩ := h 0 0 rilESuccess
    cases hrun

end

end Serrano.Ril
