import Mathlib.Data.List.Forall2
import Serrano.Foundation.Record
import Serrano.Ril.RadioResponse

/-! # Lists of data calls

The vendor hands over an array of data calls and its length in bytes. Three versions
of the structure are in use, each with one field more than the one before, and the
version of an array is taken from the first of the three sizes, the largest first,
that divides its length. A 32-bit machine is assumed: every field is a word. An
array lies in memory, so its length and the number of its entries fit their types.
-/

namespace Serrano.Ril

/-- `RIL_Data_Call_Response_v6`; a `char *` is an address. -/
structure RilDataCallResponseV6 where
  status : Int32
  suggestedRetryTime : Int32
  cid : Int32
  active : Int32
  type : UInt32
  ifname : UInt32
  addresses : UInt32
  dnses : UInt32
  gateways : UInt32

structure RilDataCallResponseV9 extends RilDataCallResponseV6 where
  pcscf : UInt32

structure RilDataCallResponseV11 extends RilDataCallResponseV9 where
  mtu : Int32

structure SetupDataCallResult where
  status : Int32
  suggestedRetryTime : Int32
  cid : Int32
  active : Int32
  type : String
  ifname : String
  addresses : String
  dnses : String
  gateways : String
  pcscf : String
  mtu : Int32
  deriving DecidableEq

def RilDataCallResponseV6.record : Record UInt32 RilDataCallResponseV6 where
  words := 9
  store r := [r.status.toUInt32, r.suggestedRetryTime.toUInt32, r.cid.toUInt32, r.active.toUInt32,
    r.type, r.ifname, r.addresses, r.dnses, r.gateways]
  load
    | status :: retry :: cid :: active :: type :: ifname :: addresses :: dnses :: gateways :: _ =>
        some ⟨status.toInt32, retry.toInt32, cid.toInt32, active.toInt32, type, ifname, addresses,
          dnses, gateways⟩
    | _ => none
  length_store _ := rfl
  load_store _ _ := rfl

def RilDataCallResponseV9.record : Record UInt32 RilDataCallResponseV9 :=
  RilDataCallResponseV6.record.push (fun r pcscf => ⟨r, pcscf⟩)
    (fun r => (r.toRilDataCallResponseV6, r.pcscf)) fun _ => rfl

def RilDataCallResponseV11.record : Record UInt32 RilDataCallResponseV11 :=
  RilDataCallResponseV9.record.push (fun r mtu => ⟨r, mtu.toInt32⟩)
    (fun r => (r.toRilDataCallResponseV9, r.mtu.toUInt32)) fun _ => rfl

/-- `sizeof`, of a structure of so many words. -/
def sizeofRecord {α : Type} (record : Record UInt32 α) : Nat := 4 * record.words

section

variable (strings : UInt32 → String)

/-- `NULL` becomes the empty string. -/
def convertCharPtrToHidlString (ptr : UInt32) : String := if ptr = 0 then "" else strings ptr

/-- `convertRilDataCallToHal` -/
def RilDataCallResponseV6.convertRilDataCallToHal (dcResponse : RilDataCallResponseV6) :
    SetupDataCallResult where
  status := dcResponse.status
  suggestedRetryTime := dcResponse.suggestedRetryTime
  cid := dcResponse.cid
  active := dcResponse.active
  type := convertCharPtrToHidlString strings dcResponse.type
  ifname := convertCharPtrToHidlString strings dcResponse.ifname
  addresses := convertCharPtrToHidlString strings dcResponse.addresses
  dnses := convertCharPtrToHidlString strings dcResponse.dnses
  gateways := convertCharPtrToHidlString strings dcResponse.gateways
  pcscf := ""
  mtu := 0

def RilDataCallResponseV9.convertRilDataCallToHal (dcResponse : RilDataCallResponseV9) :
    SetupDataCallResult :=
  { dcResponse.toRilDataCallResponseV6.convertRilDataCallToHal strings with
    pcscf := convertCharPtrToHidlString strings dcResponse.pcscf }

def RilDataCallResponseV11.convertRilDataCallToHal (dcResponse : RilDataCallResponseV11) :
    SetupDataCallResult :=
  { dcResponse.toRilDataCallResponseV9.convertRilDataCallToHal strings with
    mtu := dcResponse.mtu }

/-- The loop over the entries of one version. It fails when it reads outside the array. -/
def convertEntries {α : Type} (record : Record UInt32 α) (convert : α → SetupDataCallResult)
    (response : List UInt32) (responseLen : Nat) : Option (List SetupDataCallResult) :=
  (record.loadArray response (responseLen / sizeofRecord record)).map (List.map convert)

def convertRilDataCallListToHal (response : List UInt32) (responseLen : Nat) :
    Option (List SetupDataCallResult) :=
  if responseLen % sizeofRecord RilDataCallResponseV11.record = 0 then
    convertEntries RilDataCallResponseV11.record
      (RilDataCallResponseV11.convertRilDataCallToHal strings) response responseLen
  else if responseLen % sizeofRecord RilDataCallResponseV9.record = 0 then
    convertEntries RilDataCallResponseV9.record
      (RilDataCallResponseV9.convertRilDataCallToHal strings) response responseLen
  else if responseLen % sizeofRecord RilDataCallResponseV6.record = 0 then
    convertEntries RilDataCallResponseV6.record
      (RilDataCallResponseV6.convertRilDataCallToHal strings) response responseLen
  else some []

/-- The check that both entry points make. `none` is `NULL`. -/
def InvalidDataCallList (response : Option (List UInt32)) (responseLen : Nat) : Prop :=
  (response = none ∧ responseLen ≠ 0) ∨
    (responseLen % sizeofRecord RilDataCallResponseV11.record ≠ 0 ∧
      responseLen % sizeofRecord RilDataCallResponseV9.record ≠ 0 ∧
      responseLen % sizeofRecord RilDataCallResponseV6.record ≠ 0)

instance (response : Option (List UInt32)) (responseLen : Nat) :
    Decidable (InvalidDataCallList response responseLen) :=
  inferInstanceAs (Decidable (_ ∧ _ ∨ _ ∧ _ ∧ _))

/-- The list that is indicated, if any. The indication is dropped without a client. -/
def dataCallListChangedInd (mRadioIndication : Bool) (response : Option (List UInt32))
    (responseLen : Nat) : Option (Option (List SetupDataCallResult)) :=
  if mRadioIndication then
    if InvalidDataCallList response responseLen then some none
    else (convertRilDataCallListToHal strings (response.getD []) responseLen).map some
  else some none

/-- The header and the list that are sent, if there is a client. -/
def getDataCallListResponse (mRadioResponse : Bool) (responseType serial e : Int32)
    (response : Option (List UInt32)) (responseLen : Nat) :
    Option (Option (RadioResponseInfo × List SetupDataCallResult)) :=
  let responseInfo := populateResponseInfo serial responseType e
  if mRadioResponse then
    if InvalidDataCallList response responseLen then some (some (responseInfo.invalid e, []))
    else (convertRilDataCallListToHal strings (response.getD []) responseLen).map fun ret =>
      some (responseInfo, ret)
  else some none

/-- A result has the fields of an entry. -/
structure CarriesV6 (r : RilDataCallResponseV6) (result : SetupDataCallResult) : Prop where
  status : result.status = r.status
  suggestedRetryTime : result.suggestedRetryTime = r.suggestedRetryTime
  cid : result.cid = r.cid
  active : result.active = r.active
  type : result.type = convertCharPtrToHidlString strings r.type
  ifname : result.ifname = convertCharPtrToHidlString strings r.ifname
  addresses : result.addresses = convertCharPtrToHidlString strings r.addresses
  dnses : result.dnses = convertCharPtrToHidlString strings r.dnses
  gateways : result.gateways = convertCharPtrToHidlString strings r.gateways

structure CarriesV9 (r : RilDataCallResponseV9) (result : SetupDataCallResult) : Prop
    extends CarriesV6 strings r.toRilDataCallResponseV6 result where
  pcscf : result.pcscf = convertCharPtrToHidlString strings r.pcscf

structure CarriesV11 (r : RilDataCallResponseV11) (result : SetupDataCallResult) : Prop
    extends CarriesV9 strings r.toRilDataCallResponseV9 result where
  mtu : result.mtu = r.mtu

/-- The lists that a vendor may have. -/
inductive RilDataCallList
  | v6 (entries : List RilDataCallResponseV6)
  | v9 (entries : List RilDataCallResponseV9)
  | v11 (entries : List RilDataCallResponseV11)

namespace RilDataCallList

/-- The buffer that holds a list. -/
def buffer : RilDataCallList → List UInt32
  | v6 entries => RilDataCallResponseV6.record.storeArray entries
  | v9 entries => RilDataCallResponseV9.record.storeArray entries
  | v11 entries => RilDataCallResponseV11.record.storeArray entries

/-- The results are those of the entries, in order. -/
def Carried : RilDataCallList → List SetupDataCallResult → Prop
  | v6 entries, results => List.Forall₂ (CarriesV6 strings) entries results
  | v9 entries, results => List.Forall₂ (CarriesV9 strings) entries results
  | v11 entries, results => List.Forall₂ (CarriesV11 strings) entries results

/-- With a client, both entry points accept the buffer of a list, read nothing else, and
pass its entries on. -/
structure Delivered (list : RilDataCallList) : Prop where
  indicated : ∃ results,
    dataCallListChangedInd strings true (some list.buffer) (4 * list.buffer.length) =
      some (some results) ∧ list.Carried strings results
  responded : ∀ responseType serial e, ∃ results,
    getDataCallListResponse strings true responseType serial e (some list.buffer)
        (4 * list.buffer.length) =
      some (some (populateResponseInfo serial responseType e, results)) ∧
      list.Carried strings results

/-- No structure that is tried before the right one fits the length. -/
def Distinct : RilDataCallList → Prop
  | v6 entries => entries.length = 0 ∨ ¬ 11 ∣ entries.length ∧ ¬ 10 ∣ entries.length
  | v9 entries => entries.length = 0 ∨ ¬ 11 ∣ entries.length
  | v11 _ => True

end RilDataCallList

variable {strings}

theorem carriesV6_convert (r : RilDataCallResponseV6) :
    CarriesV6 strings r (r.convertRilDataCallToHal strings) :=
  ⟨rfl, rfl, rfl, rfl, rfl, rfl, rfl, rfl, rfl⟩

theorem carriesV9_convert (r : RilDataCallResponseV9) :
    CarriesV9 strings r (r.convertRilDataCallToHal strings) :=
  ⟨⟨rfl, rfl, rfl, rfl, rfl, rfl, rfl, rfl, rfl⟩, rfl⟩

theorem carriesV11_convert (r : RilDataCallResponseV11) :
    CarriesV11 strings r (r.convertRilDataCallToHal strings) :=
  ⟨⟨⟨rfl, rfl, rfl, rfl, rfl, rfl, rfl, rfl, rfl⟩, rfl⟩, rfl⟩

theorem forall₂_map {α : Type} {carries : α → SetupDataCallResult → Prop}
    {convert : α → SetupDataCallResult} (h : ∀ a, carries a (convert a)) (entries : List α) :
    List.Forall₂ carries entries (entries.map convert) := by
  induction entries with
  | nil => exact .nil
  | cons a rest ih => exact .cons (h a) ih

/-- The number of results is what the structure that was tried makes of the length. -/
theorem length_of_convertEntries {α : Type} {record : Record UInt32 α}
    {convert : α → SetupDataCallResult} {response : List UInt32} {responseLen : Nat}
    {results : List SetupDataCallResult}
    (h : convertEntries record convert response responseLen = some results) :
    results.length = responseLen / sizeofRecord record := by
  obtain ⟨entries, hload, rfl⟩ := Option.map_eq_some_iff.mp h
  rw [List.length_map, record.length_of_loadArray hload]

/-- An array that is read as what it is has its entries converted. -/
theorem convertEntries_storeArray {α : Type} (record : Record UInt32 α)
    (convert : α → SetupDataCallResult) (entries : List α) (hwords : 0 < record.words) :
    convertEntries record convert (record.storeArray entries)
        (4 * (record.storeArray entries).length) = some (entries.map convert) := by
  have hnum : 4 * (record.storeArray entries).length / sizeofRecord record = entries.length := by
    rw [record.length_storeArray, sizeofRecord, ← Nat.mul_assoc]
    exact Nat.mul_div_cancel_left _ (by omega)
  rw [convertEntries, hnum, record.loadArray_storeArray, Option.map_some]

@[simp] theorem sizeofRecord_v6 : sizeofRecord RilDataCallResponseV6.record = 36 := rfl

@[simp] theorem sizeofRecord_v9 : sizeofRecord RilDataCallResponseV9.record = 40 := rfl

@[simp] theorem sizeofRecord_v11 : sizeofRecord RilDataCallResponseV11.record = 44 := rfl

variable {response : List UInt32} {responseLen : Nat}

theorem convert_v11 (h : responseLen % 44 = 0) :
    convertRilDataCallListToHal strings response responseLen =
      convertEntries RilDataCallResponseV11.record
        (RilDataCallResponseV11.convertRilDataCallToHal strings) response responseLen := by
  rw [convertRilDataCallListToHal, sizeofRecord_v11, if_pos h]

theorem convert_v9 (h11 : responseLen % 44 ≠ 0) (h : responseLen % 40 = 0) :
    convertRilDataCallListToHal strings response responseLen =
      convertEntries RilDataCallResponseV9.record
        (RilDataCallResponseV9.convertRilDataCallToHal strings) response responseLen := by
  rw [convertRilDataCallListToHal, sizeofRecord_v11, if_neg h11, sizeofRecord_v9, if_pos h]

theorem convert_v6 (h11 : responseLen % 44 ≠ 0) (h9 : responseLen % 40 ≠ 0)
    (h : responseLen % 36 = 0) :
    convertRilDataCallListToHal strings response responseLen =
      convertEntries RilDataCallResponseV6.record
        (RilDataCallResponseV6.convertRilDataCallToHal strings) response responseLen := by
  rw [convertRilDataCallListToHal, sizeofRecord_v11, if_neg h11, sizeofRecord_v9, if_neg h9,
    sizeofRecord_v6, if_pos h]

/-- The bytes of an array are those of its entries together. -/
theorem length_storeArray {α : Type} (record : Record UInt32 α) (entries : List α) :
    4 * (record.storeArray entries).length = sizeofRecord record * entries.length := by
  rw [record.length_storeArray, sizeofRecord, Nat.mul_assoc]

/-- Entries that are carried over are as many as the structure that was tried makes of
the length. -/
theorem length_of_carried {α β : Type} {tried : Record UInt32 β}
    {convert : β → SetupDataCallResult} {carries : α → SetupDataCallResult → Prop}
    {entries : List α} {results : List SetupDataCallResult}
    (hconvert : convertEntries tried convert response responseLen = some results)
    (hcarried : List.Forall₂ carries entries results) :
    entries.length = responseLen / sizeofRecord tried :=
  hcarried.length_eq.trans (length_of_convertEntries hconvert)

namespace RilDataCallList

variable {list : RilDataCallList}

theorem delivered_iff :
    list.Delivered strings ↔
      ¬ InvalidDataCallList (some list.buffer) (4 * list.buffer.length) ∧
        ∃ results, convertRilDataCallListToHal strings list.buffer (4 * list.buffer.length) =
          some results ∧ list.Carried strings results := by
  constructor
  · rintro ⟨⟨results, hindicated, hcarried⟩, -⟩
    rw [dataCallListChangedInd, if_pos rfl] at hindicated
    split at hindicated
    · cases hindicated
    · next hvalid =>
        obtain ⟨converted, hconvert, heq⟩ := Option.map_eq_some_iff.mp hindicated
        obtain rfl := Option.some.inj heq
        exact ⟨hvalid, converted, hconvert, hcarried⟩
  · rintro ⟨hvalid, results, hconvert, hcarried⟩
    constructor
    · refine ⟨results, ?_, hcarried⟩
      rw [dataCallListChangedInd, if_pos rfl, if_neg hvalid, Option.getD_some, hconvert,
        Option.map_some]
    · intro responseType serial e
      refine ⟨results, ?_, hcarried⟩
      rw [getDataCallListResponse, if_pos rfl, if_neg hvalid, Option.getD_some, hconvert,
        Option.map_some]

/-- An empty list is one of every version. -/
theorem delivered_of_nil (hbuffer : list.buffer = []) (hcarried : list.Carried strings []) :
    list.Delivered strings := by
  rw [delivered_iff, hbuffer]
  refine ⟨by simp [InvalidDataCallList], [], ?_, hcarried⟩
  rw [convert_v11 rfl]
  rfl

end RilDataCallList

theorem delivered_v11 (entries : List RilDataCallResponseV11) :
    (RilDataCallList.v11 entries).Delivered strings := by
  have hlength := length_storeArray RilDataCallResponseV11.record entries
  rw [sizeofRecord_v11] at hlength
  rw [RilDataCallList.delivered_iff, RilDataCallList.buffer]
  refine ⟨by simp [InvalidDataCallList, hlength], entries.map _, ?_,
    forall₂_map carriesV11_convert _⟩
  rw [convert_v11 (by omega)]
  exact convertEntries_storeArray _ _ entries (by decide)

theorem delivered_v9_iff (entries : List RilDataCallResponseV9) :
    (RilDataCallList.v9 entries).Delivered strings ↔
      entries.length = 0 ∨ ¬ 11 ∣ entries.length := by
  have hlength := length_storeArray RilDataCallResponseV9.record entries
  rw [sizeofRecord_v9] at hlength
  constructor
  · intro h
    rw [RilDataCallList.delivered_iff, RilDataCallList.buffer] at h
    obtain ⟨-, results, hconvert, hcarried⟩ := h
    by_contra hmany
    rw [convert_v11 (by omega)] at hconvert
    have hcount := length_of_carried hconvert hcarried
    rw [hlength, sizeofRecord_v11] at hcount
    omega
  · rintro (hnil | hnot)
    · rw [List.length_eq_zero_iff] at hnil
      subst hnil
      exact RilDataCallList.delivered_of_nil rfl .nil
    · rw [RilDataCallList.delivered_iff, RilDataCallList.buffer]
      refine ⟨by simp [InvalidDataCallList, hlength], entries.map _, ?_,
        forall₂_map carriesV9_convert _⟩
      rw [convert_v9 (by omega) (by omega)]
      exact convertEntries_storeArray _ _ entries (by decide)

theorem delivered_v6_iff (entries : List RilDataCallResponseV6) :
    (RilDataCallList.v6 entries).Delivered strings ↔
      entries.length = 0 ∨ ¬ 11 ∣ entries.length ∧ ¬ 10 ∣ entries.length := by
  have hlength := length_storeArray RilDataCallResponseV6.record entries
  rw [sizeofRecord_v6] at hlength
  constructor
  · intro h
    rw [RilDataCallList.delivered_iff, RilDataCallList.buffer] at h
    obtain ⟨-, results, hconvert, hcarried⟩ := h
    by_contra hmany
    by_cases heleven : 11 ∣ entries.length
    · rw [convert_v11 (by omega)] at hconvert
      have hcount := length_of_carried hconvert hcarried
      rw [hlength, sizeofRecord_v11] at hcount
      omega
    · rw [convert_v9 (by omega) (by omega)] at hconvert
      have hcount := length_of_carried hconvert hcarried
      rw [hlength, sizeofRecord_v9] at hcount
      omega
  · rintro (hnil | ⟨heleven, hten⟩)
    · rw [List.length_eq_zero_iff] at hnil
      subst hnil
      exact RilDataCallList.delivered_of_nil rfl .nil
    · rw [RilDataCallList.delivered_iff, RilDataCallList.buffer]
      refine ⟨by simp [InvalidDataCallList, hlength], entries.map _, ?_,
        forall₂_map carriesV6_convert _⟩
      rw [convert_v6 (by omega) (by omega) (by omega)]
      exact convertEntries_storeArray _ _ entries (by decide)

/-- Both entry points deliver a list exactly when no structure that is tried before the
right one fits its length. -/
theorem delivered_iff_distinct (strings : UInt32 → String) (list : RilDataCallList) :
    list.Delivered strings ↔ list.Distinct := by
  cases list with
  | v6 entries => exact delivered_v6_iff entries
  | v9 entries => exact delivered_v9_iff entries
  | v11 entries => exact ⟨fun _ => trivial, fun _ => delivered_v11 entries⟩

/-- Eleven calls of version 9 are taken for ten of version 11. -/
theorem not_delivered_eleven_v9 :
    ¬ (RilDataCallList.v9 (List.replicate 11 ⟨⟨0, 0, 0, 0, 0, 0, 0, 0, 0⟩, 0⟩)).Delivered
      fun _ => "" := by
  rintro ⟨⟨results, hindicated, hcarried⟩, -⟩
  have hlength := hcarried.length_eq
  have hten : (dataCallListChangedInd (fun _ => "") true
      (some (RilDataCallList.v9
        (List.replicate 11 ⟨⟨0, 0, 0, 0, 0, 0, 0, 0, 0⟩, 0⟩)).buffer) 440).map
          (fun indicated => indicated.map List.length) = some (some 10) := by decide +kernel
  have hbytes : 4 * (RilDataCallList.v9
      (List.replicate 11 ⟨⟨0, 0, 0, 0, 0, 0, 0, 0, 0⟩, 0⟩)).buffer.length = 440 := by
    decide +kernel
  rw [hbytes] at hindicated
  rw [hindicated, Option.map_some, Option.map_some, Option.some.injEq, Option.some.injEq] at hten
  rw [List.length_replicate, hten] at hlength
  cases hlength

end

end Serrano.Ril
