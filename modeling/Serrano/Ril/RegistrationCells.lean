import Serrano.Ril.RegistrationState

/-! # The cell in a registration state

Where the strings of a registration state have the fields of the cell, and what
the client gets of them. The first and second entries are hexadecimal and the others
decimal. Of a data registration state of fewer than thirteen strings the entries
from the sixth on are not used.
-/

namespace Serrano.Ril

open Strtol

/-- The data models of the machines, which differ in the size of a `long`. -/
inductive Abi
  | ilp32
  | lp64

def Abi.longBits : Abi → Nat
  | ilp32 => 32
  | lp64 => 64

/-- `LONG_MAX` -/
def Abi.longMax (abi : Abi) : Int := 2 ^ (abi.longBits - 1) - 1

/-- An entry and the base of its number. -/
structure Source where
  index : Nat
  base : Nat

/-- Where a voice registration state has the fields of a cell. -/
def voiceSource : RilCellInfoType → CellField → Option Source
  | .gsm, .lac | .wcdma, .lac | .tdScdma, .lac | .lte, .tac => some ⟨1, 16⟩
  | .gsm, .cid | .wcdma, .cid | .tdScdma, .cid | .lte, .ci => some ⟨2, 16⟩
  | .wcdma, .psc => some ⟨14, 10⟩
  | .cdma, .baseStationId => some ⟨4, 10⟩
  | .cdma, .latitude => some ⟨5, 10⟩
  | .cdma, .longitude => some ⟨6, 10⟩
  | .cdma, .systemId => some ⟨8, 10⟩
  | .cdma, .networkId => some ⟨9, 10⟩
  | _, _ => none

/-- Where a data registration state has them. -/
def dataSource : RilCellInfoType → CellField → Option Source
  | .gsm, .lac | .wcdma, .lac | .tdScdma, .lac => some ⟨1, 16⟩
  | .gsm, .cid | .wcdma, .cid | .tdScdma, .cid => some ⟨2, 16⟩
  | .lte, .tac => some ⟨6, 10⟩
  | .lte, .pci => some ⟨7, 10⟩
  | .lte, .ci => some ⟨8, 10⟩
  | _, _ => none

/-- Technologies with a country and a network. -/
def RilCellInfoType.hasPlmn : RilCellInfoType → Bool
  | none | cdma => false
  | gsm | wcdma | tdScdma | lte => true

/-- The numbers that are sent in a base: unsigned ones in hexadecimal, and those of an `int` in
decimal. -/
def Sent (hexMax : Int) (base : Nat) (number : Int) : Prop :=
  if base = 16 then 0 ≤ number ∧ number ≤ hexMax ∧ number ≤ 0xFFFFFFFF
  else -2 ^ 31 ≤ number ∧ number < 2 ^ 31

/-- A field is -1 when its entry is missing, and otherwise the number of its entry in 32 bits,
for the entries that are readable. -/
def Decoded (resp : List (Option (List Char))) (readable : Nat) (hexMax : Int)
    (source : Option Source) (delivered : Int32) : Prop :=
  match source with
  | none => delivered = -1
  | some ⟨index, base⟩ =>
      ((resp[index]?).join = none → delivered = -1) ∧
        ∀ text number, (resp[index]?).join = some text → index < readable →
          numeral base text = some number → Sent hexMax base number →
            delivered = Int32.ofInt number

/-- The client gets a cell of a technology, with every field from where it is. -/
structure CellDelivered (resp : List (Option (List Char))) (readable : Nat) (hexMax : Int)
    (decode : Int32 → String) (type : RilCellInfoType) (source : CellField → Option Source)
    (mccSource mncSource : Option Source) (identity : CellIdentity) : Prop where
  cellInfoType : identity.cellInfoType = type
  present : ∀ f, (source f).isSome → (identity.field f).isSome
  field : ∀ f delivered, identity.field f = some delivered →
    Decoded resp readable hexMax (source f) delivered
  plmn : type.hasPlmn = true → ∃ mcc mnc, identity.mcc = some (mccString mcc) ∧
    identity.mnc = some (decode mnc) ∧ Decoded resp readable hexMax mccSource mcc ∧
    Decoded resp readable hexMax mncSource mnc

section

variable {resp : List (Option (List Char))} {readable : Nat} {hexMax : Int} {index numStrings : Nat}
variable {convert : List Char → Int32} {abi : Abi}

/-- What is made of an entry. -/
def entryValue (resp : List (Option (List Char))) (convert : List Char → Int32)
    (index numStrings : Nat) : Int32 :=
  if index < numStrings then ((resp[index]?).join.map convert).getD (-1) else -1

def hexValue (bits : Nat) (resp : List (Option (List Char))) (numStrings index : Nat) : Int32 :=
  entryValue resp (fun text => Int32.ofInt (strtol bits 16 text)) index numStrings

def decimalValue (bits : Nat) (resp : List (Option (List Char))) (numStrings index : Nat) : Int32 :=
  entryValue resp (atoi bits) index numStrings

theorem convertEntry_eq (h : numStrings ≤ resp.length) :
    convertEntry resp convert index numStrings =
      some (entryValue resp convert index numStrings) := by
  rw [convertEntry, entryValue]
  split
  · next hindex =>
      rw [List.getElem?_eq_getElem (Nat.lt_of_lt_of_le hindex h), Option.map_some]
      rfl
  · rfl

theorem Decoded.of_entry {base : Nat}
    (hconvert : ∀ text number, numeral base text = some number → Sent hexMax base number →
      convert text = Int32.ofInt number)
    (hindex : index < readable → index < numStrings) :
    Decoded resp readable hexMax (some ⟨index, base⟩)
      (entryValue resp convert index numStrings) := by
  refine ⟨fun hmissing => ?_, fun text number hentry hreadable hnumeral hsent => ?_⟩
  · rw [entryValue, hmissing]
    split <;> rfl
  · rw [entryValue, if_pos (hindex hreadable), hentry]
    exact hconvert text number hnumeral hsent

/-- Entries that are not readable may as well be missing. -/
theorem Decoded.of_not_readable {base : Nat} (h : readable ≤ index) :
    Decoded resp readable hexMax (some ⟨index, base⟩) (-1) :=
  ⟨fun _ => rfl, fun _ _ _ hreadable => absurd hreadable (Nat.not_lt.mpr h)⟩

theorem Decoded.hex (hindex : index < readable → index < numStrings) :
    Decoded resp readable abi.longMax (some ⟨index, 16⟩)
      (hexValue abi.longBits resp numStrings index) := by
  refine .of_entry (fun text number hnumeral hsent => ?_) hindex
  rw [Sent, if_pos rfl, Abi.longMax] at hsent
  rw [strtol_numeral hnumeral, clamp_of_le]
  · cases abi <;> simp only [Abi.longBits] <;> omega
  · omega

theorem Decoded.decimal (hindex : index < readable → index < numStrings) :
    Decoded resp readable abi.longMax (some ⟨index, 10⟩)
      (decimalValue abi.longBits resp numStrings index) := by
  refine .of_entry (fun text number hnumeral hsent => ?_) hindex
  rw [Sent, if_neg (by decide)] at hsent
  rw [atoi, strtol_numeral hnumeral, clamp_of_le]
  · cases abi <;> simp only [Abi.longBits] <;> omega
  · cases abi <;> simp only [Abi.longBits] <;> omega

theorem convertResponseHexStringEntryToInt_eq {bits : Nat} (h : numStrings ≤ resp.length) :
    convertResponseHexStringEntryToInt bits resp index numStrings =
      some (hexValue bits resp numStrings index) :=
  convertEntry_eq h

theorem convertResponseStringEntryToInt_eq {bits : Nat} (h : numStrings ≤ resp.length) :
    convertResponseStringEntryToInt bits resp index numStrings =
      some (decimalValue bits resp numStrings index) :=
  convertEntry_eq h

/-! ### Cells of a technology -/

variable {decode : Int32 → String} {source : CellField → Option Source}
variable {mccSource mncSource : Option Source}

theorem gsm_delivered {ril : RilCellIdentityGsm}
    (hlac : Decoded resp readable hexMax (source .lac) ril.lac)
    (hcid : Decoded resp readable hexMax (source .cid) ril.cid)
    (harfcn : Decoded resp readable hexMax (source .arfcn) ril.arfcn)
    (honly : ∀ f, (source f).isSome → f = .lac ∨ f = .cid)
    (hmcc : Decoded resp readable hexMax mccSource ril.mcc)
    (hmnc : Decoded resp readable hexMax mncSource ril.mnc) :
    CellDelivered resp readable hexMax decode .gsm source mccSource mncSource
      (fillCellIdentityResponse decode (.gsm ril)) where
  cellInfoType := rfl
  present f hf := by rcases honly f hf with rfl | rfl <;> rfl
  field f delivered hf := by
    cases f <;> cases hf
    · exact hlac
    · exact hcid
    · exact harfcn
  plmn _ := ⟨ril.mcc, ril.mnc, rfl, rfl, hmcc, hmnc⟩

theorem wcdma_delivered {ril : RilCellIdentityWcdma}
    (hlac : Decoded resp readable hexMax (source .lac) ril.lac)
    (hcid : Decoded resp readable hexMax (source .cid) ril.cid)
    (hpsc : Decoded resp readable hexMax (source .psc) ril.psc)
    (huarfcn : Decoded resp readable hexMax (source .uarfcn) ril.uarfcn)
    (honly : ∀ f, (source f).isSome → f = .lac ∨ f = .cid ∨ f = .psc)
    (hmcc : Decoded resp readable hexMax mccSource ril.mcc)
    (hmnc : Decoded resp readable hexMax mncSource ril.mnc) :
    CellDelivered resp readable hexMax decode .wcdma source mccSource mncSource
      (fillCellIdentityResponse decode (.wcdma ril)) where
  cellInfoType := rfl
  present f hf := by rcases honly f hf with rfl | rfl | rfl <;> rfl
  field f delivered hf := by
    cases f <;> cases hf
    · exact hlac
    · exact hcid
    · exact hpsc
    · exact huarfcn
  plmn _ := ⟨ril.mcc, ril.mnc, rfl, rfl, hmcc, hmnc⟩

theorem tdScdma_delivered {ril : RilCellIdentityTdscdma}
    (hlac : Decoded resp readable hexMax (source .lac) ril.lac)
    (hcid : Decoded resp readable hexMax (source .cid) ril.cid)
    (hcpid : Decoded resp readable hexMax (source .cpid) ril.cpid)
    (honly : ∀ f, (source f).isSome → f = .lac ∨ f = .cid)
    (hmcc : Decoded resp readable hexMax mccSource ril.mcc)
    (hmnc : Decoded resp readable hexMax mncSource ril.mnc) :
    CellDelivered resp readable hexMax decode .tdScdma source mccSource mncSource
      (fillCellIdentityResponse decode (.tdScdma ril)) where
  cellInfoType := rfl
  present f hf := by rcases honly f hf with rfl | rfl <;> rfl
  field f delivered hf := by
    cases f <;> cases hf
    · exact hlac
    · exact hcid
    · exact hcpid
  plmn _ := ⟨ril.mcc, ril.mnc, rfl, rfl, hmcc, hmnc⟩

theorem lte_delivered {ril : RilCellIdentityLte}
    (hci : Decoded resp readable hexMax (source .ci) ril.ci)
    (hpci : Decoded resp readable hexMax (source .pci) ril.pci)
    (htac : Decoded resp readable hexMax (source .tac) ril.tac)
    (hearfcn : Decoded resp readable hexMax (source .earfcn) ril.earfcn)
    (honly : ∀ f, (source f).isSome → f = .ci ∨ f = .pci ∨ f = .tac)
    (hmcc : Decoded resp readable hexMax mccSource ril.mcc)
    (hmnc : Decoded resp readable hexMax mncSource ril.mnc) :
    CellDelivered resp readable hexMax decode .lte source mccSource mncSource
      (fillCellIdentityResponse decode (.lte ril)) where
  cellInfoType := rfl
  present f hf := by rcases honly f hf with rfl | rfl | rfl <;> rfl
  field f delivered hf := by
    cases f <;> cases hf
    · exact hci
    · exact hpci
    · exact htac
    · exact hearfcn
  plmn _ := ⟨ril.mcc, ril.mnc, rfl, rfl, hmcc, hmnc⟩

theorem cdma_delivered {ril : RilCellIdentityCdma}
    (hnetworkId : Decoded resp readable hexMax (source .networkId) ril.networkId)
    (hsystemId : Decoded resp readable hexMax (source .systemId) ril.systemId)
    (hbaseStationId : Decoded resp readable hexMax (source .baseStationId) ril.basestationId)
    (hlongitude : Decoded resp readable hexMax (source .longitude) ril.longitude)
    (hlatitude : Decoded resp readable hexMax (source .latitude) ril.latitude)
    (honly : ∀ f, (source f).isSome → f = .networkId ∨ f = .systemId ∨ f = .baseStationId ∨
      f = .longitude ∨ f = .latitude) :
    CellDelivered resp readable hexMax decode .cdma source mccSource mncSource
      (fillCellIdentityResponse decode (.cdma ril)) where
  cellInfoType := rfl
  present f hf := by rcases honly f hf with rfl | rfl | rfl | rfl | rfl <;> rfl
  field f delivered hf := by
    cases f <;> cases hf
    · exact hnetworkId
    · exact hsystemId
    · exact hbaseStationId
    · exact hlongitude
    · exact hlatitude
  plmn h := by cases h

theorem none_delivered (honly : ∀ f, (source f).isSome = false) :
    CellDelivered resp readable hexMax decode .none source mccSource mncSource
      (fillCellIdentityResponse decode .none) where
  cellInfoType := rfl
  present f hf := by
    rw [honly f] at hf
    cases hf
  field f delivered hf := by cases hf
  plmn h := by cases h

/-- The cell of a voice registration state, of which fifteen strings are decoded. -/
theorem exists_voiceCellIdentity (abi : Abi) (decode : Int32 → String) (h : 15 ≤ resp.length)
    (type : RilCellInfoType) :
    ∃ ril, voiceCellIdentity abi.longBits resp 15 type = some ril ∧
      CellDelivered resp resp.length abi.longMax decode type (voiceSource type) none none
        (fillCellIdentityResponse decode ril) := by
  have hhex {index : Nat} (hindex : index < 15) : Decoded resp resp.length abi.longMax
      (some ⟨index, 16⟩) (hexValue abi.longBits resp 15 index) := .hex fun _ => hindex
  have hdecimal {index : Nat} (hindex : index < 15) : Decoded resp resp.length abi.longMax
      (some ⟨index, 10⟩) (decimalValue abi.longBits resp 15 index) := .decimal fun _ => hindex
  cases type with
  | none => exact ⟨.none, rfl, none_delivered fun f => by cases f <;> rfl⟩
  | gsm =>
      refine ⟨.gsm
          { lac := hexValue abi.longBits resp 15 1
            cid := hexValue abi.longBits resp 15 2 }, ?_,
        gsm_delivered (hhex (by decide)) (hhex (by decide)) rfl ?_ rfl rfl⟩
      · simp only [voiceCellIdentity, convertResponseHexStringEntryToInt_eq h]
        rfl
      · intro f
        cases f <;> simp [voiceSource]
  | wcdma =>
      refine ⟨.wcdma
          { lac := hexValue abi.longBits resp 15 1
            cid := hexValue abi.longBits resp 15 2
            psc := decimalValue abi.longBits resp 15 14 }, ?_,
        wcdma_delivered (hhex (by decide)) (hhex (by decide)) (hdecimal (by decide)) rfl ?_ rfl
          rfl⟩
      · simp only [voiceCellIdentity, convertResponseHexStringEntryToInt_eq h,
          convertResponseStringEntryToInt_eq h]
        rfl
      · intro f
        cases f <;> simp [voiceSource]
  | tdScdma =>
      refine ⟨.tdScdma
          { lac := hexValue abi.longBits resp 15 1
            cid := hexValue abi.longBits resp 15 2 }, ?_,
        tdScdma_delivered (hhex (by decide)) (hhex (by decide)) rfl ?_ rfl rfl⟩
      · simp only [voiceCellIdentity, convertResponseHexStringEntryToInt_eq h]
        rfl
      · intro f
        cases f <;> simp [voiceSource]
  | cdma =>
      refine ⟨.cdma
          { basestationId := decimalValue abi.longBits resp 15 4
            latitude := decimalValue abi.longBits resp 15 5
            longitude := decimalValue abi.longBits resp 15 6
            systemId := decimalValue abi.longBits resp 15 8
            networkId := decimalValue abi.longBits resp 15 9 }, ?_,
        cdma_delivered (hdecimal (by decide)) (hdecimal (by decide)) (hdecimal (by decide))
          (hdecimal (by decide)) (hdecimal (by decide)) ?_⟩
      · simp only [voiceCellIdentity, convertResponseStringEntryToInt_eq h]
        rfl
      · intro f
        cases f <;> simp [voiceSource]
  | lte =>
      refine ⟨.lte
          { tac := hexValue abi.longBits resp 15 1
            ci := hexValue abi.longBits resp 15 2 }, ?_,
        lte_delivered (hhex (by decide)) rfl (hhex (by decide)) rfl ?_ rfl rfl⟩
      · simp only [voiceCellIdentity, convertResponseHexStringEntryToInt_eq h]
        rfl
      · intro f
        cases f <;> simp [voiceSource]

/-- The entries of a data registration state that are used. -/
def dataReadable (numStrings : Nat) : Nat := if numStrings < 13 then 6 else numStrings

/-- Where a data registration state has the mcc and the mnc. -/
def dataMccSource : Source := ⟨11, 10⟩

def dataMncSource : Source := ⟨12, 10⟩

theorem dataNumStrings_eq (numStrings : Nat) :
    dataNumStrings numStrings = if numStrings < 13 then 6 else 13 := by
  rw [dataNumStrings]
  split_ifs <;> first | rfl | omega

theorem exists_dataMccMnc (abi : Abi) (resp : List (Option (List Char))) :
    ∃ mcc mnc, dataMccMnc abi.longBits resp (dataNumStrings resp.length) = some (mcc, mnc) ∧
      Decoded resp (dataReadable resp.length) abi.longMax (some dataMccSource) mcc ∧
      Decoded resp (dataReadable resp.length) abi.longMax (some dataMncSource) mnc := by
  rw [dataNumStrings_eq, dataReadable, dataMccMnc]
  by_cases hshort : resp.length < 13
  · rw [if_pos hshort, if_neg (by decide), if_pos hshort]
    exact ⟨-1, -1, rfl, .of_not_readable (Nat.le_of_ble_eq_true rfl),
      .of_not_readable (Nat.le_of_ble_eq_true rfl)⟩
  · rw [if_neg hshort, if_pos (Nat.le_refl 13), if_neg hshort]
    simp only [convertResponseStringEntryToInt_eq (Nat.le_of_not_lt hshort)]
    have hread {index : Nat} (hindex : index < 13) :
        Decoded resp resp.length abi.longMax (some ⟨index, 10⟩)
          (decimalValue abi.longBits resp 13 index) := .decimal fun _ => hindex
    exact ⟨_, _, rfl, hread (by decide), hread (by decide)⟩

theorem exists_dataCellIdentity (abi : Abi) (decode : Int32 → String) (h : 6 ≤ resp.length)
    (type : RilCellInfoType) :
    ∃ ril, dataCellIdentity abi.longBits resp (dataNumStrings resp.length) type = some ril ∧
      CellDelivered resp (dataReadable resp.length) abi.longMax decode type (dataSource type)
        (some dataMccSource) (some dataMncSource) (fillCellIdentityResponse decode ril) := by
  have hcount : dataNumStrings resp.length ≤ resp.length := by
    rw [dataNumStrings_eq]
    split <;> omega
  have hread {index : Nat} (hindex : index < 13) (hreadable : index < dataReadable resp.length) :
      index < dataNumStrings resp.length := by
    rw [dataReadable] at hreadable
    rw [dataNumStrings_eq]
    split at hreadable <;> split <;> omega
  obtain ⟨mcc, mnc, hplmn, hmcc, hmnc⟩ := exists_dataMccMnc abi resp
  have hhex {index : Nat} (hindex : index < 13) :
      Decoded resp (dataReadable resp.length) abi.longMax (some ⟨index, 16⟩)
        (hexValue abi.longBits resp (dataNumStrings resp.length) index) := .hex (hread hindex)
  have hdecimal {index : Nat} (hindex : index < 13) :
      Decoded resp (dataReadable resp.length) abi.longMax (some ⟨index, 10⟩)
        (decimalValue abi.longBits resp (dataNumStrings resp.length) index) :=
    .decimal (hread hindex)
  cases type with
  | none => exact ⟨.none, rfl, none_delivered fun f => by cases f <;> rfl⟩
  | cdma =>
      refine ⟨.cdma {}, rfl, cdma_delivered rfl rfl rfl rfl rfl ?_⟩
      intro f
      cases f <;> simp [dataSource]
  | gsm =>
      refine ⟨.gsm
          { lac := hexValue abi.longBits resp (dataNumStrings resp.length) 1
            cid := hexValue abi.longBits resp (dataNumStrings resp.length) 2
            mcc := mcc
            mnc := mnc }, ?_,
        gsm_delivered (hhex (by decide)) (hhex (by decide)) rfl ?_ hmcc hmnc⟩
      · simp only [dataCellIdentity, convertResponseHexStringEntryToInt_eq hcount, hplmn]
        rfl
      · intro f
        cases f <;> simp [dataSource]
  | wcdma =>
      refine ⟨.wcdma
          { lac := hexValue abi.longBits resp (dataNumStrings resp.length) 1
            cid := hexValue abi.longBits resp (dataNumStrings resp.length) 2
            mcc := mcc
            mnc := mnc }, ?_,
        wcdma_delivered (hhex (by decide)) (hhex (by decide)) rfl rfl ?_ hmcc hmnc⟩
      · simp only [dataCellIdentity, convertResponseHexStringEntryToInt_eq hcount, hplmn]
        rfl
      · intro f
        cases f <;> simp [dataSource]
  | tdScdma =>
      refine ⟨.tdScdma
          { lac := hexValue abi.longBits resp (dataNumStrings resp.length) 1
            cid := hexValue abi.longBits resp (dataNumStrings resp.length) 2
            mcc := mcc
            mnc := mnc }, ?_,
        tdScdma_delivered (hhex (by decide)) (hhex (by decide)) rfl ?_ hmcc hmnc⟩
      · simp only [dataCellIdentity, convertResponseHexStringEntryToInt_eq hcount, hplmn]
        rfl
      · intro f
        cases f <;> simp [dataSource]
  | lte =>
      refine ⟨.lte
          { tac := decimalValue abi.longBits resp (dataNumStrings resp.length) 6
            pci := decimalValue abi.longBits resp (dataNumStrings resp.length) 7
            ci := decimalValue abi.longBits resp (dataNumStrings resp.length) 8
            mcc := mcc
            mnc := mnc }, ?_,
        lte_delivered (hdecimal (by decide)) (hdecimal (by decide)) (hdecimal (by decide)) rfl ?_
          hmcc hmnc⟩
      · simp only [dataCellIdentity, convertResponseStringEntryToInt_eq hcount, hplmn]
        rfl
      · intro f
        cases f <;> simp [dataSource]

theorem getElem?_eq_some_join {index : Nat} (h : index < resp.length) :
    resp[index]? = some (resp[index]?).join := by
  rw [List.getElem?_eq_getElem h]
  rfl

theorem exists_voiceRegState (abi : Abi) (decode : Int32 → String) (h : 15 ≤ resp.length) :
    ∃ result, voiceRegStateOfStrings abi.longBits resp decode = some result ∧
      CellDelivered resp resp.length abi.longMax decode
        (getCellInfoTypeRadioTechnology abi.longBits (resp[3]?).join)
        (voiceSource (getCellInfoTypeRadioTechnology abi.longBits (resp[3]?).join)) none none
        result.cellIdentity := by
  obtain ⟨ril, hril, hdelivered⟩ := exists_voiceCellIdentity abi decode h
    (getCellInfoTypeRadioTechnology abi.longBits (resp[3]?).join)
  have hfill : fillCellIdentityFromVoiceRegStateResponseString abi.longBits resp decode 15 =
      some (fillCellIdentityResponse decode ril) := by
    rw [fillCellIdentityFromVoiceRegStateResponseString, getElem?_eq_some_join (by omega)]
    simp only [Option.bind_eq_bind, Option.bind_some, hril]
    rfl
  have hread {index : Nat} (hindex : index < 15) : resp[index]? = some (resp[index]?).join :=
    getElem?_eq_some_join (Nat.lt_of_lt_of_le hindex h)
  rw [voiceRegStateOfStrings, hread (by decide : 0 < 15), hread (by decide : 3 < 15),
    hread (by decide : 7 < 15), hread (by decide : 10 < 15), hread (by decide : 11 < 15),
    hread (by decide : 12 < 15), hread (by decide : 13 < 15), hfill]
  exact ⟨_, rfl, hdelivered⟩

theorem exists_dataRegState (abi : Abi) (decode : Int32 → String) (h : 6 ≤ resp.length) :
    ∃ result, dataRegStateOfStrings abi.longBits resp decode = some result ∧
      CellDelivered resp (dataReadable resp.length) abi.longMax decode
        (getCellInfoTypeRadioTechnology abi.longBits (resp[3]?).join)
        (dataSource (getCellInfoTypeRadioTechnology abi.longBits (resp[3]?).join))
        (some dataMccSource) (some dataMncSource) result.cellIdentity := by
  obtain ⟨ril, hril, hdelivered⟩ := exists_dataCellIdentity abi decode h
    (getCellInfoTypeRadioTechnology abi.longBits (resp[3]?).join)
  have hread {index : Nat} (hindex : index < 6) : resp[index]? = some (resp[index]?).join :=
    getElem?_eq_some_join (Nat.lt_of_lt_of_le hindex h)
  have hfill : fillCellIdentityFromDataRegStateResponseString abi.longBits resp decode
      (dataNumStrings resp.length) = some (fillCellIdentityResponse decode ril) := by
    rw [fillCellIdentityFromDataRegStateResponseString, hread (by decide : 3 < 6)]
    simp only [Option.bind_eq_bind, Option.bind_some, hril]
    rfl
  rw [dataRegStateOfStrings, hread (by decide : 0 < 6), hread (by decide : 3 < 6),
    hread (by decide : 4 < 6), hread (by decide : 5 < 6), hfill]
  exact ⟨_, rfl, hdelivered⟩

end

/-- Of every voice and data registration state that is accepted as strings, the client gets the
cell: the first and second entries as hexadecimal numbers, as far as a `long` holds
them, and the others as decimal ones. -/
theorem registration_cells_delivered (abi : Abi) (decode : Int32 → String)
    (responseType serial e : Int32) (resp : List (Option (List Char))) :
    (15 ≤ resp.length → ∃ result,
      getVoiceRegistrationStateResponse abi.longBits decode responseType serial e (.strings resp) =
        some (populateResponseInfo serial responseType e, result) ∧
      CellDelivered resp resp.length abi.longMax decode
        (getCellInfoTypeRadioTechnology abi.longBits (resp[3]?).join)
        (voiceSource (getCellInfoTypeRadioTechnology abi.longBits (resp[3]?).join)) none none
        result.cellIdentity) ∧
    (6 ≤ resp.length → ∃ result,
      getDataRegistrationStateResponse abi.longBits decode responseType serial e (.strings resp) =
        some (populateResponseInfo serial responseType e, result) ∧
      CellDelivered resp (dataReadable resp.length) abi.longMax decode
        (getCellInfoTypeRadioTechnology abi.longBits (resp[3]?).join)
        (dataSource (getCellInfoTypeRadioTechnology abi.longBits (resp[3]?).join))
        (some dataMccSource) (some dataMncSource) result.cellIdentity) := by
  constructor
  · intro h
    obtain ⟨result, hresult, hdelivered⟩ := exists_voiceRegState abi decode h
    refine ⟨result, ?_, hdelivered⟩
    rw [getVoiceRegistrationStateResponse]
    rw [if_neg (Nat.not_lt.mpr h), hresult, Option.map_some]
  · intro h
    obtain ⟨result, hresult, hdelivered⟩ := exists_dataRegState abi decode h
    refine ⟨result, ?_, hdelivered⟩
    rw [getDataRegistrationStateResponse]
    rw [if_neg (Nat.not_lt.mpr h), hresult, Option.map_some]

/-- A data registration state in LTE, with all its fields. -/
def lteStrings : List (Option (List Char)) :=
  [some ['1'], none, none, some ['1', '4'], none, some ['1'], some ['1', 'a'], some ['5'],
    some ['9', '9'], none, none, some ['2', '6', '2'], some ['1']]

/-- A voice registration state in GSM, with the largest cell id. -/
def gsmStrings : List (Option (List Char)) :=
  [some ['1'], some ['1', 'a'], some (List.replicate 8 'f'), some ['1', '6']] ++
    List.replicate 11 none

theorem registration_cells_delivered_strings :
    (∃ result, getVoiceRegistrationStateResponse 64 (fun _ => "") 0 0 0 (.strings gsmStrings) =
        some (populateResponseInfo 0 0 0, result) ∧
      CellDelivered gsmStrings 15 (Abi.longMax .lp64) (fun _ => "") .gsm (voiceSource .gsm)
        none none result.cellIdentity) ∧
    ∃ result, getDataRegistrationStateResponse 32 (fun _ => "") 0 0 0 (.strings lteStrings) =
        some (populateResponseInfo 0 0 0, result) ∧
      CellDelivered lteStrings 13 (Abi.longMax .ilp32) (fun _ => "") .lte (dataSource .lte)
        (some dataMccSource) (some dataMncSource) result.cellIdentity :=
  ⟨(registration_cells_delivered .lp64 (fun _ => "") 0 0 0 gsmStrings).1 (by decide),
    (registration_cells_delivered .ilp32 (fun _ => "") 0 0 0 lteStrings).2 (by decide)⟩

/-- Of eleven strings the physical cell id is not used, a hexadecimal tracking area
code is read as a decimal number, and the largest cell id does not fit a `long` of 32 bits. -/
theorem cells_not_delivered :
    (∃ outcome, getDataRegistrationStateResponse 32 (fun _ => "") 0 0 0
        (.strings (lteStrings.take 11)) = some outcome ∧
      ¬ CellDelivered (lteStrings.take 11) 11 0xFFFFFFFF (fun _ => "") .lte (dataSource .lte)
        (some dataMccSource) (some dataMncSource) outcome.2.cellIdentity) ∧
    (∃ outcome, getDataRegistrationStateResponse 32 (fun _ => "") 0 0 0
        (.strings lteStrings) = some outcome ∧
      ¬ CellDelivered lteStrings 13 0xFFFFFFFF (fun _ => "") .lte
        (fun f => if f = .tac then some ⟨6, 16⟩ else dataSource .lte f)
        (some dataMccSource) (some dataMncSource) outcome.2.cellIdentity) ∧
    ∃ outcome, getVoiceRegistrationStateResponse 32 (fun _ => "") 0 0 0
        (.strings gsmStrings) = some outcome ∧
      ¬ CellDelivered gsmStrings 15 0xFFFFFFFF (fun _ => "") .gsm (voiceSource .gsm)
        none none outcome.2.cellIdentity := by
  refine ⟨⟨_, rfl, fun h => ?_⟩, ⟨_, rfl, fun h => ?_⟩, ⟨_, rfl, fun h => ?_⟩⟩
  · have hpci := (h.field .pci (-1) rfl).2 ['5'] 5 rfl (by decide) rfl ⟨by decide, by decide⟩
    revert hpci
    decide
  · have htac := (h.field .tac 1 rfl).2 ['1', 'a'] 26 rfl (by decide) rfl
      ⟨by decide, by decide, by decide⟩
    revert htac
    decide
  · have hcid := (h.field .cid 0x7FFFFFFF rfl).2 (List.replicate 8 'f') 0xFFFFFFFF rfl (by decide)
      rfl ⟨by decide, by decide, by decide⟩
    revert hcid
    decide

end Serrano.Ril
