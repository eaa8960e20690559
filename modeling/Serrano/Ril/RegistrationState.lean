import Serrano.Ril.CellIdentity
import Serrano.Ril.RadioResponse

/-! # Registration states that come as strings

Vendors up to version 14 answer the requests for the registration states with an
array of strings, and later ones with a structure. The cell identity is decoded
from the strings at the places that the technology has for its fields, as far as
the count that comes with the array allows. A read at or beyond the end of the
array makes a function fail.
-/

namespace Serrano.Ril

open Strtol

/-- `RIL_VoiceRegistrationStateResponse` -/
structure RilVoiceRegistrationStateResponse where
  regState : Int32
  rat : Int32
  cssSupported : Int32
  roamingIndicator : Int32
  systemIsInPrl : Int32
  defaultRoamingIndicator : Int32
  reasonForDenial : Int32
  cellIdentity : RilCellIdentity

structure VoiceRegStateResult where
  regState : Int32 := 0
  rat : Int32 := 0
  cssSupported : Bool := false
  roamingIndicator : Int32 := 0
  systemIsInPrl : Int32 := 0
  defaultRoamingIndicator : Int32 := 0
  reasonForDenial : Int32 := 0
  cellIdentity : CellIdentity := { cellInfoType := .none }

/-- `RIL_DataRegistrationStateResponse` -/
structure RilDataRegistrationStateResponse where
  regState : Int32
  rat : Int32
  reasonDataDenied : Int32
  maxDataCalls : Int32
  cellIdentity : RilCellIdentity

structure DataRegStateResult where
  regState : Int32 := 0
  rat : Int32 := 0
  reasonDataDenied : Int32 := 0
  maxDataCalls : Int32 := 0
  cellIdentity : CellIdentity := { cellInfoType := .none }

/-- The array that a vendor of version 14 or less answers with, of `numStrings` pointers, or the
structure of a later one, which is `none` when the length is that of something else. -/
inductive VendorResponse (State : Type)
  | null
  | strings (resp : List (Option (List Char)))
  | state (state : Option State)

section

variable (bits : Nat) (resp : List (Option (List Char)))

/-- An entry that is not `NULL`, or a default. -/
def atoiNullHandledDef (entry : Option (List Char)) (default : Int32) : Int32 :=
  (entry.map (atoi bits)).getD default

def convertEntry (convert : List Char → Int32) (index numStrings : Nat) : Option Int32 :=
  if index < numStrings then (resp[index]?).map fun entry => (entry.map convert).getD (-1)
  else some (-1)

def convertResponseStringEntryToInt (index numStrings : Nat) : Option Int32 :=
  convertEntry resp (atoi bits) index numStrings

def convertResponseHexStringEntryToInt (index numStrings : Nat) : Option Int32 :=
  convertEntry resp (fun text => Int32.ofInt (strtol bits 16 text)) index numStrings

/-- The technology decides which strings are the fields of the cell. -/
def voiceCellIdentity (numStrings : Nat) : RilCellInfoType → Option RilCellIdentity
  | .gsm => do
      let lac ← convertResponseHexStringEntryToInt bits resp 1 numStrings
      let cid ← convertResponseHexStringEntryToInt bits resp 2 numStrings
      return .gsm { lac := lac, cid := cid }
  | .wcdma => do
      let lac ← convertResponseHexStringEntryToInt bits resp 1 numStrings
      let cid ← convertResponseHexStringEntryToInt bits resp 2 numStrings
      let psc ← convertResponseStringEntryToInt bits resp 14 numStrings
      return .wcdma { lac := lac, cid := cid, psc := psc }
  | .tdScdma => do
      let lac ← convertResponseHexStringEntryToInt bits resp 1 numStrings
      let cid ← convertResponseHexStringEntryToInt bits resp 2 numStrings
      return .tdScdma { lac := lac, cid := cid }
  | .cdma => do
      let basestationId ← convertResponseStringEntryToInt bits resp 4 numStrings
      let latitude ← convertResponseStringEntryToInt bits resp 5 numStrings
      let longitude ← convertResponseStringEntryToInt bits resp 6 numStrings
      let systemId ← convertResponseStringEntryToInt bits resp 8 numStrings
      let networkId ← convertResponseStringEntryToInt bits resp 9 numStrings
      return .cdma
        { basestationId := basestationId
          latitude := latitude
          longitude := longitude
          systemId := systemId
          networkId := networkId }
  | .lte => do
      let tac ← convertResponseHexStringEntryToInt bits resp 1 numStrings
      let ci ← convertResponseHexStringEntryToInt bits resp 2 numStrings
      return .lte { tac := tac, ci := ci }
  | .none => some .none

/-- The mcc and mnc of a data registration state. -/
def dataMccMnc (numStrings : Nat) : Option (Int32 × Int32) :=
  if 13 ≤ numStrings then do
    let mcc ← convertResponseStringEntryToInt bits resp 11 numStrings
    let mnc ← convertResponseStringEntryToInt bits resp 12 numStrings
    return (mcc, mnc)
  else some (-1, -1)

def dataCellIdentity (numStrings : Nat) : RilCellInfoType → Option RilCellIdentity
  | .gsm => do
      let lac ← convertResponseHexStringEntryToInt bits resp 1 numStrings
      let cid ← convertResponseHexStringEntryToInt bits resp 2 numStrings
      let (mcc, mnc) ← dataMccMnc bits resp numStrings
      return .gsm { lac := lac, cid := cid, mcc := mcc, mnc := mnc }
  | .wcdma => do
      let lac ← convertResponseHexStringEntryToInt bits resp 1 numStrings
      let cid ← convertResponseHexStringEntryToInt bits resp 2 numStrings
      let (mcc, mnc) ← dataMccMnc bits resp numStrings
      return .wcdma { lac := lac, cid := cid, mcc := mcc, mnc := mnc }
  | .tdScdma => do
      let lac ← convertResponseHexStringEntryToInt bits resp 1 numStrings
      let cid ← convertResponseHexStringEntryToInt bits resp 2 numStrings
      let (mcc, mnc) ← dataMccMnc bits resp numStrings
      return .tdScdma { lac := lac, cid := cid, mcc := mcc, mnc := mnc }
  | .lte => do
      let tac ← convertResponseStringEntryToInt bits resp 6 numStrings
      let pci ← convertResponseStringEntryToInt bits resp 7 numStrings
      let ci ← convertResponseStringEntryToInt bits resp 8 numStrings
      let (mcc, mnc) ← dataMccMnc bits resp numStrings
      return .lte { tac := tac, pci := pci, ci := ci, mcc := mcc, mnc := mnc }
  | .cdma => some (.cdma {})
  | .none => some .none

variable (decode : Int32 → String)

def fillCellIdentityFromVoiceRegStateResponseString (numStrings : Nat) : Option CellIdentity := do
  let rat ← resp[3]?
  let rilCellIdentity ←
    voiceCellIdentity bits resp numStrings (getCellInfoTypeRadioTechnology bits rat)
  return fillCellIdentityResponse decode rilCellIdentity

def fillCellIdentityFromDataRegStateResponseString (numStrings : Nat) : Option CellIdentity := do
  let rat ← resp[3]?
  let rilCellIdentity ←
    dataCellIdentity bits resp numStrings (getCellInfoTypeRadioTechnology bits rat)
  return fillCellIdentityResponse decode rilCellIdentity

/-- The registration state in fifteen strings or more, fifteen of which are looked at. -/
def voiceRegStateOfStrings : Option VoiceRegStateResult := do
  let regState ← resp[0]?
  let rat ← resp[3]?
  let cssSupported ← resp[7]?
  let roamingIndicator ← resp[10]?
  let systemIsInPrl ← resp[11]?
  let defaultRoamingIndicator ← resp[12]?
  let reasonForDenial ← resp[13]?
  let cellIdentity ← fillCellIdentityFromVoiceRegStateResponseString bits resp decode 15
  return {
    regState := atoiNullHandledDef bits regState 4
    rat := atoiNullHandledDef bits rat (-1)
    cssSupported := atoiNullHandledDef bits cssSupported 0 ≠ 0
    roamingIndicator := atoiNullHandledDef bits roamingIndicator (-1)
    systemIsInPrl := atoiNullHandledDef bits systemIsInPrl 0
    defaultRoamingIndicator := atoiNullHandledDef bits defaultRoamingIndicator 0
    reasonForDenial := atoiNullHandledDef bits reasonForDenial 0
    cellIdentity := cellIdentity }

/-- The count that is passed on for a data registration state. -/
def dataNumStrings (numStrings : Nat) : Nat :=
  if numStrings < 11 then 6 else if (11 : Nat) ≠ 0 ∧ numStrings < 13 then 6 else 13

def dataRegStateOfStrings : Option DataRegStateResult := do
  let regState ← resp[0]?
  let rat ← resp[3]?
  let reasonDataDenied ← resp[4]?
  let maxDataCalls ← resp[5]?
  let cellIdentity ← fillCellIdentityFromDataRegStateResponseString bits resp decode
    (dataNumStrings resp.length)
  return {
    regState := atoiNullHandledDef bits regState 4
    rat := atoiNullHandledDef bits rat 0
    reasonDataDenied := atoiNullHandledDef bits reasonDataDenied (-1)
    maxDataCalls := atoiNullHandledDef bits maxDataCalls 1
    cellIdentity := cellIdentity }

end

section

variable (bits : Nat) (decode : Int32 → String) (responseType serial e : Int32)

/-- What is sent to the client, for one that there is. -/
def getVoiceRegistrationStateResponse
    (response : VendorResponse RilVoiceRegistrationStateResponse) :
    Option (RadioResponseInfo × VoiceRegStateResult) :=
  let responseInfo := populateResponseInfo serial responseType e
  match response with
  | .null | .state none => some (responseInfo.invalid e, {})
  | .strings resp =>
      if resp.length < 15 then some (responseInfo.invalid e, {})
      else (voiceRegStateOfStrings bits resp decode).map fun result => (responseInfo, result)
  | .state (some voiceRegState) =>
      some (responseInfo,
        { regState := voiceRegState.regState
          rat := voiceRegState.rat
          cssSupported := voiceRegState.cssSupported ≠ 0
          roamingIndicator := voiceRegState.roamingIndicator
          systemIsInPrl := voiceRegState.systemIsInPrl
          defaultRoamingIndicator := voiceRegState.defaultRoamingIndicator
          reasonForDenial := voiceRegState.reasonForDenial
          cellIdentity := fillCellIdentityResponse decode voiceRegState.cellIdentity })

def getDataRegistrationStateResponse
    (response : VendorResponse RilDataRegistrationStateResponse) :
    Option (RadioResponseInfo × DataRegStateResult) :=
  let responseInfo := populateResponseInfo serial responseType e
  match response with
  | .null | .state none => some (responseInfo.invalid e, {})
  | .strings resp =>
      if resp.length < 6 then some (responseInfo.invalid e, {})
      else (dataRegStateOfStrings bits resp decode).map fun result => (responseInfo, result)
  | .state (some dataRegState) =>
      some (responseInfo,
        { regState := dataRegState.regState
          rat := dataRegState.rat
          reasonDataDenied := dataRegState.reasonDataDenied
          maxDataCalls := dataRegState.maxDataCalls
          cellIdentity := fillCellIdentityResponse decode dataRegState.cellIdentity })

end

end Serrano.Ril
