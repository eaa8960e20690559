import Serrano.Foundation.Strtol

/-! # The identity of a cell

The vendor structure is a tag with a union, which is filled with ones before a
response of strings is decoded into it. The structure of the client has a list of
at most one element for every technology.
-/

namespace Serrano.Ril

open Strtol

/-- `RIL_CellIdentityGsm_v12`, filled with ones. -/
structure RilCellIdentityGsm where
  mcc : Int32 := -1
  mnc : Int32 := -1
  lac : Int32 := -1
  cid : Int32 := -1
  arfcn : Int32 := -1
  bsic : UInt8 := 0xFF

structure RilCellIdentityWcdma where
  mcc : Int32 := -1
  mnc : Int32 := -1
  lac : Int32 := -1
  cid : Int32 := -1
  psc : Int32 := -1
  uarfcn : Int32 := -1

structure RilCellIdentityCdma where
  networkId : Int32 := -1
  systemId : Int32 := -1
  basestationId : Int32 := -1
  longitude : Int32 := -1
  latitude : Int32 := -1

structure RilCellIdentityLte where
  mcc : Int32 := -1
  mnc : Int32 := -1
  ci : Int32 := -1
  pci : Int32 := -1
  tac : Int32 := -1
  earfcn : Int32 := -1

structure RilCellIdentityTdscdma where
  mcc : Int32 := -1
  mnc : Int32 := -1
  lac : Int32 := -1
  cid : Int32 := -1
  cpid : Int32 := -1

inductive RilCellInfoType
  | none
  | gsm
  | cdma
  | lte
  | wcdma
  | tdScdma
  deriving DecidableEq

/-- `RIL_CellIdentity_v16`: the tag, and the member of the union that goes with it. -/
inductive RilCellIdentity
  | none
  | gsm (cellIdentityGsm : RilCellIdentityGsm)
  | cdma (cellIdentityCdma : RilCellIdentityCdma)
  | lte (cellIdentityLte : RilCellIdentityLte)
  | wcdma (cellIdentityWcdma : RilCellIdentityWcdma)
  | tdScdma (cellIdentityTdscdma : RilCellIdentityTdscdma)

structure CellIdentityGsm where
  mcc : String
  mnc : String
  lac : Int32
  cid : Int32
  arfcn : Int32
  bsic : UInt8

structure CellIdentityWcdma where
  mcc : String
  mnc : String
  lac : Int32
  cid : Int32
  psc : Int32
  uarfcn : Int32

structure CellIdentityCdma where
  networkId : Int32
  systemId : Int32
  baseStationId : Int32
  longitude : Int32
  latitude : Int32

structure CellIdentityLte where
  mcc : String
  mnc : String
  ci : Int32
  pci : Int32
  tac : Int32
  earfcn : Int32

structure CellIdentityTdscdma where
  mcc : String
  mnc : String
  lac : Int32
  cid : Int32
  cpid : Int32

structure CellIdentity where
  cellInfoType : RilCellInfoType
  cellIdentityGsm : List CellIdentityGsm := []
  cellIdentityWcdma : List CellIdentityWcdma := []
  cellIdentityCdma : List CellIdentityCdma := []
  cellIdentityLte : List CellIdentityLte := []
  cellIdentityTdscdma : List CellIdentityTdscdma := []

/-- The technologies by their numbers in `RIL_RadioTechnology`. -/
def cellInfoTypeOfRadioTech (radioTech : Int32) : RilCellInfoType :=
  if radioTech ∈ [1, 2, 16] then .gsm
  else if radioTech ∈ [3, 9, 10, 11, 15] then .wcdma
  else if radioTech ∈ [4, 5, 6, 7, 8, 12, 13] then .cdma
  else if radioTech ∈ [14, 19] then .lte
  else if radioTech = 17 then .tdScdma
  else .none

/-- `none` is `NULL`. -/
def getCellInfoTypeRadioTechnology (bits : Nat) (rat : Option (List Char)) : RilCellInfoType :=
  rat.elim .none fun rat => cellInfoTypeOfRadioTech (atoi bits rat)

/-- The string of an mcc. -/
def mccString (mcc : Int32) : String :=
  let text := toString mcc.toInt
  if text = "-1" then "" else text

/-- How an mnc is made a string is up to `ril::util::mnc::decode`. -/
def fillCellIdentityResponse (decode : Int32 → String) : RilCellIdentity → CellIdentity
  | .none => { cellInfoType := .none }
  | .gsm ril =>
      { cellInfoType := .gsm
        cellIdentityGsm := [
          { mcc := mccString ril.mcc
            mnc := decode ril.mnc
            lac := ril.lac
            cid := ril.cid
            arfcn := ril.arfcn
            bsic := ril.bsic }] }
  | .wcdma ril =>
      { cellInfoType := .wcdma
        cellIdentityWcdma := [
          { mcc := mccString ril.mcc
            mnc := decode ril.mnc
            lac := ril.lac
            cid := ril.cid
            psc := ril.psc
            uarfcn := ril.uarfcn }] }
  | .cdma ril =>
      { cellInfoType := .cdma
        cellIdentityCdma := [
          { networkId := ril.networkId
            systemId := ril.systemId
            baseStationId := ril.basestationId
            longitude := ril.longitude
            latitude := ril.latitude }] }
  | .lte ril =>
      { cellInfoType := .lte
        cellIdentityLte := [
          { mcc := mccString ril.mcc
            mnc := decode ril.mnc
            ci := ril.ci
            pci := ril.pci
            tac := ril.tac
            earfcn := ril.earfcn }] }
  | .tdScdma ril =>
      { cellInfoType := .tdScdma
        cellIdentityTdscdma := [
          { mcc := mccString ril.mcc
            mnc := decode ril.mnc
            lac := ril.lac
            cid := ril.cid
            cpid := ril.cpid }] }

/-- The numbers of a cell identity. The bsic is a byte, and no response of strings has it. -/
inductive CellField
  | lac
  | cid
  | arfcn
  | psc
  | uarfcn
  | networkId
  | systemId
  | baseStationId
  | longitude
  | latitude
  | ci
  | pci
  | tac
  | earfcn
  | cpid
  deriving DecidableEq

namespace CellIdentityGsm

def field (i : CellIdentityGsm) : CellField → Option Int32
  | .lac => some i.lac
  | .cid => some i.cid
  | .arfcn => some i.arfcn
  | _ => none

end CellIdentityGsm

namespace CellIdentityWcdma

def field (i : CellIdentityWcdma) : CellField → Option Int32
  | .lac => some i.lac
  | .cid => some i.cid
  | .psc => some i.psc
  | .uarfcn => some i.uarfcn
  | _ => none

end CellIdentityWcdma

namespace CellIdentityCdma

def field (i : CellIdentityCdma) : CellField → Option Int32
  | .networkId => some i.networkId
  | .systemId => some i.systemId
  | .baseStationId => some i.baseStationId
  | .longitude => some i.longitude
  | .latitude => some i.latitude
  | _ => none

end CellIdentityCdma

namespace CellIdentityLte

def field (i : CellIdentityLte) : CellField → Option Int32
  | .ci => some i.ci
  | .pci => some i.pci
  | .tac => some i.tac
  | .earfcn => some i.earfcn
  | _ => none

end CellIdentityLte

namespace CellIdentityTdscdma

def field (i : CellIdentityTdscdma) : CellField → Option Int32
  | .lac => some i.lac
  | .cid => some i.cid
  | .cpid => some i.cpid
  | _ => none

end CellIdentityTdscdma

namespace CellIdentity

/-- What the client finds in a field of the cell. -/
def field (identity : CellIdentity) (f : CellField) : Option Int32 :=
  match identity.cellInfoType with
  | .none => none
  | .gsm => identity.cellIdentityGsm.head?.bind (·.field f)
  | .wcdma => identity.cellIdentityWcdma.head?.bind (·.field f)
  | .cdma => identity.cellIdentityCdma.head?.bind (·.field f)
  | .lte => identity.cellIdentityLte.head?.bind (·.field f)
  | .tdScdma => identity.cellIdentityTdscdma.head?.bind (·.field f)

def mcc (identity : CellIdentity) : Option String :=
  match identity.cellInfoType with
  | .none | .cdma => none
  | .gsm => identity.cellIdentityGsm.head?.map (·.mcc)
  | .wcdma => identity.cellIdentityWcdma.head?.map (·.mcc)
  | .lte => identity.cellIdentityLte.head?.map (·.mcc)
  | .tdScdma => identity.cellIdentityTdscdma.head?.map (·.mcc)

def mnc (identity : CellIdentity) : Option String :=
  match identity.cellInfoType with
  | .none | .cdma => none
  | .gsm => identity.cellIdentityGsm.head?.map (·.mnc)
  | .wcdma => identity.cellIdentityWcdma.head?.map (·.mnc)
  | .lte => identity.cellIdentityLte.head?.map (·.mnc)
  | .tdScdma => identity.cellIdentityTdscdma.head?.map (·.mnc)

end CellIdentity

end Serrano.Ril
