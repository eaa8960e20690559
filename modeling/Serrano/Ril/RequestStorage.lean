import Serrano.Foundation.OwnedBlocks
import Serrano.Ril.RadioImpl

/-! # The storage of the requests

The methods once more, with the memory that they ask for, hand to the vendor library
and free. An early return frees what was copied so far; the calls that copy are given
what the return after them frees.
-/

namespace Serrano.Ril

open OwnedBlocks

/-- A computation over the requests and the allocated blocks. -/
abbrev Storage := Fallible (DispatchState × Heap)

namespace Storage

variable (k : Platform) (serial : Int) (slotId : Nat)

/-- An allocation that is answered with an error when it fails. It does not matter
whether the blocks are freed before the answer or after it. -/
def callocOrReturn (pRI : Nat) (owned : List (Option Nat)) : Storage (Option Nat) := do
  if !(← lift Dispatch.calloc) then do
    lift (Dispatch.sendErrorResponse k (some pRI) .RIL_E_NO_MEMORY)
    freeAll owned
    .stop
  else do
    let block ← alloc
    pure (some block)

/-- `copyHidlStringToRil` with the early return that follows when it fails. -/
def copyOrReturn (src : HidlString) (pRI : Nat) (allowEmpty : Bool) (owned : List (Option Nat)) :
    Storage (Option Nat) :=
  if src.size = 0 ∧ allowEmpty = false then pure none
  else do
    let dest ← callocOrReturn k pRI owned
    if src.c_str.length ≥ src.size + 1 then do
      freeAll [dest]
      lift (Dispatch.sendErrorResponse k (some pRI) .RIL_E_INTERNAL_ERR)
      freeAll owned
      .stop
    else pure dest

/-- The loop that copies strings into an array. -/
def copyStrings (pRI : Nat) (allowEmpty : Bool) (pStrings : Option Nat) :
    List (Option Nat) → List HidlString → Storage (List (Option Nat))
  | copies, [] => pure copies
  | copies, src :: rest => do
      let dest ← copyOrReturn k src pRI allowEmpty (copies ++ [pStrings])
      copyStrings pRI allowEmpty pStrings (copies ++ [dest]) rest

/-- `CALL_ONREQUEST` with what its data points to. -/
def callOnRequest (request : Int) (pRI : Nat) (data : List (Option Nat)) : Storage Unit := do
  lift (Dispatch.callOnRequest k slotId request pRI)
  use data

def withRequest (request : Int) (body : Nat → Storage Unit) : Storage Unit := do
  match ← lift (Dispatch.addRequestToList k serial slotId request) with
  | none => pure ()
  | some pRI => body pRI

def dispatchString (request : Int) (str : List UInt8) : Storage Unit :=
  withRequest k serial slotId request fun pRI => do
    let pString ← copyOrReturn k (.ofCStr str) pRI false []
    callOnRequest k slotId request pRI [pString]
    freeAll [pString]

def dispatchStrings (request : Int) (allowEmpty : Bool) (strs : List HidlString) :
    Storage Unit :=
  withRequest k serial slotId request fun pRI => do
    let pStrings ← callocOrReturn k pRI []
    let copies ← copyStrings k pRI allowEmpty pStrings [] strs
    callOnRequest k slotId request pRI (copies ++ [pStrings])
    freeAll copies
    freeAll [pStrings]

def dispatchInts (request : Int) : Storage Unit :=
  withRequest k serial slotId request fun pRI => do
    let pInts ← callocOrReturn k pRI []
    callOnRequest k slotId request pRI [pInts]
    freeAll [pInts]

/-- The methods that copy one string into a structure of their own. -/
def callWithString (request : Int) (src : HidlString) : Storage Unit :=
  withRequest k serial slotId request fun pRI => do
    let dest ← copyOrReturn k src pRI false []
    callOnRequest k slotId request pRI [dest]
    freeAll [dest]

def dispatchCallForwardStatus (request : Int) (number : HidlString) : Storage Unit :=
  callWithString k serial slotId request number

def dispatchIccApdu (request : Int) (data : HidlString) : Storage Unit :=
  callWithString k serial slotId request data

def dial (address : HidlString) (uusInfo : List HidlString) : Storage Unit :=
  withRequest k serial slotId RIL_REQUEST_DIAL fun pRI => do
    let address ← copyOrReturn k address pRI false []
    match uusInfo with
    | [] => do
        callOnRequest k slotId RIL_REQUEST_DIAL pRI [address]
        freeAll [address, none]
    | uusData :: _ =>
        if uusData.size = 0 then do
          callOnRequest k slotId RIL_REQUEST_DIAL pRI [address, none]
          freeAll [address, none]
        else do
          let uusData ← copyOrReturn k uusData pRI false [address]
          callOnRequest k slotId RIL_REQUEST_DIAL pRI [address, uusData]
          freeAll [address, uusData]

def setupDataCall (radioTechnology : Int) (dataProfileInfo : DataProfileInfo)
    (modemCognitive roamingAllowed isRoaming : Bool) : Storage Unit :=
  if k.version ≥ 4 ∧ k.version ≤ 14 then
    let protocol := dataProfileInfo.protocolFor isRoaming
    dispatchStrings k serial slotId RIL_REQUEST_SETUP_DATA_CALL true
      ([to_string (radioTechnology + 2), to_string dataProfileInfo.profileId,
        dataProfileInfo.apn.c_str, dataProfileInfo.user.c_str, dataProfileInfo.password.c_str,
        to_string dataProfileInfo.authType, protocol.c_str].map .ofCStr)
  else if k.version ≥ 15 then
    match convertMvnoTypeToString dataProfileInfo.mvnoType with
    | none =>
        lift (Dispatch.refuseRequest k serial slotId RIL_REQUEST_SETUP_DATA_CALL
          .RIL_E_INVALID_ARGUMENTS)
    | some mvnoTypeStr =>
        dispatchStrings k serial slotId RIL_REQUEST_SETUP_DATA_CALL true
          ([to_string (radioTechnology + 2), to_string dataProfileInfo.profileId,
            dataProfileInfo.apn.c_str, dataProfileInfo.user.c_str,
            dataProfileInfo.password.c_str, to_string dataProfileInfo.authType,
            dataProfileInfo.protocol.c_str, dataProfileInfo.roamingProtocol.c_str,
            to_string dataProfileInfo.supportedApnTypesBitmap,
            to_string dataProfileInfo.bearerBitmap, to_string (if modemCognitive then 1 else 0),
            to_string dataProfileInfo.mtu, mvnoTypeStr, dataProfileInfo.mvnoMatchData.c_str,
            to_string (if roamingAllowed then 1 else 0)].map .ofCStr)
  else
    lift (Dispatch.refuseRequest k serial slotId RIL_REQUEST_SETUP_DATA_CALL
      .RIL_E_REQUEST_NOT_SUPPORTED)

def iccIOForApp (iccIo : IccIo) : Storage Unit :=
  withRequest k serial slotId RIL_REQUEST_SIM_IO fun pRI => do
    let path ← copyOrReturn k iccIo.path pRI false []
    let data ← copyOrReturn k iccIo.data pRI false [path]
    let pin2 ← copyOrReturn k iccIo.pin2 pRI false [path, data]
    let aidPtr ← copyOrReturn k iccIo.aid pRI false [path, data, pin2]
    callOnRequest k slotId RIL_REQUEST_SIM_IO pRI [path, data, pin2, aidPtr]
    freeAll [path, data, pin2, aidPtr]

def writeSmsToSim (pdu smsc : HidlString) : Storage Unit :=
  withRequest k serial slotId RIL_REQUEST_WRITE_SMS_TO_SIM fun pRI => do
    let pdu ← copyOrReturn k pdu pRI false []
    let smsc ← copyOrReturn k smsc pRI false [pdu]
    callOnRequest k slotId RIL_REQUEST_WRITE_SMS_TO_SIM pRI [pdu, smsc]
    freeAll [smsc, pdu]

def setInitialAttachApn (dataProfileInfo : DataProfileInfo) (isRoaming : Bool) : Storage Unit :=
  withRequest k serial slotId RIL_REQUEST_SET_INITIAL_ATTACH_APN fun pRI =>
    if k.version ≤ 14 then do
      let apn ← copyOrReturn k dataProfileInfo.apn pRI true []
      let protocol ← copyOrReturn k (dataProfileInfo.protocolFor isRoaming) pRI false [apn]
      let username ← copyOrReturn k dataProfileInfo.user pRI false [apn, protocol]
      let password ← copyOrReturn k dataProfileInfo.password pRI false [apn, protocol, username]
      callOnRequest k slotId RIL_REQUEST_SET_INITIAL_ATTACH_APN pRI
        [apn, protocol, username, password]
      freeAll [apn, protocol, username, password]
    else do
      let apn ← copyOrReturn k dataProfileInfo.apn pRI true []
      let protocol ← copyOrReturn k dataProfileInfo.protocol pRI false [apn]
      let roamingProtocol ← copyOrReturn k dataProfileInfo.roamingProtocol pRI false
        [apn, protocol]
      let username ← copyOrReturn k dataProfileInfo.user pRI false
        [apn, protocol, roamingProtocol]
      let password ← copyOrReturn k dataProfileInfo.password pRI false
        [apn, protocol, roamingProtocol, username]
      if (convertMvnoTypeToString dataProfileInfo.mvnoType).isNone then do
        lift (Dispatch.sendErrorResponse k (some pRI) .RIL_E_INVALID_ARGUMENTS)
        freeAll [apn, protocol, roamingProtocol, username, password]
        .stop
      else do
        let mvnoMatchData ← copyOrReturn k dataProfileInfo.mvnoMatchData pRI false
          [apn, protocol, roamingProtocol, username, password]
        callOnRequest k slotId RIL_REQUEST_SET_INITIAL_ATTACH_APN pRI
          [apn, protocol, roamingProtocol, username, password, mvnoMatchData]
        freeAll [apn, protocol, roamingProtocol, username, password, mvnoMatchData]

def dispatchImsGsmSms (message : ImsSmsMessage) (pRI : Nat) : Storage Unit :=
  match message.gsmMessage with
  | [gsmMessage] => do
      let pStrings ← callocOrReturn k pRI []
      let smscPdu ← copyOrReturn k gsmMessage.smscPdu pRI false [pStrings]
      let pdu ← copyOrReturn k gsmMessage.pdu pRI false [smscPdu, pStrings]
      callOnRequest k slotId RIL_REQUEST_IMS_SEND_SMS pRI [pStrings, smscPdu, pdu]
      freeAll [smscPdu, pdu]
      freeAll [pStrings]
  | _ => lift (Dispatch.returnError k pRI .RIL_E_INVALID_ARGUMENTS)

def sendImsSms (message : ImsSmsMessage) : Storage Unit :=
  withRequest k serial slotId RIL_REQUEST_IMS_SEND_SMS fun pRI =>
    if message.tech = RADIO_TECH_3GPP then dispatchImsGsmSms k slotId message pRI
    else if message.tech = RADIO_TECH_3GPP2 then
      lift (Dispatch.dispatchImsCdmaSms k slotId message pRI)
    else lift (Dispatch.returnError k pRI .RIL_E_INVALID_ARGUMENTS)

def iccOpenLogicalChannel (aid : HidlString) : Storage Unit :=
  if k.version < 15 then dispatchString k serial slotId RIL_REQUEST_SIM_OPEN_CHANNEL aid.c_str
  else callWithString k serial slotId RIL_REQUEST_SIM_OPEN_CHANNEL aid

def nvWriteItem (value : HidlString) : Storage Unit :=
  callWithString k serial slotId RIL_REQUEST_NV_WRITE_ITEM value

def requestIccSimAuthentication (authData aid : HidlString) : Storage Unit :=
  withRequest k serial slotId RIL_REQUEST_SIM_AUTHENTICATION fun pRI => do
    let authData ← copyOrReturn k authData pRI false []
    let aid ← copyOrReturn k aid pRI false [authData]
    callOnRequest k slotId RIL_REQUEST_SIM_AUTHENTICATION pRI [authData, aid]
    freeAll [authData, aid]

/-- What `setDataProfile` copies of one profile; `freeSetDataProfileData` frees what
there is of all profiles. -/
def copyDataProfile (isRoaming : Bool) (pRI : Nat) (owned : List (Option Nat))
    (profile : DataProfileInfo) : Storage (List (Option Nat)) :=
  if k.version ≤ 14 then do
    let apn ← copyOrReturn k profile.apn pRI true owned
    let protocol ← copyOrReturn k (profile.protocolFor isRoaming) pRI true (apn :: owned)
    let user ← copyOrReturn k profile.user pRI true (protocol :: apn :: owned)
    let password ← copyOrReturn k profile.password pRI true (user :: protocol :: apn :: owned)
    pure (password :: user :: protocol :: apn :: owned)
  else do
    let apn ← copyOrReturn k profile.apn pRI true owned
    let protocol ← copyOrReturn k profile.protocol pRI false (apn :: owned)
    let roamingProtocol ← copyOrReturn k profile.roamingProtocol pRI true
      (protocol :: apn :: owned)
    let user ← copyOrReturn k profile.user pRI true (roamingProtocol :: protocol :: apn :: owned)
    let password ← copyOrReturn k profile.password pRI true
      (user :: roamingProtocol :: protocol :: apn :: owned)
    let mvnoMatchData ← copyOrReturn k profile.mvnoMatchData pRI true
      (password :: user :: roamingProtocol :: protocol :: apn :: owned)
    let owned := mvnoMatchData :: password :: user :: roamingProtocol :: protocol :: apn :: owned
    if (convertMvnoTypeToString profile.mvnoType).isNone then do
      lift (Dispatch.sendErrorResponse k (some pRI) .RIL_E_INVALID_ARGUMENTS)
      freeAll owned
      .stop
    else pure owned

def copyDataProfiles (isRoaming : Bool) (pRI : Nat) :
    List (Option Nat) → List DataProfileInfo → Storage (List (Option Nat))
  | owned, [] => pure owned
  | owned, profile :: rest => do
      let owned ← copyDataProfile k isRoaming pRI owned profile
      copyDataProfiles isRoaming pRI owned rest

def setDataProfile (profiles : List DataProfileInfo) (isRoaming : Bool) : Storage Unit :=
  withRequest k serial slotId RIL_REQUEST_SET_DATA_PROFILE fun pRI => do
    let dataProfiles ← callocOrReturn k pRI []
    let dataProfilePtrs ← callocOrReturn k pRI [dataProfiles]
    let owned ← copyDataProfiles k isRoaming pRI [dataProfiles, dataProfilePtrs] profiles
    callOnRequest k slotId RIL_REQUEST_SET_DATA_PROFILE pRI owned
    freeAll owned

def setAllowedCarriers : Storage Unit :=
  withRequest k serial slotId RIL_REQUEST_SET_CARRIER_RESTRICTIONS fun pRI => do
    let allowedCarriers ← callocOrReturn k pRI []
    let excludedCarriers ← callocOrReturn k pRI [allowedCarriers]
    callOnRequest k slotId RIL_REQUEST_SET_CARRIER_RESTRICTIONS pRI
      [allowedCarriers, excludedCarriers]
    freeAll [allowedCarriers]
    freeAll [excludedCarriers]

def sendDeviceState (lowDataExpected : Bool) : Storage Unit :=
  if k.version < 15 then
    if lowDataExpected then dispatchInts k serial slotId RIL_REQUEST_SCREEN_STATE
    else lift (Dispatch.refuseUnchecked k serial slotId RIL_REQUEST_SEND_DEVICE_STATE)
  else dispatchInts k serial slotId RIL_REQUEST_SEND_DEVICE_STATE

def setIndicationFilter : Storage Unit :=
  if k.version < 15 then
    lift (Dispatch.refuseUnchecked k serial slotId RIL_REQUEST_SET_UNSOLICITED_RESPONSE_FILTER)
  else dispatchInts k serial slotId RIL_REQUEST_SET_UNSOLICITED_RESPONSE_FILTER

/-- Here the copies are not freed after the call; the key comes from `new`. -/
def setCarrierInfoForImsiEncryption (mnc mcc keyIdentifier : HidlString) : Storage Unit :=
  withRequest k serial slotId RIL_REQUEST_SET_CARRIER_INFO_IMSI_ENCRYPTION fun pRI => do
    let mnc ← copyOrReturn k mnc pRI false []
    let mcc ← copyOrReturn k mcc pRI false [mnc]
    let keyIdentifier ← copyOrReturn k keyIdentifier pRI false [mnc, mcc]
    let carrierKey ← alloc
    callOnRequest k slotId RIL_REQUEST_SET_CARRIER_INFO_IMSI_ENCRYPTION pRI
      [mnc, mcc, keyIdentifier, some carrierKey]
    freeAll [some carrierKey]

end Storage

/-- The other methods do not ask for memory. -/
def ClientRequest.perform (k : Platform) (serial : Int) (slotId : Nat) :
    ClientRequest → Storage Unit
  | dispatchString request str => Storage.dispatchString k serial slotId request str
  | dispatchStrings request allowEmpty strs =>
      Storage.dispatchStrings k serial slotId request allowEmpty (strs.map .ofCStr)
  | dispatchStringsVec request data => Storage.dispatchStrings k serial slotId request false data
  | dispatchInts request _ => Storage.dispatchInts k serial slotId request
  | dispatchCallForwardStatus request number =>
      Storage.dispatchCallForwardStatus k serial slotId request number
  | dispatchIccApdu request data => Storage.dispatchIccApdu k serial slotId request data
  | dial address uusInfo => Storage.dial k serial slotId address uusInfo
  | setupDataCall radioTechnology dataProfileInfo modemCognitive roamingAllowed isRoaming =>
      Storage.setupDataCall k serial slotId radioTechnology dataProfileInfo modemCognitive
        roamingAllowed isRoaming
  | iccIOForApp iccIo => Storage.iccIOForApp k serial slotId iccIo
  | writeSmsToSim pdu smsc => Storage.writeSmsToSim k serial slotId pdu smsc
  | setInitialAttachApn dataProfileInfo isRoaming =>
      Storage.setInitialAttachApn k serial slotId dataProfileInfo isRoaming
  | sendImsSms message => Storage.sendImsSms k serial slotId message
  | iccOpenLogicalChannel aid => Storage.iccOpenLogicalChannel k serial slotId aid
  | nvWriteItem value => Storage.nvWriteItem k serial slotId value
  | requestIccSimAuthentication authData aid =>
      Storage.requestIccSimAuthentication k serial slotId authData aid
  | setDataProfile profiles isRoaming =>
      Storage.setDataProfile k serial slotId profiles isRoaming
  | setAllowedCarriers => Storage.setAllowedCarriers k serial slotId
  | sendDeviceState lowDataExpected => Storage.sendDeviceState k serial slotId lowDataExpected
  | setIndicationFilter => Storage.setIndicationFilter k serial slotId
  | setCarrierInfoForImsiEncryption mnc mcc keyIdentifier =>
      Storage.setCarrierInfoForImsiEncryption k serial slotId mnc mcc keyIdentifier
  | request => lift (request.dispatch k serial slotId)

end Serrano.Ril
