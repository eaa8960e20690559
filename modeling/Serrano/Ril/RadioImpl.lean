import Serrano.Ril.Dispatch

/-! # The methods that build their own structures

Each method is given the strings it copies and the arguments it checks; what is
only copied into the structure for the vendor library is left out.
-/

namespace Serrano.Ril

def RIL_REQUEST_DIAL : Int := 10
def RIL_REQUEST_SETUP_DATA_CALL : Int := 27
def RIL_REQUEST_SIM_IO : Int := 28
def RIL_REQUEST_SCREEN_STATE : Int := 61
def RIL_REQUEST_WRITE_SMS_TO_SIM : Int := 63
def RIL_REQUEST_CDMA_SEND_SMS : Int := 87
def RIL_REQUEST_CDMA_SMS_ACKNOWLEDGE : Int := 88
def RIL_REQUEST_GSM_SET_BROADCAST_SMS_CONFIG : Int := 90
def RIL_REQUEST_CDMA_SET_BROADCAST_SMS_CONFIG : Int := 93
def RIL_REQUEST_CDMA_WRITE_SMS_TO_RUIM : Int := 96
def RIL_REQUEST_SET_INITIAL_ATTACH_APN : Int := 111
def RIL_REQUEST_IMS_SEND_SMS : Int := 113
def RIL_REQUEST_SIM_OPEN_CHANNEL : Int := 115
def RIL_REQUEST_NV_READ_ITEM : Int := 118
def RIL_REQUEST_NV_WRITE_ITEM : Int := 119
def RIL_REQUEST_SET_UICC_SUBSCRIPTION : Int := 122
def RIL_REQUEST_SIM_AUTHENTICATION : Int := 125
def RIL_REQUEST_SET_DATA_PROFILE : Int := 128
def RIL_REQUEST_SET_RADIO_CAPABILITY : Int := 131
def RIL_REQUEST_SET_CARRIER_RESTRICTIONS : Int := 136
def RIL_REQUEST_SEND_DEVICE_STATE : Int := 138
def RIL_REQUEST_SET_UNSOLICITED_RESPONSE_FILTER : Int := 139
def RIL_REQUEST_SET_CARRIER_INFO_IMSI_ENCRYPTION : Int := 141
def RIL_REQUEST_START_NETWORK_SCAN : Int := 142
def RIL_REQUEST_START_KEEPALIVE : Int := 144
def RIL_REQUEST_STOP_KEEPALIVE : Int := 145

def MAX_BANDS : Nat := 8
def MAX_CHANNELS : Nat := 32
def MAX_RADIO_ACCESS_NETWORKS : Nat := 8
def MAX_BROADCAST_SMS_CONFIG_INFO : Nat := 25

def NATT_IPV4 : Int := 0
def NATT_IPV6 : Int := 1
def RADIO_TECH_3GPP : Int := 1
def RADIO_TECH_3GPP2 : Int := 2

/-- `MvnoType`; a client may send a value that is none of them. -/
inductive MvnoType
  | IMSI
  | GID
  | SPN
  | NONE
  | other
  deriving DecidableEq

inductive RadioAccessNetworks
  | GERAN
  | UTRAN
  | EUTRAN
  | other
  deriving DecidableEq

structure DataProfileInfo where
  profileId : Int
  apn : HidlString
  protocol : HidlString
  roamingProtocol : HidlString
  authType : Int
  user : HidlString
  password : HidlString
  supportedApnTypesBitmap : Int
  bearerBitmap : Int
  mtu : Int
  mvnoType : MvnoType
  mvnoMatchData : HidlString

/-- The protocol for vendor versions that are given only one. -/
def DataProfileInfo.protocolFor (profile : DataProfileInfo) (isRoaming : Bool) : HidlString :=
  if isRoaming then profile.roamingProtocol else profile.protocol

structure IccIo where
  path : HidlString
  data : HidlString
  pin2 : HidlString
  aid : HidlString

/-- `V1_1::RadioAccessSpecifier` with the sizes of its vectors. -/
structure RadioAccessSpecifier where
  radioAccessNetwork : RadioAccessNetworks
  geranBands : Nat
  utranBands : Nat
  eutranBands : Nat
  channels : Nat

structure GsmSmsMessage where
  smscPdu : HidlString
  pdu : HidlString

/-- `ImsSmsMessage`; of its CDMA messages only the number matters. -/
structure ImsSmsMessage where
  tech : Int
  gsmMessage : List GsmSmsMessage
  cdmaMessage : Nat

/-- `std::to_string` -/
def to_string (n : Int) : List UInt8 := (toString n).toUTF8.toList

def convertMvnoTypeToString : MvnoType → Option (List UInt8)
  | .IMSI => some "imsi".toUTF8.toList
  | .GID => some "gid".toUTF8.toList
  | .SPN => some "spn".toUTF8.toList
  | .NONE => some "".toUTF8.toList
  | .other => none

namespace Dispatch

variable (k : Platform) (serial : Int) (slotId : Nat)

/-- A method that hands over a structure it only fills in. -/
def callWithStructure (request : Int) : Dispatch Unit :=
  withRequest k serial slotId request fun pRI => callOnRequest k slotId request pRI

def dial (address : HidlString) (uusInfo : List HidlString) : Dispatch Unit :=
  withRequest k serial slotId RIL_REQUEST_DIAL fun pRI => do
    let _ ← copyHidlStringToRil k address pRI false
    match uusInfo with
    | [] => callOnRequest k slotId RIL_REQUEST_DIAL pRI
    | uusData :: _ =>
        if uusData.size = 0 then callOnRequest k slotId RIL_REQUEST_DIAL pRI
        else do
          let _ ← copyHidlStringToRil k uusData pRI false
          callOnRequest k slotId RIL_REQUEST_DIAL pRI

/-- A request that is answered with an error if it can be added. -/
def refuseRequest (request : Int) (err : RIL_Errno) : Dispatch Unit :=
  withRequest k serial slotId request fun pRI => returnError k pRI err

def setupDataCall (radioTechnology : Int) (dataProfileInfo : DataProfileInfo)
    (modemCognitive roamingAllowed isRoaming : Bool) : Dispatch Unit :=
  if k.version ≥ 4 ∧ k.version ≤ 14 then
    let protocol := dataProfileInfo.protocolFor isRoaming
    dispatchStrings k serial slotId RIL_REQUEST_SETUP_DATA_CALL true
      [to_string (radioTechnology + 2), to_string dataProfileInfo.profileId,
        dataProfileInfo.apn.c_str, dataProfileInfo.user.c_str, dataProfileInfo.password.c_str,
        to_string dataProfileInfo.authType, protocol.c_str]
  else if k.version ≥ 15 then
    match convertMvnoTypeToString dataProfileInfo.mvnoType with
    | none =>
        refuseRequest k serial slotId RIL_REQUEST_SETUP_DATA_CALL .RIL_E_INVALID_ARGUMENTS
    | some mvnoTypeStr =>
        dispatchStrings k serial slotId RIL_REQUEST_SETUP_DATA_CALL true
          [to_string (radioTechnology + 2), to_string dataProfileInfo.profileId,
            dataProfileInfo.apn.c_str, dataProfileInfo.user.c_str,
            dataProfileInfo.password.c_str, to_string dataProfileInfo.authType,
            dataProfileInfo.protocol.c_str, dataProfileInfo.roamingProtocol.c_str,
            to_string dataProfileInfo.supportedApnTypesBitmap,
            to_string dataProfileInfo.bearerBitmap, to_string (if modemCognitive then 1 else 0),
            to_string dataProfileInfo.mtu, mvnoTypeStr, dataProfileInfo.mvnoMatchData.c_str,
            to_string (if roamingAllowed then 1 else 0)]
  else
    refuseRequest k serial slotId RIL_REQUEST_SETUP_DATA_CALL .RIL_E_REQUEST_NOT_SUPPORTED

def iccIOForApp (iccIo : IccIo) : Dispatch Unit :=
  withRequest k serial slotId RIL_REQUEST_SIM_IO fun pRI => do
    let _ ← copyHidlStringToRil k iccIo.path pRI false
    let _ ← copyHidlStringToRil k iccIo.data pRI false
    let _ ← copyHidlStringToRil k iccIo.pin2 pRI false
    let _ ← copyHidlStringToRil k iccIo.aid pRI false
    callOnRequest k slotId RIL_REQUEST_SIM_IO pRI

/-- The checks of one specifier, which fits into the structure when it passes. -/
def copySpecifier (pRI : Nat) (specifier : RadioAccessSpecifier) : Dispatch Unit :=
  if specifier.geranBands > MAX_BANDS ∨ specifier.utranBands > MAX_BANDS ∨
      specifier.eutranBands > MAX_BANDS ∨ specifier.channels > MAX_CHANNELS then
    returnError k pRI .RIL_E_INVALID_ARGUMENTS
  else
    match specifier.radioAccessNetwork with
    | .GERAN | .UTRAN | .EUTRAN => pure ()
    | .other => returnError k pRI .RIL_E_INVALID_ARGUMENTS

def copySpecifiers (pRI : Nat) : List RadioAccessSpecifier → Dispatch Unit
  | [] => pure ()
  | specifier :: rest => do
      copySpecifier k pRI specifier
      copySpecifiers pRI rest

def startNetworkScan (specifiers : List RadioAccessSpecifier) : Dispatch Unit :=
  withRequest k serial slotId RIL_REQUEST_START_NETWORK_SCAN fun pRI =>
    if specifiers.length > MAX_RADIO_ACCESS_NETWORKS then
      returnError k pRI .RIL_E_INVALID_ARGUMENTS
    else do
      copySpecifiers k pRI specifiers
      callOnRequest k slotId RIL_REQUEST_START_NETWORK_SCAN pRI

def writeSmsToSim (pdu smsc : HidlString) : Dispatch Unit :=
  withRequest k serial slotId RIL_REQUEST_WRITE_SMS_TO_SIM fun pRI => do
    let _ ← copyHidlStringToRil k pdu pRI false
    let _ ← copyHidlStringToRil k smsc pRI false
    callOnRequest k slotId RIL_REQUEST_WRITE_SMS_TO_SIM pRI

def sendCdmaSms : Dispatch Unit :=
  callWithStructure k serial slotId RIL_REQUEST_CDMA_SEND_SMS

def acknowledgeLastIncomingCdmaSms : Dispatch Unit :=
  callWithStructure k serial slotId RIL_REQUEST_CDMA_SMS_ACKNOWLEDGE

/-- `setGsmBroadcastConfig` and `setCdmaBroadcastConfig` with the number of their
configurations. -/
def setBroadcastConfig (request : Int) (num : Nat) : Dispatch Unit :=
  withRequest k serial slotId request fun pRI =>
    if num > MAX_BROADCAST_SMS_CONFIG_INFO then returnError k pRI .RIL_E_INVALID_ARGUMENTS
    else callOnRequest k slotId request pRI

def setGsmBroadcastConfig (num : Nat) : Dispatch Unit :=
  setBroadcastConfig k serial slotId RIL_REQUEST_GSM_SET_BROADCAST_SMS_CONFIG num

def setCdmaBroadcastConfig (num : Nat) : Dispatch Unit :=
  setBroadcastConfig k serial slotId RIL_REQUEST_CDMA_SET_BROADCAST_SMS_CONFIG num

def writeSmsToRuim : Dispatch Unit :=
  callWithStructure k serial slotId RIL_REQUEST_CDMA_WRITE_SMS_TO_RUIM

def setInitialAttachApn (dataProfileInfo : DataProfileInfo) (isRoaming : Bool) : Dispatch Unit :=
  withRequest k serial slotId RIL_REQUEST_SET_INITIAL_ATTACH_APN fun pRI =>
    if k.version ≤ 14 then do
      let _ ← copyHidlStringToRil k dataProfileInfo.apn pRI true
      let protocol := dataProfileInfo.protocolFor isRoaming
      let _ ← copyHidlStringToRil k protocol pRI false
      let _ ← copyHidlStringToRil k dataProfileInfo.user pRI false
      let _ ← copyHidlStringToRil k dataProfileInfo.password pRI false
      callOnRequest k slotId RIL_REQUEST_SET_INITIAL_ATTACH_APN pRI
    else do
      let _ ← copyHidlStringToRil k dataProfileInfo.apn pRI true
      let _ ← copyHidlStringToRil k dataProfileInfo.protocol pRI false
      let _ ← copyHidlStringToRil k dataProfileInfo.roamingProtocol pRI false
      let _ ← copyHidlStringToRil k dataProfileInfo.user pRI false
      let _ ← copyHidlStringToRil k dataProfileInfo.password pRI false
      if (convertMvnoTypeToString dataProfileInfo.mvnoType).isNone then
        returnError k pRI .RIL_E_INVALID_ARGUMENTS
      else do
        let _ ← copyHidlStringToRil k dataProfileInfo.mvnoMatchData pRI false
        callOnRequest k slotId RIL_REQUEST_SET_INITIAL_ATTACH_APN pRI

def dispatchImsGsmSms (message : ImsSmsMessage) (pRI : Nat) : Dispatch Unit :=
  match message.gsmMessage with
  | [gsmMessage] => do
      callocOrError k pRI
      let _ ← copyHidlStringToRil k gsmMessage.smscPdu pRI false
      let _ ← copyHidlStringToRil k gsmMessage.pdu pRI false
      callOnRequest k slotId RIL_REQUEST_IMS_SEND_SMS pRI
  | _ => returnError k pRI .RIL_E_INVALID_ARGUMENTS

def dispatchImsCdmaSms (message : ImsSmsMessage) (pRI : Nat) : Dispatch Unit :=
  if message.cdmaMessage ≠ 1 then returnError k pRI .RIL_E_INVALID_ARGUMENTS
  else callOnRequest k slotId RIL_REQUEST_IMS_SEND_SMS pRI

def sendImsSms (message : ImsSmsMessage) : Dispatch Unit :=
  withRequest k serial slotId RIL_REQUEST_IMS_SEND_SMS fun pRI =>
    if message.tech = RADIO_TECH_3GPP then dispatchImsGsmSms k slotId message pRI
    else if message.tech = RADIO_TECH_3GPP2 then dispatchImsCdmaSms k slotId message pRI
    else returnError k pRI .RIL_E_INVALID_ARGUMENTS

def iccOpenLogicalChannel (aid : HidlString) : Dispatch Unit :=
  if k.version < 15 then
    dispatchString k serial slotId RIL_REQUEST_SIM_OPEN_CHANNEL aid.c_str
  else
    withRequest k serial slotId RIL_REQUEST_SIM_OPEN_CHANNEL fun pRI => do
      let _ ← copyHidlStringToRil k aid pRI false
      callOnRequest k slotId RIL_REQUEST_SIM_OPEN_CHANNEL pRI

def nvReadItem : Dispatch Unit := callWithStructure k serial slotId RIL_REQUEST_NV_READ_ITEM

def nvWriteItem (value : HidlString) : Dispatch Unit :=
  withRequest k serial slotId RIL_REQUEST_NV_WRITE_ITEM fun pRI => do
    let _ ← copyHidlStringToRil k value pRI false
    callOnRequest k slotId RIL_REQUEST_NV_WRITE_ITEM pRI

def setUiccSubscription : Dispatch Unit :=
  callWithStructure k serial slotId RIL_REQUEST_SET_UICC_SUBSCRIPTION

def requestIccSimAuthentication (authData aid : HidlString) : Dispatch Unit :=
  withRequest k serial slotId RIL_REQUEST_SIM_AUTHENTICATION fun pRI => do
    let _ ← copyHidlStringToRil k authData pRI false
    let _ ← copyHidlStringToRil k aid pRI false
    callOnRequest k slotId RIL_REQUEST_SIM_AUTHENTICATION pRI

/-- What `setDataProfile` copies of one profile. -/
def copyDataProfile (isRoaming : Bool) (pRI : Nat) (profile : DataProfileInfo) : Dispatch Unit :=
  if k.version ≤ 14 then do
    let _ ← copyHidlStringToRil k profile.apn pRI true
    let protocol := profile.protocolFor isRoaming
    let _ ← copyHidlStringToRil k protocol pRI true
    let _ ← copyHidlStringToRil k profile.user pRI true
    let _ ← copyHidlStringToRil k profile.password pRI true
  else do
    let _ ← copyHidlStringToRil k profile.apn pRI true
    let _ ← copyHidlStringToRil k profile.protocol pRI false
    let _ ← copyHidlStringToRil k profile.roamingProtocol pRI true
    let _ ← copyHidlStringToRil k profile.user pRI true
    let _ ← copyHidlStringToRil k profile.password pRI true
    let _ ← copyHidlStringToRil k profile.mvnoMatchData pRI true
    if (convertMvnoTypeToString profile.mvnoType).isNone then
      returnError k pRI .RIL_E_INVALID_ARGUMENTS
    else pure ()

def copyDataProfiles (isRoaming : Bool) (pRI : Nat) : List DataProfileInfo → Dispatch Unit
  | [] => pure ()
  | profile :: rest => do
      copyDataProfile k isRoaming pRI profile
      copyDataProfiles isRoaming pRI rest

def setDataProfile (profiles : List DataProfileInfo) (isRoaming : Bool) : Dispatch Unit :=
  withRequest k serial slotId RIL_REQUEST_SET_DATA_PROFILE fun pRI => do
    callocOrError k pRI
    callocOrError k pRI
    copyDataProfiles k isRoaming pRI profiles
    callOnRequest k slotId RIL_REQUEST_SET_DATA_PROFILE pRI

def setRadioCapability : Dispatch Unit :=
  callWithStructure k serial slotId RIL_REQUEST_SET_RADIO_CAPABILITY

def setAllowedCarriers : Dispatch Unit :=
  withRequest k serial slotId RIL_REQUEST_SET_CARRIER_RESTRICTIONS fun pRI => do
    callocOrError k pRI
    callocOrError k pRI
    callOnRequest k slotId RIL_REQUEST_SET_CARRIER_RESTRICTIONS pRI

/-- Here the pointer is not checked before the error response. -/
def refuseUnchecked (request : Int) : Dispatch Unit := do
  let pRI ← addRequestToList k serial slotId request
  sendErrorResponse k pRI .RIL_E_REQUEST_NOT_SUPPORTED

/-- `sendDeviceState` for `DeviceStateType::LOW_DATA_EXPECTED` or another type. -/
def sendDeviceState (lowDataExpected : Bool) : Dispatch Unit :=
  if k.version < 15 then
    if lowDataExpected then dispatchInts k serial slotId RIL_REQUEST_SCREEN_STATE 1
    else refuseUnchecked k serial slotId RIL_REQUEST_SEND_DEVICE_STATE
  else dispatchInts k serial slotId RIL_REQUEST_SEND_DEVICE_STATE 2

def setIndicationFilter : Dispatch Unit :=
  if k.version < 15 then
    refuseUnchecked k serial slotId RIL_REQUEST_SET_UNSOLICITED_RESPONSE_FILTER
  else dispatchInts k serial slotId RIL_REQUEST_SET_UNSOLICITED_RESPONSE_FILTER 1

def setCarrierInfoForImsiEncryption (mnc mcc keyIdentifier : HidlString) : Dispatch Unit :=
  withRequest k serial slotId RIL_REQUEST_SET_CARRIER_INFO_IMSI_ENCRYPTION fun pRI => do
    let _ ← copyHidlStringToRil k mnc pRI false
    let _ ← copyHidlStringToRil k mcc pRI false
    let _ ← copyHidlStringToRil k keyIdentifier pRI false
    callOnRequest k slotId RIL_REQUEST_SET_CARRIER_INFO_IMSI_ENCRYPTION pRI

/-- `startKeepalive` with the sizes of the addresses. -/
def startKeepalive (type : Int) (sourceAddress destinationAddress : Nat) : Dispatch Unit :=
  withRequest k serial slotId RIL_REQUEST_START_KEEPALIVE fun pRI =>
    if type = NATT_IPV4 then
      if sourceAddress ≠ 4 ∨ destinationAddress ≠ 4 then
        returnError k pRI .RIL_E_INVALID_ARGUMENTS
      else callOnRequest k slotId RIL_REQUEST_START_KEEPALIVE pRI
    else if type = NATT_IPV6 then
      if sourceAddress ≠ 16 ∨ destinationAddress ≠ 16 then
        returnError k pRI .RIL_E_INVALID_ARGUMENTS
      else callOnRequest k slotId RIL_REQUEST_START_KEEPALIVE pRI
    else returnError k pRI .RIL_E_INVALID_ARGUMENTS

def stopKeepalive : Dispatch Unit :=
  callWithStructure k serial slotId RIL_REQUEST_STOP_KEEPALIVE

end Dispatch

/-- The requests of a client. The methods that only call one of the first eight are
those with the request they call it with. -/
inductive ClientRequest
  | dispatchVoid (request : Int)
  | dispatchString (request : Int) (str : List UInt8)
  | dispatchStrings (request : Int) (allowEmpty : Bool) (strs : List (List UInt8))
  | dispatchStringsVec (request : Int) (data : List HidlString)
  | dispatchInts (request : Int) (countInts : Nat)
  | dispatchCallForwardStatus (request : Int) (number : HidlString)
  | dispatchRaw (request : Int)
  | dispatchIccApdu (request : Int) (data : HidlString)
  | dial (address : HidlString) (uusInfo : List HidlString)
  | setupDataCall (radioTechnology : Int) (dataProfileInfo : DataProfileInfo)
      (modemCognitive roamingAllowed isRoaming : Bool)
  | iccIOForApp (iccIo : IccIo)
  | startNetworkScan (specifiers : List RadioAccessSpecifier)
  | writeSmsToSim (pdu smsc : HidlString)
  | sendCdmaSms
  | acknowledgeLastIncomingCdmaSms
  | setGsmBroadcastConfig (num : Nat)
  | setCdmaBroadcastConfig (num : Nat)
  | writeSmsToRuim
  | setInitialAttachApn (dataProfileInfo : DataProfileInfo) (isRoaming : Bool)
  | sendImsSms (message : ImsSmsMessage)
  | iccOpenLogicalChannel (aid : HidlString)
  | nvReadItem
  | nvWriteItem (value : HidlString)
  | setUiccSubscription
  | requestIccSimAuthentication (authData aid : HidlString)
  | setDataProfile (profiles : List DataProfileInfo) (isRoaming : Bool)
  | setRadioCapability
  | setAllowedCarriers
  | sendDeviceState (lowDataExpected : Bool)
  | setIndicationFilter
  | setCarrierInfoForImsiEncryption (mnc mcc keyIdentifier : HidlString)
  | startKeepalive (type : Int) (sourceAddress destinationAddress : Nat)
  | stopKeepalive

def ClientRequest.dispatch (k : Platform) (serial : Int) (slotId : Nat) :
    ClientRequest → Dispatch Unit
  | dispatchVoid request => Dispatch.dispatchVoid k serial slotId request
  | dispatchString request str => Dispatch.dispatchString k serial slotId request str
  | dispatchStrings request allowEmpty strs =>
      Dispatch.dispatchStrings k serial slotId request allowEmpty strs
  | dispatchStringsVec request data => Dispatch.dispatchStringsVec k serial slotId request data
  | dispatchInts request countInts => Dispatch.dispatchInts k serial slotId request countInts
  | dispatchCallForwardStatus request number =>
      Dispatch.dispatchCallForwardStatus k serial slotId request number
  | dispatchRaw request => Dispatch.dispatchRaw k serial slotId request
  | dispatchIccApdu request data => Dispatch.dispatchIccApdu k serial slotId request data
  | dial address uusInfo => Dispatch.dial k serial slotId address uusInfo
  | setupDataCall radioTechnology dataProfileInfo modemCognitive roamingAllowed isRoaming =>
      Dispatch.setupDataCall k serial slotId radioTechnology dataProfileInfo modemCognitive
        roamingAllowed isRoaming
  | iccIOForApp iccIo => Dispatch.iccIOForApp k serial slotId iccIo
  | startNetworkScan specifiers => Dispatch.startNetworkScan k serial slotId specifiers
  | writeSmsToSim pdu smsc => Dispatch.writeSmsToSim k serial slotId pdu smsc
  | sendCdmaSms => Dispatch.sendCdmaSms k serial slotId
  | acknowledgeLastIncomingCdmaSms => Dispatch.acknowledgeLastIncomingCdmaSms k serial slotId
  | setGsmBroadcastConfig num => Dispatch.setGsmBroadcastConfig k serial slotId num
  | setCdmaBroadcastConfig num => Dispatch.setCdmaBroadcastConfig k serial slotId num
  | writeSmsToRuim => Dispatch.writeSmsToRuim k serial slotId
  | setInitialAttachApn dataProfileInfo isRoaming =>
      Dispatch.setInitialAttachApn k serial slotId dataProfileInfo isRoaming
  | sendImsSms message => Dispatch.sendImsSms k serial slotId message
  | iccOpenLogicalChannel aid => Dispatch.iccOpenLogicalChannel k serial slotId aid
  | nvReadItem => Dispatch.nvReadItem k serial slotId
  | nvWriteItem value => Dispatch.nvWriteItem k serial slotId value
  | setUiccSubscription => Dispatch.setUiccSubscription k serial slotId
  | requestIccSimAuthentication authData aid =>
      Dispatch.requestIccSimAuthentication k serial slotId authData aid
  | setDataProfile profiles isRoaming =>
      Dispatch.setDataProfile k serial slotId profiles isRoaming
  | setRadioCapability => Dispatch.setRadioCapability k serial slotId
  | setAllowedCarriers => Dispatch.setAllowedCarriers k serial slotId
  | sendDeviceState lowDataExpected => Dispatch.sendDeviceState k serial slotId lowDataExpected
  | setIndicationFilter => Dispatch.setIndicationFilter k serial slotId
  | setCarrierInfoForImsiEncryption mnc mcc keyIdentifier =>
      Dispatch.setCarrierInfoForImsiEncryption k serial slotId mnc mcc keyIdentifier
  | startKeepalive type sourceAddress destinationAddress =>
      Dispatch.startKeepalive k serial slotId type sourceAddress destinationAddress
  | stopKeepalive => Dispatch.stopKeepalive k serial slotId

end Serrano.Ril
