import Mathlib.Algebra.Ring.Nat
import Serrano.Ril.DataCallList

/-! # Decoding solicited responses

The response functions are given a pointer and a length by the vendor and check
them, each in its own way, before they take the response apart. A buffer has exactly
the stated length, an `int` or a pointer is a word of four bytes, and a read that
is not within the buffer makes a decoder fail.
-/

namespace Serrano.Ril

/-- What the vendor passes: `NULL` with some length, or a buffer, whose length is a
`size_t`. -/
inductive VendorPointer
  | null (responseLen : Nat)
  | buffer (bytes : List UInt8) (lt : bytes.length < 2 ^ 32)

/-- The words that lie in a buffer. -/
def words : List UInt8 → List UInt32
  | b0 :: b1 :: b2 :: b3 :: rest =>
      (b0.toUInt32 + (b1.toUInt32 <<< 8) + (b2.toUInt32 <<< 16) + (b3.toUInt32 <<< 24)) ::
        words rest
  | _ => []

structure LastCallFailCauseInfo where
  causeCode : Int32 := 0
  vendorCause : String := ""
  deriving DecidableEq

/-- `RIL_AppStatus`, as far as it is read. -/
structure RilAppStatus where
  app_type : Int32
  app_state : Int32
  perso_substate : Int32
  aid_ptr : UInt32
  app_label_ptr : UInt32
  pin1_replaced : Int32
  pin1 : Int32
  pin2 : Int32

/-- The counters of retries follow. -/
def sizeofRilAppStatus : Nat := 13

structure AppStatus where
  appType : Int32
  appState : Int32
  persoSubstate : Int32
  aidPtr : String
  appLabelPtr : String
  pin1Replaced : Int32
  pin1 : Int32
  pin2 : Int32
  deriving DecidableEq

/-- `RIL_CardStatus_v6` in front of its applications. -/
structure RilCardStatusV6 where
  card_state : Int32
  universal_pin_state : Int32
  gsm_umts_subscription_app_index : Int32
  cdma_subscription_app_index : Int32
  ims_subscription_app_index : Int32
  num_applications : Int32

def rilCardMaxApps : Nat := 8

/-- The header has six words. -/
def sizeofRilCardStatusV6 : Nat := 4 * (6 + rilCardMaxApps * sizeofRilAppStatus)

/-- `CardState::ABSENT` and `PinState::UNKNOWN` are zero. -/
structure CardStatus where
  cardState : Int32 := 0
  universalPinState : Int32 := 0
  gsmUmtsSubscriptionAppIndex : Int32 := -1
  cdmaSubscriptionAppIndex : Int32 := -1
  imsSubscriptionAppIndex : Int32 := -1
  applications : List AppStatus := []
  deriving DecidableEq

inductive OperatorStatus
  | unknown
  | available
  | current
  | forbidden
  deriving DecidableEq

structure OperatorInfo where
  alphaLong : String
  alphaShort : String
  operatorNumeric : String
  status : OperatorStatus
  deriving DecidableEq

section

variable (strings : UInt32 → String) (responseType serial e : Int32)

def firstInt (response : List UInt32) : Option Int32 := (response[0]?).map UInt32.toInt32

def responseIntOrEmpty : VendorPointer → Option (RadioResponseInfo × Int32)
  | .null responseLen =>
      let responseInfo := populateResponseInfo serial responseType e
      if responseLen = 0 then some (responseInfo, -1) else some (responseInfo.invalid e, -1)
  | .buffer bytes _ =>
      let responseInfo := populateResponseInfo serial responseType e
      if bytes.length % 4 ≠ 0 then some (responseInfo.invalid e, -1)
      else (firstInt (words bytes)).map fun ret => (responseInfo, ret)

def responseInt : VendorPointer → Option (RadioResponseInfo × Int32)
  | .null _ => some ((populateResponseInfo serial responseType e).invalid e, -1)
  | .buffer bytes _ =>
      let responseInfo := populateResponseInfo serial responseType e
      if bytes.length % 4 ≠ 0 then some (responseInfo.invalid e, -1)
      else (firstInt (words bytes)).map fun ret => (responseInfo, ret)

/-- `RIL_LastCallFailCauseInfo` is an `int` and a pointer. -/
def failCauseInfo (response : List UInt32) : Option LastCallFailCauseInfo :=
  (response[0]?).bind fun cause_code => (response[1]?).map fun vendor_cause =>
    { causeCode := cause_code.toInt32
      vendorCause := convertCharPtrToHidlString strings vendor_cause }

def getLastCallFailCauseResponse :
    VendorPointer → Option (RadioResponseInfo × LastCallFailCauseInfo)
  | .null _ => some ((populateResponseInfo serial responseType e).invalid e, {})
  | .buffer bytes _ =>
      let responseInfo := populateResponseInfo serial responseType e
      if bytes.length = 8 then
        (failCauseInfo strings (words bytes)).map fun info => (responseInfo, info)
      else if bytes.length % 4 ≠ 0 then
        (firstInt (words bytes)).map fun causeCode => (responseInfo, { causeCode := causeCode })
      else some (responseInfo.invalid e, {})

/-- `DataCallFailCause::ERROR_UNSPECIFIED` -/
def errorUnspecified : Int32 := 0xFFFF

/-- The result without a data call. -/
def noDataCall : SetupDataCallResult where
  status := errorUnspecified
  suggestedRetryTime := 0
  cid := 0
  active := 0
  type := ""
  ifname := ""
  addresses := ""
  dnses := ""
  gateways := ""
  pcscf := ""
  mtu := 0

def setupDataCallResponse : VendorPointer → Option (RadioResponseInfo × SetupDataCallResult)
  | .null _ => some (populateResponseInfo serial responseType e, noDataCall)
  | .buffer bytes _ =>
      let responseInfo := populateResponseInfo serial responseType e
      if bytes.length % sizeofRecord RilDataCallResponseV11.record = 0 then
        (RilDataCallResponseV11.record.load (words bytes)).map fun dcResponse =>
          (responseInfo, dcResponse.convertRilDataCallToHal strings)
      else if bytes.length % sizeofRecord RilDataCallResponseV9.record = 0 then
        (RilDataCallResponseV9.record.load (words bytes)).map fun dcResponse =>
          (responseInfo, dcResponse.convertRilDataCallToHal strings)
      else if bytes.length % sizeofRecord RilDataCallResponseV6.record = 0 then
        (RilDataCallResponseV6.record.load (words bytes)).map fun dcResponse =>
          (responseInfo, dcResponse.convertRilDataCallToHal strings)
      else some (responseInfo.invalid e, noDataCall)

/-- An element of `applications`, at its words. -/
def loadAppStatus : List UInt32 → Option RilAppStatus
  | app_type :: app_state :: perso_substate :: aid_ptr :: app_label_ptr :: pin1_replaced ::
      pin1 :: pin2 :: _ =>
      some ⟨app_type.toInt32, app_state.toInt32, perso_substate.toInt32, aid_ptr, app_label_ptr,
        pin1_replaced.toInt32, pin1.toInt32, pin2.toInt32⟩
  | _ => none

def loadCardStatus : List UInt32 → Option RilCardStatusV6
  | card_state :: universal_pin_state :: gsm :: cdma :: ims :: num_applications :: _ =>
      some ⟨card_state.toInt32, universal_pin_state.toInt32, gsm.toInt32, cdma.toInt32,
        ims.toInt32, num_applications.toInt32⟩
  | _ => none

def RilAppStatus.convert (status : RilAppStatus) : AppStatus where
  appType := status.app_type
  appState := status.app_state
  persoSubstate := status.perso_substate
  aidPtr := convertCharPtrToHidlString strings status.aid_ptr
  appLabelPtr := convertCharPtrToHidlString strings status.app_label_ptr
  pin1Replaced := status.pin1_replaced
  pin1 := status.pin1
  pin2 := status.pin2

/-- So many elements of `applications`. -/
def convertApps : List UInt32 → Nat → Option (List AppStatus)
  | _, 0 => some []
  | applications, num + 1 =>
      (loadAppStatus applications).bind fun status =>
        (convertApps (applications.drop sizeofRilAppStatus) num).map (status.convert strings :: ·)

/-- An index of the header has an application, or there is none. -/
def RilCardStatusV6.IndicesBelow (p_cur : RilCardStatusV6) : Prop :=
  p_cur.gsm_umts_subscription_app_index < p_cur.num_applications ∧
    p_cur.cdma_subscription_app_index < p_cur.num_applications ∧
    p_cur.ims_subscription_app_index < p_cur.num_applications

instance (p_cur : RilCardStatusV6) : Decidable p_cur.IndicesBelow :=
  inferInstanceAs (Decidable (_ ∧ _ ∧ _))

def RilCardStatusV6.convert (p_cur : RilCardStatusV6) (applications : List AppStatus) :
    CardStatus where
  cardState := p_cur.card_state
  universalPinState := p_cur.universal_pin_state
  gsmUmtsSubscriptionAppIndex := p_cur.gsm_umts_subscription_app_index
  cdmaSubscriptionAppIndex := p_cur.cdma_subscription_app_index
  imsSubscriptionAppIndex := p_cur.ims_subscription_app_index
  applications := applications

/-- A list of a negative number of applications cannot be allocated. -/
def getIccCardStatusResponse : VendorPointer → Option (RadioResponseInfo × CardStatus)
  | .null _ => some ((populateResponseInfo serial responseType e).invalid e, {})
  | .buffer bytes _ =>
      let responseInfo := populateResponseInfo serial responseType e
      if bytes.length ≠ sizeofRilCardStatusV6 then some (responseInfo.invalid e, {})
      else
        (loadCardStatus (words bytes)).bind fun p_cur =>
          if ¬ p_cur.IndicesBelow then some (responseInfo.invalid e, {})
          else if p_cur.num_applications < 0 then none
          else (convertApps strings ((words bytes).drop 6) p_cur.num_applications.toInt.toNat).map
            fun applications => (responseInfo, p_cur.convert applications)

/-- `strncmp` of nine characters. -/
def convertOperatorStatusToInt (str : String) : Option OperatorStatus :=
  if str.toList.take 9 = "unknown".toList then some .unknown
  else if str.toList.take 9 = "available".toList then some .available
  else if str.toList.take 9 = "current".toList then some .current
  else if str.toList.take 9 = "forbidden".toList then some .forbidden
  else none

/-- What an element of `networks` is before it is set. -/
def unsetOperator : OperatorInfo := ⟨"", "", "", .unknown⟩

/-- The loop over the strings that are left, `qanRespStrings` for every element of `networks`
that is left. An element has to be there, and its fourth string must not be `NULL`. The
flag says that the status of an element could not be set. -/
def availableNetworks (qanRespStrings : Nat) :
    Nat → List UInt32 → Option (List OperatorInfo × Bool)
  | 0, resp => if resp = [] then some ([], false) else none
  | networks + 1, resp =>
      if resp = [] then some (List.replicate (networks + 1) unsetOperator, false)
      else
        (resp[0]?).bind fun alphaLong => (resp[1]?).bind fun alphaShort =>
        (resp[2]?).bind fun operatorNumeric => (resp[3]?).bind fun status =>
          if status = 0 then none
          else
            (availableNetworks qanRespStrings networks (resp.drop qanRespStrings)).map
              fun (networks, unset) =>
                ({ alphaLong := convertCharPtrToHidlString strings alphaLong
                   alphaShort := convertCharPtrToHidlString strings alphaShort
                   operatorNumeric := convertCharPtrToHidlString strings operatorNumeric
                   status := (convertOperatorStatusToInt (strings status)).getD .unknown } ::
                  networks,
                  unset || (convertOperatorStatusToInt (strings status)).isNone)

/-- The response with the operators, which is invalid when one could not be set. -/
def RadioResponseInfo.withNetworks (info : RadioResponseInfo) (e : Int32)
    (result : List OperatorInfo × Bool) : RadioResponseInfo × List OperatorInfo :=
  (if result.2 then info.invalid e else info, result.1)

/-- `qanRespStrings * sizeof(char *)`, which is a `size_t`. -/
def sizeofOperator (qanRespStrings : Int32) : Nat := (qanRespStrings.toUInt32 * 4).toNat

/-- The property `ro.ril.telephony.qan_resp_strings` is any `int`. A remainder by zero ends the
process, and so does a list of a negative number of elements. -/
def getAvailableNetworksResponse (qanRespStrings : Int32) :
    VendorPointer → Option (RadioResponseInfo × List OperatorInfo)
  | .null responseLen =>
      let responseInfo := populateResponseInfo serial responseType e
      if responseLen ≠ 0 then some (responseInfo.invalid e, [])
      else if sizeofOperator qanRespStrings = 0 then none
      else some (responseInfo, [])
  | .buffer bytes _ =>
      let responseInfo := populateResponseInfo serial responseType e
      let operators := Int.tdiv (bytes.length / 4 : Nat) qanRespStrings.toInt
      if sizeofOperator qanRespStrings = 0 then none
      else if bytes.length % sizeofOperator qanRespStrings ≠ 0 then
        some (responseInfo.invalid e, [])
      else if operators < 0 then none
      else
        (availableNetworks strings qanRespStrings.toInt.toNat operators.toNat (words bytes)).map
          (responseInfo.withNetworks e)

end

end Serrano.Ril
