import Mathlib.Algebra.Ring.Nat
import Serrano.Ril.PendingRequests
import Serrano.Ril.RadioImpl

/-! # What becomes of a request

A method either calls the vendor library once, or sends one error response. Which
of the two happens depends on its arguments and on the answers of `calloc` alone,
and an error response leaves the request in the pending list.
-/

namespace Serrano.Ril

/-- The string can be copied: it is skipped, or no longer than it says. -/
def HidlString.Copies (src : HidlString) (allowEmpty : Bool) : Prop :=
  (src.size = 0 ∧ allowEmpty = false) ∨ src.c_str.length ≤ src.size

/-- The allocations that copying the string takes. -/
def HidlString.callocs (src : HidlString) (allowEmpty : Bool) : Nat :=
  if src.size = 0 ∧ allowEmpty = false then 0 else 1

@[simp] theorem HidlString.callocs_true (src : HidlString) : src.callocs true = 1 :=
  if_neg fun hempty => Bool.noConfusion hempty.2

@[simp] theorem HidlString.copies_ofCStr (str : List UInt8) (allowEmpty : Bool) :
    (ofCStr str).Copies allowEmpty := Or.inr (Nat.le_refl _)

/-- The specifier fits into the structure and its network is known. -/
def RadioAccessSpecifier.Supported (specifier : RadioAccessSpecifier) : Prop :=
  specifier.geranBands ≤ MAX_BANDS ∧ specifier.utranBands ≤ MAX_BANDS ∧
    specifier.eutranBands ≤ MAX_BANDS ∧ specifier.channels ≤ MAX_CHANNELS ∧
      specifier.radioAccessNetwork ≠ .other

/-- What `setDataProfile` needs of a profile. -/
def DataProfileInfo.Copies (k : Platform) (isRoaming : Bool) (profile : DataProfileInfo) : Prop :=
  if k.version ≤ 14 then
    profile.apn.Copies true ∧ (profile.protocolFor isRoaming).Copies true ∧
      profile.user.Copies true ∧ profile.password.Copies true
  else
    profile.apn.Copies true ∧ profile.protocol.Copies false ∧
      profile.roamingProtocol.Copies true ∧ profile.user.Copies true ∧
        profile.password.Copies true ∧ profile.mvnoMatchData.Copies true ∧
          profile.mvnoType ≠ .other

/-- The strings of a profile are allocated even when they are empty, but for the
protocol of newer vendor versions. -/
def DataProfileInfo.callocs (k : Platform) (profile : DataProfileInfo) : Nat :=
  if k.version ≤ 14 then 4 else 5 + profile.protocol.callocs false

/-- What `setInitialAttachApn` needs of a profile. -/
def DataProfileInfo.Attaches (k : Platform) (isRoaming : Bool) (profile : DataProfileInfo) : Prop :=
  if k.version ≤ 14 then
    profile.apn.Copies true ∧ (profile.protocolFor isRoaming).Copies false ∧
      profile.user.Copies false ∧ profile.password.Copies false
  else
    profile.apn.Copies true ∧ profile.protocol.Copies false ∧
      profile.roamingProtocol.Copies false ∧ profile.user.Copies false ∧
        profile.password.Copies false ∧ profile.mvnoType ≠ .other ∧
          profile.mvnoMatchData.Copies false

def DataProfileInfo.attachCallocs (k : Platform) (isRoaming : Bool) (profile : DataProfileInfo) :
    Nat :=
  if k.version ≤ 14 then
    1 + (profile.protocolFor isRoaming).callocs false + profile.user.callocs false +
      profile.password.callocs false
  else
    1 + profile.protocol.callocs false + profile.roamingProtocol.callocs false +
      profile.user.callocs false + profile.password.callocs false +
        profile.mvnoMatchData.callocs false

/-- The message has the one message of its technology. -/
def ImsSmsMessage.Valid (message : ImsSmsMessage) : Prop :=
  if message.tech = RADIO_TECH_3GPP then
    ∃ gsmMessage, message.gsmMessage = [gsmMessage] ∧ gsmMessage.smscPdu.Copies false ∧
      gsmMessage.pdu.Copies false
  else message.tech = RADIO_TECH_3GPP2 ∧ message.cdmaMessage = 1

def ImsSmsMessage.callocs (message : ImsSmsMessage) : Nat :=
  if message.tech = RADIO_TECH_3GPP then
    (message.gsmMessage.head?.map fun gsmMessage =>
      1 + gsmMessage.smscPdu.callocs false + gsmMessage.pdu.callocs false).getD 0
  else 0

namespace ClientRequest

variable (k : Platform)

/-- The request that is added to the pending list. -/
def number : ClientRequest → Int
  | dispatchVoid request | dispatchString request _ | dispatchStrings request _ _
  | dispatchStringsVec request _ | dispatchInts request _ | dispatchCallForwardStatus request _
  | dispatchRaw request | dispatchIccApdu request _ => request
  | dial .. => RIL_REQUEST_DIAL
  | setupDataCall .. => RIL_REQUEST_SETUP_DATA_CALL
  | iccIOForApp _ => RIL_REQUEST_SIM_IO
  | startNetworkScan _ => RIL_REQUEST_START_NETWORK_SCAN
  | writeSmsToSim .. => RIL_REQUEST_WRITE_SMS_TO_SIM
  | sendCdmaSms => RIL_REQUEST_CDMA_SEND_SMS
  | acknowledgeLastIncomingCdmaSms => RIL_REQUEST_CDMA_SMS_ACKNOWLEDGE
  | setGsmBroadcastConfig _ => RIL_REQUEST_GSM_SET_BROADCAST_SMS_CONFIG
  | setCdmaBroadcastConfig _ => RIL_REQUEST_CDMA_SET_BROADCAST_SMS_CONFIG
  | writeSmsToRuim => RIL_REQUEST_CDMA_WRITE_SMS_TO_RUIM
  | setInitialAttachApn .. => RIL_REQUEST_SET_INITIAL_ATTACH_APN
  | sendImsSms _ => RIL_REQUEST_IMS_SEND_SMS
  | iccOpenLogicalChannel _ => RIL_REQUEST_SIM_OPEN_CHANNEL
  | nvReadItem => RIL_REQUEST_NV_READ_ITEM
  | nvWriteItem _ => RIL_REQUEST_NV_WRITE_ITEM
  | setUiccSubscription => RIL_REQUEST_SET_UICC_SUBSCRIPTION
  | requestIccSimAuthentication .. => RIL_REQUEST_SIM_AUTHENTICATION
  | setDataProfile .. => RIL_REQUEST_SET_DATA_PROFILE
  | setRadioCapability => RIL_REQUEST_SET_RADIO_CAPABILITY
  | setAllowedCarriers => RIL_REQUEST_SET_CARRIER_RESTRICTIONS
  | sendDeviceState lowDataExpected =>
      if k.version < 15 ∧ lowDataExpected then RIL_REQUEST_SCREEN_STATE
      else RIL_REQUEST_SEND_DEVICE_STATE
  | setIndicationFilter => RIL_REQUEST_SET_UNSOLICITED_RESPONSE_FILTER
  | setCarrierInfoForImsiEncryption .. => RIL_REQUEST_SET_CARRIER_INFO_IMSI_ENCRYPTION
  | startKeepalive .. => RIL_REQUEST_START_KEEPALIVE
  | stopKeepalive => RIL_REQUEST_STOP_KEEPALIVE

/-- The arguments pass the checks of the method, the version of the vendor library
knows the request, and every string is no longer than it says. -/
def Valid : ClientRequest → Prop
  | dispatchVoid _ | dispatchString .. | dispatchStrings .. | dispatchInts .. | dispatchRaw _
  | sendCdmaSms | acknowledgeLastIncomingCdmaSms | writeSmsToRuim | nvReadItem
  | setUiccSubscription | setRadioCapability | setAllowedCarriers | stopKeepalive => True
  | dispatchStringsVec _ data => ∀ src ∈ data, src.Copies false
  | dispatchCallForwardStatus _ src | dispatchIccApdu _ src | nvWriteItem src => src.Copies false
  | dial address uusInfo => address.Copies false ∧ ∀ uusData ∈ uusInfo.head?, uusData.Copies false
  | setupDataCall _ dataProfileInfo _ _ _ =>
      4 ≤ k.version ∧ (15 ≤ k.version → dataProfileInfo.mvnoType ≠ .other)
  | iccIOForApp iccIo => iccIo.path.Copies false ∧ iccIo.data.Copies false ∧
      iccIo.pin2.Copies false ∧ iccIo.aid.Copies false
  | startNetworkScan specifiers => specifiers.length ≤ MAX_RADIO_ACCESS_NETWORKS ∧
      ∀ specifier ∈ specifiers, specifier.Supported
  | writeSmsToSim first second | requestIccSimAuthentication first second =>
      first.Copies false ∧ second.Copies false
  | setGsmBroadcastConfig num | setCdmaBroadcastConfig num => num ≤ MAX_BROADCAST_SMS_CONFIG_INFO
  | setInitialAttachApn dataProfileInfo isRoaming => dataProfileInfo.Attaches k isRoaming
  | sendImsSms message => message.Valid
  | iccOpenLogicalChannel aid => k.version < 15 ∨ aid.Copies false
  | setDataProfile profiles isRoaming => ∀ profile ∈ profiles, profile.Copies k isRoaming
  | sendDeviceState lowDataExpected => k.version < 15 → lowDataExpected = true
  | setIndicationFilter => 15 ≤ k.version
  | setCarrierInfoForImsiEncryption mnc mcc keyIdentifier =>
      mnc.Copies false ∧ mcc.Copies false ∧ keyIdentifier.Copies false
  | startKeepalive type sourceAddress destinationAddress =>
      (type = NATT_IPV4 ∧ sourceAddress = 4 ∧ destinationAddress = 4) ∨
        (type = NATT_IPV6 ∧ sourceAddress = 16 ∧ destinationAddress = 16)

/-- The allocations that a valid request takes, after the one of its `RequestInfo`. -/
def callocs : ClientRequest → Nat
  | dispatchVoid _ | dispatchRaw _ | sendCdmaSms | acknowledgeLastIncomingCdmaSms
  | writeSmsToRuim | nvReadItem | setUiccSubscription | setRadioCapability | stopKeepalive
  | startNetworkScan _ | setGsmBroadcastConfig _ | setCdmaBroadcastConfig _
  | startKeepalive .. => 0
  | dispatchString _ str => (HidlString.ofCStr str).callocs false
  | dispatchStrings _ allowEmpty strs =>
      1 + (strs.map fun str => (HidlString.ofCStr str).callocs allowEmpty).sum
  | dispatchStringsVec _ data => 1 + (data.map fun src => src.callocs false).sum
  | dispatchInts .. | sendDeviceState _ | setIndicationFilter => 1
  | dispatchCallForwardStatus _ src | dispatchIccApdu _ src | nvWriteItem src => src.callocs false
  | dial address uusInfo =>
      address.callocs false + (uusInfo.head?.map fun uusData => uusData.callocs false).getD 0
  | setupDataCall .. => if k.version ≤ 14 then 8 else 16
  | iccIOForApp iccIo => iccIo.path.callocs false + iccIo.data.callocs false +
      iccIo.pin2.callocs false + iccIo.aid.callocs false
  | writeSmsToSim first second | requestIccSimAuthentication first second =>
      first.callocs false + second.callocs false
  | setInitialAttachApn dataProfileInfo isRoaming => dataProfileInfo.attachCallocs k isRoaming
  | sendImsSms message => message.callocs
  | iccOpenLogicalChannel aid =>
      if k.version < 15 then (HidlString.ofCStr aid.c_str).callocs false else aid.callocs false
  | setDataProfile profiles _ => 2 + (profiles.map fun profile => profile.callocs k).sum
  | setAllowedCarriers => 2
  | setCarrierInfoForImsiEncryption mnc mcc keyIdentifier =>
      mnc.callocs false + mcc.callocs false + keyIdentifier.callocs false

/-- The request is in the table, its `RequestInfo` was allocated, it is valid, and all
its further allocations succeed. -/
def Unhindered (request : ClientRequest) (requestInfo : Option Nat) (calloc : Nat → Bool) :
    Prop :=
  (request.number k < k.numCommands ∧ requestInfo.isSome = true) ∧ request.Valid k ∧
    ∀ i < request.callocs k, calloc i = true

end ClientRequest

namespace DispatchState

variable (k : Platform) (serial : Int) (slotId : Nat)

/-- The vendor library was called once with the token, which was pending, or one
error response was sent and the request is pending no more. -/
def Settled (s : DispatchState) : Prop :=
  (∃ request pRI, s.requestInfo = some pRI ∧ s.events = [.onRequest request pRI true]) ∨
    (∃ err, s.events = [.errorResponse slotId serial err]) ∧
      ∀ pRI ∈ s.requestInfo, pRI ∉ s.requests.pendingList k slotId

/-- One error response, and nothing else but allocations. -/
def Failed (pRI : Nat) (s s' : DispatchState) : Prop :=
  ∃ calloc err, s' = { s with
    calloc := calloc
    events := s.events ++ [s.errorEvent k (some pRI) err] }

/-- After so many successful allocations, the vendor library was called for these
requests. -/
def afterCalls (pRI callocs : Nat) (called : List Int) (s : DispatchState) : DispatchState :=
  { s with
    calloc := fun i => s.calloc (callocs + i)
    events := s.events ++
      called.map fun request => .onRequest request pRI (pRI ∈ s.requests.pendingList k slotId) }

end DispatchState

namespace Dispatch

open DispatchState

/-- The computation goes through exactly when the arguments are valid and the next
allocations succeed; otherwise it ends with an error response. -/
def Runs (k : Platform) (slotId pRI : Nat) (valid : Prop) (callocs : Nat) (called : List Int)
    {α : Type} (x : Dispatch α) : Prop :=
  Fallible.Decided (Failed k pRI) (fun s => valid ∧ ∀ i < callocs, s.calloc i = true)
    (afterCalls k slotId pRI callocs called) x

section Rules

variable {k : Platform} {slotId pRI : Nat} {valid valid' : Prop} {callocs callocs' : Nat}
  {called : List Int} {α β : Type}

theorem Runs.congr {x : Dispatch α} (hx : Runs k slotId pRI valid callocs called x)
    (hvalid : valid ↔ valid') (hcallocs : valid → callocs = callocs') :
    Runs k slotId pRI valid' callocs' called x := by
  refine Fallible.Decided.congr hx (fun s => ?_) fun s hs => ?_
  · rw [← hvalid]
    exact and_congr_right fun h => by rw [hcallocs h]
  · rw [hcallocs hs.1]

/-- An error response does not see the allocations before it. -/
theorem Runs.bind {x : Dispatch α} {f : α → Dispatch β}
    (hx : Runs k slotId pRI valid callocs [] x)
    (hf : ∀ a, Runs k slotId pRI valid' callocs' called (f a)) :
    Runs k slotId pRI (valid ∧ valid') (callocs + callocs') called (x >>= f) := by
  refine (Fallible.Decided.bind hx hf ?_).congr (fun s => ?_) fun s _ => ?_
  · rintro s s' - ⟨calloc, err, rfl⟩
    refine ⟨calloc, err, ?_⟩
    simp [afterCalls, errorEvent]
  · constructor
    · rintro ⟨⟨hvalid, hfirst⟩, hvalid', hsecond⟩
      refine ⟨⟨hvalid, hvalid'⟩, fun i hi => ?_⟩
      by_cases hlt : i < callocs
      · exact hfirst i hlt
      · have hrest : s.calloc (callocs + (i - callocs)) = true := hsecond _ (by omega)
        rwa [Nat.add_sub_cancel' (Nat.le_of_not_lt hlt)] at hrest
    · rintro ⟨⟨hvalid, hvalid'⟩, hall⟩
      exact ⟨⟨hvalid, fun i hi => hall i (by omega)⟩, hvalid', fun i hi => hall _ (by omega)⟩
  · simp [afterCalls, Nat.add_assoc]

theorem Runs.pure (a : α) : Runs k slotId pRI True 0 [] (Pure.pure a : Dispatch α) :=
  (Fallible.Decided.pure a).congr (fun s => by simp) fun s _ => by simp [afterCalls]

theorem Runs.returnError (err : RIL_Errno) :
    Runs k slotId pRI False 0 called (Dispatch.returnError k pRI err : Dispatch α) where
  returns _ hs := hs.1.elim
  ends s _ := ⟨s.record (s.errorEvent k (some pRI) err), rfl, s.calloc, err, rfl⟩

theorem Runs.callOnRequest (request : Int) :
    Runs k slotId pRI True 0 [request] (Dispatch.callOnRequest k slotId request pRI) :=
  (Fallible.Decided.change _).congr (fun s => by simp) fun s _ => by
    simp [afterCalls, DispatchState.record]

/-- A branch on what the arguments say. -/
theorem Runs.ite {condition : Prop} [Decidable condition] {x y : Dispatch α}
    (hx : Runs k slotId pRI valid callocs called x)
    (hy : Runs k slotId pRI valid' callocs' called y) :
    Runs k slotId pRI (if condition then valid else valid')
      (if condition then callocs else callocs') called (if condition then x else y) := by
  split_ifs
  · exact hx
  · exact hy

theorem callocOrError_apply (s : DispatchState) :
    callocOrError k pRI s = if s.calloc 0 then (some (), s.afterCallocs 1)
      else (none, (s.afterCallocs 1).record (s.errorEvent k (some pRI) .RIL_E_NO_MEMORY)) := by
  have hbind : callocOrError k pRI s = (if !s.calloc 0 then
      returnError k pRI .RIL_E_NO_MEMORY else pure () : Dispatch Unit) (s.afterCallocs 1) := rfl
  rw [hbind]
  cases s.calloc 0 with
  | false => rfl
  | true => rfl

theorem callocOrError_runs : Runs k slotId pRI True 1 [] (callocOrError k pRI) where
  returns s hs := by
    refine ⟨(), ?_⟩
    rw [callocOrError_apply, if_pos (hs.2 0 Nat.one_pos)]
    simp [afterCallocs, afterCalls]
  ends s hnot := by
    have hfirst : ¬ s.calloc 0 = true := fun hfirst =>
      hnot ⟨trivial, fun i hi => by obtain rfl := Nat.lt_one_iff.mp hi; exact hfirst⟩
    rw [callocOrError_apply, if_neg hfirst]
    exact ⟨_, rfl, _, _, rfl⟩

/-- The call of the vendor library that ends a method. -/
theorem Runs.thenCall {x : Dispatch α} (hx : Runs k slotId pRI valid callocs [] x)
    (request : Int) :
    Runs k slotId pRI valid callocs [request]
      (x >>= fun _ => Dispatch.callOnRequest k slotId request pRI) :=
  (hx.bind fun _ => Runs.callOnRequest request).congr (and_iff_left trivial) fun _ => Nat.add_zero _

theorem copyHidlStringToRil_runs (src : HidlString) (allowEmpty : Bool) :
    Runs k slotId pRI (src.Copies allowEmpty) (src.callocs allowEmpty) []
      (copyHidlStringToRil k src pRI allowEmpty) := by
  unfold copyHidlStringToRil HidlString.callocs
  by_cases hskip : src.size = 0 ∧ allowEmpty = false
  · rw [if_pos hskip, if_pos hskip]
    exact (Runs.pure none).congr (iff_of_true trivial (Or.inl hskip)) fun _ => rfl
  · rw [if_neg hskip, if_neg hskip]
    refine (callocOrError_runs.bind fun _ => (Runs.returnError _).ite (Runs.pure _)).congr ?_ ?_
    · rw [HidlString.Copies, or_iff_right hskip]
      split_ifs <;> simp <;> omega
    · intro _
      split_ifs <;> rfl

theorem copyStrings_runs (allowEmpty : Bool) (strs : List HidlString) :
    Runs k slotId pRI (∀ src ∈ strs, src.Copies allowEmpty)
      (strs.map fun src => src.callocs allowEmpty).sum []
      (copyStrings k pRI allowEmpty strs) := by
  induction strs with
  | nil => exact (Runs.pure ()).congr (by simp) fun _ => rfl
  | cons src rest ih =>
      refine ((copyHidlStringToRil_runs src allowEmpty).bind fun _ => ih).congr ?_ fun _ => ?_
      · rw [List.forall_mem_cons]
      · rw [List.map_cons, List.sum_cons]

theorem copySpecifiers_runs (specifiers : List RadioAccessSpecifier) :
    Runs k slotId pRI (∀ specifier ∈ specifiers, specifier.Supported) 0 []
      (copySpecifiers k pRI specifiers) := by
  have hone : ∀ specifier : RadioAccessSpecifier,
      Runs k slotId pRI specifier.Supported 0 [] (copySpecifier k pRI specifier) := by
    intro specifier
    unfold copySpecifier
    split_ifs with hsize
    · refine (Runs.returnError _).congr (iff_of_false id fun hsupported => ?_) fun _ => rfl
      obtain ⟨hgeran, hutran, heutran, hchannels, -⟩ := hsupported
      omega
    · have hsizes : specifier.Supported ↔ specifier.radioAccessNetwork ≠ .other := by
        unfold RadioAccessSpecifier.Supported
        constructor
        · exact fun hsupported => hsupported.2.2.2.2
        · exact fun hnetwork => ⟨by omega, by omega, by omega, by omega, hnetwork⟩
      cases hnetwork : specifier.radioAccessNetwork with
      | GERAN | UTRAN | EUTRAN =>
          exact (Runs.pure ()).congr (by simp [hsizes, hnetwork]) fun _ => rfl
      | other => exact (Runs.returnError _).congr (by simp [hsizes, hnetwork]) fun _ => rfl
  induction specifiers with
  | nil => exact (Runs.pure ()).congr (by simp) fun _ => rfl
  | cons specifier rest ih =>
      refine ((hone specifier).bind fun _ => ih).congr ?_ fun _ => rfl
      rw [List.forall_mem_cons]

theorem convertMvnoTypeToString_isNone (mvnoType : MvnoType) :
    (convertMvnoTypeToString mvnoType).isNone = true ↔ mvnoType = .other := by
  cases mvnoType <;> simp [convertMvnoTypeToString]

theorem copyDataProfile_runs (isRoaming : Bool) (profile : DataProfileInfo) :
    Runs k slotId pRI (profile.Copies k isRoaming) (profile.callocs k) []
      (copyDataProfile k isRoaming pRI profile) := by
  unfold copyDataProfile DataProfileInfo.Copies DataProfileInfo.callocs
  by_cases hversion : k.version ≤ 14
  · rw [if_pos hversion, if_pos hversion, if_pos hversion]
    refine ((copyHidlStringToRil_runs _ true).bind fun _ =>
      (copyHidlStringToRil_runs _ true).bind fun _ =>
      (copyHidlStringToRil_runs _ true).bind fun _ =>
      (copyHidlStringToRil_runs _ true).bind fun _ => Runs.pure ()).congr ?_ fun _ => ?_
    · simp only [and_true]
    · simp only [HidlString.callocs_true]
  · rw [if_neg hversion, if_neg hversion, if_neg hversion]
    refine ((copyHidlStringToRil_runs _ true).bind fun _ =>
      (copyHidlStringToRil_runs _ false).bind fun _ =>
      (copyHidlStringToRil_runs _ true).bind fun _ =>
      (copyHidlStringToRil_runs _ true).bind fun _ =>
      (copyHidlStringToRil_runs _ true).bind fun _ =>
      (copyHidlStringToRil_runs _ true).bind fun _ =>
      (Runs.returnError _).ite (Runs.pure ())).congr ?_ fun _ => ?_
    · simp only [convertMvnoTypeToString_isNone, if_false_left, and_true, ne_eq]
    · simp only [HidlString.callocs_true, ite_self]
      omega

theorem copyDataProfiles_runs (isRoaming : Bool) (profiles : List DataProfileInfo) :
    Runs k slotId pRI (∀ profile ∈ profiles, profile.Copies k isRoaming)
      (profiles.map fun profile => profile.callocs k).sum []
      (copyDataProfiles k isRoaming pRI profiles) := by
  induction profiles with
  | nil => exact (Runs.pure ()).congr (by simp) fun _ => rfl
  | cons profile rest ih =>
      refine ((copyDataProfile_runs isRoaming profile).bind fun _ => ih).congr ?_ fun _ => ?_
      · rw [List.forall_mem_cons]
      · rw [List.map_cons, List.sum_cons]

end Rules

/-- A method that adds this request: without it nothing happens, or the process ends;
with it the method runs as far as it gets. -/
structure Handles (k : Platform) (serial : Int) (slotId : Nat) (request : Int) (valid : Prop)
    (callocs : Nat) (x : Dispatch Unit) : Prop where
  refused : ∀ s s', addRequestToList k serial slotId request s = (some none, s') →
    (x s).2 = s' ∨ (x s).2 = s'.record .died
  added : ∀ s s' pRI, addRequestToList k serial slotId request s = (some (some pRI), s') →
    ((valid ∧ ∀ i < callocs, s'.calloc i = true) →
      (x s).2 = afterCalls k slotId pRI callocs [request] s') ∧
    (¬ (valid ∧ ∀ i < callocs, s'.calloc i = true) → Failed k pRI s' (x s).2)

section Methods

variable {k : Platform} {serial : Int} {slotId : Nat} {request : Int} {valid valid' : Prop}
  {callocs callocs' : Nat}

theorem Handles.congr {x : Dispatch Unit} (hx : Handles k serial slotId request valid callocs x)
    (hvalid : valid ↔ valid') (hcallocs : valid → callocs = callocs') :
    Handles k serial slotId request valid' callocs' x := by
  refine ⟨hx.refused, fun s s' pRI hadd => ?_⟩
  obtain ⟨hgood, hbad⟩ := hx.added s s' pRI hadd
  have hiff : (valid ∧ ∀ i < callocs, s'.calloc i = true) ↔
      (valid' ∧ ∀ i < callocs', s'.calloc i = true) := by
    rw [← hvalid]
    exact and_congr_right fun h => by rw [hcallocs h]
  rw [← hiff]
  exact ⟨fun hs => (hgood hs).trans (by rw [hcallocs hs.1]), hbad⟩

theorem handles_withRequest {body : Nat → Dispatch Unit}
    (hbody : ∀ pRI, Runs k slotId pRI valid callocs [request] (body pRI)) :
    Handles k serial slotId request valid callocs (withRequest k serial slotId request body) where
  refused s s' hadd := Or.inl (congrArg Prod.snd (Fallible.bind_of_some hadd))
  added s s' pRI hadd := by
    have hrest : withRequest k serial slotId request body s = body pRI s' :=
      Fallible.bind_of_some hadd
    rw [hrest]
    constructor
    · intro hgood
      obtain ⟨a, hreturn⟩ := (hbody pRI).returns s' hgood
      rw [hreturn]
    · intro hbad
      obtain ⟨s'', hend, hfailed⟩ := (hbody pRI).ends s' hbad
      rwa [hend]

/-- Without the check for a null pointer the process ends when the request was not
added. -/
theorem handles_refuseUnchecked (request : Int) :
    Handles k serial slotId request False 0 (refuseUnchecked k serial slotId request) where
  refused s s' hadd := Or.inr (congrArg Prod.snd (Fallible.bind_of_some hadd))
  added s s' pRI hadd := by
    refine ⟨fun hgood => hgood.1.elim, fun _ => ?_⟩
    have hrest : refuseUnchecked k serial slotId request s =
        sendErrorResponse k (some pRI) .RIL_E_REQUEST_NOT_SUPPORTED s' :=
      Fallible.bind_of_some hadd
    rw [hrest]
    exact ⟨s'.calloc, _, rfl⟩

theorem handles_dispatchString (request : Int) (str : List UInt8) :
    Handles k serial slotId request True ((HidlString.ofCStr str).callocs false)
      (dispatchString k serial slotId request str) :=
  handles_withRequest fun _ => ((copyHidlStringToRil_runs _ false).thenCall request).congr
    (iff_true_intro (HidlString.copies_ofCStr str false)) fun _ => rfl

theorem handles_dispatchStrings (request : Int) (allowEmpty : Bool) (strs : List (List UInt8)) :
    Handles k serial slotId request True
      (1 + (strs.map fun str => (HidlString.ofCStr str).callocs allowEmpty).sum)
      (dispatchStrings k serial slotId request allowEmpty strs) := by
  refine handles_withRequest fun _ => (callocOrError_runs.bind fun _ =>
    (copyStrings_runs allowEmpty _).thenCall request).congr ?_ fun _ => ?_
  · simp
  · simp [Function.comp_def]

theorem handles_dispatchInts (request : Int) (countInts : Nat) :
    Handles k serial slotId request True 1 (dispatchInts k serial slotId request countInts) :=
  handles_withRequest fun _ => callocOrError_runs.thenCall request

theorem handles_refuseRequest (request : Int) (err : RIL_Errno) :
    Handles k serial slotId request False 0 (refuseRequest k serial slotId request err) :=
  handles_withRequest fun _ => Runs.returnError err

theorem handles_callWithStructure (request : Int) :
    Handles k serial slotId request True 0 (callWithStructure k serial slotId request) :=
  handles_withRequest fun _ => Runs.callOnRequest request

theorem handles_dial (address : HidlString) (uusInfo : List HidlString) :
    Handles k serial slotId RIL_REQUEST_DIAL
      (address.Copies false ∧ ∀ uusData ∈ uusInfo.head?, uusData.Copies false)
      (address.callocs false + (uusInfo.head?.map fun uusData => uusData.callocs false).getD 0)
      (dial k serial slotId address uusInfo) := by
  refine handles_withRequest fun pRI => ?_
  cases uusInfo with
  | nil =>
      refine ((copyHidlStringToRil_runs _ false).thenCall _).congr ?_ fun _ => rfl
      simp
  | cons uusData rest =>
      refine ((copyHidlStringToRil_runs _ false).bind fun _ =>
        (Runs.callOnRequest _).ite ((copyHidlStringToRil_runs _ false).thenCall _)).congr ?_ ?_
      · by_cases hempty : uusData.size = 0
        · simp [HidlString.Copies, hempty]
        · simp [hempty]
      · intro _
        by_cases hempty : uusData.size = 0
        · simp [HidlString.callocs, hempty]
        · simp [hempty]

theorem handles_setupDataCall (radioTechnology : Int) (dataProfileInfo : DataProfileInfo)
    (modemCognitive roamingAllowed isRoaming : Bool) :
    Handles k serial slotId RIL_REQUEST_SETUP_DATA_CALL
      (4 ≤ k.version ∧ (15 ≤ k.version → dataProfileInfo.mvnoType ≠ .other))
      (if k.version ≤ 14 then 8 else 16)
      (setupDataCall k serial slotId radioTechnology dataProfileInfo modemCognitive roamingAllowed
        isRoaming) := by
  unfold setupDataCall
  by_cases hold : k.version ≥ 4 ∧ k.version ≤ 14
  · rw [if_pos hold, if_pos hold.2]
    refine (handles_dispatchStrings _ true _).congr ?_ fun _ => ?_
    · exact iff_of_true trivial ⟨hold.1, fun hnew => by omega⟩
    · simp
  rw [if_neg hold]
  by_cases hnew : k.version ≥ 15
  · rw [if_pos hnew, if_neg (show ¬ k.version ≤ 14 by omega)]
    have hnone := convertMvnoTypeToString_isNone dataProfileInfo.mvnoType
    cases hmvno : convertMvnoTypeToString dataProfileInfo.mvnoType with
    | none =>
        rw [hmvno] at hnone
        refine (handles_refuseRequest _ _).congr (iff_of_false id fun hvalid => ?_) False.elim
        exact hvalid.2 hnew (hnone.mp rfl)
    | some mvnoTypeStr =>
        rw [hmvno] at hnone
        refine (handles_dispatchStrings _ true _).congr ?_ fun _ => ?_
        · refine iff_of_true trivial ⟨by omega, fun _ hother => ?_⟩
          exact Bool.noConfusion (hnone.mpr hother)
        · simp
  · rw [if_neg hnew]
    refine (handles_refuseRequest _ _).congr (iff_of_false id fun hvalid => ?_) False.elim
    omega

theorem handles_startNetworkScan (specifiers : List RadioAccessSpecifier) :
    Handles k serial slotId RIL_REQUEST_START_NETWORK_SCAN
      (specifiers.length ≤ MAX_RADIO_ACCESS_NETWORKS ∧
        ∀ specifier ∈ specifiers, specifier.Supported) 0
      (startNetworkScan k serial slotId specifiers) := by
  refine handles_withRequest fun pRI => ?_
  refine ((Runs.returnError _).ite ((copySpecifiers_runs specifiers).thenCall _)).congr ?_ ?_
  · rw [if_false_left, Nat.not_lt]
  · simp

theorem handles_setBroadcastConfig (request : Int) (num : Nat) :
    Handles k serial slotId request (num ≤ MAX_BROADCAST_SMS_CONFIG_INFO) 0
      (setBroadcastConfig k serial slotId request num) := by
  refine handles_withRequest fun pRI => ?_
  refine ((Runs.returnError _).ite (Runs.callOnRequest request)).congr ?_ ?_
  · rw [if_false_left, Nat.not_lt, and_true]
  · simp

theorem handles_setInitialAttachApn (dataProfileInfo : DataProfileInfo) (isRoaming : Bool) :
    Handles k serial slotId RIL_REQUEST_SET_INITIAL_ATTACH_APN
      (dataProfileInfo.Attaches k isRoaming) (dataProfileInfo.attachCallocs k isRoaming)
      (setInitialAttachApn k serial slotId dataProfileInfo isRoaming) := by
  refine handles_withRequest fun pRI => ?_
  unfold DataProfileInfo.Attaches DataProfileInfo.attachCallocs
  by_cases hversion : k.version ≤ 14
  · rw [if_pos hversion, if_pos hversion, if_pos hversion]
    refine ((copyHidlStringToRil_runs _ true).bind fun _ =>
      (copyHidlStringToRil_runs _ false).bind fun _ =>
      (copyHidlStringToRil_runs _ false).bind fun _ =>
      (copyHidlStringToRil_runs _ false).thenCall _).congr Iff.rfl fun _ => ?_
    rw [HidlString.callocs_true]
    omega
  · rw [if_neg hversion, if_neg hversion, if_neg hversion]
    refine ((copyHidlStringToRil_runs _ true).bind fun _ =>
      (copyHidlStringToRil_runs _ false).bind fun _ =>
      (copyHidlStringToRil_runs _ false).bind fun _ =>
      (copyHidlStringToRil_runs _ false).bind fun _ =>
      (copyHidlStringToRil_runs _ false).bind fun _ =>
      (Runs.returnError _).ite ((copyHidlStringToRil_runs _ false).thenCall _)).congr ?_ ?_
    · simp only [convertMvnoTypeToString_isNone, if_false_left, ne_eq]
    · rintro ⟨-, -, -, -, -, hmvno⟩
      rw [if_false_left] at hmvno
      rw [HidlString.callocs_true, if_neg hmvno.1]
      omega

theorem handles_sendImsSms (message : ImsSmsMessage) :
    Handles k serial slotId RIL_REQUEST_IMS_SEND_SMS message.Valid message.callocs
      (sendImsSms k serial slotId message) := by
  refine handles_withRequest fun pRI => ?_
  unfold ImsSmsMessage.Valid ImsSmsMessage.callocs
  by_cases hgsm : message.tech = RADIO_TECH_3GPP
  · rw [if_pos hgsm, if_pos hgsm, if_pos hgsm]
    unfold dispatchImsGsmSms
    split
    · rename_i gsmMessage hmessage
      refine (callocOrError_runs.bind fun _ => (copyHidlStringToRil_runs _ false).bind fun _ =>
        (copyHidlStringToRil_runs _ false).thenCall _).congr ?_ fun _ => ?_
      · simp [hmessage]
      · simp [hmessage, Nat.add_assoc]
    · rename_i hmessage
      refine (Runs.returnError _).congr (iff_of_false id ?_) False.elim
      rintro ⟨gsmMessage, heq, -⟩
      exact hmessage gsmMessage heq
  · rw [if_neg hgsm, if_neg hgsm, if_neg hgsm]
    refine (((Runs.returnError _).ite (Runs.callOnRequest _)).ite (Runs.returnError _)).congr
      ?_ fun _ => ?_
    · rw [if_false_left, if_false_right, not_not, and_true]
    · simp

theorem handles_iccOpenLogicalChannel (aid : HidlString) :
    Handles k serial slotId RIL_REQUEST_SIM_OPEN_CHANNEL (k.version < 15 ∨ aid.Copies false)
      (if k.version < 15 then (HidlString.ofCStr aid.c_str).callocs false else aid.callocs false)
      (iccOpenLogicalChannel k serial slotId aid) := by
  unfold iccOpenLogicalChannel
  by_cases hversion : k.version < 15
  · rw [if_pos hversion, if_pos hversion]
    exact (handles_dispatchString _ _).congr (iff_of_true trivial (Or.inl hversion)) fun _ => rfl
  · rw [if_neg hversion, if_neg hversion]
    exact (handles_withRequest fun _ => (copyHidlStringToRil_runs _ false).thenCall _).congr
      (or_iff_right hversion).symm fun _ => rfl

theorem handles_startKeepalive (type : Int) (sourceAddress destinationAddress : Nat) :
    Handles k serial slotId RIL_REQUEST_START_KEEPALIVE
      ((type = NATT_IPV4 ∧ sourceAddress = 4 ∧ destinationAddress = 4) ∨
        (type = NATT_IPV6 ∧ sourceAddress = 16 ∧ destinationAddress = 16)) 0
      (startKeepalive k serial slotId type sourceAddress destinationAddress) := by
  refine handles_withRequest fun pRI => ?_
  refine (((Runs.returnError _).ite (Runs.callOnRequest _)).ite
    (((Runs.returnError _).ite (Runs.callOnRequest _)).ite (Runs.returnError _))).congr ?_ ?_
  · unfold NATT_IPV4 NATT_IPV6
    split_ifs <;> simp <;> omega
  · simp

theorem handles_setDataProfile (profiles : List DataProfileInfo) (isRoaming : Bool) :
    Handles k serial slotId RIL_REQUEST_SET_DATA_PROFILE
      (∀ profile ∈ profiles, profile.Copies k isRoaming)
      (2 + (profiles.map fun profile => profile.callocs k).sum)
      (setDataProfile k serial slotId profiles isRoaming) := by
  refine handles_withRequest fun pRI => (callocOrError_runs.bind fun _ =>
    callocOrError_runs.bind fun _ => (copyDataProfiles_runs isRoaming profiles).thenCall _).congr
      ?_ fun _ => ?_
  · rw [true_and, true_and]
  · omega

theorem handles_sendDeviceState (lowDataExpected : Bool) :
    Handles k serial slotId
      (if k.version < 15 ∧ lowDataExpected then RIL_REQUEST_SCREEN_STATE
        else RIL_REQUEST_SEND_DEVICE_STATE)
      (k.version < 15 → lowDataExpected = true) 1
      (sendDeviceState k serial slotId lowDataExpected) := by
  unfold sendDeviceState
  by_cases hversion : k.version < 15
  · rw [if_pos hversion]
    cases lowDataExpected with
    | true =>
        rw [if_pos rfl, if_pos ⟨hversion, rfl⟩]
        exact (handles_dispatchInts _ 1).congr (iff_of_true trivial fun _ => rfl) fun _ => rfl
    | false =>
        rw [if_neg Bool.false_ne_true, if_neg fun h => Bool.false_ne_true h.2]
        refine (handles_refuseUnchecked _).congr (iff_of_false id fun hvalid => ?_) False.elim
        exact Bool.false_ne_true (hvalid hversion)
  · rw [if_neg hversion, if_neg fun h => hversion h.1]
    exact (handles_dispatchInts _ 2).congr
      (iff_of_true trivial fun hnew => absurd hnew hversion) fun _ => rfl

theorem handles_setIndicationFilter :
    Handles k serial slotId RIL_REQUEST_SET_UNSOLICITED_RESPONSE_FILTER (15 ≤ k.version) 1
      (setIndicationFilter k serial slotId) := by
  unfold setIndicationFilter
  split_ifs with hversion
  · exact (handles_refuseUnchecked _).congr (iff_of_false id (Int.not_le.mpr hversion)) False.elim
  · exact (handles_dispatchInts _ 1).congr (iff_of_true trivial (Int.not_lt.mp hversion))
      fun _ => rfl

end Methods

end Dispatch

open Dispatch DispatchState

variable {k : Platform} {serial : Int} {slotId : Nat}

/-- Every method runs as its arguments and its allocations say. -/
theorem ClientRequest.handles (request : ClientRequest) :
    Handles k serial slotId (request.number k) (request.Valid k) (request.callocs k)
      (request.dispatch k serial slotId) := by
  cases request with
  | dispatchVoid request => exact handles_withRequest fun _ => Runs.callOnRequest request
  | dispatchString request str => exact handles_dispatchString request str
  | dispatchStrings request allowEmpty strs => exact handles_dispatchStrings request allowEmpty strs
  | dispatchStringsVec request data =>
      exact handles_withRequest fun _ => (callocOrError_runs.bind fun _ =>
        (copyStrings_runs false data).thenCall request).congr (and_iff_right trivial) fun _ => rfl
  | dispatchInts request countInts => exact handles_dispatchInts request countInts
  | dispatchCallForwardStatus request number =>
      exact handles_withRequest fun _ => (copyHidlStringToRil_runs number false).thenCall request
  | dispatchRaw request => exact handles_withRequest fun _ => Runs.callOnRequest request
  | dispatchIccApdu request data =>
      exact handles_withRequest fun _ => (copyHidlStringToRil_runs data false).thenCall request
  | dial address uusInfo => exact handles_dial address uusInfo
  | setupDataCall radioTechnology dataProfileInfo modemCognitive roamingAllowed isRoaming =>
      exact handles_setupDataCall radioTechnology dataProfileInfo modemCognitive roamingAllowed
        isRoaming
  | iccIOForApp iccIo =>
      refine handles_withRequest fun _ => ((copyHidlStringToRil_runs _ false).bind fun _ =>
        (copyHidlStringToRil_runs _ false).bind fun _ =>
        (copyHidlStringToRil_runs _ false).bind fun _ =>
        (copyHidlStringToRil_runs _ false).thenCall _).congr Iff.rfl fun _ => ?_
      simp only [callocs, Nat.add_assoc]
  | startNetworkScan specifiers => exact handles_startNetworkScan specifiers
  | writeSmsToSim pdu smsc =>
      exact handles_withRequest fun _ => (copyHidlStringToRil_runs pdu false).bind fun _ =>
        (copyHidlStringToRil_runs smsc false).thenCall _
  | sendCdmaSms | acknowledgeLastIncomingCdmaSms | writeSmsToRuim | nvReadItem
  | setUiccSubscription | setRadioCapability | stopKeepalive =>
      exact handles_callWithStructure _
  | setGsmBroadcastConfig num | setCdmaBroadcastConfig num =>
      exact handles_setBroadcastConfig _ num
  | setInitialAttachApn dataProfileInfo isRoaming =>
      exact handles_setInitialAttachApn dataProfileInfo isRoaming
  | sendImsSms message => exact handles_sendImsSms message
  | iccOpenLogicalChannel aid => exact handles_iccOpenLogicalChannel aid
  | nvWriteItem value =>
      exact handles_withRequest fun _ => (copyHidlStringToRil_runs value false).thenCall _
  | requestIccSimAuthentication authData aid =>
      exact handles_withRequest fun _ => (copyHidlStringToRil_runs authData false).bind fun _ =>
        (copyHidlStringToRil_runs aid false).thenCall _
  | setDataProfile profiles isRoaming => exact handles_setDataProfile profiles isRoaming
  | setAllowedCarriers =>
      exact handles_withRequest fun _ => (callocOrError_runs.bind fun _ =>
        callocOrError_runs.thenCall _).congr (and_iff_right trivial) fun _ => rfl
  | sendDeviceState lowDataExpected => exact handles_sendDeviceState lowDataExpected
  | setIndicationFilter => exact handles_setIndicationFilter
  | setCarrierInfoForImsiEncryption mnc mcc keyIdentifier =>
      refine handles_withRequest fun _ => ((copyHidlStringToRil_runs mnc false).bind fun _ =>
        (copyHidlStringToRil_runs mcc false).bind fun _ =>
        (copyHidlStringToRil_runs keyIdentifier false).thenCall _).congr Iff.rfl fun _ => ?_
      simp only [callocs, Nat.add_assoc]
  | startKeepalive type sourceAddress destinationAddress =>
      exact handles_startKeepalive type sourceAddress destinationAddress

/-- A request that can be added is at the head of its pending list. -/
theorem Requests.mem_pendingList_added {r : Requests} {opened : List OpenRequest}
    (hr : r.Lists k opened) (serial : Int) (slotId : Fin k.simCount) {request : Int}
    (hrange : request < k.numCommands) {pRI : Nat} (hnew : pRI ∉ r.used) :
    ∃ added, r.addRequestToList k serial slotId request (some pRI) = some added ∧
      pRI ∈ added.pendingList k slotId := by
  obtain ⟨added, events, hadd, hleads⟩ := leads_addRequestToList hr serial slotId request
    (some pRI) fun other hother => Option.some.inj hother ▸ hnew
  refine ⟨added, hadd, ?_⟩
  have hhead : added.pendingRequests (pendingHook k.simCount slotId) = some pRI := by
    have hstate := ((if_neg (Int.not_le.mpr hrange)).trans (if_neg hnew)).symm.trans hadd
    obtain rfl := Option.some.inj hstate
    exact Function.update_self ..
  have hpath := hleads.lists.path slotId slotId.isLt
  rw [Requests.pendingList, hpath.walk_eq (hleads.lists.on_length slotId)]
  rw [hhead] at hpath
  cases hlist : OpenRequest.on (events.foldl OpenRequest.update opened) slotId with
  | nil =>
      rw [hlist] at hpath
      cases hpath
  | cons first rest =>
      rw [hlist] at hpath
      exact Option.some.inj hpath.1 ▸ List.mem_cons_self

namespace DispatchState

/-- The state in which a client calls a method. -/
def start (requests : Requests) (requestInfo : Option Nat) (calloc : Nat → Bool) : DispatchState :=
  { requests := requests, requestInfo := requestInfo, calloc := calloc, events := [] }

theorem settled_afterCalls {s : DispatchState} {pRI : Nat} (hevents : s.events = [])
    (hrequestInfo : s.requestInfo = some pRI) (hpending : pRI ∈ s.requests.pendingList k slotId)
    (callocs : Nat) (request : Int) :
    (s.afterCalls k slotId pRI callocs [request]).Settled k serial slotId := by
  refine Or.inl ⟨request, pRI, hrequestInfo, ?_⟩
  simp [afterCalls, hevents, hpending]

/-- An error response is not all there is to do: the request is still pending. -/
theorem not_settled_of_failed {s s' : DispatchState} {pRI : Nat} (hfailed : s.Failed k pRI s')
    (hevents : s.events = []) (hrequestInfo : s.requestInfo = some pRI)
    (hpending : pRI ∈ s.requests.pendingList k slotId) : ¬ s'.Settled k serial slotId := by
  obtain ⟨calloc, err, rfl⟩ := hfailed
  rintro (⟨request, token, -, hcalled⟩ | ⟨-, hgone⟩)
  · simp only [hevents, List.nil_append, List.cons.injEq, and_true] at hcalled
    unfold errorEvent at hcalled
    split at hcalled
    · cases hcalled
    · split_ifs at hcalled
  · exact hgone pRI hrequestInfo hpending

/-- Neither a call nor an error response. -/
theorem not_settled_of_quiet {s : DispatchState} (hevents : s.events = [] ∨ s.events = [.died]) :
    ¬ s.Settled k serial slotId := by
  rintro (⟨request, pRI, -, hcalled⟩ | ⟨⟨err, hanswered⟩, -⟩)
  · rcases hevents with hnone | hdied
    · simp [hnone] at hcalled
    · simp [hdied] at hcalled
  · rcases hevents with hnone | hdied
    · simp [hnone] at hanswered
    · simp [hdied] at hanswered

end DispatchState

namespace ClientRequest

/-- A request that is not added is dropped in silence, if the process goes on. -/
theorem not_settled_of_refused (request : ClientRequest) {r : Requests} {requestInfo : Option Nat}
    (hrefused : ¬ (request.number k < k.numCommands ∧ requestInfo.isSome = true))
    (calloc : Nat → Bool) :
    ¬ ((request.dispatch k serial slotId) (start r requestInfo calloc)).2.Settled k serial
      slotId := by
  have hadd : Dispatch.addRequestToList k serial slotId (request.number k)
      (start r requestInfo calloc) =
        (some none, { start r requestInfo calloc with
          requests := r.record [.refused serial slotId (request.number k)] }) := by
    unfold Dispatch.addRequestToList Requests.addRequestToList start
    by_cases hrange : (k.numCommands : Int) ≤ request.number k
    · simp [hrange]
    · cases requestInfo with
      | none => simp [hrange]
      | some pRI => exact absurd ⟨Int.not_le.mp hrange, rfl⟩ hrefused
  refine not_settled_of_quiet ?_
  rcases request.handles.refused _ _ hadd with hquiet | hdied
  · rw [hquiet]
    exact Or.inl rfl
  · rw [hdied]
    exact Or.inr rfl

/-- From any state the lists can be in, a request is settled exactly when nothing
hinders it. -/
theorem settled_iff (k : Platform) (r : Requests) (hreach : (Requests.system k).Reachable r)
    (request : ClientRequest) (serial : Int) (slotId : Fin k.simCount)
    (requestInfo : Option Nat) (hfresh : ∀ pRI ∈ requestInfo, pRI ∉ r.used)
    (calloc : Nat → Bool) :
    ((request.dispatch k serial slotId) (start r requestInfo calloc)).2.Settled k serial slotId ↔
      request.Unhindered k requestInfo calloc := by
  obtain ⟨calls, hrun⟩ := hreach
  have hlists := (Requests.kept_of_run hrun).lists
  by_cases hadded : request.number k < k.numCommands ∧ requestInfo.isSome = true
  · obtain ⟨hrange, hsome⟩ := hadded
    obtain ⟨pRI, rfl⟩ := Option.isSome_iff_exists.mp hsome
    obtain ⟨added, hadd, hpending⟩ :=
      Requests.mem_pendingList_added hlists serial slotId hrange (hfresh pRI rfl)
    have hrequest : Dispatch.addRequestToList k serial slotId (request.number k)
        (start r (some pRI) calloc) =
          (some (some pRI), { start r (some pRI) calloc with requests := added }) := by
      simp only [Dispatch.addRequestToList, start, hadd, if_neg (Int.not_le.mpr hrange)]
    obtain ⟨hgood, hbad⟩ := request.handles.added _ _ _ hrequest
    rw [Unhindered, and_iff_right ⟨hrange, hsome⟩]
    by_cases hvalid : request.Valid k ∧ ∀ i < request.callocs k, calloc i = true
    · rw [hgood hvalid]
      exact iff_of_true (settled_afterCalls rfl rfl hpending _ _) hvalid
    · exact iff_of_false (not_settled_of_failed (hbad hvalid) rfl rfl hpending) hvalid
  · exact iff_of_false (request.not_settled_of_refused hadded calloc) fun h => hadded h.1

/-- A call of 112 on the second slot when all memory is there. -/
theorem dial_settled :
    let k : Platform := ⟨2, Nat.le_add_right 1 1, Nat.le_add_right 2 2, 15, 146, fun _ => true⟩
    (((dial (.ofCStr [49, 49, 50]) []).dispatch k 7 1)
      (start .initial (some 100) fun _ => true)).2.Settled k 7 1 :=
  (settled_iff _ _ ⟨[], rfl⟩ (dial (.ofCStr [49, 49, 50]) []) 7 1 (some 100)
    (fun _ _ => List.not_mem_nil) fun _ => true).mpr
      ⟨⟨by decide, rfl⟩, ⟨HidlString.copies_ofCStr _ _, fun _ huus => by cases huus⟩,
        fun _ _ => rfl⟩

/-- The same call when there is none for the number: the client is sent an error
and the request stays in the list. -/
theorem dial_not_settled :
    let k : Platform := ⟨2, Nat.le_add_right 1 1, Nat.le_add_right 2 2, 15, 146, fun _ => true⟩
    let s := (((dial (.ofCStr [49, 49, 50]) []).dispatch k 7 1)
      (start .initial (some 100) fun _ => false)).2
    s.events = [.errorResponse 1 7 .RIL_E_NO_MEMORY] ∧ s.requests.pendingList k 1 = [100] ∧
      ¬ s.Settled k 7 1 := by
  intro k s
  have hevents : s.events = [.errorResponse 1 7 .RIL_E_NO_MEMORY] := by decide
  have hpending : s.requests.pendingList k 1 = [100] := by decide
  refine ⟨hevents, hpending, ?_⟩
  rintro (⟨request, pRI, -, hcalled⟩ | ⟨-, hgone⟩)
  · simp [hevents] at hcalled
  · have hleft : 100 ∉ s.requests.pendingList k 1 := hgone 100 rfl
    simp [hpending] at hleft

end ClientRequest

end Serrano.Ril
