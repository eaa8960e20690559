import Serrano.Ril.DispatchOutcome
import Serrano.Ril.RequestStorage

/-! # What the requests leave allocated

Every method frees what it asked for on every path, and the vendor library is only
given what is still allocated; one method keeps its copies when the vendor library
was called. Apart from the memory, a method does what was said of it before.
-/

namespace Serrano.Ril

open OwnedBlocks

namespace Storage

variable {k : Platform} {serial : Int} {slotId : Nat}

/-! ## Apart from the memory -/

/-- The computations agree on the requests, whatever they return. -/
abbrev Performs {α β : Type} (x : Storage α) (y : Dispatch β) : Prop :=
  Erases (fun _ _ => True) x y

theorem performs_lift {α : Type} (y : Dispatch α) : Performs (lift y) y :=
  (erases_lift y).mono fun _ _ _ => trivial

theorem performs_callocOrReturn (pRI : Nat) (owned : List (Option Nat)) :
    Performs (callocOrReturn k pRI owned) (Dispatch.callocOrError k pRI) := by
  refine (erases_lift Dispatch.calloc).bind fun allocated _ heq => ?_
  subst heq
  refine Erases.ite ?_ ?_
  · refine (performs_lift _).bind fun _ _ _ => ?_
    exact Erases.freeAll_bind owned erases_stop
  · exact Erases.alloc_bind fun _ => erases_pure trivial

theorem performs_copyOrReturn (src : HidlString) (pRI : Nat) (allowEmpty : Bool)
    (owned : List (Option Nat)) :
    Performs (copyOrReturn k src pRI allowEmpty owned)
      (Dispatch.copyHidlStringToRil k src pRI allowEmpty) := by
  refine Erases.ite (erases_pure trivial) ?_
  refine (performs_callocOrReturn pRI owned).bind fun dest _ _ => ?_
  refine Erases.ite ?_ (erases_pure trivial)
  refine Erases.freeAll_bind [dest] ?_
  exact (performs_lift _).bind fun _ _ _ => Erases.freeAll_bind owned erases_stop

theorem performs_copyStrings (pRI : Nat) (allowEmpty : Bool) (pStrings : Option Nat)
    (copies : List (Option Nat)) (strs : List HidlString) :
    Performs (copyStrings k pRI allowEmpty pStrings copies strs)
      (Dispatch.copyStrings k pRI allowEmpty strs) := by
  induction strs generalizing copies with
  | nil => exact erases_pure trivial
  | cons src rest ih => exact (performs_copyOrReturn _ _ _ _).bind fun dest _ _ => ih _

/-- The call of the vendor library, and what is freed after it. -/
theorem performs_call (request : Int) (pRI : Nat) (data owned : List (Option Nat)) :
    Performs (do callOnRequest k slotId request pRI data; freeAll owned)
      (Dispatch.callOnRequest k slotId request pRI) :=
  fun _ => ⟨rfl, .some trivial⟩

theorem performs_call_two (request : Int) (pRI : Nat) (data first second : List (Option Nat)) :
    Performs (do callOnRequest k slotId request pRI data; freeAll first; freeAll second)
      (Dispatch.callOnRequest k slotId request pRI) :=
  fun _ => ⟨rfl, .some trivial⟩

theorem performs_withRequest {request : Int} {body : Nat → Storage Unit}
    {plain : Nat → Dispatch Unit} (hbody : ∀ pRI, Performs (body pRI) (plain pRI)) :
    Performs (withRequest k serial slotId request body)
      (Dispatch.withRequest k serial slotId request plain) := by
  refine (erases_lift _).bind fun pRI _ heq => ?_
  subst heq
  cases pRI with
  | none => exact erases_pure trivial
  | some pRI => exact hbody pRI

theorem performs_callWithString (request : Int) (src : HidlString) :
    Performs (callWithString k serial slotId request src)
      (Dispatch.withRequest k serial slotId request fun pRI => do
        let _ ← Dispatch.copyHidlStringToRil k src pRI false
        Dispatch.callOnRequest k slotId request pRI) :=
  performs_withRequest fun _ => (performs_copyOrReturn _ _ _ _).bind fun _ _ _ =>
    performs_call _ _ _ _

theorem performs_dispatchStrings (request : Int) (allowEmpty : Bool) (strs : List HidlString) :
    Performs (dispatchStrings k serial slotId request allowEmpty strs)
      (Dispatch.withRequest k serial slotId request fun pRI => do
        Dispatch.callocOrError k pRI
        Dispatch.copyStrings k pRI allowEmpty strs
        Dispatch.callOnRequest k slotId request pRI) :=
  performs_withRequest fun _ => (performs_callocOrReturn _ _).bind fun _ _ _ =>
    (performs_copyStrings _ _ _ _ _).bind fun _ _ _ => performs_call_two _ _ _ _ _

theorem performs_dispatchInts (request : Int) (countInts : Nat) :
    Performs (dispatchInts k serial slotId request)
      (Dispatch.dispatchInts k serial slotId request countInts) :=
  performs_withRequest fun _ => (performs_callocOrReturn _ _).bind fun _ _ _ =>
    performs_call _ _ _ _

theorem performs_dial (address : HidlString) (uusInfo : List HidlString) :
    Performs (dial k serial slotId address uusInfo)
      (Dispatch.dial k serial slotId address uusInfo) := by
  refine performs_withRequest fun _ => (performs_copyOrReturn _ _ _ _).bind fun _ _ _ => ?_
  cases uusInfo with
  | nil => exact performs_call _ _ _ _
  | cons uusData rest =>
      refine Erases.ite (performs_call _ _ _ _) ?_
      exact (performs_copyOrReturn _ _ _ _).bind fun _ _ _ => performs_call _ _ _ _

theorem performs_setupDataCall (radioTechnology : Int) (dataProfileInfo : DataProfileInfo)
    (modemCognitive roamingAllowed isRoaming : Bool) :
    Performs (setupDataCall k serial slotId radioTechnology dataProfileInfo modemCognitive
        roamingAllowed isRoaming)
      (Dispatch.setupDataCall k serial slotId radioTechnology dataProfileInfo modemCognitive
        roamingAllowed isRoaming) := by
  refine Erases.ite (performs_dispatchStrings _ _ _) (Erases.ite ?_ (performs_lift _))
  cases convertMvnoTypeToString dataProfileInfo.mvnoType with
  | none => exact performs_lift _
  | some mvnoTypeStr => exact performs_dispatchStrings _ _ _

theorem performs_setInitialAttachApn (dataProfileInfo : DataProfileInfo) (isRoaming : Bool) :
    Performs (setInitialAttachApn k serial slotId dataProfileInfo isRoaming)
      (Dispatch.setInitialAttachApn k serial slotId dataProfileInfo isRoaming) := by
  refine performs_withRequest fun _ => Erases.ite ?_ ?_
  · refine (performs_copyOrReturn _ _ _ _).bind fun _ _ _ => ?_
    refine (performs_copyOrReturn _ _ _ _).bind fun _ _ _ => ?_
    refine (performs_copyOrReturn _ _ _ _).bind fun _ _ _ => ?_
    exact (performs_copyOrReturn _ _ _ _).bind fun _ _ _ => performs_call _ _ _ _
  · refine (performs_copyOrReturn _ _ _ _).bind fun _ _ _ => ?_
    refine (performs_copyOrReturn _ _ _ _).bind fun _ _ _ => ?_
    refine (performs_copyOrReturn _ _ _ _).bind fun _ _ _ => ?_
    refine (performs_copyOrReturn _ _ _ _).bind fun _ _ _ => ?_
    refine (performs_copyOrReturn _ _ _ _).bind fun _ _ _ => Erases.ite ?_ ?_
    · exact (performs_lift _).bind fun _ _ _ => Erases.freeAll_bind _ erases_stop
    · exact (performs_copyOrReturn _ _ _ _).bind fun _ _ _ => performs_call _ _ _ _

theorem performs_sendImsSms (message : ImsSmsMessage) :
    Performs (sendImsSms k serial slotId message)
      (Dispatch.sendImsSms k serial slotId message) := by
  refine performs_withRequest fun pRI => Erases.ite ?_ (Erases.ite ?_ ?_)
  · rcases message with ⟨tech, _ | ⟨gsmMessage, _ | ⟨second, rest⟩⟩, cdmaMessage⟩
    · exact performs_lift _
    · refine (performs_callocOrReturn _ _).bind fun _ _ _ => ?_
      refine (performs_copyOrReturn _ _ _ _).bind fun _ _ _ => ?_
      exact (performs_copyOrReturn _ _ _ _).bind fun _ _ _ => performs_call_two _ _ _ _ _
    · exact performs_lift _
  · exact performs_lift _
  · exact performs_lift _

theorem performs_copyDataProfile (isRoaming : Bool) (pRI : Nat) (owned : List (Option Nat))
    (profile : DataProfileInfo) :
    Performs (copyDataProfile k isRoaming pRI owned profile)
      (Dispatch.copyDataProfile k isRoaming pRI profile) := by
  refine Erases.ite ?_ ?_
  · refine (performs_copyOrReturn _ _ _ _).bind fun _ _ _ => ?_
    refine (performs_copyOrReturn _ _ _ _).bind fun _ _ _ => ?_
    refine (performs_copyOrReturn _ _ _ _).bind fun _ _ _ => ?_
    exact (performs_copyOrReturn _ _ _ _).bind fun _ _ _ => erases_pure trivial
  · refine (performs_copyOrReturn _ _ _ _).bind fun _ _ _ => ?_
    refine (performs_copyOrReturn _ _ _ _).bind fun _ _ _ => ?_
    refine (performs_copyOrReturn _ _ _ _).bind fun _ _ _ => ?_
    refine (performs_copyOrReturn _ _ _ _).bind fun _ _ _ => ?_
    refine (performs_copyOrReturn _ _ _ _).bind fun _ _ _ => ?_
    refine (performs_copyOrReturn _ _ _ _).bind fun _ _ _ => Erases.ite ?_ (erases_pure trivial)
    exact (performs_lift _).bind fun _ _ _ => Erases.freeAll_bind _ erases_stop

theorem performs_copyDataProfiles (isRoaming : Bool) (pRI : Nat) (owned : List (Option Nat))
    (profiles : List DataProfileInfo) :
    Performs (copyDataProfiles k isRoaming pRI owned profiles)
      (Dispatch.copyDataProfiles k isRoaming pRI profiles) := by
  induction profiles generalizing owned with
  | nil => exact erases_pure trivial
  | cons profile rest ih => exact (performs_copyDataProfile _ _ _ _).bind fun _ _ _ => ih _

end Storage

/-- Apart from the memory, the methods with it do what they do without it. -/
theorem ClientRequest.performs {k : Platform} {serial : Int} {slotId : Nat}
    (request : ClientRequest) :
    Storage.Performs (request.perform k serial slotId) (request.dispatch k serial slotId) := by
  open Storage in
  cases request with
  | dispatchString request str => exact performs_callWithString _ _
  | dispatchStrings request allowEmpty strs => exact performs_dispatchStrings _ _ _
  | dispatchStringsVec request data => exact performs_dispatchStrings _ _ _
  | dispatchInts request countInts => exact performs_dispatchInts _ countInts
  | dispatchCallForwardStatus request number => exact performs_callWithString _ _
  | dispatchIccApdu request data => exact performs_callWithString _ _
  | dial address uusInfo => exact performs_dial _ _
  | setupDataCall radioTechnology dataProfileInfo modemCognitive roamingAllowed isRoaming =>
      exact performs_setupDataCall _ _ _ _ _
  | iccIOForApp iccIo =>
      refine performs_withRequest fun _ => (performs_copyOrReturn _ _ _ _).bind fun _ _ _ => ?_
      refine (performs_copyOrReturn _ _ _ _).bind fun _ _ _ => ?_
      refine (performs_copyOrReturn _ _ _ _).bind fun _ _ _ => ?_
      exact (performs_copyOrReturn _ _ _ _).bind fun _ _ _ => performs_call _ _ _ _
  | writeSmsToSim pdu smsc =>
      refine performs_withRequest fun _ => (performs_copyOrReturn _ _ _ _).bind fun _ _ _ => ?_
      exact (performs_copyOrReturn _ _ _ _).bind fun _ _ _ => performs_call _ _ _ _
  | setInitialAttachApn dataProfileInfo isRoaming => exact performs_setInitialAttachApn _ _
  | sendImsSms message => exact performs_sendImsSms message
  | iccOpenLogicalChannel aid =>
      exact Erases.ite (performs_callWithString _ _) (performs_callWithString _ _)
  | nvWriteItem value => exact performs_callWithString _ _
  | requestIccSimAuthentication authData aid =>
      refine performs_withRequest fun _ => (performs_copyOrReturn _ _ _ _).bind fun _ _ _ => ?_
      exact (performs_copyOrReturn _ _ _ _).bind fun _ _ _ => performs_call _ _ _ _
  | setDataProfile profiles isRoaming =>
      refine performs_withRequest fun _ => (performs_callocOrReturn _ _).bind fun _ _ _ => ?_
      refine (performs_callocOrReturn _ _).bind fun _ _ _ => ?_
      exact (performs_copyDataProfiles _ _ _ _).bind fun _ _ _ => performs_call _ _ _ _
  | setAllowedCarriers =>
      refine performs_withRequest fun _ => (performs_callocOrReturn _ _).bind fun _ _ _ => ?_
      exact (performs_callocOrReturn _ _).bind fun _ _ _ => performs_call_two _ _ _ _ _
  | sendDeviceState lowDataExpected =>
      exact Erases.ite (Erases.ite (performs_dispatchInts _ 1) (performs_lift _))
        (performs_dispatchInts _ 2)
  | setIndicationFilter => exact Erases.ite (performs_lift _) (performs_dispatchInts _ 1)
  | setCarrierInfoForImsiEncryption mnc mcc keyIdentifier =>
      refine performs_withRequest fun _ => (performs_copyOrReturn _ _ _ _).bind fun _ _ _ => ?_
      refine (performs_copyOrReturn _ _ _ _).bind fun _ _ _ => ?_
      refine (performs_copyOrReturn _ _ _ _).bind fun _ _ _ => ?_
      exact Erases.alloc_bind fun _ => performs_call _ _ _ _
  | _ => exact performs_lift _

namespace Storage

variable {k : Platform} {serial : Int} {slotId : Nat}

/-! ## The memory -/

theorem holds_callocOrReturn (pRI : Nat) {before owned : List (Option Nat)}
    {after : Option Nat → List (Option Nat)} (howned : before.Perm owned)
    (hafter : ∀ dest, (dest :: before).Perm (after dest)) :
    Holds before after (callocOrReturn k pRI owned) := by
  have hcalloc : ∀ s : DispatchState, (Dispatch.calloc s).1 ≠ none := fun s hnone => by cases hnone
  have herror : ∀ s : DispatchState,
      (Dispatch.sendErrorResponse k (some pRI) .RIL_E_NO_MEMORY s).1 ≠ none :=
    fun s hnone => by cases hnone
  refine (holds_lift_of_returns hcalloc).bind fun allocated => Holds.ite ?_ ?_
  · refine (holds_lift_of_returns herror).bind fun _ => ?_
    exact (holds_freeAll (by simpa using howned)).bind fun _ => holds_stop
  · exact holds_alloc.bind fun block => holds_pure (hafter (some block))

theorem holds_copyOrReturn (src : HidlString) (pRI : Nat) (allowEmpty : Bool)
    {before owned : List (Option Nat)} {after : Option Nat → List (Option Nat)}
    (howned : before.Perm owned) (hafter : ∀ dest, (dest :: before).Perm (after dest)) :
    Holds before after (copyOrReturn k src pRI allowEmpty owned) := by
  have herror : ∀ s : DispatchState,
      (Dispatch.sendErrorResponse k (some pRI) .RIL_E_INTERNAL_ERR s).1 ≠ none :=
    fun s hnone => by cases hnone
  refine Holds.ite (holds_pure_null (hafter none)) ?_
  refine (holds_callocOrReturn pRI howned fun _ => .refl _).bind fun dest => Holds.ite ?_ ?_
  · have hfree : Holds (dest :: before) (fun _ => before) (freeAll [dest] : Storage Unit) :=
      holds_freeAll (.refl _)
    refine hfree.bind fun _ => (holds_lift_of_returns herror).bind fun _ => ?_
    exact (holds_freeAll (by simpa using howned)).bind fun _ => holds_stop
  · exact holds_pure (hafter dest)

/-- The pointers are in the order of the copies. -/
theorem holds_copy (src : HidlString) (pRI : Nat) (allowEmpty : Bool)
    (owned : List (Option Nat)) :
    Holds owned (fun dest => owned ++ [dest]) (copyOrReturn k src pRI allowEmpty owned) :=
  holds_copyOrReturn src pRI allowEmpty (.refl _)
    fun dest => (List.perm_append_singleton dest owned).symm

theorem holds_callOnRequest (request : Int) (pRI : Nat) {before data : List (Option Nat)}
    (hdata : ∀ pointer ∈ data, pointer ∈ before) :
    Holds before (fun _ => before) (callOnRequest k slotId request pRI data) := by
  have hcall : ∀ s : DispatchState, (Dispatch.callOnRequest k slotId request pRI s).1 ≠ none :=
    fun s hnone => by cases hnone
  exact (holds_lift_of_returns hcall).bind fun _ => holds_use hdata

/-- The call of a method, which frees what it holds. -/
theorem holds_callAll (request : Int) (pRI : Nat) (owned : List (Option Nat)) :
    Holds owned (fun _ => [])
      (do callOnRequest k slotId request pRI owned; freeAll owned) :=
  (holds_callOnRequest request pRI fun _ hmem => hmem).bind fun _ => holds_freeAll (by simp)

theorem holds_withRequest {request : Int} {body : Nat → Storage Unit}
    (hbody : ∀ pRI, Holds [] (fun _ => []) (body pRI)) :
    Holds [] (fun _ => []) (withRequest k serial slotId request body) := by
  refine (holds_lift _).bind fun pRI => ?_
  cases pRI with
  | none => exact holds_pure (.refl _)
  | some pRI => exact hbody pRI

theorem holds_callWithString (request : Int) (src : HidlString) :
    Holds [] (fun _ => []) (callWithString k serial slotId request src) :=
  holds_withRequest fun _ => (holds_copy _ _ _ []).bind fun _ => holds_callAll _ _ _

theorem holds_copyStrings (pRI : Nat) (allowEmpty : Bool) (pStrings : Option Nat)
    (copies : List (Option Nat)) (strs : List HidlString) :
    Holds (copies ++ [pStrings]) (fun copies => copies ++ [pStrings])
      (copyStrings k pRI allowEmpty pStrings copies strs) := by
  induction strs generalizing copies with
  | nil => exact holds_pure (.refl _)
  | cons src rest ih =>
      refine Holds.bind ?_ fun dest => ih (copies ++ [dest])
      refine holds_copyOrReturn src pRI allowEmpty (.refl _) fun dest => ?_
      rw [List.append_assoc]
      exact List.perm_middle.symm

theorem holds_dispatchStrings (request : Int) (allowEmpty : Bool) (strs : List HidlString) :
    Holds [] (fun _ => []) (dispatchStrings k serial slotId request allowEmpty strs) := by
  refine holds_withRequest fun pRI => ?_
  refine (holds_callocOrReturn pRI (.refl []) fun dest => .refl [dest]).bind fun pStrings => ?_
  refine (holds_copyStrings pRI allowEmpty pStrings [] strs).bind fun copies => ?_
  refine (holds_callOnRequest request pRI fun _ hmem => hmem).bind fun _ => ?_
  exact (holds_freeAll (.refl _)).bind fun _ => holds_freeAll (.refl [pStrings])

theorem holds_dispatchInts (request : Int) :
    Holds [] (fun _ => []) (dispatchInts k serial slotId request) :=
  holds_withRequest fun pRI =>
    (holds_callocOrReturn pRI (.refl []) fun dest => .refl [dest]).bind fun _ =>
      holds_callAll _ _ _

/-- A null pointer may be among what is freed. -/
theorem holds_callOne (request : Int) (pRI : Nat) {pointer : Option Nat}
    {data : List (Option Nat)} (hdata : ∀ other ∈ data, other ∈ [pointer, none]) :
    Holds [pointer] (fun _ => [])
      (do callOnRequest k slotId request pRI data; freeAll [pointer, none]) := by
  intro base s hown
  have hboth : s.2.Owns base [pointer, none] := hown.null.perm (.swap _ _ _)
  exact ((holds_callOnRequest request pRI hdata).bind fun _ => holds_freeAll (by simp)) base s hboth

theorem holds_dial (address : HidlString) (uusInfo : List HidlString) :
    Holds [] (fun _ => []) (dial k serial slotId address uusInfo) := by
  refine holds_withRequest fun pRI => (holds_copy _ _ _ []).bind fun address => ?_
  cases uusInfo with
  | nil => exact holds_callOne _ _ (by simp)
  | cons uusData rest =>
      refine Holds.ite (holds_callOne _ _ (by simp)) ?_
      exact (holds_copy _ _ _ [address]).bind fun _ => holds_callAll _ _ _

theorem holds_setupDataCall (radioTechnology : Int) (dataProfileInfo : DataProfileInfo)
    (modemCognitive roamingAllowed isRoaming : Bool) :
    Holds [] (fun _ => []) (setupDataCall k serial slotId radioTechnology dataProfileInfo
      modemCognitive roamingAllowed isRoaming) := by
  refine Holds.ite (holds_dispatchStrings _ _ _) (Holds.ite ?_ (holds_lift _))
  cases convertMvnoTypeToString dataProfileInfo.mvnoType with
  | none => exact holds_lift _
  | some mvnoTypeStr => exact holds_dispatchStrings _ _ _

theorem holds_setInitialAttachApn (dataProfileInfo : DataProfileInfo) (isRoaming : Bool) :
    Holds [] (fun _ => []) (setInitialAttachApn k serial slotId dataProfileInfo isRoaming) := by
  refine holds_withRequest fun pRI => Holds.ite ?_ ?_
  · refine (holds_copy _ _ _ []).bind fun apn => ?_
    refine (holds_copy _ _ _ [apn]).bind fun protocol => ?_
    refine (holds_copy _ _ _ [apn, protocol]).bind fun username => ?_
    exact (holds_copy _ _ _ [apn, protocol, username]).bind fun _ => holds_callAll _ _ _
  · refine (holds_copy _ _ _ []).bind fun apn => ?_
    refine (holds_copy _ _ _ [apn]).bind fun protocol => ?_
    refine (holds_copy _ _ _ [apn, protocol]).bind fun roamingProtocol => ?_
    refine (holds_copy _ _ _ [apn, protocol, roamingProtocol]).bind fun username => ?_
    refine (holds_copy _ _ _ [apn, protocol, roamingProtocol, username]).bind fun password => ?_
    refine Holds.ite ?_ ?_
    · have herror : ∀ s : DispatchState,
          (Dispatch.sendErrorResponse k (some pRI) .RIL_E_INVALID_ARGUMENTS s).1 ≠ none :=
        fun s hnone => by cases hnone
      refine (holds_lift_of_returns herror).bind fun _ => ?_
      exact (holds_freeAll (by simp)).bind fun _ => holds_stop
    · exact (holds_copy _ _ _ [apn, protocol, roamingProtocol, username, password]).bind
        fun _ => holds_callAll _ _ _

theorem holds_dispatchImsGsmSms (message : ImsSmsMessage) (pRI : Nat) :
    Holds [] (fun _ => []) (dispatchImsGsmSms k slotId message pRI) := by
  rcases message with ⟨tech, _ | ⟨gsmMessage, _ | ⟨second, rest⟩⟩, cdmaMessage⟩
  · exact holds_lift _
  · refine (holds_callocOrReturn pRI (.refl []) fun dest => .refl [dest]).bind fun pStrings => ?_
    refine (holds_copyOrReturn _ pRI _ (.refl [pStrings]) fun dest => .refl _).bind
      fun smscPdu => ?_
    refine (holds_copyOrReturn _ pRI _ (.refl [smscPdu, pStrings]) fun dest => .refl _).bind
      fun pdu => ?_
    refine (holds_callOnRequest _ pRI (by simp)).bind fun _ => ?_
    exact (holds_freeAll (.swap _ _ _)).bind fun _ => holds_freeAll (.refl [pStrings])
  · exact holds_lift _

/-- The pointers of a profile are in front of those of the profiles before. -/
theorem holds_copyFirst (src : HidlString) (pRI : Nat) (allowEmpty : Bool)
    (owned : List (Option Nat)) :
    Holds owned (fun dest => dest :: owned) (copyOrReturn k src pRI allowEmpty owned) :=
  holds_copyOrReturn src pRI allowEmpty (.refl _) fun _ => .refl _

theorem holds_copyDataProfile (isRoaming : Bool) (pRI : Nat) (owned : List (Option Nat))
    (profile : DataProfileInfo) :
    Holds owned (fun owned => owned) (copyDataProfile k isRoaming pRI owned profile) := by
  refine Holds.ite ?_ ?_
  · refine (holds_copyFirst _ _ _ _).bind fun _ => (holds_copyFirst _ _ _ _).bind fun _ => ?_
    refine (holds_copyFirst _ _ _ _).bind fun _ => (holds_copyFirst _ _ _ _).bind fun _ => ?_
    exact holds_pure (.refl _)
  · refine (holds_copyFirst _ _ _ _).bind fun _ => (holds_copyFirst _ _ _ _).bind fun _ => ?_
    refine (holds_copyFirst _ _ _ _).bind fun _ => (holds_copyFirst _ _ _ _).bind fun _ => ?_
    refine (holds_copyFirst _ _ _ _).bind fun _ => (holds_copyFirst _ _ _ _).bind fun _ => ?_
    refine Holds.ite ?_ (holds_pure (.refl _))
    have herror : ∀ s : DispatchState,
        (Dispatch.sendErrorResponse k (some pRI) .RIL_E_INVALID_ARGUMENTS s).1 ≠ none :=
      fun s hnone => by cases hnone
    refine (holds_lift_of_returns herror).bind fun _ => ?_
    exact (holds_freeAll (by simp)).bind fun _ => holds_stop

theorem holds_copyDataProfiles (isRoaming : Bool) (pRI : Nat) (owned : List (Option Nat))
    (profiles : List DataProfileInfo) :
    Holds owned (fun owned => owned) (copyDataProfiles k isRoaming pRI owned profiles) := by
  induction profiles generalizing owned with
  | nil => exact holds_pure (.refl _)
  | cons profile rest ih => exact (holds_copyDataProfile _ _ _ _).bind fun owned => ih owned

/-! ## The method that keeps its copies -/

/-- The blocks that the copies of the strings get, from this one on. An empty string is
not copied. -/
def copiesFrom : Nat → List HidlString → List Nat
  | _, [] => []
  | next, src :: rest =>
      if src.size = 0 then copiesFrom next rest else next :: copiesFrom (next + 1) rest

theorem callocOrReturn_returns {pRI : Nat} {owned : List (Option Nat)}
    {s s' : DispatchState × Heap} {dest : Option Nat}
    (hcalloc : callocOrReturn k pRI owned s = (some dest, s')) :
    dest = some s.2.next ∧ s'.2.next = s.2.next + 1 := by
  have hbind : callocOrReturn k pRI owned s = (if !s.1.calloc 0 then do
      lift (Dispatch.sendErrorResponse k (some pRI) .RIL_E_NO_MEMORY)
      freeAll owned
      .stop
    else do
      let block ← alloc
      pure (some block) : Storage (Option Nat)) (s.1.afterCallocs 1, s.2) := rfl
  rw [hbind] at hcalloc
  split at hcalloc
  · cases hcalloc
  · cases hcalloc
    exact ⟨rfl, rfl⟩

/-- A copy gets the next block, and the copies after it the ones that follow. -/
theorem copyOrReturn_returns {src : HidlString} {pRI : Nat} {owned : List (Option Nat)}
    {s s' : DispatchState × Heap} {dest : Option Nat}
    (hcopy : copyOrReturn k src pRI false owned s = (some dest, s')) (rest : List HidlString) :
    copiesFrom s.2.next (src :: rest) = dest.toList ++ copiesFrom s'.2.next rest := by
  unfold copyOrReturn at hcopy
  by_cases hsize : src.size = 0
  · rw [if_pos ⟨hsize, rfl⟩] at hcopy
    cases hcopy
    rw [copiesFrom, if_pos hsize, Option.toList_none, List.nil_append]
  · rw [if_neg fun hskip => hsize hskip.1] at hcopy
    rcases hcalloc : callocOrReturn k pRI owned s with ⟨_ | block, s₁⟩
    · rw [Fallible.bind_of_none hcalloc] at hcopy
      cases hcopy
    · rw [Fallible.bind_of_some hcalloc] at hcopy
      obtain ⟨hblock, hnext⟩ := callocOrReturn_returns hcalloc
      split at hcopy
      · cases hcopy
      · cases hcopy
        rw [copiesFrom, if_neg hsize, hblock, hnext, Option.toList_some, List.singleton_append]

/-- What the method does with a request that was added. -/
def carrierInfo (k : Platform) (slotId : Nat) (mnc mcc keyIdentifier : HidlString) (pRI : Nat) :
    Storage Unit := do
  let mnc ← copyOrReturn k mnc pRI false []
  let mcc ← copyOrReturn k mcc pRI false [mnc]
  let keyIdentifier ← copyOrReturn k keyIdentifier pRI false [mnc, mcc]
  let carrierKey ← alloc
  callOnRequest k slotId RIL_REQUEST_SET_CARRIER_INFO_IMSI_ENCRYPTION pRI
    [mnc, mcc, keyIdentifier, some carrierKey]
  freeAll [some carrierKey]

/-- The copies are left when the vendor library was called, and not the key. -/
theorem carrierInfo_leaves (mnc mcc keyIdentifier : HidlString) (pRI : Nat) {base : List Nat}
    {s : DispatchState × Heap} (hown : s.2.Owns base []) :
    ∃ left, (carrierInfo k slotId mnc mcc keyIdentifier pRI s).2.2.Owns base left ∧
      left.reduceOption =
        if (carrierInfo k slotId mnc mcc keyIdentifier pRI s).1.isSome then
          copiesFrom s.2.next [mnc, mcc, keyIdentifier] else [] := by
  unfold carrierInfo
  rcases hmnc : copyOrReturn k mnc pRI false [] s with ⟨_ | first, s₁⟩
  · rw [Fallible.bind_of_none hmnc]
    exact ⟨[], (holds_copy mnc pRI false []).ended hown hmnc, rfl⟩
  rw [Fallible.bind_of_some hmnc]
  have hown₁ := (holds_copy mnc pRI false []).returned hown hmnc
  rcases hmcc : copyOrReturn k mcc pRI false [first] s₁ with ⟨_ | second, s₂⟩
  · rw [Fallible.bind_of_none hmcc]
    exact ⟨[], (holds_copy mcc pRI false [first]).ended hown₁ hmcc, rfl⟩
  rw [Fallible.bind_of_some hmcc]
  have hown₂ := (holds_copy mcc pRI false [first]).returned hown₁ hmcc
  rcases hkey : copyOrReturn k keyIdentifier pRI false [first, second] s₂ with ⟨_ | third, s₃⟩
  · rw [Fallible.bind_of_none hkey]
    exact ⟨[], (holds_copy keyIdentifier pRI false [first, second]).ended hown₂ hkey, rfl⟩
  rw [Fallible.bind_of_some hkey]
  have hown₃ := (holds_copy keyIdentifier pRI false [first, second]).returned hown₂ hkey
  -- the key is freed after the call, and the copies are not
  refine ⟨[first, second, third], ?_, ?_⟩
  · have hcall : Holds [first, second, third] (fun _ => [first, second, third]) (do
        let carrierKey ← alloc
        callOnRequest k slotId RIL_REQUEST_SET_CARRIER_INFO_IMSI_ENCRYPTION pRI
          [first, second, third, some carrierKey]
        freeAll [some carrierKey] : Storage Unit) :=
      holds_alloc.bind fun _ => (holds_callOnRequest _ pRI (by simp)).bind fun _ =>
        holds_freeAll (.refl _)
    exact hcall.returned hown₃ rfl
  · have hblocks : copiesFrom s.2.next [mnc, mcc, keyIdentifier] =
        first.toList ++ (second.toList ++ (third.toList ++ [])) := by
      rw [copyOrReturn_returns hmnc, copyOrReturn_returns hmcc, copyOrReturn_returns hkey,
        copiesFrom]
    refine Eq.trans ?_ hblocks.symm
    cases first <;> cases second <;> cases third <;> rfl

end Storage

namespace ClientRequest

variable {k : Platform} {serial : Int} {slotId : Nat}

def keepsCopies : ClientRequest → Bool
  | setCarrierInfoForImsiEncryption .. => true
  | _ => false

/-- All other methods free everything. -/
theorem holds (request : ClientRequest) (hkeeps : request.keepsCopies = false) :
    Holds [] (fun _ => []) (request.perform k serial slotId) := by
  open Storage in
  cases request with
  | dispatchString request str => exact holds_callWithString _ _
  | dispatchStrings request allowEmpty strs => exact holds_dispatchStrings _ _ _
  | dispatchStringsVec request data => exact holds_dispatchStrings _ _ _
  | dispatchInts request countInts => exact holds_dispatchInts _
  | dispatchCallForwardStatus request number => exact holds_callWithString _ _
  | dispatchIccApdu request data => exact holds_callWithString _ _
  | dial address uusInfo => exact holds_dial _ _
  | setupDataCall radioTechnology dataProfileInfo modemCognitive roamingAllowed isRoaming =>
      exact holds_setupDataCall _ _ _ _ _
  | iccIOForApp iccIo =>
      refine holds_withRequest fun _ => (holds_copy _ _ _ []).bind fun path => ?_
      refine (holds_copy _ _ _ [path]).bind fun data => ?_
      refine (holds_copy _ _ _ [path, data]).bind fun pin2 => ?_
      exact (holds_copy _ _ _ [path, data, pin2]).bind fun _ => holds_callAll _ _ _
  | writeSmsToSim pdu smsc =>
      refine holds_withRequest fun _ => (holds_copy _ _ _ []).bind fun pdu => ?_
      refine (holds_copy _ _ _ [pdu]).bind fun smsc => ?_
      exact (holds_callOnRequest _ _ fun _ hmem => hmem).bind fun _ =>
        holds_freeAll (.swap _ _ _)
  | setInitialAttachApn dataProfileInfo isRoaming => exact holds_setInitialAttachApn _ _
  | sendImsSms message =>
      exact holds_withRequest fun _ => Holds.ite (holds_dispatchImsGsmSms _ _)
        (Holds.ite (holds_lift _) (holds_lift _))
  | iccOpenLogicalChannel aid =>
      exact Holds.ite (holds_callWithString _ _) (holds_callWithString _ _)
  | nvWriteItem value => exact holds_callWithString _ _
  | requestIccSimAuthentication authData aid =>
      refine holds_withRequest fun _ => (holds_copy _ _ _ []).bind fun authData => ?_
      exact (holds_copy _ _ _ [authData]).bind fun _ => holds_callAll _ _ _
  | setDataProfile profiles isRoaming =>
      refine holds_withRequest fun pRI => ?_
      refine (holds_callocOrReturn pRI (.refl []) fun dest => .refl [dest]).bind
        fun dataProfiles => ?_
      refine (holds_callocOrReturn pRI (.refl [dataProfiles]) fun _ => .swap _ _ _).bind
        fun dataProfilePtrs => ?_
      exact (holds_copyDataProfiles _ _ _ _).bind fun _ => holds_callAll _ _ _
  | setAllowedCarriers =>
      refine holds_withRequest fun pRI => ?_
      refine (holds_callocOrReturn pRI (.refl []) fun dest => .refl [dest]).bind
        fun allowedCarriers => ?_
      refine (holds_callocOrReturn pRI (.refl [allowedCarriers]) fun _ => .swap _ _ _).bind
        fun excludedCarriers => ?_
      refine (holds_callOnRequest _ _ fun _ hmem => hmem).bind fun _ => ?_
      have hfirst : Holds [allowedCarriers, excludedCarriers] (fun _ => [excludedCarriers])
          (freeAll [allowedCarriers] : Storage Unit) := holds_freeAll (.refl _)
      exact hfirst.bind fun _ => holds_freeAll (by simp)
  | sendDeviceState lowDataExpected =>
      exact Holds.ite (Holds.ite (holds_dispatchInts _) (holds_lift _)) (holds_dispatchInts _)
  | setIndicationFilter => exact Holds.ite (holds_lift _) (holds_dispatchInts _)
  | setCarrierInfoForImsiEncryption mnc mcc keyIdentifier => cases hkeeps
  | _ => exact holds_lift _

/-- The strings whose copies a request leaves allocated. -/
def stringsKept : ClientRequest → List HidlString
  | setCarrierInfoForImsiEncryption mnc mcc keyIdentifier => [mnc, mcc, keyIdentifier]
  | _ => []

end ClientRequest

namespace DispatchState

/-- Whether the vendor library was called. -/
def called (s : DispatchState) : Bool :=
  s.events.any fun
    | .onRequest .. => true
    | .errorResponse .. | .died => false

theorem called_afterCalls (k : Platform) (slotId pRI callocs : Nat) (request : Int)
    (s : DispatchState) : (s.afterCalls k slotId pRI callocs [request]).called = true := by
  simp [called, afterCalls]

theorem called_of_failed {k : Platform} {pRI : Nat} {s s' : DispatchState}
    (hfailed : s.Failed k pRI s') (hs : s.called = false) : s'.called = false := by
  obtain ⟨calloc, err, rfl⟩ := hfailed
  have herror : called { s with events := [s.errorEvent k (some pRI) err] } = false := by
    unfold errorEvent
    split
    · rfl
    · split <;> rfl
  unfold called at *
  rw [List.any_append, hs]
  exact herror

end DispatchState

/-- A method that a client calls, in any state of the requests and with any answers
of `calloc`. -/
structure Call where
  request : ClientRequest
  serial : Int
  slotId : Nat
  requests : Requests
  requestInfo : Option Nat
  calloc : Nat → Bool

namespace Call

variable (k : Platform) (c : Call)

/-- The state in which the method is called. -/
def start : DispatchState := .start c.requests c.requestInfo c.calloc

/-- What the call makes of the heap. -/
def perform (h : Heap) : Heap := (c.request.perform k c.serial c.slotId (c.start, h)).2.2

/-- The blocks that the call leaves allocated: its first ones are the copies, and they
stay when the vendor library was called. -/
def leaked (h : Heap) : List Nat :=
  if (c.request.dispatch k c.serial c.slotId c.start).2.called then
    Storage.copiesFrom h.next c.request.stringsKept else []

variable {k c} {mnc mcc keyIdentifier : HidlString}

/-- What the method does with a request that was added, apart from the memory. -/
def carrierRequest (k : Platform) (slotId : Nat) (mnc mcc keyIdentifier : HidlString)
    (pRI : Nat) : Dispatch Unit := do
  let _ ← Dispatch.copyHidlStringToRil k mnc pRI false
  let _ ← Dispatch.copyHidlStringToRil k mcc pRI false
  let _ ← Dispatch.copyHidlStringToRil k keyIdentifier pRI false
  Dispatch.callOnRequest k slotId RIL_REQUEST_SET_CARRIER_INFO_IMSI_ENCRYPTION pRI

theorem performs_carrierInfo (slotId pRI : Nat) :
    Storage.Performs (Storage.carrierInfo k slotId mnc mcc keyIdentifier pRI)
      (carrierRequest k slotId mnc mcc keyIdentifier pRI) :=
  (Storage.performs_copyOrReturn _ _ _ _).bind fun _ _ _ =>
    (Storage.performs_copyOrReturn _ _ _ _).bind fun _ _ _ =>
      (Storage.performs_copyOrReturn _ _ _ _).bind fun _ _ _ =>
        Erases.alloc_bind fun _ => Storage.performs_call _ _ _ _

/-- The method goes through exactly when it calls the vendor library. -/
theorem isSome_carrierInfo (slotId pRI : Nat) {s : DispatchState × Heap}
    (hs : s.1.called = false) :
    (Storage.carrierInfo k slotId mnc mcc keyIdentifier pRI s).1.isSome =
      (carrierRequest k slotId mnc mcc keyIdentifier pRI s.1).2.called := by
  have hruns : Dispatch.Runs k slotId pRI _ _ [RIL_REQUEST_SET_CARRIER_INFO_IMSI_ENCRYPTION]
      (carrierRequest k slotId mnc mcc keyIdentifier pRI) :=
    (Dispatch.copyHidlStringToRil_runs mnc false).bind fun _ =>
      (Dispatch.copyHidlStringToRil_runs mcc false).bind fun _ =>
        (Dispatch.copyHidlStringToRil_runs keyIdentifier false).thenCall _
  rw [(performs_carrierInfo slotId pRI).isSome_eq s]
  by_cases hgood : (mnc.Copies false ∧ mcc.Copies false ∧ keyIdentifier.Copies false) ∧
      ∀ i < mnc.callocs false + (mcc.callocs false + keyIdentifier.callocs false),
        s.1.calloc i = true
  · obtain ⟨a, hreturn⟩ := hruns.returns s.1 hgood
    rw [hreturn, DispatchState.called_afterCalls]
    rfl
  · obtain ⟨s', hend, hfailed⟩ := hruns.ends s.1 hgood
    rw [hend, DispatchState.called_of_failed hfailed hs]
    rfl

theorem addRequestToList_called (k : Platform) (serial : Int) (slotId : Nat) (request : Int)
    (s : DispatchState) :
    (Dispatch.addRequestToList k serial slotId request s).2.called = s.called := by
  unfold Dispatch.addRequestToList
  split <;> rfl

theorem owns_perform_carrierInfo
    (hrequest : c.request = .setCarrierInfoForImsiEncryption mnc mcc keyIdentifier)
    {base : List Nat} {h : Heap} (hown : h.Owns base []) :
    ∃ left, (c.perform k h).Owns base left ∧ left.reduceOption = c.leaked k h := by
  have hperform : c.perform k h = (Storage.withRequest k c.serial c.slotId
      RIL_REQUEST_SET_CARRIER_INFO_IMSI_ENCRYPTION
      (Storage.carrierInfo k c.slotId mnc mcc keyIdentifier) (c.start, h)).2.2 := by
    rw [perform, hrequest]
    rfl
  have hcalled : c.leaked k h = if (Dispatch.withRequest k c.serial c.slotId
      RIL_REQUEST_SET_CARRIER_INFO_IMSI_ENCRYPTION
      (carrierRequest k c.slotId mnc mcc keyIdentifier) c.start).2.called then
        Storage.copiesFrom h.next [mnc, mcc, keyIdentifier] else [] := by
    rw [leaked, hrequest]
    rfl
  rw [hperform, hcalled]
  unfold Storage.withRequest Dispatch.withRequest
  have hevents : (Dispatch.addRequestToList k c.serial c.slotId
      RIL_REQUEST_SET_CARRIER_INFO_IMSI_ENCRYPTION c.start).2.called = false :=
    addRequestToList_called k c.serial c.slotId _ c.start
  rcases hadd : Dispatch.addRequestToList k c.serial c.slotId
      RIL_REQUEST_SET_CARRIER_INFO_IMSI_ENCRYPTION c.start with ⟨_ | _ | pRI, s⟩
  all_goals rw [hadd] at hevents
  · rw [Fallible.bind_of_none (lift_of_eq hadd h), Fallible.bind_of_none hadd, hevents]
    exact ⟨[], hown, rfl⟩
  · rw [Fallible.bind_of_some (lift_of_eq hadd h), Fallible.bind_of_some hadd]
    exact ⟨[], hown, (if_neg (by simp [hevents])).symm⟩
  · rw [Fallible.bind_of_some (lift_of_eq hadd h), Fallible.bind_of_some hadd]
    dsimp only
    have hsome : (Storage.carrierInfo k c.slotId mnc mcc keyIdentifier pRI (s, h)).1.isSome = _ :=
      isSome_carrierInfo c.slotId pRI hevents
    rw [← hsome]
    exact Storage.carrierInfo_leaves mnc mcc keyIdentifier pRI hown

/-- The copies are all that a call leaves. -/
theorem owns_perform {base : List Nat} {h : Heap} (hown : h.Owns base []) :
    ∃ left, (c.perform k h).Owns base left ∧ left.reduceOption = c.leaked k h := by
  by_cases hkeeps : c.request.keepsCopies = false
  · have hholds : Holds [] (fun _ => []) (c.request.perform k c.serial c.slotId) :=
      c.request.holds hkeeps
    have hnone : c.request.stringsKept = [] := by
      cases hrequest : c.request with
      | setCarrierInfoForImsiEncryption mnc mcc keyIdentifier =>
          rw [hrequest] at hkeeps
          cases hkeeps
      | _ => rfl
    refine ⟨[], ?_, by rw [leaked, hnone, Storage.copiesFrom, ite_self]; rfl⟩
    obtain ⟨hreturn, hend⟩ := hholds base (c.start, h) hown
    unfold perform
    cases hresult : (c.request.perform k c.serial c.slotId (c.start, h)).1 with
    | none => exact hend hresult
    | some _ => exact hreturn _ hresult
  · cases hrequest : c.request with
    | setCarrierInfoForImsiEncryption mnc mcc keyIdentifier =>
        exact owns_perform_carrierInfo hrequest hown
    | _ => rw [hrequest] at hkeeps; exact absurd rfl hkeeps

/-- What a run of calls makes of the heap, whatever happens to the requests in
between. -/
def performAll (k : Platform) (calls : List Call) (h : Heap) : Heap :=
  calls.foldl (fun h c => c.perform k h) h

/-- The blocks that the calls of a run leave, each with the heap it finds. -/
def leakedAll (k : Platform) : List Call → Heap → List Nat
  | [], _ => []
  | c :: rest, h => c.leaked k h ++ leakedAll k rest (c.perform k h)

theorem owns_performAll (calls : List Call) {base : List Nat} {h : Heap}
    (hown : h.Owns base []) : (performAll k calls h).Owns (leakedAll k calls h ++ base) [] := by
  induction calls generalizing base h with
  | nil => exact hown
  | cons c rest ih =>
      obtain ⟨left, hleft, hblocks⟩ := owns_perform (c := c) (k := k) hown
      -- what this call leaves is part of the base of the next one
      have hnext : (c.perform k h).Owns (c.leaked k h ++ base) [] := by
        rw [← hblocks]
        exact ⟨hleft.sound, hleft.live⟩
      have hrest := ih hnext
      refine ⟨hrest.sound, hrest.live.trans ?_⟩
      rw [List.reduceOption_nil, List.nil_append, List.nil_append, leakedAll, ← List.append_assoc]
      exact List.perm_append_comm.append_right base

/-- Over any run of calls, nothing is freed or handed out that is not allocated, and
the blocks that stay allocated are the copies of one method, when it called the
vendor library. -/
theorem live_performAll (k : Platform) (calls : List Call) :
    (performAll k calls ⟨[], 0, true⟩).sound = true ∧
      (performAll k calls ⟨[], 0, true⟩).live.Perm (leakedAll k calls ⟨[], 0, true⟩) := by
  have hempty : Heap.Owns [] [] ⟨[], 0, true⟩ := ⟨rfl, .refl _⟩
  have hown := owns_performAll (k := k) calls hempty
  refine ⟨hown.sound, ?_⟩
  have hlive := hown.live
  rwa [List.reduceOption_nil, List.nil_append, List.append_nil] at hlive

end Call

end Serrano.Ril
