import Serrano.Foundation.Fallible
import Serrano.Ril.RequestInfo

/-! # Dispatching the requests of a client

A request is added to the pending list of its slot, the structure that the vendor
library expects is built, and `onRequest` is called. Building asks for memory and
copies strings, and either may fail, which is answered with an error response.
Every allocation is given its answer in advance.
-/

namespace Serrano.Ril

/-- `hidl_string`: the size it reports, and what `c_str` points to before the first
zero. -/
structure HidlString where
  size : Nat
  c_str : List UInt8
  deriving DecidableEq

/-- The conversion of a `const char *`. -/
def HidlString.ofCStr (str : List UInt8) : HidlString := ⟨str.length, str⟩

/-- The errors that libril itself answers requests with. -/
inductive RIL_Errno
  | RIL_E_NO_MEMORY
  | RIL_E_INTERNAL_ERR
  | RIL_E_INVALID_ARGUMENTS
  | RIL_E_REQUEST_NOT_SUPPORTED
  deriving DecidableEq

/-- A call of the vendor library with the token and whether that is pending, an error
response to the client, or the end of the process. -/
inductive DispatchEvent
  | onRequest (request : Int) (pRI : Nat) (pending : Bool)
  | errorResponse (socket_id : Nat) (serial : Int) (err : RIL_Errno)
  | died
  deriving DecidableEq

/-- The requests, with the address that `calloc` answers for the `RequestInfo`, its
later answers, and what was done so far. -/
structure DispatchState where
  requests : Requests
  requestInfo : Option Nat
  calloc : Nat → Bool
  events : List DispatchEvent

abbrev Dispatch := Fallible DispatchState

namespace DispatchState

variable (k : Platform) (s : DispatchState)

def record (event : DispatchEvent) : DispatchState := { s with events := s.events ++ [event] }

/-- The state after so many answers of `calloc`. -/
def afterCallocs (count : Nat) : DispatchState := { s with calloc := fun i => s.calloc (count + i) }

/-- What `sendErrorResponse` does; a null pointer and a missing response function end
the process. -/
def errorEvent (pRI : Option Nat) (err : RIL_Errno) : DispatchEvent :=
  match pRI.bind s.requests.memory with
  | none => .died
  | some info =>
      if k.responseFunction info.pCI then .errorResponse info.socket_id info.token err else .died

end DispatchState

namespace Dispatch

variable (k : Platform) (serial : Int) (slotId : Nat)

/-- `addRequestToList`, with the pointer it returns. -/
def addRequestToList (request : Int) : Dispatch (Option Nat) := fun s =>
  match s.requests.addRequestToList k serial slotId request s.requestInfo with
  | none => (none, s)
  | some requests =>
      (some (if (k.numCommands : Int) ≤ request then none else s.requestInfo),
        { s with requests := requests })

/-- Whether the next allocation succeeds. -/
def calloc : Dispatch Bool := fun s => (some (s.calloc 0), s.afterCallocs 1)

def sendErrorResponse (pRI : Option Nat) (err : RIL_Errno) : Dispatch Unit :=
  .change fun s => s.record (s.errorEvent k pRI err)

/-- An error response and an early return. -/
def returnError {α : Type} (pRI : Nat) (err : RIL_Errno) : Dispatch α := do
  sendErrorResponse k (some pRI) err
  .stop

/-- `CALL_ONREQUEST` -/
def callOnRequest (request : Int) (pRI : Nat) : Dispatch Unit :=
  .change fun s => s.record (.onRequest request pRI (pRI ∈ s.requests.pendingList k slotId))

/-- An allocation that is answered with an error when it fails. -/
def callocOrError (pRI : Nat) : Dispatch Unit := do
  if !(← calloc) then returnError k pRI .RIL_E_NO_MEMORY
  else pure ()

/-- `copyHidlStringToRil` returns what `*dest` becomes. -/
def copyHidlStringToRil (src : HidlString) (pRI : Nat) (allowEmpty : Bool) :
    Dispatch (Option (List UInt8)) :=
  if src.size = 0 ∧ allowEmpty = false then pure none
  else do
    callocOrError k pRI
    if src.c_str.length ≥ src.size + 1 then returnError k pRI .RIL_E_INTERNAL_ERR
    else pure (some src.c_str)

/-- The loop that copies strings one after the other. -/
def copyStrings (pRI : Nat) (allowEmpty : Bool) : List HidlString → Dispatch Unit
  | [] => pure ()
  | src :: rest => do
      let _ ← copyHidlStringToRil k src pRI allowEmpty
      copyStrings pRI allowEmpty rest

/-- The frame that all methods share: nothing happens when the request was not added. -/
def withRequest (request : Int) (body : Nat → Dispatch Unit) : Dispatch Unit := do
  match ← addRequestToList k serial slotId request with
  | none => pure ()
  | some pRI => body pRI

def dispatchVoid (request : Int) : Dispatch Unit :=
  withRequest k serial slotId request fun pRI => callOnRequest k slotId request pRI

def dispatchString (request : Int) (str : List UInt8) : Dispatch Unit :=
  withRequest k serial slotId request fun pRI => do
    let _ ← copyHidlStringToRil k (.ofCStr str) pRI false
    callOnRequest k slotId request pRI

def dispatchStrings (request : Int) (allowEmpty : Bool) (strs : List (List UInt8)) :
    Dispatch Unit :=
  withRequest k serial slotId request fun pRI => do
    callocOrError k pRI
    copyStrings k pRI allowEmpty (strs.map .ofCStr)
    callOnRequest k slotId request pRI

/-- The `dispatchStrings` that takes a vector. -/
def dispatchStringsVec (request : Int) (data : List HidlString) : Dispatch Unit :=
  withRequest k serial slotId request fun pRI => do
    callocOrError k pRI
    copyStrings k pRI false data
    callOnRequest k slotId request pRI

def dispatchInts (request : Int) (_countInts : Nat) : Dispatch Unit :=
  withRequest k serial slotId request fun pRI => do
    callocOrError k pRI
    callOnRequest k slotId request pRI

def dispatchCallForwardStatus (request : Int) (number : HidlString) : Dispatch Unit :=
  withRequest k serial slotId request fun pRI => do
    let _ ← copyHidlStringToRil k number pRI false
    callOnRequest k slotId request pRI

def dispatchRaw (request : Int) : Dispatch Unit :=
  withRequest k serial slotId request fun pRI => callOnRequest k slotId request pRI

def dispatchIccApdu (request : Int) (data : HidlString) : Dispatch Unit :=
  withRequest k serial slotId request fun pRI => do
    let _ ← copyHidlStringToRil k data pRI false
    callOnRequest k slotId request pRI

end Dispatch

end Serrano.Ril
