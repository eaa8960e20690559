import Mathlib.Data.List.Basic
import Serrano.Foundation.SinglyLinked
import Serrano.Foundation.Transition

/-! # The lists of pending requests

A request of a client is kept in the pending list of its slot, under the address
of its `RequestInfo`, which is also the token that the vendor library answers
with. One loop over pointers to pointers serves acknowledgements and
completions. Calls are atomic here. Every access to memory that is not allocated
ends the process, except that the first read through a token, before it is looked
for, may find anything there.
-/

namespace Serrano.Ril

/-- What the daemon is built and registered with. `responseFunction` says which
entries of `s_commands` have one. -/
structure Platform where
  simCount : Nat
  one_le : 1 ≤ simCount
  le_four : simCount ≤ 4
  version : Int
  numCommands : Nat
  responseFunction : Int → Bool

/-- `RequestInfo`; `pCI` is an index into `s_commands`. -/
structure RequestInfo where
  token : Int
  pCI : Int
  p_next : Option Nat
  cancelled : Nat
  «local» : Nat
  socket_id : Nat
  wasAckSent : Bool

/-- The variables `s_pendingRequests` of the sockets. -/
inductive PendingHook
  | s_pendingRequests
  | s_pendingRequests_socket2
  | s_pendingRequests_socket3
  | s_pendingRequests_socket4
  deriving DecidableEq

/-- The list of a socket; `RIL_SOCKET_2` is 1. -/
def pendingHook (simCount socket_id : Nat) : PendingHook :=
  if 2 ≤ simCount ∧ socket_id = 1 then .s_pendingRequests_socket2
  else if 3 ≤ simCount ∧ socket_id = 2 then .s_pendingRequests_socket3
  else if 4 ≤ simCount ∧ socket_id = 3 then .s_pendingRequests_socket4
  else .s_pendingRequests

/-- A `RequestInfo **`: one of the variables, or the `p_next` of a request. -/
inductive PPCur
  | hook (pendingRequestsHook : PendingHook)
  | p_next (pRI : Nat)

inductive ResponseType
  | solicited
  | solicitedAckExp
  deriving DecidableEq

/-- Calls with what they returned or were given, and what they do to the client
and to memory. The address in a response is not sent. -/
inductive RequestEvent
  | added (pRI : Nat) (serial : Int) (slotId : Nat) (request : Int)
  | refused (serial : Int) (slotId : Nat) (request : Int)
  | ack (t : Option Nat)
  | complete (t : Option Nat)
  | acknowledgeRequest (slotId : Nat) (serial : Int)
  | response (pRI : Nat) (slotId : Nat) (type : ResponseType) (serial : Int)
  | freed (pRI : Nat)
  deriving DecidableEq

/-- The lists and the memory they lie in. `used` keeps every address that `calloc`
ever answered; the process has `died` when it called a missing response function. -/
structure Requests where
  memory : Nat → Option RequestInfo
  used : List Nat
  pendingRequests : PendingHook → Option Nat
  died : Bool
  history : List RequestEvent

/-- A call with its arguments. Of its surroundings it has the answer of `calloc`,
what is found where a token points that points nowhere, and whether the client
has callbacks. -/
inductive RequestCall (simCount : Nat)
  | addRequestToList (serial : Int) (slotId : Fin simCount) (request : Int)
      (calloc : Option Nat)
  | onRequestAck (t : Option Nat) (stale : Nat) (connected : Bool)
  | onRequestComplete (t : Option Nat) (stale : Nat) (connected : Bool)

namespace Requests

variable (k : Platform) (s : Requests)

def record (events : List RequestEvent) : Requests := { s with history := s.history ++ events }

/-- `*ppCur` -/
def load : PPCur → Option (Option Nat)
  | .hook hook => some (s.pendingRequests hook)
  | .p_next pRI => (s.memory pRI).map RequestInfo.p_next

/-- Change a request, if it is one. -/
def withRequest (pRI : Nat) (change : RequestInfo → RequestInfo) : Requests :=
  { s with memory := Function.update s.memory pRI ((s.memory pRI).map change) }

/-- `*ppCur = value` -/
def store (ppCur : PPCur) (value : Option Nat) : Requests :=
  match ppCur with
  | .hook hook => { s with pendingRequests := Function.update s.pendingRequests hook value }
  | .p_next pRI => s.withRequest pRI fun info => { info with p_next := value }

/-- `addRequestToList` with the answer of `calloc`, which is an address it never
answered before. -/
def addRequestToList (serial : Int) (slotId : Nat) (request : Int) (calloc : Option Nat) :
    Option Requests :=
  let hook := pendingHook k.simCount slotId
  if (k.numCommands : Int) ≤ request then some (s.record [.refused serial slotId request])
  else
    match calloc with
    | none => some (s.record [.refused serial slotId request])
    | some pRI =>
        if pRI ∈ s.used then none
        else
          let info : RequestInfo :=
            { token := serial, pCI := request, p_next := s.pendingRequests hook, cancelled := 0,
              «local» := 0, socket_id := slotId, wasAckSent := false }
          some ({ s with
            memory := Function.update s.memory pRI (some info)
            used := pRI :: s.used
            pendingRequests := Function.update s.pendingRequests hook (some pRI)
          }.record [.added pRI serial slotId request])

/-- What is done to the request that the loop stops at. -/
def found (ppCur : PPCur) (pRI : Nat) (isAck : Bool) : Option Requests :=
  (s.memory pRI).map fun info =>
    if isAck then s.withRequest pRI fun info => { info with wasAckSent := true }
    else s.store ppCur info.p_next

/-- The loop of `checkAndDequeueRequestInfoIfAck`. -/
def dequeueLoop (pRI : Nat) (isAck : Bool) : Nat → PPCur → Option (Bool × Requests)
  | 0, ppCur => (s.load ppCur).bind fun cur => if cur.isNone then some (false, s) else none
  | fuel + 1, ppCur =>
      (s.load ppCur).bind fun
        | none => some (false, s)
        | some cur =>
            if pRI = cur then (s.found ppCur pRI isAck).map (true, ·)
            else dequeueLoop pRI isAck fuel (.p_next cur)

/-- What `checkAndDequeueRequestInfoIfAck` does under the mutex of a socket. The
request comes back when it is found. -/
def dequeueIfAck (pRI socket_id : Nat) (isAck : Bool) : Option (Option Nat × Requests) :=
  (s.dequeueLoop pRI isAck s.used.length (.hook (pendingHook k.simCount socket_id))).map
    fun (ret, s) => (if ret then some pRI else none, s)

/-- `checkAndDequeueRequestInfoIfAck` -/
def checkAndDequeueRequestInfoIfAck (t : Option Nat) (stale : Nat) (isAck : Bool) :
    Option (Option Nat × Requests) :=
  match t with
  | none => some (none, s)
  | some pRI =>
      let socket_id := ((s.memory pRI).map RequestInfo.socket_id).getD stale
      s.dequeueIfAck k pRI socket_id isAck

/-- `RIL_onRequestAck` -/
def onRequestAck (t : Option Nat) (stale : Nat) (connected : Bool) : Option Requests :=
  ((s.record [.ack t]).checkAndDequeueRequestInfoIfAck k t stale true).bind fun
    | (none, s) => some s
    | (some pRI, s) =>
        (s.memory pRI).map fun info =>
          if info.cancelled = 0 ∧ connected then
            s.record [.acknowledgeRequest info.socket_id info.token]
          else s

def free (pRI : Nat) : Requests :=
  { s with memory := Function.update s.memory pRI none }.record [.freed pRI]

/-- A response to a request that was acknowledged before expects an
acknowledgement itself. -/
def responseType (wasAckSent : Bool) : ResponseType :=
  if 13 ≤ k.version ∧ wasAckSent then .solicitedAckExp else .solicited

/-- The part of `RIL_onRequestComplete` for a request that was found. A missing
response function ends the process in the call. -/
def respond (pRI : Nat) (info : RequestInfo) (connected : Bool) : Requests :=
  if 0 < info.local then s.free pRI
  else if info.cancelled ≠ 0 then s.free pRI
  else if k.responseFunction info.pCI = false then { s with died := true }
  else if connected then
    (s.record
      [.response pRI info.socket_id (responseType k info.wasAckSent) info.token]).free pRI
  else s.free pRI

/-- `RIL_onRequestComplete` -/
def onRequestComplete (t : Option Nat) (stale : Nat) (connected : Bool) : Option Requests :=
  ((s.record [.complete t]).checkAndDequeueRequestInfoIfAck k t stale false).bind fun
    | (none, s) => some s
    | (some pRI, s) => (s.memory pRI).map fun info => s.respond k pRI info connected

def step (call : RequestCall k.simCount) : Option Requests :=
  if s.died then none
  else
    match call with
    | .addRequestToList serial slotId request calloc =>
        s.addRequestToList k serial slotId request calloc
    | .onRequestAck t stale connected => s.onRequestAck k t stale connected
    | .onRequestComplete t stale connected => s.onRequestComplete k t stale connected

def initial : Requests where
  memory _ := none
  used := []
  pendingRequests _ := none
  died := false
  history := []

/-- The daemon under any sequence of calls. -/
def system : Transition.System Requests (RequestCall k.simCount) where
  init := initial
  step := step k

/-- Where a request in memory points to. -/
def next (pRI : Nat) : Option Nat := (s.memory pRI).bind RequestInfo.p_next

/-- The pending list of a slot, as the loop meets it. -/
def pendingList (slotId : Nat) : List Nat :=
  SinglyLinked.walk s.next s.used.length (s.pendingRequests (pendingHook k.simCount slotId))

end Requests

end Serrano.Ril
