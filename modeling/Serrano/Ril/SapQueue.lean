import Mathlib.Data.List.Basic
import Serrano.Foundation.SinglyLinked
import Serrano.Foundation.Transition

/-! # The queue of SAP requests

A request that was handed to the vendor library waits in `pendingResponseQueue`
until it is completed. The token of the library is its address, but the queue is
searched by its message id and the token of the client, the newest first. An access
to memory that is not allocated has no successor.
-/

namespace Serrano.Ril

/-- What the queue reads of a `MsgHeader`. -/
structure MsgHeader where
  token : Int
  id : Int

/-- `SapSocketRequest`; `curr` is the address of a header. -/
structure SapSocketRequest where
  token : Int
  curr : Nat
  p_next : Option Nat

/-- The queue and the memory it lies in. `dispatched` counts the requests so far, and
`outstanding` are those that the library has not completed, the newest first. -/
structure SapQueue where
  requests : Nat → Option SapSocketRequest
  headers : Nat → Option MsgHeader
  front : Option Nat
  dispatched : Nat
  outstanding : List Nat

/-- A client asks for something, with the addresses that `createMsgHeader` and
`dispatchRequest` are given, or the vendor library completes a request. -/
inductive SapCall
  | request (id token : Int) (header : Nat) (currRequest : Option Nat)
  | complete (t : Nat)

namespace SapQueue

variable (s : SapQueue)

def withHeader (address : Nat) (header : Option MsgHeader) : SapQueue :=
  { s with headers := Function.update s.headers address header }

def withRequest (address : Nat) (request : Option SapSocketRequest) : SapQueue :=
  { s with requests := Function.update s.requests address request }

/-- `Ril_queue::enqueue` -/
def enqueue (request : Nat) : Option SapQueue :=
  (s.requests request).map fun entry =>
    { s.withRequest request (some { entry with p_next := s.front }) with front := some request }

/-- The test of the loop of `checkAndDequeue`. The header is looked at only when the
tokens agree. -/
def isFound (id token : Int) (cur : Nat) : Option Bool :=
  (s.requests cur).bind fun entry =>
    if token = entry.token then (s.headers entry.curr).map fun header => id = header.id
    else some false

/-- The pointer of a request to the next one. -/
def next (address : Nat) : Option Nat := (s.requests address).bind SapSocketRequest.p_next

/-- `*ppCur = (*ppCur)->p_next`, where `ppCur` points into the request before, or to
the front. -/
def bypass (before : Option Nat) (temp : Nat) : SapQueue :=
  match before with
  | none => { s with front := s.next temp }
  | some address =>
      s.withRequest address
        ((s.requests address).map fun entry => { entry with p_next := s.next temp })

/-- `Ril_queue::checkAndDequeue` -/
def checkAndDequeue (id token : Int) : Option SapQueue :=
  (SinglyLinked.search s.next (s.isFound id token) s.dispatched none s.front).map fun
    | none => s
    | some (before, temp) => (s.bypass before temp).withRequest temp none

/-- `RilSapSocket::dispatchRequest`; without memory the header is freed. -/
def dispatchRequest (req : Nat) (currRequest : Option Nat) : Option SapQueue :=
  match currRequest with
  | none => some (s.withHeader req none)
  | some request =>
      (s.headers req).bind fun header =>
        ({ s.withRequest request (some ⟨header.token, req, none⟩) with
          dispatched := s.dispatched + 1
          outstanding := request :: s.outstanding }).enqueue request

/-- A request of the client, up to where the vendor library has it. -/
def request (id token : Int) (header : Nat) (currRequest : Option Nat) : Option SapQueue :=
  (s.withHeader header (some ⟨token, id⟩)).dispatchRequest header currRequest

/-- `RilSapSocket::onRequestComplete` -/
def onRequestComplete (t : Nat) : Option SapQueue :=
  (s.requests t).bind fun request =>
    (s.headers request.curr).bind fun hdr =>
      (s.checkAndDequeue hdr.id hdr.token).map fun s =>
        { s.withHeader request.curr none with outstanding := s.outstanding.erase t }

/-- New memory is not in use, and only what is outstanding is completed. -/
def step : SapCall → Option SapQueue
  | .request id token header currRequest =>
      if s.headers header = none ∧ ∀ address ∈ currRequest, s.requests address = none then
        s.request id token header currRequest
      else none
  | .complete t => if t ∈ s.outstanding then s.onRequestComplete t else none

def initial : SapQueue where
  requests _ := none
  headers _ := none
  front := none
  dispatched := 0
  outstanding := []

def system : Transition.System SapQueue SapCall where
  init := initial
  step := step

/-- The requests in the queue, as the loop meets them. -/
def queue : List Nat := SinglyLinked.walk s.next s.dispatched s.front

/-- What a request in the queue is searched by. -/
def key (address : Nat) : Option (Int × Int) :=
  (s.requests address).bind fun entry =>
    (s.headers entry.curr).map fun header => (header.id, entry.token)

/-- The queue and the memory hold what is outstanding, each request with a header of its
own and nothing else, and whatever is outstanding can be completed. -/
structure Accounted : Prop where
  queue : s.queue = s.outstanding
  requests : ∀ address, s.requests address ≠ none ↔ address ∈ s.outstanding
  headers : ∀ address, s.headers address ≠ none ↔
    ∃ request ∈ s.outstanding, (s.requests request).map SapSocketRequest.curr = some address
  own : (s.outstanding.map fun request => (s.requests request).map SapSocketRequest.curr).Nodup
  completes : ∀ t ∈ s.outstanding, s.step (.complete t) ≠ none

/-- A request is completed when it is the newest one outstanding with its message id and
client token. -/
def InTurn : SapCall → Prop
  | .request .. => True
  | .complete t => t ∈ s.outstanding →
      s.outstanding.find? (fun request => s.key request = s.key t) = some t

instance decidableInTurn : (call : SapCall) → Decidable (s.InTurn call)
  | .request .. => .isTrue trivial
  | .complete _ => inferInstanceAs (Decidable (_ → _))

end SapQueue

end Serrano.Ril
