import Mathlib.Tactic.SplitIfs
import Serrano.Ril.SapService

/-! # What becomes of a SAP request

A request that fails before it is dispatched is answered at once. One that is
dispatched is answered by its completion, which also frees the header, while the
sender goes on to free the rest.
-/

namespace Serrano.Ril

/-- The client is given a response. -/
def SapEvent.response : SapEvent → Option SapResponse
  | .onRequest .. => none
  | .respond response => some response

/-- The bytes that the vendor library is given. -/
def SapEvent.request : SapEvent → Option (List UInt8)
  | .onRequest _ bytes => some bytes
  | .respond _ => none

def SapRequest.hasCommand : SapRequest → Bool
  | apduReq _ command => command.length > 0
  | connectReq _ | disconnectReq | transferAtrReq | powerReq _ | resetSimReq
  | transferCardReaderStatusReq | setTransferProtocolReq _ => false

/-- Everything before `addPayloadAndDispatchRequest` succeeds. -/
def SapChoices.prepares (choices : SapChoices) (command : Bool) : Bool :=
  choices.allocates .msg && (!command || choices.allocates .command) &&
    choices.pb_get_encoded_size && choices.allocates .buffer && choices.pb_encode

/-- The request gets to `dispatchRequest`. -/
def SapChoices.dispatches (choices : SapChoices) (command : Bool) : Bool :=
  choices.prepares command && choices.allocates .payload && choices.sapSocket

/-- The request stays in the queue, as there is no vendor library to complete it. -/
def SapChoices.pending (choices : SapChoices) (command : Bool) : Bool :=
  choices.dispatches command && choices.allocates .currRequest && !choices.uimFuncs

namespace Sap

open Lifetime

variable (p : Protobuf) (choices : SapChoices) (token : Int)

@[simp] theorem emit_apply (op : SapOp) (done : List SapOp) :
    emit op done = (some (), done ++ [op]) := rfl

@[simp] theorem malloc_apply (object : SapObject) (done : List SapOp) :
    malloc choices object done = if choices.allocates object then
      (some true, done ++ [.alloc object]) else (some false, done) := by
  unfold malloc
  split_ifs <;> rfl

@[simp] theorem freeAll_apply (pointers : List SapObject) (done : List SapOp) :
    freeAll pointers done = (some (), done ++ pointers.map .free) := by
  induction pointers generalizing done with
  | nil => simp [freeAll]
  | cons object rest ih =>
      have hrest : freeAll (object :: rest) done = freeAll rest (done ++ [.free object]) := rfl
      rw [hrest, ih]
      simp

@[simp] theorem sendFailedResponse_apply (msgId : MsgId) (pointers : List SapObject)
    (done : List SapOp) :
    sendFailedResponse msgId token pointers done = (some (), done ++ pointers.map .free ++
      [.event (.respond (failure token msgId))]) := by
  rw [sendFailedResponse, Fallible.bind_of_some (freeAll_apply pointers done)]
  rfl

@[simp] theorem returnFailed_apply {α : Type} (msgId : MsgId) (pointers : List SapObject)
    (done : List SapOp) :
    (returnFailed msgId token pointers : Sap α) done = (none, done ++ pointers.map .free ++
      [.event (.respond (failure token msgId))]) := by
  rw [returnFailed, Fallible.bind_of_some (sendFailedResponse_apply token msgId pointers done)]
  rfl

/-- The command is allocated after the header and freed before it. -/
def heldCommand (command : Bool) : List SapObject := if command then [.command] else []

def addedCommand (command : Bool) : List SapOp :=
  [.alloc .msg, .use .msg] ++ if command then [.alloc .command, .use .command] else []

/-- What was done when the payload is about to be added. -/
def prepared (command : Bool) : List SapOp :=
  addedCommand command ++ [.alloc .buffer, .use .buffer]

/-- Just these objects are allocated, and nothing else has been. -/
structure Holds (objects : List SapObject) (done : List SapOp) : Prop where
  nodup : objects.Nodup
  status : ∀ object,
    statusAfter object done .absent = some (if object ∈ objects then .live else .absent)
  events : events done = []

/-- Only `leaked` is left, and the client was told of the failure. -/
structure Failed (msgId : MsgId) (leaked : List SapObject) (done : List SapOp) : Prop where
  wellUsed : WellUsed done
  released : ∀ object, Released done object ↔ object ∉ leaked
  events : events done = [.respond (failure token msgId)]

theorem Holds.failed {leaked pointers : List SapObject} {done : List SapOp}
    (hholds : Holds (leaked ++ pointers) done) (msgId : MsgId) :
    Failed token msgId leaked
      (done ++ pointers.map .free ++ [.event (.respond (failure token msgId))]) := by
  obtain ⟨-, hnodup, hdisjoint⟩ := List.nodup_append.mp hholds.nodup
  have hstatus : ∀ object, statusAfter object (done ++ pointers.map .free ++
      [.event (.respond (failure token msgId))]) .absent =
        some (if object ∈ leaked then .live else if object ∈ pointers then .freed
          else .absent) := by
    intro object
    rw [statusAfter_append, statusAfter_append, hholds.status, Option.bind_some]
    by_cases hmem : object ∈ pointers
    · have hnot : object ∉ leaked := fun h => hdisjoint object h object hmem rfl
      rw [if_pos (List.mem_append_right leaked hmem), statusAfter_map_free hnodup hmem, if_neg hnot,
        if_pos hmem]
      rfl
    · have hother : ∀ op ∈ pointers.map (.free : SapObject → SapOp), op.object ≠ some object := by
        intro op hop hobject
        obtain ⟨freed, hfreed, rfl⟩ := List.mem_map.mp hop
        exact hmem (Option.some.inj hobject ▸ hfreed)
      rw [statusAfter_of_forall_ne hother, if_neg hmem]
      simp only [List.mem_append, hmem, or_false]
      rfl
  have hfree : Lifetime.events (pointers.map (.free : SapObject → SapOp)) = [] := by
    rw [Lifetime.events, List.filterMap_map]
    exact List.filterMap_eq_nil_iff.mpr fun object _ => rfl
  refine ⟨fun object => ?_, fun object => ?_, ?_⟩
  · rw [hstatus object]
    exact Option.some_ne_none _
  · rw [Released, hstatus object]
    split_ifs with hleaked hfreed
    · exact iff_of_false (fun hnot => hnot rfl) fun hnot => hnot hleaked
    · exact iff_of_true (fun hlive => Status.noConfusion (Option.some.inj hlive)) hleaked
    · exact iff_of_true (fun hlive => Status.noConfusion (Option.some.inj hlive)) hleaked
  · rw [events_append, events_append, hholds.events, hfree]
    rfl

theorem Holds.returnFailed (leaked : List SapObject) {pointers : List SapObject}
    {done : List SapOp} (hholds : Holds (leaked ++ pointers) done) (msgId : MsgId) :
    ∃ after, (Sap.returnFailed msgId token pointers : Sap Bool) done = (none, after) ∧
      Failed token msgId leaked after :=
  ⟨_, returnFailed_apply token msgId pointers done, hholds.failed token msgId⟩

/-- A request from its encoding on. -/
theorem sendRequest_commanded (request : SapRequest) {command : Option (List UInt8)}
    (hmsg : choices.allocates .msg = true)
    (hcommand : command.isSome = true → choices.allocates .command = true) :
    sendRequest p choices request token command [] =
      if choices.pb_get_encoded_size = false ∨ choices.allocates .buffer = false then
        (returnFailed request.msgId token (heldCommand command.isSome ++ [.msg]) : Sap Bool)
          (addedCommand command.isSome)
      else if choices.pb_encode = false then
        (returnFailed request.msgId token (heldCommand command.isSome ++ [.buffer, .msg]) :
          Sap Bool) (prepared command.isSome)
      else addPayloadAndDispatchRequest p choices request.msgId token (p.encode request).length
        (p.encode request) (prepared command.isSome) := by
  cases command with
  | none =>
      cases hsize : choices.pb_get_encoded_size <;> cases hbuffer : choices.allocates .buffer <;>
        cases hencode : choices.pb_encode <;>
        simp [sendRequest, Fallible.bind_apply, hmsg, hsize, hbuffer, hencode, use, prepared,
          addedCommand, heldCommand]
  | some bytes =>
      have halloc := hcommand rfl
      cases hsize : choices.pb_get_encoded_size <;> cases hbuffer : choices.allocates .buffer <;>
        cases hencode : choices.pb_encode <;>
        simp [sendRequest, Fallible.bind_apply, hmsg, halloc, hsize, hbuffer, hencode, use, prepared,
          addedCommand, heldCommand]

theorem sendRequest_prepared (request : SapRequest) {command : Option (List UInt8)}
    (hprepares : choices.prepares command.isSome = true) :
    sendRequest p choices request token command [] =
      addPayloadAndDispatchRequest p choices request.msgId token (p.encode request).length
        (p.encode request) (prepared command.isSome) := by
  simp only [SapChoices.prepares, Bool.and_eq_true, Bool.or_eq_true, Bool.not_eq_true'] at hprepares
  obtain ⟨⟨⟨⟨hmsg, hcommand⟩, hsize⟩, hbuffer⟩, hencode⟩ := hprepares
  have halloc : command.isSome = true → choices.allocates .command = true :=
    fun hsome => hcommand.resolve_left (by rw [hsome]; exact Bool.noConfusion)
  rw [sendRequest_commanded p choices token request hmsg halloc, if_neg, if_neg]
  · rw [hencode]
    exact Bool.noConfusion
  · rw [hsize, hbuffer]
    exact fun h => h.elim Bool.noConfusion Bool.noConfusion

theorem holds_addedCommand (command : Bool) :
    Holds (heldCommand command ++ [.msg]) (addedCommand command) := by
  cases command with
  | false => exact ⟨by decide, fun object => by cases object <;> rfl, rfl⟩
  | true => exact ⟨by decide, fun object => by cases object <;> rfl, rfl⟩

theorem holds_prepared (command : Bool) :
    Holds (heldCommand command ++ [.buffer, .msg]) (prepared command) := by
  cases command with
  | false => exact ⟨by decide, fun object => by cases object <;> rfl, rfl⟩
  | true => exact ⟨by decide, fun object => by cases object <;> rfl, rfl⟩

/-- What the early failures leave behind is freed before the client is told. -/
theorem sendRequest_failed (request : SapRequest) {command : Option (List UInt8)}
    (hprepares : choices.prepares command.isSome = false) :
    ∃ done, sendRequest p choices request token command [] = (none, done) ∧
      Failed token request.msgId [] done := by
  cases hmsg : choices.allocates .msg with
  | false =>
      have hnothing : Holds [] [] := ⟨List.nodup_nil, fun object => rfl, rfl⟩
      have hsent : sendRequest p choices request token command [] =
          (returnFailed request.msgId token [] : Sap Bool) [] := by
        simp [sendRequest, Fallible.bind_apply, hmsg]
      rw [hsent]
      exact Holds.returnFailed token [] hnothing request.msgId
  | true =>
      by_cases hcommand : command.isSome = true → choices.allocates .command = true
      · rw [sendRequest_commanded p choices token request hmsg hcommand]
        split_ifs with hbuffer hencode
        · exact Holds.returnFailed token [] (holds_addedCommand command.isSome) request.msgId
        · exact Holds.returnFailed token [] (holds_prepared command.isSome) request.msgId
        · have hall : choices.prepares command.isSome = true := by
            rw [not_or, Bool.not_eq_false, Bool.not_eq_false] at hbuffer
            rw [Bool.not_eq_false] at hencode
            cases hsome : command.isSome with
            | false => simp [SapChoices.prepares, hmsg, hbuffer, hencode]
            | true => simp [SapChoices.prepares, hmsg, hcommand hsome, hbuffer, hencode]
          rw [hprepares] at hall
          cases hall
      · obtain ⟨hsome, hfails⟩ := Classical.not_imp.mp hcommand
        have hsent : sendRequest p choices request token command [] =
            (returnFailed request.msgId token [.msg] : Sap Bool) (addedCommand false) := by
          simp [sendRequest, Fallible.bind_apply, hmsg, hsome, hfails, use, addedCommand]
        rw [hsent]
        exact Holds.returnFailed token [] (holds_addedCommand false) request.msgId

/-- What was done when the payload is there. -/
def added (command : Bool) : List SapOp :=
  prepared command ++ [.alloc .payload, .use .msg, .use .payload, .use .buffer]

theorem holds_added (command : Bool) :
    Holds (heldCommand command ++ [.payload, .buffer, .msg]) (added command) := by
  cases command with
  | false => exact ⟨by decide, fun object => by cases object <;> rfl, rfl⟩
  | true => exact ⟨by decide, fun object => by cases object <;> rfl, rfl⟩

/-- A use of what is there. -/
theorem Holds.use {objects : List SapObject} {done : List SapOp} (hholds : Holds objects done)
    {object : SapObject} (hmem : object ∈ objects) : Holds objects (done ++ [.use object]) := by
  refine ⟨hholds.nodup, fun other => ?_, ?_⟩
  · rw [statusAfter_append, hholds.status, Option.bind_some]
    by_cases heq : object = other
    · subst heq
      rw [if_pos hmem]
      exact statusAfter_cons rfl
    · exact if_neg fun hobject => heq (Option.some.inj hobject)
  · rw [events_append, hholds.events]
    rfl

/-- The later failures leave the command behind. -/
theorem addPayloadAndDispatchRequest_failed (msgId : MsgId) (bytes_written : Nat)
    (reqPtr : List UInt8) (command : Bool)
    (hfails : (choices.allocates .payload && choices.sapSocket) = false) :
    ∃ done, addPayloadAndDispatchRequest p choices msgId token bytes_written reqPtr
        (prepared command) = (none, done) ∧
      Failed token msgId (heldCommand command) done := by
  cases hpayload : choices.allocates .payload with
  | false =>
      have hsent : addPayloadAndDispatchRequest p choices msgId token bytes_written reqPtr
          (prepared command) = (returnFailed msgId token [.buffer, .msg] : Sap Bool)
            (prepared command ++ [.use .msg]) := by
        simp [addPayloadAndDispatchRequest, Fallible.bind_apply, hpayload, Sap.use]
      have hmem : SapObject.msg ∈ heldCommand command ++ [.buffer, .msg] := by simp
      rw [hsent]
      exact Holds.returnFailed token (heldCommand command) ((holds_prepared command).use hmem) msgId
  | true =>
      have hsocket : choices.sapSocket = false := by rwa [hpayload] at hfails
      have hsent : addPayloadAndDispatchRequest p choices msgId token bytes_written reqPtr
          (prepared command) = (returnFailed msgId token [.payload, .buffer, .msg] : Sap Bool)
            (added command ++ [.use .msg]) := by
        simp [addPayloadAndDispatchRequest, Fallible.bind_apply, hpayload, hsocket, Sap.use, added]
      have hmem : SapObject.msg ∈ heldCommand command ++ [.payload, .buffer, .msg] := by simp
      rw [hsent]
      exact Holds.returnFailed token (heldCommand command) ((holds_added command).use hmem) msgId

theorem addPayloadAndDispatchRequest_dispatches (msgId : MsgId) (bytes_written : Nat)
    (reqPtr : List UInt8) (command : Bool)
    (hpayload : (choices.allocates .payload && choices.sapSocket) = true) :
    addPayloadAndDispatchRequest p choices msgId token bytes_written reqPtr (prepared command) =
      dispatchRequest p choices msgId (reqPtr.take (bytes_written % 2 ^ 16)) (added command) := by
  obtain ⟨hpayload, hsocket⟩ := Bool.and_eq_true_iff.mp hpayload
  simp [addPayloadAndDispatchRequest, Fallible.bind_apply, hpayload, hsocket, Sap.use, added]

/-- What was done when the request is in the queue. -/
def queued (command : Bool) : List SapOp :=
  added command ++ [.alloc .currRequest, .use .msg, .use .currRequest]

/-- What the vendor library is handed, and how. -/
def handedOver (msgId : MsgId) (payload : List UInt8) : List SapOp :=
  [.use .msg, .use .payload, .event (.onRequest msgId (payload.take (payload.length % p.pb_size_t)))]

theorem dispatchRequest_added (msgId : MsgId) (payload : List UInt8) (command : Bool) :
    dispatchRequest p choices msgId payload (added command) =
      if choices.allocates .currRequest = false then (some false, added command ++ [.free .msg])
      else if choices.uimFuncs = false then (some false, queued command)
      else (some true, queued command ++ handedOver p msgId payload) := by
  cases hrequest : choices.allocates .currRequest <;> cases huim : choices.uimFuncs <;>
    simp [dispatchRequest, Fallible.bind_apply, hrequest, huim, Sap.use, Sap.free, queued,
      handedOver]

/-- What is encoded for a request. -/
def encodedRequest : SapRequest → SapRequest
  | .apduReq type command => .apduReq type (command.take (command.length % p.pb_size_t))
  | request => request

/-- The payload of a request, whose length is a `uint16_t`. -/
def payload (request : SapRequest) : List UInt8 :=
  (p.encode (encodedRequest p request)).take ((p.encode (encodedRequest p request)).length % 2 ^ 16)

theorem msgId_encodedRequest (request : SapRequest) :
    (encodedRequest p request).msgId = request.msgId := by
  cases request <;> rfl

theorem call_eq (request : SapRequest) :
    ∃ command : Option (List UInt8), command.isSome = request.hasCommand ∧
      call p choices token request =
        sendRequest p choices (encodedRequest p request) token command := by
  cases request with
  | apduReq type command =>
      refine ⟨_, ?_, rfl⟩
      by_cases hlength : command.length > 0
      · rw [if_pos hlength]
        exact (decide_eq_true hlength).symm
      · rw [if_neg hlength]
        exact (decide_eq_false hlength).symm
  | connectReq | disconnectReq | transferAtrReq | powerReq | resetSimReq
  | transferCardReaderStatusReq | setTransferProtocolReq => exact ⟨none, rfl, rfl⟩

/-- A call that does not get to `dispatchRequest` has failed. -/
theorem call_failed (request : SapRequest)
    (hfails : choices.dispatches request.hasCommand = false) :
    ∃ done, call p choices token request [] = (none, done) ∧
      Failed token request.msgId
        (heldCommand (choices.prepares request.hasCommand && request.hasCommand)) done := by
  obtain ⟨command, hcommand, hcall⟩ := call_eq p choices token request
  rw [← hcommand, ← msgId_encodedRequest p, hcall]
  rw [← hcommand] at hfails
  cases hprepares : choices.prepares command.isSome with
  | false => exact sendRequest_failed p choices token (encodedRequest p request) hprepares
  | true =>
      rw [SapChoices.dispatches, hprepares, Bool.true_and] at hfails
      rw [sendRequest_prepared p choices token (encodedRequest p request) hprepares, Bool.true_and]
      exact addPayloadAndDispatchRequest_failed p choices token _ _ _ _ hfails

theorem call_dispatches (request : SapRequest)
    (hdispatches : choices.dispatches request.hasCommand = true) :
    call p choices token request [] =
      dispatchRequest p choices request.msgId (payload p request) (added request.hasCommand) := by
  obtain ⟨command, hcommand, hcall⟩ := call_eq p choices token request
  rw [← hcommand, SapChoices.dispatches, Bool.and_assoc, Bool.and_eq_true] at hdispatches
  rw [← hcommand, hcall,
    sendRequest_prepared p choices token (encodedRequest p request) hdispatches.1,
    addPayloadAndDispatchRequest_dispatches p choices token _ _ _ _ hdispatches.2,
    msgId_encodedRequest]
  rfl

/-! ## The completion -/

/-- What the client is answered when the response has been allocated. -/
def answer (msgId : MsgId) (response : List UInt8) : SapResponse :=
  match if choices.allocates .responsePtr then p.decode msgId response else none with
  | none => failure token msgId
  | some message => convert token msgId message

theorem failure_answers (msgId : MsgId) : (failure token msgId).answers = (msgId, token) := by
  cases msgId <;> rfl

theorem convert_answers (msgId : MsgId) (message : SapRsp msgId) :
    (convert token msgId message).answers = (msgId, token) := by
  cases msgId <;> rfl

/-- The answer is one to the request, whatever the response is. -/
theorem answer_answers (msgId : MsgId) (response : List UInt8) :
    (answer p choices token msgId response).answers = (msgId, token) := by
  unfold answer
  split
  · exact failure_answers token msgId
  · exact convert_answers token msgId _

/-- What the response is answered with, in between. -/
def processed (msgId : MsgId) (response : List UInt8) : List SapOp :=
  [.alloc .rspPayload, .use .rspPayload, .use .rspPayload] ++
    (if choices.allocates .responsePtr then [.alloc .responsePtr] else []) ++
      [.event (.respond (answer p choices token msgId
        (response.take (response.length % p.pb_size_t)))), .free .rspPayload]

/-- The completion before it frees the header. -/
def completing (msgId : MsgId) (response : List UInt8) : List SapOp :=
  [.use .currRequest, .use .msg] ++
    (if choices.allocates .rspPayload then processed p choices token msgId response else []) ++
      [.use .msg, .use .currRequest, .free .currRequest]

theorem processResponse_apply (msgId : MsgId) (response : List UInt8) (done : List SapOp) :
    processResponse p choices msgId token response done = (some (), done ++ [.use .rspPayload] ++
      (if choices.allocates .responsePtr then [.alloc .responsePtr] else []) ++
        [.event (.respond (answer p choices token msgId response))]) := by
  cases hptr : choices.allocates .responsePtr with
  | false => simp [processResponse, sapDecodeMessage, answer, Fallible.bind_apply, Sap.use, hptr]
  | true =>
      cases hdecode : p.decode msgId response with
      | none =>
          simp [processResponse, sapDecodeMessage, answer, Fallible.bind_apply, Sap.use, hptr, hdecode]
      | some message =>
          simp [processResponse, sapDecodeMessage, answer, Fallible.bind_apply, Sap.use, hptr, hdecode]

theorem onRequestComplete_eq (msgId : MsgId) (response : List UInt8) :
    (onRequestComplete p choices msgId token response []).2 =
      completing p choices token msgId response ++ [.free .msg] := by
  cases hpayload : choices.allocates .rspPayload <;>
    simp [onRequestComplete, completing, processed, processResponse_apply, Fallible.bind_apply,
      Sap.use, Sap.free, hpayload]

/-! ## Whole requests -/

section Runs

variable (request : SapRequest) (response : List UInt8) (schedule : List Bool)

theorem run_failed (hfails : choices.dispatches request.hasCommand = false) :
    Failed token request.msgId
      (heldCommand (choices.prepares request.hasCommand && request.hasCommand))
      (run p choices request token response schedule) := by
  obtain ⟨done, hcall, hfailed⟩ := call_failed p choices token request hfails
  rw [run, hcall]
  exact hfailed

/-- Without memory for the queue, the header is freed and then looked at. -/
theorem run_dropped (hdispatches : choices.dispatches request.hasCommand = true)
    (hrequest : choices.allocates .currRequest = false) :
    run p choices request token response schedule =
      added request.hasCommand ++ [.free .msg] ++ afterDispatch := by
  have hcall := call_dispatches p choices token request hdispatches
  rw [run, hcall, dispatchRequest_added, if_pos hrequest]
  exact congrArg (added request.hasCommand ++ [.free .msg] ++ ·)
    (interleave_nil_right schedule afterDispatch)

theorem run_pending (hpending : choices.pending request.hasCommand = true) :
    run p choices request token response schedule = queued request.hasCommand ++ afterDispatch := by
  obtain ⟨hrequest, huim⟩ := Bool.and_eq_true_iff.mp hpending
  obtain ⟨hdispatches, hrequest⟩ := Bool.and_eq_true_iff.mp hrequest
  have hcall := call_dispatches p choices token request hdispatches
  have hnull : choices.uimFuncs = false := by rwa [Bool.not_eq_true'] at huim
  rw [run, hcall, dispatchRequest_added, if_neg (by rw [hrequest]; exact Bool.noConfusion),
    if_pos hnull]
  exact congrArg (queued request.hasCommand ++ ·) (interleave_nil_right schedule afterDispatch)

/-- The sender goes on while the completion runs. -/
theorem run_handedOver (hdispatches : choices.dispatches request.hasCommand = true)
    (hrequest : choices.allocates .currRequest = true) (huim : choices.uimFuncs = true) :
    run p choices request token response schedule =
      queued request.hasCommand ++ handedOver p request.msgId (payload p request) ++
        interleave schedule afterDispatch
          (completing p choices token request.msgId response ++ [.free .msg]) := by
  rw [run, call_dispatches p choices token request hdispatches, dispatchRequest_added,
    if_neg (by rw [hrequest]; exact Bool.noConfusion),
    if_neg (by rw [huim]; exact Bool.noConfusion), ← onRequestComplete_eq]
  rfl

end Runs

end Sap

end Serrano.Ril
