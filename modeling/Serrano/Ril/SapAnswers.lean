import Serrano.Ril.SapOutcomes

/-! # What the client and the vendor library get of a SAP request

One response, unless the memory for the queue or for the response is missing, and the
encoding of the request as far as its length fits into a `uint16_t`.
-/

namespace Serrano.Ril

namespace Sap

open Lifetime

variable (p : Protobuf) (choices : SapChoices) (token : Int)

def responses (done : List SapOp) : List SapResponse := (events done).filterMap SapEvent.response

def requests (done : List SapOp) : List (List UInt8) := (events done).filterMap SapEvent.request

theorem events_added (command : Bool) : events (added command) = [] :=
  (holds_added command).events

theorem events_queued (command : Bool) : events (queued command) = [] := by
  rw [queued, events_append, events_added]
  rfl

theorem events_handedOver (msgId : MsgId) (payload : List UInt8) :
    events (handedOver p msgId payload) =
      [.onRequest msgId (payload.take (payload.length % p.pb_size_t))] := rfl

theorem events_completion (msgId : MsgId) (response : List UInt8) :
    events (completing p choices token msgId response ++ [.free .msg]) =
      if choices.allocates .rspPayload then
        [.respond (answer p choices token msgId (response.take (response.length % p.pb_size_t)))]
      else [] := by
  cases hpayload : choices.allocates .rspPayload <;> cases hptr : choices.allocates .responsePtr <;>
    simp only [completing, processed, hpayload, hptr] <;> rfl

section Runs

variable (request : SapRequest) (response : List UInt8) (schedule : List Bool)

theorem events_run_handedOver (hdispatches : choices.dispatches request.hasCommand = true)
    (hrequest : choices.allocates .currRequest = true) (huim : choices.uimFuncs = true) :
    events (run p choices request token response schedule) =
      .onRequest request.msgId
          ((payload p request).take ((payload p request).length % p.pb_size_t)) ::
        if choices.allocates .rspPayload then
          [.respond (answer p choices token request.msgId
            (response.take (response.length % p.pb_size_t)))]
        else [] := by
  rw [run_handedOver p choices token request response schedule hdispatches hrequest huim,
    events_append, events_append, events_queued, events_handedOver, events_interleave_right _ rfl,
    events_completion]
  rfl

/-- The client gets one response, which is of the kind of its request and has its token. -/
def Answered : Prop :=
  ∃ rsp, responses (run p choices request token response schedule) = [rsp] ∧
    rsp.answers = (request.msgId, token)

/-- A failure before the queue is answered at once. Without memory for the queue or for
the response nobody is told. -/
theorem answered_iff (huim : choices.uimFuncs = true) :
    Answered p choices token request response schedule ↔
      (choices.dispatches request.hasCommand = true →
        choices.allocates .currRequest = true ∧ choices.allocates .rspPayload = true) := by
  cases hdispatches : choices.dispatches request.hasCommand with
  | false =>
      have hfailed := run_failed p choices token request response schedule hdispatches
      have hanswered : Answered p choices token request response schedule := by
        refine ⟨failure token request.msgId, ?_, failure_answers token request.msgId⟩
        rw [responses, hfailed.events]
        rfl
      exact iff_of_true hanswered Bool.noConfusion
  | true =>
      cases hrequest : choices.allocates .currRequest with
      | false =>
          have hsilent : responses (run p choices request token response schedule) = [] := by
            rw [run_dropped p choices token request response schedule hdispatches hrequest,
              responses, events_append, events_append, events_added]
            rfl
          refine iff_of_false ?_ fun h => Bool.noConfusion (h rfl).1
          rintro ⟨rsp, hrsp, -⟩
          rw [hsilent] at hrsp
          cases hrsp
      | true =>
          have hevents :=
            events_run_handedOver p choices token request response schedule hdispatches hrequest huim
          cases hpayload : choices.allocates .rspPayload with
          | false =>
              have hsilent : responses (run p choices request token response schedule) = [] := by
                rw [responses, hevents, hpayload]
                rfl
              refine iff_of_false ?_ fun h => Bool.noConfusion (h rfl).2
              rintro ⟨rsp, hrsp, -⟩
              rw [hsilent] at hrsp
              cases hrsp
          | true =>
              have hanswered : Answered p choices token request response schedule := by
                refine ⟨_, ?_, answer_answers p choices token request.msgId
                  (response.take (response.length % p.pb_size_t))⟩
                rw [responses, hevents, hpayload]
                rfl
              exact iff_of_true hanswered fun _ => ⟨rfl, rfl⟩

/-- A response that cannot be decoded. -/
theorem answered_malformed :
    Answered ⟨fun _ => [8, 172, 2], fun _ _ => none, 2 ^ 32⟩ ⟨fun _ => true, true, true, true, true⟩
      7 (.connectReq 300) [255] [] :=
  (answered_iff ⟨fun _ => [8, 172, 2], fun _ _ => none, 2 ^ 32⟩
    ⟨fun _ => true, true, true, true, true⟩ 7 (.connectReq 300) [255] [] rfl).mpr
      fun _ => ⟨rfl, rfl⟩

/-- Everything succeeds but the memory for the response. -/
theorem not_answered_response : ¬ Answered ⟨fun _ => [], fun _ _ => none, 2 ^ 32⟩
    ⟨fun object => object ≠ .rspPayload, true, true, true, true⟩ 7 .disconnectReq [] [] := by
  rintro ⟨rsp, hrsp, -⟩
  cases hrsp

end Runs

/-! ## The bytes of an APDU -/

section Apdu

variable (type : Int) (command : List UInt8) (response : List UInt8) (schedule : List Bool)

/-- The vendor library is given the encoding of the APDU, which decodes to it. -/
def HandsOverApdu (decodeRequest : List UInt8 → Option SapRequest) : Prop :=
  ∃ bytes, requests (run p choices (.apduReq type command) token response schedule) = [bytes] ∧
    bytes = p.encode (.apduReq type command) ∧ decodeRequest bytes = some (.apduReq type command)

theorem requests_run
    (hdispatches : choices.dispatches (SapRequest.apduReq type command).hasCommand = true)
    (hrequest : choices.allocates .currRequest = true) (huim : choices.uimFuncs = true)
    (hcommand : command.length < p.pb_size_t)
    (hencoded : (p.encode (.apduReq type command)).length < p.pb_size_t) :
    requests (run p choices (.apduReq type command) token response schedule) =
      [(p.encode (.apduReq type command)).take
        ((p.encode (.apduReq type command)).length % 2 ^ 16)] := by
  have hsame : encodedRequest p (.apduReq type command) = .apduReq type command := by
    rw [encodedRequest, Nat.mod_eq_of_lt hcommand, List.take_length]
  have hlength : (payload p (.apduReq type command)).length < p.pb_size_t := by
    rw [payload, hsame, List.length_take]
    exact Nat.lt_of_le_of_lt (Nat.min_le_right _ _) hencoded
  rw [requests, events_run_handedOver p choices token _ response schedule hdispatches hrequest huim,
    Nat.mod_eq_of_lt hlength, List.take_length, payload, hsame]
  cases choices.allocates .rspPayload <;> rfl

/-- The length of the encoding must fit into a `uint16_t`. -/
theorem handsOverApdu_iff {decodeRequest : List UInt8 → Option SapRequest}
    (hdecode : decodeRequest (p.encode (.apduReq type command)) = some (.apduReq type command))
    (hcommand : command.length < p.pb_size_t)
    (hencoded : (p.encode (.apduReq type command)).length < p.pb_size_t)
    (hdispatches : choices.dispatches (SapRequest.apduReq type command).hasCommand = true)
    (hrequest : choices.allocates .currRequest = true) (huim : choices.uimFuncs = true) :
    HandsOverApdu p choices token type command response schedule decodeRequest ↔
      (p.encode (.apduReq type command)).length < 2 ^ 16 := by
  have hrequests := requests_run p choices token type command response schedule hdispatches hrequest
    huim hcommand hencoded
  constructor
  · rintro ⟨bytes, hbytes, rfl, -⟩
    rw [hrequests] at hbytes
    have hlength := congrArg List.length (List.singleton_inj.mp hbytes)
    rw [List.length_take, Nat.min_eq_left (Nat.mod_le _ _)] at hlength
    rw [← hlength]
    exact Nat.mod_lt _ (Nat.two_pow_pos 16)
  · intro hfits
    refine ⟨p.encode (.apduReq type command), ?_, rfl, hdecode⟩
    rw [hrequests, Nat.mod_eq_of_lt hfits, List.take_length]

/-- The encoding of the APDU `A0 A4`. -/
theorem handsOverApdu_select :
    HandsOverApdu ⟨fun _ => [8, 0, 18, 2, 160, 164], fun _ _ => none, 2 ^ 32⟩
      ⟨fun _ => true, true, true, true, true⟩ 7 0 [160, 164] [] []
      (fun bytes => if bytes = [8, 0, 18, 2, 160, 164] then some (.apduReq 0 [160, 164]) else none) :=
  (handsOverApdu_iff ⟨fun _ => [8, 0, 18, 2, 160, 164], fun _ _ => none, 2 ^ 32⟩
    ⟨fun _ => true, true, true, true, true⟩ 7 0 [160, 164] [] [] (by decide) (by decide) (by decide)
    rfl rfl rfl).mpr (by decide)

/-- The encoding of commands of 65536 bytes. -/
def longCommand : Protobuf where
  encode
    | .apduReq _ command => [8, 0, 18, 128, 128, 4] ++ command
    | _ => []
  decode _ _ := none
  pb_size_t := 2 ^ 32

/-- The vendor library is given six bytes and none of the command. -/
theorem not_handsOverApdu_long :
    ¬ HandsOverApdu longCommand ⟨fun _ => true, true, true, true, true⟩ 7 0
      (List.replicate 65536 0) [] [] (fun bytes => some (.apduReq 0 (bytes.drop 6))) := by
  have hlength : (longCommand.encode (.apduReq 0 (List.replicate 65536 0))).length = 65542 := by
    rw [longCommand, List.length_append, List.length_replicate]
    rfl
  have hcommand : (SapRequest.apduReq 0 (List.replicate 65536 0)).hasCommand = true := by
    rw [SapRequest.hasCommand, List.length_replicate]
    rfl
  rintro ⟨bytes, hbytes, rfl, -⟩
  rw [requests_run longCommand _ 7 0 _ [] [] _ rfl rfl, hlength] at hbytes
  · have hshort := congrArg List.length (List.singleton_inj.mp hbytes)
    rw [List.length_take, hlength] at hshort
    revert hshort
    decide
  · rw [List.length_replicate]
    decide
  · rw [hlength]
    decide
  · rw [hcommand]
    rfl

end Apdu

end Sap

end Serrano.Ril
