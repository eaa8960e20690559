import Serrano.Ril.SapOutcomes

/-! # The storage of SAP requests

The header of a request belongs to its completion, and what it points to belongs to
the sender, which goes through the header to free it. A command is freed when its
encoding fails, and at no other time.
-/

namespace Serrano.Ril

/-- The number of steps that a completion takes; the last one frees the header. -/
def SapChoices.completionSteps (choices : SapChoices) : Nat :=
  6 + if choices.allocates .rspPayload then if choices.allocates .responsePtr then 6 else 5 else 0

namespace Sap

open Lifetime

variable (p : Protobuf) (choices : SapChoices) (token : Int)

theorem length_completing (msgId : MsgId) (response : List UInt8) :
    (completing p choices token msgId response).length + 1 = choices.completionSteps := by
  cases hpayload : choices.allocates .rspPayload <;> cases hptr : choices.allocates .responsePtr <;>
    simp [completing, processed, SapChoices.completionSteps, hpayload, hptr]

theorem mem_completing {msgId : MsgId} {response : List UInt8} {op : SapOp}
    (hop : op ∈ completing p choices token msgId response) :
    op = .use .msg ∨ ∀ object ∈ [SapObject.msg, .command, .buffer, .payload],
      op.object ≠ some object := by
  simp only [completing, processed] at hop
  split_ifs at hop <;>
    simp only [List.mem_append, List.mem_cons, List.not_mem_nil, or_false] at hop <;>
    grind [Op.object]

/-- The completion is not about the rest of what the sender has. -/
theorem object_ne_of_mem_completion {msgId : MsgId} {response : List UInt8} {object : SapObject}
    (hobject : object ∈ [SapObject.command, .buffer, .payload]) :
    ∀ op ∈ completing p choices token msgId response ++ [.free .msg], op.object ≠ some object := by
  have hne : SapObject.msg ≠ object := by
    rintro rfl
    revert hobject
    decide
  intro op hop
  rcases List.mem_append.mp hop with hop | hop
  · rcases mem_completing p choices token hop with rfl | hother
    · exact fun heq => hne (Option.some.inj heq)
    · exact hother object (List.mem_cons_of_mem _ hobject)
  · rw [List.mem_singleton.mp hop]
    exact fun heq => hne (Option.some.inj heq)

/-- What the completion makes of the objects that are not the header. -/
theorem status_completing (msgId : MsgId) (response : List UInt8) {object : SapObject}
    (hobject : object ≠ .msg) :
    statusAfter object (completing p choices token msgId response ++ [.free .msg])
      (if object = .currRequest then .live else .absent) =
        some (match object with
          | .msg | .command | .buffer | .payload => .absent
          | .currRequest => .freed
          | .rspPayload => if choices.allocates .rspPayload then .freed else .absent
          | .responsePtr => if choices.allocates .rspPayload && choices.allocates .responsePtr then
              .live else .absent) := by
  cases object <;> cases hpayload : choices.allocates .rspPayload <;>
    cases hptr : choices.allocates .responsePtr <;>
    simp [completing, processed, hpayload, hptr, statusAfter, Op.object, Op.apply] at hobject ⊢

theorem status_handedOver (command : Bool) (msgId : MsgId) (payload : List UInt8)
    (object : SapObject) :
    statusAfter object (queued command ++ handedOver p msgId payload) .absent =
      some (if object ∈ heldCommand command ++ [.payload, .buffer, .msg, .currRequest] then .live
        else .absent) := by
  cases command <;> cases object <;> rfl

section Runs

variable (request : SapRequest) (response : List UInt8) (schedule : List Bool)

/-- What becomes of each object of a request that is handed over. -/
theorem status_run (hdispatches : choices.dispatches request.hasCommand = true)
    (hrequest : choices.allocates .currRequest = true) (huim : choices.uimFuncs = true)
    (object : SapObject) :
    statusAfter object (run p choices request token response schedule) .absent =
      match object with
      | .msg => if lead schedule < choices.completionSteps then some .freed else none
      | .command => some (if request.hasCommand then .live else .absent)
      | .buffer | .payload | .currRequest => some .freed
      | .rspPayload => some (if choices.allocates .rspPayload then .freed else .absent)
      | .responsePtr => some (if choices.allocates .rspPayload && choices.allocates .responsePtr then
              .live else .absent) := by
  have hrun := run_handedOver p choices token request response schedule hdispatches hrequest huim
  have hsender : ∀ other ∈ [SapObject.command, .currRequest, .rspPayload, .responsePtr],
      ∀ op ∈ afterDispatch, op.object ≠ some other := by decide
  rw [hrun, statusAfter_append, status_handedOver, Option.bind_some]
  cases object with
  | msg =>
      have huse : ∀ op ∈ completing p choices token request.msgId response,
          op.object = some .msg → op = .use .msg := fun op hop hobject =>
        (mem_completing p choices token hop).resolve_right fun hother =>
          hother .msg List.mem_cons_self hobject
      have hrest : ∀ op ∈ ([.free .payload, .free .buffer] : List SapOp),
          op.object ≠ some .msg := by decide
      have hsteps : lead schedule ≤ (completing p choices token request.msgId response).length ↔
          lead schedule < choices.completionSteps := by
        rw [← length_completing p choices token request.msgId response, Nat.lt_add_one_iff]
      rw [if_pos (by simp), afterDispatch, statusAfter_interleave_use schedule hrest huse]
      exact if_congr hsteps rfl rfl
  | command =>
      rw [statusAfter_interleave_right schedule (hsender .command (by decide)),
        statusAfter_of_forall_ne (object_ne_of_mem_completion p choices token (by decide))]
      cases request.hasCommand <;> rfl
  | buffer | payload =>
      rw [if_pos (by simp), statusAfter_interleave_left schedule
        (object_ne_of_mem_completion p choices token (by decide))]
      rfl
  | currRequest =>
      rw [if_pos (by simp), statusAfter_interleave_right schedule
        (hsender .currRequest (by decide))]
      exact status_completing p choices token request.msgId response SapObject.noConfusion
  | rspPayload =>
      have hnot : SapObject.rspPayload ∉
          heldCommand request.hasCommand ++ [.payload, .buffer, .msg, .currRequest] := by
        cases request.hasCommand <;> decide
      rw [if_neg hnot, statusAfter_interleave_right schedule (hsender .rspPayload (by decide))]
      exact status_completing p choices token request.msgId response SapObject.noConfusion
  | responsePtr =>
      have hnot : SapObject.responsePtr ∉
          heldCommand request.hasCommand ++ [.payload, .buffer, .msg, .currRequest] := by
        cases request.hasCommand <;> decide
      rw [if_neg hnot, statusAfter_interleave_right schedule (hsender .responsePtr (by decide))]
      exact status_completing p choices token request.msgId response SapObject.noConfusion

/-- Nothing is misused, and what the request took is given back unless it is still in
the queue. The decoded message is not among that. -/
def KeepsStorage : Prop :=
  WellUsed (run p choices request token response schedule) ∧
    (choices.pending request.hasCommand = false →
      ∀ object, object ≠ .responsePtr →
        Released (run p choices request token response schedule) object)

theorem pending_eq_false (hfails : choices.dispatches request.hasCommand = false) :
    choices.pending request.hasCommand = false := by
  rw [SapChoices.pending, hfails, Bool.false_and, Bool.false_and]

theorem keepsStorage_failed (hfails : choices.dispatches request.hasCommand = false) :
    KeepsStorage p choices token request response schedule ↔
      (choices.prepares request.hasCommand && request.hasCommand) = false := by
  have hfailed := run_failed p choices token request response schedule hfails
  constructor
  · intro hkeeps
    have hreleased := hkeeps.2 (pending_eq_false choices request hfails) .command
      SapObject.noConfusion
    have hnot := (hfailed.released .command).mp hreleased
    cases hleaked : choices.prepares request.hasCommand && request.hasCommand with
    | false => rfl
    | true => exact absurd (by rw [hleaked]; exact List.mem_cons_self) hnot
  · intro hnone
    refine ⟨hfailed.wellUsed, fun _ object _ => (hfailed.released object).mpr ?_⟩
    rw [hnone]
    exact List.not_mem_nil

/-- `free(msg->payload)` is through a header that `dispatchRequest` has freed. -/
theorem not_keepsStorage_dropped (hdispatches : choices.dispatches request.hasCommand = true)
    (hrequest : choices.allocates .currRequest = false) :
    ¬ KeepsStorage p choices token request response schedule := by
  intro hkeeps
  have hmsg := hkeeps.1 .msg
  rw [run_dropped p choices token request response schedule hdispatches hrequest] at hmsg
  apply hmsg
  cases request.hasCommand <;> rfl

theorem keepsStorage_pending (hpending : choices.pending request.hasCommand = true) :
    KeepsStorage p choices token request response schedule := by
  refine ⟨fun object => ?_, fun hnot => ?_⟩
  · rw [run_pending p choices token request response schedule hpending]
    cases request.hasCommand <;> cases object <;> exact Option.some_ne_none _
  · rw [hpending] at hnot
    cases hnot

theorem keepsStorage_handedOver (hdispatches : choices.dispatches request.hasCommand = true)
    (hrequest : choices.allocates .currRequest = true) (huim : choices.uimFuncs = true) :
    KeepsStorage p choices token request response schedule ↔
      request.hasCommand = false ∧ lead schedule < choices.completionSteps := by
  have hstatus := status_run p choices token request response schedule hdispatches hrequest huim
  have hpending : choices.pending request.hasCommand = false := by
    rw [SapChoices.pending, huim, Bool.not_true, Bool.and_false]
  constructor
  · intro hkeeps
    constructor
    · have hreleased := hkeeps.2 hpending .command SapObject.noConfusion
      rw [Released, hstatus] at hreleased
      cases hcommand : request.hasCommand with
      | false => rfl
      | true => exact absurd (by rw [hcommand]; rfl) hreleased
    · have hmsg := hkeeps.1 .msg
      rw [hstatus] at hmsg
      by_contra hlate
      exact hmsg (if_neg hlate)
  · rintro ⟨hcommand, hsteps⟩
    refine ⟨fun object => ?_, fun _ object hobject => ?_⟩
    · rw [hstatus]
      cases object with
      | msg => rw [if_pos hsteps]; exact Option.some_ne_none _
      | _ => exact Option.some_ne_none _
    · have hfreed : some Status.freed ≠ some Status.live := by decide
      have habsent : some Status.absent ≠ some Status.live := by decide
      rw [Released, hstatus]
      cases object with
      | msg => rw [if_pos hsteps]; exact hfreed
      | command => rw [hcommand]; exact habsent
      | buffer | payload | currRequest => exact hfreed
      | rspPayload =>
          cases choices.allocates .rspPayload with
          | false => exact habsent
          | true => exact hfreed
      | responsePtr => exact absurd rfl hobject

/-- Once it gets past its encoding a request must have no command, and one that is
dispatched must be queued and not be completed before the sender looks at the header. -/
theorem keepsStorage_iff : KeepsStorage p choices token request response schedule ↔
    (choices.prepares request.hasCommand = true →
      request.hasCommand = false ∨ choices.pending request.hasCommand = true) ∧
    (choices.dispatches request.hasCommand = true → choices.allocates .currRequest = true ∧
      (choices.uimFuncs = true → lead schedule < choices.completionSteps)) := by
  cases hdispatches : choices.dispatches request.hasCommand with
  | false =>
      rw [keepsStorage_failed p choices token request response schedule hdispatches,
        pending_eq_false choices request hdispatches]
      cases choices.prepares request.hasCommand <;> simp
  | true =>
      have hprepares : choices.prepares request.hasCommand = true := by
        rw [SapChoices.dispatches, Bool.and_assoc, Bool.and_eq_true] at hdispatches
        exact hdispatches.1
      cases hrequest : choices.allocates .currRequest with
      | false =>
          have hnot :=
            not_keepsStorage_dropped p choices token request response schedule hdispatches hrequest
          exact iff_of_false hnot fun h => Bool.noConfusion (h.2 rfl).1
      | true =>
          cases huim : choices.uimFuncs with
          | false =>
              have hpending : choices.pending request.hasCommand = true := by
                rw [SapChoices.pending, hdispatches, hrequest, huim]
                rfl
              have hkeeps := keepsStorage_pending p choices token request response schedule hpending
              exact iff_of_true hkeeps
                ⟨fun _ => .inr hpending, fun _ => ⟨rfl, Bool.noConfusion⟩⟩
          | true =>
              rw [keepsStorage_handedOver p choices token request response schedule hdispatches
                hrequest huim, SapChoices.pending, huim, hprepares]
              simp

/-- A request that the vendor library completes before `onRequest` returns. -/
theorem not_keepsStorage_synchronous :
    ¬ KeepsStorage ⟨fun _ => [8, 172, 2], fun _ _ => none, 2 ^ 32⟩
      ⟨fun _ => true, true, true, true, true⟩ 7 (.connectReq 300) [] (List.replicate 12 false) := by
  intro hkeeps
  exact hkeeps.1 .msg (by decide)

end Runs

end Sap

end Serrano.Ril
