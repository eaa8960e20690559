import Serrano.Ril.RequestLists

/-! # Who is answered

The requests that were added and not completed since are computed from the
history alone. By these, each call has one of a few effects, and a run of calls
answers every request at most once.
-/

namespace Serrano.Ril

/-- The requests that a history leaves open. -/
def openRequests (history : List RequestEvent) : List OpenRequest :=
  history.foldl OpenRequest.update []

@[simp] theorem openRequests_append (history events : List RequestEvent) :
    openRequests (history ++ events) = events.foldl OpenRequest.update (openRequests history) := by
  simp [openRequests]

def RequestEvent.answers (pRI : Nat) : RequestEvent → Bool
  | .response other _ _ _ => other = pRI
  | _ => false

/-- The answer of `calloc`, when it is asked for one. -/
def RequestCall.calloc {simCount : Nat} : RequestCall simCount → Option Nat
  | .addRequestToList _ _ _ calloc => calloc
  | .onRequestAck .. | .onRequestComplete .. => none

/-- The address of a request that was added. -/
def RequestEvent.newAddress : RequestEvent → Option Nat
  | .added pRI _ _ _ => some pRI
  | _ => none

namespace Requests

variable {k : Platform} {s : Requests} {opened : List OpenRequest}

/-- What a call does, by what is open and which addresses were used before. -/
inductive Happens (k : Platform) (opened : List OpenRequest) (used : List Nat) :
    RequestCall k.simCount → List RequestEvent → Prop
  | refused (serial : Int) (slotId : Fin k.simCount) (request : Int) (calloc : Option Nat) :
      Happens k opened used (.addRequestToList serial slotId request calloc)
        [.refused serial slotId request]
  | added (serial : Int) (slotId : Fin k.simCount) (request : Int) (pRI : Nat)
      (hnew : pRI ∉ used) :
      Happens k opened used (.addRequestToList serial slotId request (some pRI))
        [.added pRI serial slotId request]
  | strangerAck (t : Option Nat) (stale : Nat) (connected : Bool)
      (hstranger : ∀ r ∈ opened, t ≠ some r.pRI) :
      Happens k opened used (.onRequestAck t stale connected) [.ack t]
  | ack (r : OpenRequest) (hr : r ∈ opened) (stale : Nat) (connected : Bool) :
      Happens k opened used (.onRequestAck (some r.pRI) stale connected)
        (.ack (some r.pRI) ::
          if connected then [.acknowledgeRequest r.slotId r.serial] else [])
  | strangerComplete (t : Option Nat) (stale : Nat) (connected : Bool)
      (hstranger : ∀ r ∈ opened, t ≠ some r.pRI) :
      Happens k opened used (.onRequestComplete t stale connected) [.complete t]
  | unanswered (r : OpenRequest) (hr : r ∈ opened) (stale : Nat) (connected : Bool)
      (rest : List RequestEvent) (hrest : rest = [] ∨ rest = [.freed r.pRI]) :
      Happens k opened used (.onRequestComplete (some r.pRI) stale connected)
        (.complete (some r.pRI) :: rest)
  | answered (r : OpenRequest) (hr : r ∈ opened) (stale : Nat) :
      Happens k opened used (.onRequestComplete (some r.pRI) stale true)
        [.complete (some r.pRI),
          .response r.pRI r.slotId (responseType k r.acked) r.serial, .freed r.pRI]

/-- What is said of the state that a call leads to. -/
structure Leads (k : Platform) (s : Requests) (opened : List OpenRequest)
    (call : RequestCall k.simCount) (s' : Requests) (events : List RequestEvent) : Prop where
  happens : Happens k opened s.used call events
  history : s'.history = s.history ++ events
  lists : s'.Lists k (events.foldl OpenRequest.update opened)
  used : s'.used = (events.filterMap RequestEvent.newAddress).reverse ++ s.used

theorem leads_addRequestToList (hs : s.Lists k opened) (serial : Int)
    (slotId : Fin k.simCount) (request : Int) (calloc : Option Nat)
    (hfresh : ∀ pRI ∈ calloc, pRI ∉ s.used) :
    ∃ s' events, s.addRequestToList k serial slotId request calloc = some s' ∧
      s.Leads k opened (.addRequestToList serial slotId request calloc) s' events := by
  have hrefused : s.Leads k opened (.addRequestToList serial slotId request calloc)
      (s.record [.refused serial slotId request]) [.refused serial slotId request] :=
    ⟨.refused .., rfl, hs.record _, rfl⟩
  by_cases hrange : (k.numCommands : Int) ≤ request
  · exact ⟨_, _, if_pos hrange, hrefused⟩
  · cases calloc with
    | none => exact ⟨_, _, if_neg hrange, hrefused⟩
    | some pRI =>
        have hnew := hfresh pRI rfl
        refine ⟨_, [.added pRI serial slotId request], (if_neg hrange).trans (if_neg hnew),
          .added serial slotId request pRI hnew, rfl, ?_, rfl⟩
        exact (hs.added hnew slotId.isLt ⟨rfl, rfl, rfl, rfl, rfl, rfl⟩ rfl).record _

theorem checkAndDequeue_stranger (hs : s.Lists k opened) {t : Option Nat}
    (hstranger : ∀ r ∈ opened, t ≠ some r.pRI) (stale : Nat) (isAck : Bool) :
    s.checkAndDequeueRequestInfoIfAck k t stale isAck = some (none, s) := by
  cases t with
  | none => rfl
  | some pRI => exact dequeueIfAck_absent hs (fun r hr heq => hstranger r hr (heq ▸ rfl)) _ isAck

/-- The token of an open request points to its socket. -/
theorem checkAndDequeue_open (hs : s.Lists k opened) {r : OpenRequest} (hr : r ∈ opened)
    (stale : Nat) (isAck : Bool) :
    s.checkAndDequeueRequestInfoIfAck k (some r.pRI) stale isAck =
      s.dequeueIfAck k r.pRI r.slotId isAck := by
  obtain ⟨info, hinfo, hdescribes⟩ := hs.info r hr
  rw [checkAndDequeueRequestInfoIfAck, hinfo, Option.map_some, Option.getD_some,
    hdescribes.socket_id]

theorem onRequestAck_stranger (hs : s.Lists k opened) {t : Option Nat}
    (hstranger : ∀ r ∈ opened, t ≠ some r.pRI) (stale : Nat) (connected : Bool) :
    s.onRequestAck k t stale connected = some (s.record [.ack t]) := by
  rw [onRequestAck, checkAndDequeue_stranger (hs.record _) hstranger, Option.bind_some]

theorem onRequestComplete_stranger (hs : s.Lists k opened) {t : Option Nat}
    (hstranger : ∀ r ∈ opened, t ≠ some r.pRI) (stale : Nat) (connected : Bool) :
    s.onRequestComplete k t stale connected = some (s.record [.complete t]) := by
  rw [onRequestComplete, checkAndDequeue_stranger (hs.record _) hstranger, Option.bind_some]

theorem map_acked_eq_self {t : Option Nat} (hstranger : ∀ r ∈ opened, t ≠ some r.pRI) :
    (opened.map fun r => if t = some r.pRI then { r with acked := true } else r) = opened := by
  conv_rhs => rw [← List.map_id opened]
  exact List.map_congr_left fun r hr => if_neg (hstranger r hr)

theorem leads_onRequestAck (hs : s.Lists k opened) (t : Option Nat) (stale : Nat)
    (connected : Bool) :
    ∃ s' events, s.onRequestAck k t stale connected = some s' ∧
      s.Leads k opened (.onRequestAck t stale connected) s' events := by
  by_cases hstranger : ∀ r ∈ opened, t ≠ some r.pRI
  · refine ⟨_, _, onRequestAck_stranger hs hstranger stale connected,
      .strangerAck t stale connected hstranger, rfl, ?_, rfl⟩
    rw [List.foldl_cons, OpenRequest.update, map_acked_eq_self hstranger]
    exact hs.record _
  · push Not at hstranger
    obtain ⟨r, hr, rfl⟩ := hstranger
    have hrecord := hs.record [RequestEvent.ack (some r.pRI)]
    obtain ⟨info, hinfo, hdescribes⟩ := hrecord.info r hr
    have hlists := hrecord.acked r.pRI
    refine ⟨((s.record [.ack (some r.pRI)]).withRequest r.pRI fun info =>
        { info with wasAckSent := true }).record
          (if connected then [.acknowledgeRequest r.slotId r.serial] else []), _, ?_,
      .ack r hr stale connected, ?_, ?_, ?_⟩
    · rw [onRequestAck, checkAndDequeue_open hrecord hr, dequeueIfAck_acked hrecord hr rfl,
        Option.bind_some]
      simp only [withRequest_memory_self, hinfo, Option.map_some, hdescribes.cancelled,
        hdescribes.socket_id, hdescribes.token, true_and]
      cases connected with
      | true => rfl
      | false => simp [record]
    · cases connected <;> simp [record, withRequest]
    · cases connected with
      | true => exact hlists.record _
      | false => exact hlists.record _
    · cases connected <;> rfl

theorem respond_eq {r : OpenRequest} {info : RequestInfo} (hdescribes : r.Describes info)
    (connected : Bool) :
    s.respond k r.pRI info connected =
      if k.responseFunction r.request = false then { s with died := true }
      else if connected then
        (s.record [.response r.pRI r.slotId (responseType k r.acked) r.serial]).free r.pRI
      else s.free r.pRI := by
  rw [respond, if_neg (by simp [hdescribes.isLocal]), if_neg (by simp [hdescribes.cancelled]),
    hdescribes.pCI, hdescribes.socket_id, hdescribes.token, hdescribes.wasAckSent]

theorem leads_onRequestComplete (hs : s.Lists k opened) (t : Option Nat) (stale : Nat)
    (connected : Bool) :
    ∃ s' events, s.onRequestComplete k t stale connected = some s' ∧
      s.Leads k opened (.onRequestComplete t stale connected) s' events := by
  by_cases hstranger : ∀ r ∈ opened, t ≠ some r.pRI
  · refine ⟨_, _, onRequestComplete_stranger hs hstranger stale connected,
      .strangerComplete t stale connected hstranger, rfl, ?_, rfl⟩
    rw [List.foldl_cons, OpenRequest.update, List.filter_eq_self.mpr]
    · exact hs.record _
    · exact fun r hr => by simpa using hstranger r hr
  · push Not at hstranger
    obtain ⟨r, hr, rfl⟩ := hstranger
    have hrecord := hs.record [RequestEvent.complete (some r.pRI)]
    obtain ⟨found, info, hfound, hlists, hinfo, hdescribes, hhistory, hused⟩ :=
      dequeueIfAck_completed hrecord hr rfl
    have hother : ∀ other ∈ opened.filter fun other => some r.pRI ≠ some other.pRI,
        other.pRI ≠ r.pRI := by
      intro other hmem heq
      simp [heq] at hmem
    rw [onRequestComplete, checkAndDequeue_open hrecord hr, hfound, Option.bind_some]
    simp only [hinfo, Option.map_some, respond_eq hdescribes]
    by_cases hfunction : k.responseFunction r.request = false
    · rw [if_pos hfunction]
      exact ⟨_, _, rfl, .unanswered r hr stale connected [] (.inl rfl), hhistory,
        ⟨hlists.path, hlists.info, hlists.slot, hlists.nodup, hlists.used, hlists.fits⟩, hused⟩
    · rw [if_neg hfunction]
      cases connected with
      | true =>
          refine ⟨_, _, rfl, .answered r hr stale, ?_, (hlists.record _).freed hother, hused⟩
          change (_ ++ [_]) ++ [_] = _
          rw [hhistory]
          simp [record]
      | false =>
          refine ⟨_, _, rfl, .unanswered r hr stale false [.freed r.pRI] (.inr rfl), ?_,
            hlists.freed hother, hused⟩
          change _ ++ [_] = _
          rw [hhistory]
          simp [record]

/-- Every call returns, unless `calloc` answered an address again. -/
theorem leads_step (hs : s.Lists k opened) (halive : s.died = false)
    (call : RequestCall k.simCount) (hfresh : ∀ pRI ∈ call.calloc, pRI ∉ s.used) :
    ∃ s' events, s.step k call = some s' ∧ s.Leads k opened call s' events := by
  simp only [step, halive, Bool.false_eq_true, if_false]
  cases call with
  | addRequestToList serial slotId request calloc =>
      exact leads_addRequestToList hs serial slotId request calloc hfresh
  | onRequestAck t stale connected => exact leads_onRequestAck hs t stale connected
  | onRequestComplete t stale connected => exact leads_onRequestComplete hs t stale connected

/-- Every response is the only one to its request, goes to the slot and with the
serial of the request, directly after its completion, and expects an
acknowledgement when the request was acknowledged and the vendor library is new
enough. -/
structure Answered (k : Platform) (history : List RequestEvent) : Prop where
  once : ∀ pRI, history.countP (RequestEvent.answers pRI) ≤ 1
  own : ∀ before pRI slotId type serial after,
    history = before ++ .response pRI slotId type serial :: after →
    ∃ earlier, ∃ r ∈ openRequests earlier, before = earlier ++ [.complete (some pRI)] ∧
      r.pRI = pRI ∧ r.slotId = slotId ∧ r.serial = serial ∧
      (type = .solicitedAckExp ↔ 13 ≤ k.version ∧ r.acked = true)

/-- No response went to a request that is open or to an address that was never
given out. -/
structure Unanswered (s : Requests) : Prop where
  opened : ∀ r ∈ openRequests s.history, s.history.countP (RequestEvent.answers r.pRI) = 0
  unused : ∀ pRI, pRI ∉ s.used → s.history.countP (RequestEvent.answers pRI) = 0

theorem split_append {α : Type} {first second before after : List α} {x : α}
    (heq : first ++ second = before ++ x :: after) :
    (∃ middle, first = before ++ x :: middle) ∨
      ∃ middle, before = first ++ middle ∧ second = middle ++ x :: after := by
  rcases List.append_eq_append_iff.mp heq with ⟨middle, hbefore, hsecond⟩ | ⟨middle, hfirst, hafter⟩
  · exact .inr ⟨middle, hbefore, hsecond⟩
  · cases middle with
    | nil => exact .inr ⟨[], by simpa using hfirst.symm, by simpa using hafter.symm⟩
    | cons y rest =>
        obtain ⟨rfl, -⟩ := List.cons.inj hafter
        exact .inl ⟨rest, hfirst⟩

variable {s' : Requests} {call : RequestCall k.simCount} {events : List RequestEvent}

/-- Whoever is open was open before, or was added. -/
theorem mem_foldl_update {r : OpenRequest} (hr : r ∈ events.foldl OpenRequest.update opened) :
    (∃ old ∈ opened, old.pRI = r.pRI) ∨ ∃ event ∈ events, event.newAddress = some r.pRI := by
  induction events generalizing opened with
  | nil => exact .inl ⟨r, hr, rfl⟩
  | cons event rest ih =>
      rcases ih hr with ⟨old, hold, heq⟩ | ⟨later, hlater, hnew⟩
      · cases event with
        | added pRI serial slotId request =>
            rcases List.mem_cons.mp hold with rfl | hold
            · exact .inr ⟨_, List.mem_cons_self, congrArg some heq⟩
            · exact .inl ⟨old, hold, heq⟩
        | ack t =>
            obtain ⟨before, hbefore, rfl⟩ := List.mem_map.mp hold
            refine .inl ⟨before, hbefore, ?_⟩
            rw [← heq]
            split_ifs <;> rfl
        | complete t => exact .inl ⟨old, List.mem_of_mem_filter hold, heq⟩
        | refused | acknowledgeRequest | response | freed => exact .inl ⟨old, hold, heq⟩
      · exact .inr ⟨later, List.mem_cons_of_mem _ hlater, hnew⟩

/-- Calls that send no response. -/
theorem answered_quiet (ha : Answered k s.history) (hu : s.Unanswered)
    (hhistory : s'.history = s.history ++ events) (hused : ∀ pRI ∈ s.used, pRI ∈ s'.used)
    (hquiet : ∀ event ∈ events, ∀ pRI, event.answers pRI = false)
    (hnew : ∀ event ∈ events, ∀ pRI ∈ event.newAddress, pRI ∉ s.used) :
    Answered k s'.history ∧ s'.Unanswered := by
  have hcount : ∀ pRI, s'.history.countP (RequestEvent.answers pRI) =
      s.history.countP (RequestEvent.answers pRI) := by
    intro pRI
    have hzero : events.countP (RequestEvent.answers pRI) = 0 :=
      List.countP_eq_zero.mpr fun event hevent => by simp [hquiet event hevent pRI]
    rw [hhistory, List.countP_append, hzero, Nat.add_zero]
  refine ⟨⟨fun pRI => hcount pRI ▸ ha.once pRI, ?_⟩, fun r hr => ?_, fun pRI hunused => ?_⟩
  · intro before pRI slotId type serial after heq
    rw [hhistory] at heq
    rcases split_append heq with ⟨middle, hfirst⟩ | ⟨middle, -, hsecond⟩
    · exact ha.own before pRI slotId type serial middle hfirst
    · have hmem : RequestEvent.response pRI slotId type serial ∈ events := by simp [hsecond]
      simpa [RequestEvent.answers] using hquiet _ hmem pRI
  · rw [hcount]
    rw [hhistory, openRequests_append] at hr
    rcases mem_foldl_update hr with ⟨old, hold, heq⟩ | ⟨event, hevent, haddress⟩
    · exact heq ▸ hu.opened old hold
    · exact hu.unused r.pRI (hnew event hevent r.pRI haddress)
  · rw [hcount]
    exact hu.unused pRI fun hmem => hunused (hused pRI hmem)

/-- A completion that sends the response. -/
theorem answered_answer (ha : Answered k s.history) (hu : s.Unanswered) {r : OpenRequest}
    (hr : r ∈ openRequests s.history) (hused : r.pRI ∈ s.used)
    (hhistory : s'.history = s.history ++ [.complete (some r.pRI),
      .response r.pRI r.slotId (responseType k r.acked) r.serial, .freed r.pRI])
    (hmono : ∀ pRI ∈ s.used, pRI ∈ s'.used) : Answered k s'.history ∧ s'.Unanswered := by
  have hcount : ∀ pRI, s'.history.countP (RequestEvent.answers pRI) =
      s.history.countP (RequestEvent.answers pRI) + if r.pRI = pRI then 1 else 0 := by
    intro pRI
    rw [hhistory, List.countP_append]
    simp [List.countP_cons, RequestEvent.answers]
  have hother : ∀ pRI, r.pRI ≠ pRI → s'.history.countP (RequestEvent.answers pRI) =
      s.history.countP (RequestEvent.answers pRI) := by
    intro pRI hne
    rw [hcount, if_neg hne, Nat.add_zero]
  refine ⟨⟨fun pRI => ?_, ?_⟩, fun other hopen => ?_, fun pRI hunused => ?_⟩
  · by_cases heq : r.pRI = pRI
    · subst heq
      have hone := hcount r.pRI
      rw [if_pos rfl, hu.opened r hr] at hone
      exact Nat.le_of_eq hone
    · rw [hother pRI heq]
      exact ha.once pRI
  · intro before pRI slotId type serial after heq
    rw [hhistory] at heq
    rcases split_append heq with ⟨middle, hfirst⟩ | ⟨middle, rfl, hsecond⟩
    · exact ha.own before pRI slotId type serial middle hfirst
    · -- the response is the second of the new events
      obtain rfl : middle = [.complete (some r.pRI)] := by
        match middle with
        | [] => simp at hsecond
        | [event] => simp_all
        | [_, event] => simp at hsecond
        | _ :: _ :: _ :: rest => simp at hsecond
      simp only [List.singleton_append, List.cons.injEq, RequestEvent.response.injEq, true_and]
        at hsecond
      obtain ⟨⟨rfl, rfl, rfl, rfl⟩, -⟩ := hsecond
      refine ⟨s.history, r, hr, rfl, rfl, rfl, rfl, ?_⟩
      rw [responseType]
      split_ifs with hack
      · exact iff_of_true rfl hack
      · exact iff_of_false (by simp) hack
  · rw [hhistory, openRequests_append] at hopen
    simp only [List.foldl_cons, List.foldl_nil, OpenRequest.update, List.mem_filter] at hopen
    rw [hother other.pRI fun heq => by simp [heq] at hopen]
    exact hu.opened other hopen.1
  · have hne : r.pRI ≠ pRI := fun heq => hunused (heq ▸ hmono _ hused)
    rw [hother pRI hne]
    exact hu.unused pRI fun hmem => hunused (hmono pRI hmem)

theorem answered_step (ha : Answered k s.history) (hu : s.Unanswered)
    (hused : ∀ r ∈ openRequests s.history, r.pRI ∈ s.used)
    (hleads : s.Leads k (openRequests s.history) call s' events) :
    Answered k s'.history ∧ s'.Unanswered := by
  obtain ⟨hhappens, hhistory, -, husedeq⟩ := hleads
  have hmono : ∀ pRI ∈ s.used, pRI ∈ s'.used := fun pRI hmem => by
    rw [husedeq]
    exact List.mem_append_right _ hmem
  cases hhappens with
  | answered r hr stale => exact answered_answer ha hu hr (hused r hr) hhistory hmono
  | added serial slotId request pRI hnew =>
      refine answered_quiet ha hu hhistory hmono ?_ ?_
      · simp [RequestEvent.answers]
      · simpa [RequestEvent.newAddress] using hnew
  | refused | strangerAck | strangerComplete =>
      refine answered_quiet ha hu hhistory hmono ?_ ?_
      · simp [RequestEvent.answers]
      · simp [RequestEvent.newAddress]
  | ack r hr stale connected =>
      refine answered_quiet ha hu hhistory hmono ?_ ?_
      · cases connected <;> simp [RequestEvent.answers]
      · cases connected <;> simp [RequestEvent.newAddress]
  | unanswered r hr stale connected rest hrest =>
      refine answered_quiet ha hu hhistory hmono ?_ ?_
      · rcases hrest with rfl | rfl <;> simp [RequestEvent.answers]
      · rcases hrest with rfl | rfl <;> simp [RequestEvent.newAddress]

/-- The pending lists and the client, as the callers may rely on them. -/
structure Accounted (k : Platform) (s : Requests) : Prop where
  pending : ∀ slotId < k.simCount,
    s.pendingList k slotId = OpenRequest.on (openRequests s.history) slotId ∧
      (s.pendingList k slotId).Nodup
  answered : Answered k s.history
  returns : s.died = false → ∀ call : RequestCall k.simCount,
    (∀ pRI ∈ call.calloc, pRI ∉ s.used) → (s.step k call).isSome = true
  strangers : s.died = false → ∀ t, (∀ r ∈ openRequests s.history, t ≠ some r.pRI) →
    ∀ stale connected,
      s.step k (.onRequestAck t stale connected) = some (s.record [.ack t]) ∧
        s.step k (.onRequestComplete t stale connected) = some (s.record [.complete t])

/-- What every step keeps. -/
structure Kept (k : Platform) (s : Requests) : Prop where
  lists : s.Lists k (openRequests s.history)
  answered : Answered k s.history
  unanswered : s.Unanswered

theorem Kept.accounted (hs : s.Kept k) : s.Accounted k where
  pending slotId hslot := by
    have hlist : s.pendingList k slotId = OpenRequest.on (openRequests s.history) slotId :=
      (hs.lists.path slotId hslot).walk_eq (hs.lists.on_length slotId)
    exact ⟨hlist, hlist ▸ hs.lists.on_nodup slotId⟩
  answered := hs.answered
  returns halive call hfresh := by
    obtain ⟨s', _, hstep, -⟩ := leads_step hs.lists halive call hfresh
    rw [hstep]
    rfl
  strangers halive t hstranger stale connected := by
    simp only [step, halive, Bool.false_eq_true, if_false]
    exact ⟨onRequestAck_stranger hs.lists hstranger stale connected,
      onRequestComplete_stranger hs.lists hstranger stale connected⟩

theorem leads_of_step (hs : s.Lists k opened) (hstep : s.step k call = some s') :
    ∃ events, s.Leads k opened call s' events := by
  have halive : s.died = false := by
    by_contra hdied
    simp [step, hdied] at hstep
  by_cases hfresh : ∀ pRI ∈ call.calloc, pRI ∉ s.used
  · obtain ⟨found, events, hfound, hleads⟩ := leads_step hs halive call hfresh
    obtain rfl := Option.some.inj (hfound.symm.trans hstep)
    exact ⟨events, hleads⟩
  · -- an address of before is not looked at when the request is refused
    push Not at hfresh
    obtain ⟨pRI, hcalloc, hused⟩ := hfresh
    cases call with
    | onRequestAck | onRequestComplete => cases hcalloc
    | addRequestToList serial slotId request calloc =>
        obtain rfl : calloc = some pRI := hcalloc
        simp only [step, halive, Bool.false_eq_true, if_false, addRequestToList, if_pos hused]
          at hstep
        split_ifs at hstep
        obtain rfl := Option.some.inj hstep
        exact ⟨_, .refused .., rfl, hs.record _, rfl⟩

theorem kept_step (hs : s.Kept k) (hstep : s.step k call = some s') : s'.Kept k := by
  obtain ⟨events, hleads⟩ := leads_of_step hs.lists hstep
  obtain ⟨ha, hu⟩ := answered_step hs.answered hs.unanswered hs.lists.used hleads
  refine ⟨?_, ha, hu⟩
  rw [hleads.history, openRequests_append]
  exact hleads.lists

theorem kept_initial (k : Platform) : initial.Kept k where
  lists :=
    ⟨fun _ _ => rfl, fun _ hr => absurd hr List.not_mem_nil,
      fun _ hr => absurd hr List.not_mem_nil, List.nodup_nil,
      fun _ hr => absurd hr List.not_mem_nil, Nat.le_refl _⟩
  answered := ⟨fun _ => Nat.zero_le _, fun before _ _ _ _ after heq => by simp [initial] at heq⟩
  unanswered := ⟨fun _ hr => absurd hr List.not_mem_nil, fun _ _ => rfl⟩

theorem kept_of_run {calls : List (RequestCall k.simCount)}
    (hrun : (system k).run calls = some s) : s.Kept k := by
  have hreach : (system k).Reachable s := ⟨calls, hrun⟩
  refine hreach.invariant (kept_initial k) fun state call next hs hstep => ?_
  exact kept_step hs hstep

/-- Whatever is called in whatever order, every request is accounted for. -/
theorem requests_accounted (k : Platform) (calls : List (RequestCall k.simCount)) :
    (system k).Throughout (Accounted k) initial calls :=
  Transition.System.throughout_of_guarded (Kept k) (fun _ hs => hs.accounted)
    (fun _ _ _ hs (_ : True) hstep => kept_step hs hstep) (kept_initial k)
    (Transition.System.guarded_of_forall (fun _ _ => trivial) _ calls)

/-- Of two requests of one slot the older one is acknowledged and completed, and
then completed again. -/
example :
    let k : Platform := ⟨2, by decide, by decide, 15, 144, fun _ => true⟩
    ((system k).run [.addRequestToList 7 1 10 (some 100), .addRequestToList 8 1 11 (some 200),
      .onRequestAck (some 100) 0 true, .onRequestComplete (some 100) 0 true,
      .onRequestComplete (some 100) 3 true]).map (fun s => (s.pendingList k 1, s.history)) =
    some ([200], [.added 100 7 1 10, .added 200 8 1 11, .ack (some 100), .acknowledgeRequest 1 7,
      .complete (some 100), .response 100 1 .solicitedAckExp 7, .freed 100,
      .complete (some 100)]) := by
  decide

end Requests

end Serrano.Ril
