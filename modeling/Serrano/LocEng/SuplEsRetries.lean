import Mathlib.Data.List.Infix
import Serrano.LocEng.SuplEs
import Serrano.Agps.Invariant

/-! # The retries of a SUPL ES request

A request that finds the engine busy is repeated by a timer, a limited number of
times, before it falls back to a normal connection. The machine counts attempts in a
member that outlives the request: it is reset by a fallback and by nothing else, and a
timer outlives the request that started it as well. A request has the retries to itself
exactly when neither is left over from an earlier one.
-/

namespace Serrano.LocEng

open Agps AgpsStateMachine

/-- What a request and its retries show: attempts, timers, and a fallback. -/
def isRetryEvent : DsEvent → Bool
  | .retrySuplEs _ | .retryCallback => true
  | .did (.openAndStartDataCall _ _) | .did (.locTimerStart _) | .did (.requestATL _ _) => true
  | _ => false

/-- An attempt that finds the engine busy. -/
def busyAttempt (id : UInt32) : DsEvent :=
  .did (.openAndStartDataCall id locApiAdapterErrEngineBusy)

/-- A busy attempt, the timer it starts, and the retry that the timer makes. -/
def retryRound (id : UInt32) : List DsEvent :=
  [busyAttempt id, .did (.locTimerStart dataCallRetryDelayMsec), .retryCallback, .retrySuplEs id]

def retryRounds (retries : Nat) (id : UInt32) : List DsEvent :=
  (List.replicate retries (retryRound id)).flatten

/-- So many retries, and a fallback after the last one. -/
def retrySchedule (retries : Nat) (id : UInt32) : List DsEvent :=
  retryRounds retries id ++ [busyAttempt id, .did (.requestATL id agpsTypeSupl)]

/-- Only timers and the retries that they make. -/
def Waits : SuplEsAction → Prop
  | .retrySuplEs _ | .retryCallback => True
  | .requestSuplEs _ _ | .releaseATL _ _ | .suplEsOpened | .suplEsClosed
  | .dataCallAnswer _ => False

/-- A request that reaches a machine in Released with an empty list, after any history, and
from then on finds the engine busy. -/
structure NewRequest where
  answer : Int
  history : List SuplEsAction
  state : SuplEs
  reached : (SuplEs.system answer).run history = some state
  released : state.dsNif.mStatePtr = .released
  empty : state.dsNif.mSubscribers = []
  busy : state.dsNif.mServicer = .ext locApiAdapterErrEngineBusy
  id : UInt32
  beyond : Vector UInt8 16

namespace NewRequest

/-- A state while the request is processed and retried. -/
def Leads (request : NewRequest) (st : SuplEs) : Prop :=
  ∃ actions, (∀ action ∈ actions, Waits action) ∧
    (SuplEs.system request.answer).runFrom request.state
      (.requestSuplEs request.id request.beyond :: actions) = some st

/-- What the request has shown so far. -/
def shown (request : NewRequest) (st : SuplEs) : List DsEvent :=
  (st.log.drop request.state.log.length).filter isRetryEvent

/-- The request is attempted, and repeated each time the timer of the attempt before has
expired, as often as there are retries, and then falls back; it gets no further, and it is
never stuck before. -/
def FullBudget (request : NewRequest) : Prop :=
  ∀ st, request.Leads st →
    request.shown st <+: retrySchedule maxStartDataCallRetries.toNat request.id ∧
      (request.shown st ≠ retrySchedule maxStartDataCallRetries.toNat request.id →
        ∃ action next, Waits action ∧ st.step action = some next)

end NewRequest

/-- A machine in Released that serves one client at most, and finds the engine busy. -/
structure Asks (m : AgpsStateMachine) (id : UInt32) : Prop where
  cls : m.cls = .dsStateMachine
  single : m.mEnforceSingleSubscriber = false
  released : m.mStatePtr = .released
  busy : m.mServicer = .ext locApiAdapterErrEngineBusy
  listed : ∀ obj ∈ m.mSubscribers,
    obj.sub.kind = .ds ∧ obj.sub.ID = id ∧ obj.sub.isInactive = false

section Machine

variable {m : AgpsStateMachine} {id : UInt32}

/-- The next attempt is one too many. -/
def Exhausted (m : AgpsStateMachine) : Prop := m.mRetries + 1 > maxStartDataCallRetries

instance (m : AgpsStateMachine) : Decidable (Exhausted m) := inferInstanceAs (Decidable (_ > _))

/-- What an attempt ends with. -/
def busyAnswer (m : AgpsStateMachine) (id : UInt32) : AgpsEvent :=
  if Exhausted m then .requestATL id agpsTypeSupl else .locTimerStart dataCallRetryDelayMsec

/-- The counter after an attempt. -/
def retriesAfterBusy (m : AgpsStateMachine) : UInt8 :=
  if Exhausted m then 0 else m.mRetries + 1

theorem sendRsrcRequest_busy (hcls : m.cls = .dsStateMachine)
    (hbusy : m.mServicer = .ext locApiAdapterErrEngineBusy) {obj : SubscriberObj}
    (hfind : m.findSubscriber (.broadcast .active) = some obj) :
    ∃ ret, ret ≠ 0 ∧ m.sendRsrcRequest .gpsRequestAgpsDataConn =
      (ret, { m with
        mRetries := retriesAfterBusy m
        log := m.log ++ [.sendRsrcRequest .gpsRequestAgpsDataConn,
          .openAndStartDataCall obj.sub.ID locApiAdapterErrEngineBusy,
          busyAnswer m obj.sub.ID] }) := by
  have hfind' : (m.record [.sendRsrcRequest .gpsRequestAgpsDataConn]).findSubscriber
      (.broadcast .active) = some obj := hfind
  simp only [sendRsrcRequest, hcls, dsSendRsrcRequest, hfind', Option.elim_some, requestDataCall,
    record_mServicer, hbusy, dataCallResult, if_true, record_mRetries]
  split
  next hexhausted =>
    refine ⟨locApiAdapterErrEngineBusy, by decide, ?_⟩
    have hlast : Exhausted m := hexhausted
    rw [busyAnswer, retriesAfterBusy, if_pos hlast, if_pos hlast]
    simp [informStatus, informStatusCalls, record, hcls]
  next hexhausted =>
    refine ⟨-1, by decide, ?_⟩
    have hmore : ¬ Exhausted m := hexhausted
    rw [busyAnswer, retriesAfterBusy, if_neg hmore, if_neg hmore]
    simp [record, hcls]

/-- The client of an `Asks` machine is found once it is listed. -/
theorem Asks.active (hm : Asks m id) {obj : SubscriberObj} {rest : List SubscriberObj}
    (hlist : m.mSubscribers = obj :: rest) :
    m.findSubscriber (.broadcast .active) = some obj ∧ obj.sub.ID = id := by
  have hobj := hm.listed obj (hlist ▸ List.mem_cons_self)
  refine ⟨?_, hobj.2.1⟩
  rw [findSubscriber_eq, hlist, List.find?_cons, Subscriber.forMe_active, hobj.2.2]
  rfl

/-- Adding the client lists it, if it is not listed yet. -/
theorem Asks.addSubscriber (hm : Asks m id) (beyond : Vector UInt8 16) :
    ∃ list next, m.addSubscriber (dsSubscriber id beyond) =
        { m with mSubscribers := list, nextAddr := next } ∧ list ≠ [] ∧
      ∀ obj ∈ list, obj.sub.kind = .ds ∧ obj.sub.ID = id ∧ obj.sub.isInactive = false := by
  cases hlist : m.mSubscribers with
  | nil =>
      have hfind : m.findSubscriber (.receiver (dsSubscriber id beyond)) = none := by
        rw [findSubscriber_eq, hlist, List.find?_nil]
      refine ⟨[⟨m.nextAddr, (dsSubscriber id beyond).clone⟩], m.nextAddr + 1, ?_,
        List.cons_ne_nil _ _, fun obj hobj => ?_⟩
      · rw [AgpsStateMachine.addSubscriber, hfind, hlist]
      · rw [List.mem_singleton] at hobj
        subst hobj
        exact ⟨rfl, rfl, rfl⟩
  | cons obj rest =>
      have hobj := hm.listed obj (hlist ▸ List.mem_cons_self)
      have hfind : m.findSubscriber (.receiver (dsSubscriber id beyond)) = some obj := by
        rw [findSubscriber_eq, hlist, List.find?_cons, Subscriber.forMe_receiver,
          Subscriber.equals, hobj.1, hobj.2.1]
        simp [dsSubscriber]
      refine ⟨m.mSubscribers, m.nextAddr, ?_, hlist ▸ List.cons_ne_nil _ _, hm.listed⟩
      rw [AgpsStateMachine.addSubscriber, hfind]

/-- One attempt of the client, whether it is listed already or not. -/
theorem Asks.subscribeRsrc (hm : Asks m id) (beyond : Vector UInt8 16) :
    Asks (m.subscribeRsrc (dsSubscriber id beyond)) id ∧
      (m.subscribeRsrc (dsSubscriber id beyond)).mSubscribers ≠ [] ∧
      (m.subscribeRsrc (dsSubscriber id beyond)).mRetries = retriesAfterBusy m ∧
      (m.subscribeRsrc (dsSubscriber id beyond)).log = m.log ++
        [.subscribeRsrc (dsSubscriber id beyond), .onRsrcEvent .released .rsrcSubscribe,
          .sendRsrcRequest .gpsRequestAgpsDataConn,
          .openAndStartDataCall id locApiAdapterErrEngineBusy, busyAnswer m id] := by
  let called : AgpsStateMachine :=
    { m.record [.subscribeRsrc (dsSubscriber id beyond)] with nextAddr := m.nextAddr + 1 }
  let asked : AgpsStateMachine := called.record [.onRsrcEvent .released .rsrcSubscribe]
  let caller : SubscriberObj := ⟨m.nextAddr, dsSubscriber id beyond⟩
  have hasked : Asks asked id := ⟨hm.cls, hm.single, hm.released, hm.busy, hm.listed⟩
  obtain ⟨list, next, hadd, hne, hlisted⟩ := hasked.addSubscriber beyond
  have hadded : Asks (asked.addSubscriber (dsSubscriber id beyond)) id := by
    rw [hadd]
    exact ⟨hm.cls, hm.single, hm.released, hm.busy, hlisted⟩
  obtain ⟨obj, rest, hlist⟩ := List.exists_cons_of_ne_nil hne
  obtain ⟨hfind, hid⟩ := hadded.active (by rw [hadd]; exact hlist)
  obtain ⟨ret, hret, hsend⟩ := sendRsrcRequest_busy hadded.cls hadded.busy hfind
  have hsubscribe : m.subscribeRsrc (dsSubscriber id beyond) =
      { ((asked.addSubscriber (dsSubscriber id beyond)).sendRsrcRequest
          .gpsRequestAgpsDataConn).2 with mStatePtr := .released } := by
    have hsingle : ¬ (called.mEnforceSingleSubscriber && called.hasSubscribers) = true := by
      rw [show called.mEnforceSingleSubscriber = false from hm.single, Bool.false_and]
      exact Bool.false_ne_true
    have hstate : called.mStatePtr = .released := hm.released
    have hdispatch : asked.dispatch (.rsrcSubscribe caller) =
        asked.releasedOnRsrcEvent (.rsrcSubscribe caller) := by
      rw [dispatch, hasked.released]
    have hreleased : asked.releasedOnRsrcEvent (.rsrcSubscribe caller) =
        (.released, ((asked.addSubscriber (dsSubscriber id beyond)).sendRsrcRequest
          .gpsRequestAgpsDataConn).2) := by
      rw [releasedOnRsrcEvent, hsend]
      exact congrArg (·, _) (if_neg hret)
    calc
      m.subscribeRsrc (dsSubscriber id beyond) =
          called.stateOnRsrcEvent (.rsrcSubscribe caller) := if_neg hsingle
      _ = moveTo (asked.dispatch (.rsrcSubscribe caller)) := by
          rw [stateOnRsrcEvent, hstate]
          rfl
      _ = _ := by
          rw [hdispatch, hreleased]
          rfl
  rw [hsubscribe, hsend, hadd, hid]
  refine ⟨⟨hm.cls, hm.single, rfl, hm.busy, hlisted⟩, hne, rfl, ?_⟩
  simp [asked, called, record, busyAnswer, Exhausted]

theorem exhausted_iff (hcounter : m.mRetries.toNat ≤ 4) :
    Exhausted m ↔ m.mRetries.toNat = 4 := by
  have hnext : (m.mRetries + 1).toNat = m.mRetries.toNat + 1 := by
    rw [UInt8.toNat_add]
    change (m.mRetries.toNat + 1) % 256 = _
    omega
  rw [Exhausted, gt_iff_lt, UInt8.lt_iff_toNat_lt, hnext]
  change 4 < m.mRetries.toNat + 1 ↔ _
  omega

theorem retriesAfterBusy_toNat (hcounter : m.mRetries.toNat < 4) :
    (retriesAfterBusy m).toNat = m.mRetries.toNat + 1 := by
  have hmore : ¬ Exhausted m := by
    rw [exhausted_iff (by omega)]
    omega
  rw [retriesAfterBusy, if_neg hmore, UInt8.toNat_add]
  change (m.mRetries.toNat + 1) % 256 = _
  omega

end Machine

/-- What the log shows beyond some former part of it. -/
def Shows (former : List DsEvent) (st : SuplEs) (events : List DsEvent) : Prop :=
  ∃ new, st.log = former ++ new ∧ new.filter isRetryEvent = events

section Service

variable {former events : List DsEvent} {st st' : SuplEs} {id : UInt32}

/-- An attempt, with what it adds to the log and whether it starts a timer. -/
theorem Asks.process (hm : Asks st.dsNif id) (event : DsEvent) (beyond : Vector UInt8 16)
    (hshows : Shows former st events) :
    Shows former (st.process event (st.dsNif.subscribeRsrc (dsSubscriber id beyond)))
        (events ++ ([event].filter isRetryEvent ++
          [busyAttempt id, .did (busyAnswer st.dsNif id)])) ∧
      (st.process event (st.dsNif.subscribeRsrc (dsSubscriber id beyond))).timers =
        st.timers + (if Exhausted st.dsNif then 0 else 1) := by
  obtain ⟨-, -, -, hlog⟩ := hm.subscribeRsrc beyond
  have hdid : st.did (st.dsNif.subscribeRsrc (dsSubscriber id beyond)) =
      [.subscribeRsrc (dsSubscriber id beyond), .onRsrcEvent .released .rsrcSubscribe,
        .sendRsrcRequest .gpsRequestAgpsDataConn,
        .openAndStartDataCall id locApiAdapterErrEngineBusy, busyAnswer st.dsNif id] := by
    rw [SuplEs.did, hlog, List.drop_left]
  have hanswer : isRetryEvent (.did (busyAnswer st.dsNif id)) = true := by
    rw [busyAnswer]
    split
    next => rfl
    next => rfl
  have htimer : startsTimer (busyAnswer st.dsNif id) = decide (¬ Exhausted st.dsNif) := by
    rw [busyAnswer]
    split
    next hexhausted => exact (decide_eq_false (not_not_intro hexhausted)).symm
    next hmore => exact (decide_eq_true hmore).symm
  constructor
  · obtain ⟨new, hnew, hfilter⟩ := hshows
    refine ⟨new ++ event :: (st.did (st.dsNif.subscribeRsrc (dsSubscriber id beyond))).map .did,
      ?_, ?_⟩
    · rw [SuplEs.process, hnew, List.append_assoc]
    · rw [List.filter_append, hfilter, hdid, ← List.singleton_append, List.filter_append]
      congr 2
      simp only [List.map_cons, List.map_nil, List.filter_cons, hanswer, if_true, List.filter_nil]
      rfl
  · have hcount : (st.did (st.dsNif.subscribeRsrc (dsSubscriber id beyond))).countP startsTimer =
        if Exhausted st.dsNif then 0 else 1 := by
      rw [hdid]
      simp only [List.countP_cons, List.countP_nil, htimer]
      split <;> simp_all [startsTimer]
    rw [SuplEs.process, hcount]

/-- The timer of an attempt expires. -/
theorem Shows.retryCallback (hshows : Shows former st events) :
    Shows former st.retryCallback (events ++ [.retryCallback]) := by
  obtain ⟨new, hnew, hfilter⟩ := hshows
  refine ⟨new ++ [.retryCallback], ?_, ?_⟩
  · rw [SuplEs.retryCallback, hnew, List.append_assoc]
  · rw [List.filter_append, hfilter]
    rfl

/-- Where a request stands whose first attempt left the counter at `used`, when nothing is left
over from an earlier one: its timer runs, or its retry is posted, after so many rounds, or it fell
back. -/
inductive Phase (former : List DsEvent) (id : UInt32) (used : Nat) (st : SuplEs) : Prop
  | waiting (done : Nat) (hused : used + done ≤ 4)
      (hcounter : st.dsNif.mRetries.toNat = used + done) (hasks : Asks st.dsNif id)
      (hlisted : st.dsNif.mSubscribers ≠ []) (htimers : st.timers = 1) (hretries : st.retries = [])
      (hshows : Shows former st (retryRounds done id ++
        [busyAttempt id, .did (.locTimerStart dataCallRetryDelayMsec)]))
  | posted (done : Nat) (hused : used + done ≤ 4)
      (hcounter : st.dsNif.mRetries.toNat = used + done) (hasks : Asks st.dsNif id)
      (htimers : st.timers = 0) (hretries : st.retries = [id])
      (hshows : Shows former st (retryRounds done id ++
        [busyAttempt id, .did (.locTimerStart dataCallRetryDelayMsec), .retryCallback]))
  | fellBack (htimers : st.timers = 0) (hretries : st.retries = [])
      (hshows : Shows former st (retrySchedule (5 - used) id))

variable {used : Nat}

theorem retryRounds_succ (done : Nat) (id : UInt32) :
    retryRounds (done + 1) id = retryRounds done id ++ retryRound id := by
  rw [retryRounds, List.replicate_succ', List.flatten_append, List.flatten_singleton]
  rfl

/-- A posted retry is one more round, or the fallback. -/
theorem Phase.retry (st : SuplEs) {done : Nat} (hused : used + done ≤ 4)
    (hcounter : st.dsNif.mRetries.toNat = used + done) (hasks : Asks st.dsNif id)
    (htimers : st.timers = 0) (hretries : st.retries = [])
    (hshows : Shows former st (retryRounds done id ++
      [busyAttempt id, .did (.locTimerStart dataCallRetryDelayMsec), .retryCallback]))
    (beyond : Vector UInt8 16) :
    Phase former id used
      (st.process (.retrySuplEs id) (st.dsNif.subscribeRsrc (dsSubscriber id beyond))) := by
  obtain ⟨hasks', hlisted, hretried, -⟩ := hasks.subscribeRsrc beyond
  obtain ⟨hshown, htimer⟩ := hasks.process (.retrySuplEs id) beyond hshows
  have hround : ∀ answer : DsEvent, retryRounds done id ++
      [busyAttempt id, .did (.locTimerStart dataCallRetryDelayMsec), .retryCallback] ++
        ([DsEvent.retrySuplEs id].filter isRetryEvent ++ [busyAttempt id, answer]) =
      retryRounds (done + 1) id ++ [busyAttempt id, answer] := by
    intro answer
    rw [retryRounds_succ, List.append_assoc, List.append_assoc]
    rfl
  rw [hround] at hshown
  -- the attempt is the fifth one of the counter, or another timer is started
  by_cases hexhausted : Exhausted st.dsNif
  · rw [if_pos hexhausted, htimers] at htimer
    rw [busyAnswer, if_pos hexhausted] at hshown
    have hlast : done + 1 = 5 - used := by
      rw [exhausted_iff (by omega)] at hexhausted
      omega
    exact .fellBack htimer hretries (by rw [retrySchedule, ← hlast]; exact hshown)
  · have hmore : st.dsNif.mRetries.toNat < 4 := by
      rw [exhausted_iff (by omega)] at hexhausted
      omega
    rw [if_neg hexhausted, htimers] at htimer
    rw [busyAnswer, if_neg hexhausted] at hshown
    refine .waiting (done + 1) (by omega) ?_ hasks' hlisted htimer hretries hshown
    change (st.dsNif.subscribeRsrc (dsSubscriber id beyond)).mRetries.toNat = _
    rw [hretried, retriesAfterBusy_toNat hmore]
    omega

theorem Phase.step {action : SuplEsAction} (hphase : Phase former id used st)
    (hwaits : Waits action) (hstep : st.step action = some st') : Phase former id used st' := by
  cases action with
  | requestSuplEs | releaseATL | suplEsOpened | suplEsClosed | dataCallAnswer => cases hwaits
  | retrySuplEs beyond =>
      cases hphase with
      | waiting done hused hcounter hasks hlisted htimers hretries hshows =>
          simp [SuplEs.step, hretries] at hstep
      | posted done hused hcounter hasks htimers hretries hshows =>
          simp only [SuplEs.step, hretries, Option.some.injEq] at hstep
          subst hstep
          exact Phase.retry { st with retries := [] } hused hcounter hasks htimers rfl hshows
            beyond
      | fellBack htimers hretries hshows => simp [SuplEs.step, hretries] at hstep
  | retryCallback =>
      cases hphase with
      | waiting done hused hcounter hasks hlisted htimers hretries hshows =>
          obtain ⟨obj, rest, hlist⟩ := List.exists_cons_of_ne_nil hlisted
          obtain ⟨hfind, hid⟩ := hasks.active hlist
          rw [SuplEs.step, if_neg (by omega), Option.some.injEq] at hstep
          subst hstep
          refine .posted done hused hcounter hasks ?_ ?_ ?_
          · rw [SuplEs.retryCallback, htimers]
          · rw [SuplEs.retryCallback, hretries, hfind, List.nil_append]
            exact congrArg ([·]) hid
          · have hafter := hshows.retryCallback
            rwa [List.append_assoc] at hafter
      | posted done hused hcounter hasks htimers hretries hshows =>
          simp [SuplEs.step, htimers] at hstep
      | fellBack htimers hretries hshows => simp [SuplEs.step, htimers] at hstep

theorem Shows.unique {other : List DsEvent} (hshows : Shows former st events)
    (hother : Shows former st other) : events = other := by
  obtain ⟨new, hnew, rfl⟩ := hshows
  obtain ⟨new', hnew', rfl⟩ := hother
  rw [hnew, List.append_cancel_left_eq] at hnew'
  rw [hnew']

/-- So far the schedule is followed. -/
theorem Phase.followed (hphase : Phase former id used st) (hshows : Shows former st events) :
    events <+: retrySchedule (5 - used) id := by
  have hrounds : ∀ (done : Nat) (shown : List DsEvent), used + done ≤ 4 →
      shown <+: retryRound id → retryRounds done id ++ shown <+: retrySchedule (5 - used) id := by
    intro done shown hused hshown
    obtain ⟨more, hmore⟩ : ∃ more, 5 - used = done + (more + 1) := ⟨4 - used - done, by omega⟩
    have hflatten : retryRounds (5 - used) id =
        retryRounds done id ++ (retryRound id ++ retryRounds more id) := by
      rw [hmore, retryRounds, List.replicate_add, List.flatten_append, List.replicate_succ,
        List.flatten_cons]
      rfl
    rw [retrySchedule, hflatten, List.append_assoc, List.append_assoc]
    exact (List.prefix_append_right_inj _).mpr (hshown.trans (List.prefix_append _ _))
  cases hphase with
  | waiting done hused hcounter hasks hlisted htimers hretries hstate =>
      rw [hshows.unique hstate]
      exact hrounds done _ hused ⟨[.retryCallback, .retrySuplEs id], rfl⟩
  | posted done hused hcounter hasks htimers hretries hstate =>
      rw [hshows.unique hstate]
      exact hrounds done _ hused ⟨[.retrySuplEs id], rfl⟩
  | fellBack htimers hretries hstate => rw [hshows.unique hstate]

/-- Before the end of the schedule something is about to happen. -/
theorem Phase.progress (hphase : Phase former id used st) (hshows : Shows former st events)
    (hunfinished : events ≠ retrySchedule (5 - used) id) :
    ∃ action next, Waits action ∧ st.step action = some next := by
  cases hphase with
  | waiting done hused hcounter hasks hlisted htimers hretries hstate =>
      refine ⟨.retryCallback, st.retryCallback, trivial, ?_⟩
      rw [SuplEs.step, if_neg (by omega)]
  | posted done hused hcounter hasks htimers hretries hstate =>
      refine ⟨.retrySuplEs (.replicate 16 0), { st with retries := [] }.process (.retrySuplEs id)
        (st.dsNif.subscribeRsrc (dsSubscriber id (.replicate 16 0))), trivial, ?_⟩
      simp only [SuplEs.step, hretries]
  | fellBack htimers hretries hstate => exact absurd (hshows.unique hstate) hunfinished

/-- A retry shows, whatever comes of it. -/
theorem Shows.retry {retried : UInt32} {rest : List UInt32} (hshows : Shows former st events)
    (hretries : st.retries = retried :: rest) (beyond : Vector UInt8 16) :
    ∃ next more, st.step (.retrySuplEs beyond) = some next ∧
      Shows former next (events ++ .retrySuplEs retried :: more) := by
  let did := (st.did (st.dsNif.subscribeRsrc (dsSubscriber retried beyond))).map DsEvent.did
  obtain ⟨new, hnew, hfilter⟩ := hshows
  refine ⟨{ st with retries := rest }.process (.retrySuplEs retried)
    (st.dsNif.subscribeRsrc (dsSubscriber retried beyond)), did.filter isRetryEvent, ?_, ?_⟩
  · simp only [SuplEs.step, hretries]
  · refine ⟨new ++ .retrySuplEs retried :: did, ?_, ?_⟩
    · rw [SuplEs.process, hnew, List.append_assoc]
      rfl
    · rw [List.filter_append, hfilter, List.filter_cons_of_pos rfl]

/-- Every timer and every retry shows. -/
theorem Shows.step {action : SuplEsAction} (hshows : Shows former st events)
    (hwaits : Waits action) (hstep : st.step action = some st') :
    ∃ more, more ≠ [] ∧ Shows former st' (events ++ more) := by
  cases action with
  | requestSuplEs | releaseATL | suplEsOpened | suplEsClosed | dataCallAnswer => cases hwaits
  | retrySuplEs beyond =>
      cases hretries : st.retries with
      | nil => simp [SuplEs.step, hretries] at hstep
      | cons retried rest =>
          obtain ⟨next, more, hnext, hmore⟩ := hshows.retry hretries beyond
          rw [hstep, Option.some.injEq] at hnext
          exact ⟨.retrySuplEs retried :: more, List.cons_ne_nil _ _, hnext ▸ hmore⟩
  | retryCallback =>
      rw [SuplEs.step] at hstep
      split at hstep
      next => cases hstep
      next =>
        obtain rfl := Option.some.inj hstep
        exact ⟨[.retryCallback], List.cons_ne_nil _ _, hshows.retryCallback⟩

theorem Phase.run (answer : Int) {actions : List SuplEsAction}
    (hwaits : ∀ action ∈ actions, Waits action) (hphase : Phase former id used st)
    (hrun : (SuplEs.system answer).runFrom st actions = some st') :
    Phase former id used st' := by
  have hstep : ∀ (s : SuplEs) (action : SuplEsAction) (next : SuplEs),
      Phase former id used s → Waits action → (SuplEs.system answer).step s action = some next →
        Phase former id used next := by
    intro s action next hs haction hnext
    exact hs.step haction hnext
  refine Transition.System.guarded_invariant (fun _ action => Waits action) hstep hphase ?_ hrun
  exact Transition.System.guarded_of_forall_mem (fun action haction _ => hwaits action haction) st

/-- The schedule can be followed to its end. -/
theorem Phase.finish (answer : Int) (hphase : Phase former id used st)
    (hshows : Shows former st events) :
    ∃ actions final, (∀ action ∈ actions, Waits action) ∧
      (SuplEs.system answer).runFrom st actions = some final ∧
        Shows former final (retrySchedule (5 - used) id) := by
  obtain ⟨missing, hmissing⟩ :
      ∃ missing, missing = (retrySchedule (5 - used) id).length - events.length := ⟨_, rfl⟩
  induction missing using Nat.strong_induction_on generalizing st events with
  | _ missing ih =>
      by_cases hdone : events = retrySchedule (5 - used) id
      · exact ⟨[], st, fun _ hmem => absurd hmem List.not_mem_nil, rfl, hdone ▸ hshows⟩
      · obtain ⟨action, next, hwaits, hstep⟩ := hphase.progress hshows hdone
        obtain ⟨more, hmore, hnext⟩ := hshows.step hwaits hstep
        have hphase' := hphase.step hwaits hstep
        have hlength := (hphase'.followed hnext).length_le
        have hpos := List.length_pos_iff.mpr hmore
        rw [List.length_append] at hlength
        obtain ⟨actions, final, hactions, hrun, hfinal⟩ := ih
          ((retrySchedule (5 - used) id).length - (events ++ more).length)
          (by rw [List.length_append]; omega) hphase' hnext rfl
        refine ⟨action :: actions, final, ?_, ?_, hfinal⟩
        · rw [List.forall_mem_cons]
          exact ⟨hwaits, hactions⟩
        · rw [Transition.System.runFrom_cons]
          exact Option.bind_eq_some_iff.mpr ⟨next, hstep, hrun⟩

theorem Phase.shows (hphase : Phase former id used st) : ∃ events, Shows former st events := by
  cases hphase with
  | waiting done hused hcounter hasks hlisted htimers hretries hshows => exact ⟨_, hshows⟩
  | posted done hused hcounter hasks htimers hretries hshows => exact ⟨_, hshows⟩
  | fellBack htimers hretries hshows => exact ⟨_, hshows⟩

theorem retrySchedule_succ (retries : Nat) (id : UInt32) :
    retrySchedule (retries + 1) id = retryRound id ++ retrySchedule retries id := by
  rw [retrySchedule, retryRounds, List.replicate_succ, List.flatten_cons, List.append_assoc]
  rfl

/-- Schedules of different lengths part at a fallback. -/
theorem retries_eq_of_followed {first second : Nat}
    (hfollowed : retrySchedule first id <+: retrySchedule second id) : first = second := by
  induction first generalizing second with
  | zero =>
      cases second with
      | zero => rfl
      | succ second =>
          rw [retrySchedule_succ] at hfollowed
          obtain ⟨-, htimer⟩ := List.cons_prefix_cons.mp hfollowed
          obtain ⟨hanswer, -⟩ := List.cons_prefix_cons.mp htimer
          cases hanswer
  | succ first ih =>
      cases second with
      | zero =>
          rw [retrySchedule_succ] at hfollowed
          obtain ⟨-, htimer⟩ := List.cons_prefix_cons.mp hfollowed
          obtain ⟨hanswer, -⟩ := List.cons_prefix_cons.mp htimer
          cases hanswer
      | succ second =>
          rw [retrySchedule_succ, retrySchedule_succ, List.prefix_append_right_inj] at hfollowed
          rw [ih hfollowed]

/-- The machine is the data call machine at all times. -/
theorem ds_of_reachable {answer : Int} (hreach : (SuplEs.system answer).Reachable st) :
    (dsStateMachine (.ext answer)).SameMachine st.dsNif := by
  have hstep : ∀ (s : SuplEs) (action : SuplEsAction) (next : SuplEs),
      s.step action = some next → s.dsNif.SameMachine next.dsNif := by
    intro s action next hnext
    cases action with
    | requestSuplEs id beyond =>
        obtain rfl := Option.some.inj hnext
        exact SameMachine.subscribeRsrc _ _
    | retrySuplEs beyond =>
        rw [SuplEs.step] at hnext
        split at hnext
        next => cases hnext
        next =>
          obtain rfl := Option.some.inj hnext
          exact SameMachine.subscribeRsrc _ _
    | releaseATL id beyond =>
        obtain rfl := Option.some.inj hnext
        have hsame := SameMachine.unsubscribeRsrc s.dsNif (dsSubscriber id beyond)
        dsimp only [SuplEs.releaseATL]
        split
        next => exact hsame
        next => exact hsame
    | suplEsOpened | suplEsClosed =>
        obtain rfl := Option.some.inj hnext
        exact SameMachine.onRsrcEvent _ _
    | retryCallback =>
        rw [SuplEs.step] at hnext
        split at hnext
        next => cases hnext
        next =>
          obtain rfl := Option.some.inj hnext
          exact ⟨rfl, rfl, rfl⟩
    | dataCallAnswer ret =>
        obtain rfl := Option.some.inj hnext
        exact SameMachine.step s.dsNif (.dataCallAnswer ret)
  have hinvariant : ∀ (s : SuplEs) (action : SuplEsAction) (next : SuplEs),
      (dsStateMachine (.ext answer)).SameMachine s.dsNif →
        (SuplEs.system answer).step s action = some next →
          (dsStateMachine (.ext answer)).SameMachine next.dsNif := by
    intro s action next hs hnext
    exact hs.trans (hstep s action next hnext)
  exact hreach.invariant ⟨rfl, rfl, rfl⟩ hinvariant

end Service

namespace NewRequest

variable (request : NewRequest)

theorem asks : Asks request.state.dsNif request.id := by
  have hsame := ds_of_reachable ⟨request.history, request.reached⟩
  refine ⟨hsame.cls, hsame.mEnforceSingleSubscriber, request.released, request.busy,
    fun obj hobj => ?_⟩
  rw [request.empty] at hobj
  exact absurd hobj List.not_mem_nil

/-- The state after the first attempt. -/
def first : SuplEs :=
  request.state.process (.requestSuplEs request.id)
    (request.state.dsNif.subscribeRsrc (dsSubscriber request.id request.beyond))

theorem leads_iff (st : SuplEs) : request.Leads st ↔
    ∃ actions, (∀ action ∈ actions, Waits action) ∧
      (SuplEs.system request.answer).runFrom request.first actions = some st :=
  Iff.rfl

theorem shown_eq {request : NewRequest} {st : SuplEs} {events : List DsEvent}
    (hshows : Shows request.state.log st events) : request.shown st = events := by
  obtain ⟨new, hnew, hfilter⟩ := hshows
  rw [shown, hnew, List.drop_left, hfilter]

theorem first_shows : Shows request.state.log request.first
    [busyAttempt request.id, .did (busyAnswer request.state.dsNif request.id)] := by
  have hnothing : Shows request.state.log request.state [] := ⟨[], (List.append_nil _).symm, rfl⟩
  exact (request.asks.process (.requestSuplEs request.id) request.beyond hnothing).1

theorem first_timers : request.first.timers =
    request.state.timers + (if Exhausted request.state.dsNif then 0 else 1) := by
  have hnothing : Shows request.state.log request.state [] := ⟨[], (List.append_nil _).symm, rfl⟩
  exact (request.asks.process (.requestSuplEs request.id) request.beyond hnothing).2

/-- With nothing left over, the request starts its first timer. -/
theorem first_phase (hmore : ¬ Exhausted request.state.dsNif) (htimers : request.state.timers = 0)
    (hretries : request.state.retries = []) :
    Phase request.state.log request.id (request.state.dsNif.mRetries + 1).toNat request.first := by
  obtain ⟨hasks, hlisted, hretried, -⟩ := request.asks.subscribeRsrc request.beyond
  have hle : (request.state.dsNif.mRetries + 1).toNat ≤ 4 := by
    rw [Exhausted, gt_iff_lt, UInt8.lt_iff_toNat_lt] at hmore
    exact Nat.le_of_not_lt hmore
  have htimer := request.first_timers
  have hshows := request.first_shows
  rw [if_neg hmore, htimers] at htimer
  rw [busyAnswer, if_neg hmore] at hshows
  refine .waiting 0 hle ?_ hasks hlisted htimer hretries hshows
  change (request.state.dsNif.subscribeRsrc
    (dsSubscriber request.id request.beyond)).mRetries.toNat = _
  rw [hretried, retriesAfterBusy, if_neg hmore, Nat.add_zero]

variable {request}

theorem not_exhausted (hbudget : request.FullBudget) : ¬ Exhausted request.state.dsNif := by
  intro hexhausted
  obtain ⟨hfollowed, -⟩ := hbudget request.first
    ⟨[], fun _ hmem => absurd hmem List.not_mem_nil, rfl⟩
  rw [shown_eq request.first_shows, busyAnswer, if_pos hexhausted] at hfollowed
  obtain ⟨-, htimer⟩ := List.cons_prefix_cons.mp hfollowed
  obtain ⟨hanswer, -⟩ := List.cons_prefix_cons.mp htimer
  cases hanswer

/-- A timer that is left over expires without an attempt in between. -/
theorem no_timers (hbudget : request.FullBudget) : request.state.timers = 0 := by
  by_contra hrunning
  have hmore := not_exhausted hbudget
  have htimers := request.first_timers
  rw [if_neg hmore] at htimers
  have hshows := request.first_shows.retryCallback.retryCallback
  have hfirst : request.first.step .retryCallback = some request.first.retryCallback :=
    if_neg (by omega)
  have hsecond : request.first.retryCallback.step .retryCallback =
      some request.first.retryCallback.retryCallback := by
    apply if_neg
    rw [SuplEs.retryCallback, htimers]
    change ¬ request.state.timers + 1 - 1 = 0
    omega
  obtain ⟨hfollowed, -⟩ := hbudget request.first.retryCallback.retryCallback
    ⟨[.retryCallback, .retryCallback], by simp [Waits], by
      rw [Transition.System.runFrom_cons]
      refine Option.bind_eq_some_iff.mpr ⟨request.first, rfl, ?_⟩
      rw [Transition.System.runFrom_cons]
      refine Option.bind_eq_some_iff.mpr ⟨_, hfirst, ?_⟩
      rw [Transition.System.runFrom_cons]
      exact Option.bind_eq_some_iff.mpr ⟨_, hsecond, rfl⟩⟩
  rw [shown_eq hshows, busyAnswer, if_neg hmore] at hfollowed
  obtain ⟨-, htimer⟩ := List.cons_prefix_cons.mp hfollowed
  obtain ⟨-, hcallback⟩ := List.cons_prefix_cons.mp htimer
  obtain ⟨-, hretry⟩ := List.cons_prefix_cons.mp hcallback
  obtain ⟨hanswer, -⟩ := List.cons_prefix_cons.mp hretry
  cases hanswer

/-- A retry that is left over comes before the timer of the request expires. -/
theorem no_retries (hbudget : request.FullBudget) : request.state.retries = [] := by
  cases hretries : request.state.retries with
  | nil => rfl
  | cons retried rest =>
      have hmore := not_exhausted hbudget
      have hposted : request.first.retries = retried :: rest := hretries
      obtain ⟨next, more, hnext, hshows⟩ :=
        request.first_shows.retry hposted (.replicate 16 0)
      obtain ⟨hfollowed, -⟩ := hbudget next
        ⟨[.retrySuplEs (.replicate 16 0)], by simp [Waits], by
          rw [Transition.System.runFrom_cons]
          refine Option.bind_eq_some_iff.mpr ⟨request.first, rfl, ?_⟩
          rw [Transition.System.runFrom_cons]
          exact Option.bind_eq_some_iff.mpr ⟨next, hnext, rfl⟩⟩
      rw [shown_eq hshows, busyAnswer, if_neg hmore] at hfollowed
      obtain ⟨-, htimer⟩ := List.cons_prefix_cons.mp hfollowed
      obtain ⟨-, hretry⟩ := List.cons_prefix_cons.mp htimer
      obtain ⟨hanswer, -⟩ := List.cons_prefix_cons.mp hretry
      cases hanswer

/-- A request has all its retries to itself exactly when no attempt has been counted since the last
fallback, and no timer and no retry is left over. -/
theorem fullBudget_iff (request : NewRequest) : request.FullBudget ↔
    request.state.dsNif.mRetries = 0 ∧ request.state.timers = 0 ∧ request.state.retries = [] := by
  constructor
  · intro hbudget
    have htimers := no_timers hbudget
    have hretries := no_retries hbudget
    refine ⟨?_, htimers, hretries⟩
    obtain ⟨actions, final, hwaits, hrun, hshows⟩ :=
      (request.first_phase (not_exhausted hbudget) htimers hretries).finish request.answer
        request.first_shows
    obtain ⟨hfollowed, -⟩ := hbudget final ((request.leads_iff final).mpr ⟨actions, hwaits, hrun⟩)
    rw [shown_eq hshows] at hfollowed
    have hused := retries_eq_of_followed hfollowed
    have hcounter : (request.state.dsNif.mRetries + 1).toNat =
        (request.state.dsNif.mRetries.toNat + 1) % 256 := UInt8.toNat_add _ _
    have hlt := request.state.dsNif.mRetries.toNat_lt
    change 5 - (request.state.dsNif.mRetries + 1).toNat = 4 at hused
    apply UInt8.toNat_inj.mp
    change _ = 0
    omega
  · rintro ⟨hcounter, htimers, hretries⟩ st hleads
    obtain ⟨actions, hwaits, hrun⟩ := (request.leads_iff st).mp hleads
    have hmore : ¬ Exhausted request.state.dsNif := by
      rw [Exhausted, hcounter]
      decide
    have hfirst := request.first_phase hmore htimers hretries
    rw [hcounter] at hfirst
    have hphase := hfirst.run request.answer hwaits hrun
    obtain ⟨events, hshows⟩ := hphase.shows
    rw [shown_eq hshows]
    exact ⟨hphase.followed hshows, hphase.progress hshows⟩

/-- The first client finds the engine busy once, and is then served and released. -/
def servedClient : List SuplEsAction :=
  [.requestSuplEs 1 (.replicate 16 0), .dataCallAnswer locApiAdapterErrSuccess, .retryCallback,
    .retrySuplEs (.replicate 16 0), .suplEsOpened, .releaseATL 1 (.replicate 16 0), .suplEsClosed,
    .dataCallAnswer locApiAdapterErrEngineBusy]

/-- The second client finds it busy and has one retry less. -/
def secondClient : NewRequest where
  answer := locApiAdapterErrEngineBusy
  history := servedClient
  state := ((SuplEs.system locApiAdapterErrEngineBusy).run servedClient).get (by decide)
  reached := (Option.some_get _).symm
  released := by decide
  empty := by decide
  busy := by decide
  id := 2
  beyond := .replicate 16 0

theorem secondClient_threeRetries : ¬ ∀ request : NewRequest, request.FullBudget := by
  intro hbudget
  have hshown : ((SuplEs.system secondClient.answer).runFrom secondClient.state
      [.requestSuplEs secondClient.id secondClient.beyond,
        .retryCallback, .retrySuplEs (.replicate 16 0), .retryCallback,
        .retrySuplEs (.replicate 16 0), .retryCallback, .retrySuplEs (.replicate 16 0)]).map
      secondClient.shown = some (retrySchedule 3 2) := by decide
  obtain ⟨st, hrun, hst⟩ := Option.map_eq_some_iff.mp hshown
  obtain ⟨hfollowed, -⟩ := hbudget secondClient st ⟨_, by simp [Waits], hrun⟩
  rw [hst] at hfollowed
  exact absurd (retries_eq_of_followed hfollowed) (by decide)

end NewRequest

end Serrano.LocEng
