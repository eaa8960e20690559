import Serrano.Agps.Invariant
import Serrano.Foundation.Monitor

/-! # The connection discipline

The base class hands requests and releases to its service provider. A monitor
reads the log and keeps whether a data connection is outstanding. Requests and
releases alternate, a connection is outstanding exactly in Pending and
Acquired, and every request that a transition asks for passes the guard of
`sendRsrcRequest`.
-/

namespace Serrano.Agps

/-- Whether a data connection is outstanding: from the request until a release,
a denial in Pending, or a loss in Acquired. -/
def outstanding : Monitor Bool AgpsEvent where
  init := false
  update
    | _, .requestRsrc nifRequest => nifRequest.status == .gpsRequestAgpsDataConn
    | _, .onRsrcEvent .pending .rsrcDenied => false
    | _, .onRsrcEvent .acquired .rsrcReleased => false
    | current, _ => current

/-- A connection is requested only when none is outstanding, and released only
when one is. -/
def disciplined (current : Bool) : AgpsEvent → Prop
  | .requestRsrc nifRequest => match nifRequest.status with
      | .gpsRequestAgpsDataConn => current = false
      | .gpsReleaseAgpsDataConn => current = true
  | _ => True

/-- What a transition asks for is handed to the service provider at once. -/
def Answered (log : List AgpsEvent) : Prop :=
  ∀ before action rest, log = before ++ .sendRsrcRequest action :: rest →
    ∃ nifRequest tail, rest = .requestRsrc nifRequest :: tail ∧ nifRequest.status = action

/-- Events that neither ask for a request nor decide about one. -/
def AgpsEvent.isSilent : AgpsEvent → Bool
  | .onRsrcEvent _ _ | .sendRsrcRequest _ | .requestRsrc _ => false
  | _ => true

theorem Answered.append {first second : List AgpsEvent} (hfirst : Answered first)
    (hsecond : Answered second) : Answered (first ++ second) := by
  intro before action rest heq
  rcases List.append_eq_append_iff.mp heq with ⟨middle, hbefore, hrest⟩ | ⟨middle, hlog, hrest⟩
  · exact hsecond middle action rest hrest
  · cases middle with
    | nil => exact hsecond [] action rest hrest.symm
    | cons event middle =>
        obtain ⟨rfl, htail⟩ := List.cons.inj hrest
        obtain ⟨nifRequest, tail, rfl, hstatus⟩ := hfirst before action middle hlog
        exact ⟨nifRequest, tail ++ second, htail, hstatus⟩

theorem Answered.of_forall_ne {log : List AgpsEvent}
    (hne : ∀ event ∈ log, ∀ action, event ≠ .sendRsrcRequest action) : Answered log := by
  rintro before action rest rfl
  exact absurd rfl (hne _ (List.mem_append_right _ List.mem_cons_self) action)

/-- The log keeps the discipline and ends with a connection outstanding or
not. -/
structure Disciplined (current : Bool) (log : List AgpsEvent) : Prop where
  always : outstanding.Always disciplined log
  after : outstanding.after log = current
  answered : Answered log

namespace Disciplined

variable {current : Bool} {log : List AgpsEvent}

theorem nil : Disciplined false [] :=
  ⟨trivial, rfl, Answered.of_forall_ne fun _ hmem => absurd hmem List.not_mem_nil⟩

theorem silent (hlog : Disciplined current log) {new : List AgpsEvent}
    (hsilent : ∀ event ∈ new, event.isSilent = true) : Disciplined current (log ++ new) where
  always := by
    refine (outstanding.always_append _ _ _).mpr ⟨hlog.always, ?_⟩
    refine outstanding.alwaysFrom_of_forall fun event hmem state => ?_
    have := hsilent event hmem
    cases event <;> trivial
  after := by
    rw [outstanding.after_append, hlog.after]
    refine outstanding.afterFrom_eq_of_ignored fun event hmem => ?_
    have := hsilent event hmem
    cases event <;> first | rfl | contradiction
  answered := hlog.answered.append <| Answered.of_forall_ne fun event hmem action => by
    rintro rfl
    exact absurd (hsilent _ hmem) (by simp [AgpsEvent.isSilent])

/-- What the entry of a state's event handler does to an outstanding
connection. -/
def entered (state : AgpsState) (status : AgpsRsrcStatus) (current : Bool) : Bool :=
  outstanding.update current (.onRsrcEvent state status)

theorem entry (hlog : Disciplined current log) (state : AgpsState) (status : AgpsRsrcStatus) :
    Disciplined (entered state status current) (log ++ [.onRsrcEvent state status]) where
  always := by simpa [hlog.after] using ⟨hlog.always, trivial⟩
  after := by simp [hlog.after, entered]
  answered := hlog.answered.append (Answered.of_forall_ne (by simp))

/-- A request that goes out when none is outstanding, or a release when one
is. -/
theorem request {action : AGpsStatusValue}
    (hlog : Disciplined (action == .gpsReleaseAgpsDataConn) log) {nifRequest : AGpsExtStatus}
    (hstatus : nifRequest.status = action) :
    Disciplined (action == .gpsRequestAgpsDataConn)
      (log ++ [.sendRsrcRequest action, .requestRsrc nifRequest]) where
  always := by
    rw [outstanding.always_append, hlog.after]
    refine ⟨hlog.always, trivial, ?_, trivial⟩
    cases action <;> simp [disciplined, hstatus, outstanding]
  after := by simp [outstanding, hstatus]
  answered := by
    refine hlog.answered.append ?_
    intro before asked rest heq
    cases before with
    | nil =>
        obtain ⟨hasked, rfl⟩ := List.cons.inj heq
        obtain rfl := AgpsEvent.sendRsrcRequest.inj hasked
        exact ⟨nifRequest, [], rfl, hstatus⟩
    | cons event before =>
        obtain ⟨_, heq⟩ := List.cons.inj heq
        have hmem : AgpsEvent.sendRsrcRequest asked ∈ [AgpsEvent.requestRsrc nifRequest] :=
          heq ▸ List.mem_append_right _ List.mem_cons_self
        simp at hmem

end Disciplined

/-- The states in which a data connection is outstanding. -/
def AgpsState.connected : AgpsState → Bool
  | .pending | .acquired => true
  | .released | .releasing => false

namespace AgpsStateMachine

/-! ## The parts of a transition -/

theorem silent_of_output {event : AgpsEvent} (houtput : event.isOutput = true) :
    event.isSilent = true := by
  cases event <;> first | rfl | contradiction

/-- Telling subscribers does not touch the connection. -/
theorem silent_deliveries (m : AgpsStateMachine) (status : AgpsRsrcStatus)
    (objs : List SubscriberObj) :
    ∀ event ∈ objs.flatMap (m.delivery status), event.isSilent = true := by
  intro event hmem
  obtain ⟨obj, _, hmem⟩ := List.mem_flatMap.mp hmem
  rcases List.mem_cons.mp hmem with rfl | hmem
  · rfl
  · exact silent_of_output (output_notifyCalls m obj.sub status event hmem)

section Parts

variable {m : AgpsStateMachine} {current : Bool} (hlog : Disciplined current m.log)
include hlog

theorem disciplined_deliverAll (status : AgpsRsrcStatus) (objs : List SubscriberObj) :
    Disciplined current (m.deliverAll status objs).log :=
  hlog.silent (m.silent_deliveries status objs)

theorem disciplined_notifyRsrcStatus (obj : SubscriberObj) (n : Notification)
    (hreported : n.rsrcStatus.reported = true) :
    Disciplined current (m.notifyRsrcStatus obj n).2.log := by
  rw [notifyRsrcStatus_eq m obj n hreported]
  dsimp only
  split_ifs
  · exact disciplined_deliverAll hlog _ _
  · exact hlog

theorem disciplined_notifySubscribers (n : Notification)
    (hreported : n.rsrcStatus.reported = true) :
    Disciplined current (m.notifySubscribers n).log := by
  cases hdelete : n.postNotifyDelete with
  | true =>
      rw [notifySubscribers_delete m n hdelete hreported]
      exact disciplined_deliverAll hlog _ _
  | false =>
      rw [notifySubscribers_keep m n hdelete hreported]
      exact disciplined_deliverAll hlog _ _

theorem disciplined_unsubscribed (data : SubscriberObj) :
    Disciplined current (m.unsubscribed data).log := by
  unfold unsubscribed
  split_ifs
  · rw [setInactive_eq]
    exact hlog.silent fun event hmem => silent_of_output (output_inactiveCalls data event hmem)
  · exact disciplined_notifySubscribers hlog _ rfl

end Parts

/-- A request that agrees with the list passes the guard. -/
theorem disciplined_sendRsrcRequest {m : AgpsStateMachine} (hcls : m.cls = .agpsStateMachine)
    (action : AGpsStatusValue)
    (hlog : Disciplined (action == .gpsReleaseAgpsDataConn) m.log)
    (hactive : m.hasActiveSubscribers = (action == .gpsRequestAgpsDataConn)) :
    Disciplined (action == .gpsRequestAgpsDataConn) (m.sendRsrcRequest action).2.log := by
  rw [sendRsrcRequest_agps hcls, agpsRequestEvents, if_pos hactive]
  exact hlog.request rfl

theorem disciplined_releaseIfUnused {m : AgpsStateMachine} (hcls : m.cls = .agpsStateMachine)
    (hlog : Disciplined true m.log) {state : AgpsState} (hstate : state.connected = true) :
    Disciplined (m.releaseIfUnused state).1.connected (m.releaseIfUnused state).2.log := by
  unfold releaseIfUnused
  split_ifs with hempty hinactive
  · refine disciplined_sendRsrcRequest hcls .gpsReleaseAgpsDataConn hlog ?_
    have hnil : m.mSubscribers = [] := by simpa [hasSubscribers] using hempty
    simp [hasActiveSubscribers, findSubscriber_eq, hnil]
  · exact disciplined_sendRsrcRequest hcls .gpsReleaseAgpsDataConn hlog
      (show m.hasActiveSubscribers = false by simpa using hinactive)
  · rwa [← hstate] at hlog

theorem disciplined_closeComplete {m : AgpsStateMachine} (hcls : m.cls = .agpsStateMachine)
    (hlog : Disciplined false m.log) {status : AgpsRsrcStatus}
    (hreported : status.reported = true) :
    Disciplined (m.closeComplete status).1.connected (m.closeComplete status).2.log := by
  have hnotified := disciplined_notifySubscribers hlog (.broadcast .inactive status true) hreported
  have hcls' := (SameInterface.notifySubscribers m (.broadcast .inactive status true)
    hreported).cls.trans hcls
  dsimp only [closeComplete]
  split_ifs with hactive
  · exact disciplined_sendRsrcRequest hcls' .gpsRequestAgpsDataConn hnotified hactive
  · exact hnotified

/-! ## Transitions and runs -/

/-- After the entry of the event handler the connection is outstanding as the
handler expects, and it leaves it as the next state says. -/
theorem disciplined_dispatch {m : AgpsStateMachine} (hinv : m.Inv)
    (hcls : m.cls = .agpsStateMachine) (event : RsrcEvent)
    (hlog : Disciplined (Disciplined.entered m.mStatePtr event.status m.mStatePtr.connected)
      m.log) :
    Disciplined (m.dispatch event).1.connected (m.dispatch event).2.log := by
  have hagrees := hcls ▸ hinv.agrees
  unfold dispatch
  cases hstate : m.mStatePtr with
  | released =>
      rw [hstate] at hlog hagrees
      cases event with
      | rsrcSubscribe data =>
          have hcls : (m.addSubscriber data.sub).cls = .agpsStateMachine := by
            rw [addSubscriber_cls, hcls]
          have hactive : (m.addSubscriber data.sub).hasActiveSubscribers = true := by
            rw [hasActiveSubscribers_iff, addSubscriber_mSubscribers, added_of_nil hagrees]
            exact ⟨_, List.mem_cons_self, Subscriber.isInactive_clone _⟩
          have hsent := disciplined_sendRsrcRequest hcls .gpsRequestAgpsDataConn
            (by rw [addSubscriber_log]; exact hlog) hactive
          simp only [releasedOnRsrcEvent]
          rw [show ((m.addSubscriber data.sub).sendRsrcRequest .gpsRequestAgpsDataConn).1 = 0 by
            rw [sendRsrcRequest_agps hcls]]
          exact hsent
      | rsrcUnsubscribe data => exact disciplined_notifyRsrcStatus hlog data _ rfl
      | rsrcGranted | rsrcReleased | rsrcDenied => exact hlog
  | pending =>
      rw [hstate] at hlog
      cases event with
      | rsrcSubscribe data =>
          show Disciplined true (m.addSubscriber data.sub).log
          rwa [addSubscriber_log]
      | rsrcUnsubscribe data =>
          exact disciplined_releaseIfUnused
            ((SameInterface.unsubscribed m data).cls.trans hcls)
            (disciplined_unsubscribed hlog data) rfl
      | rsrcGranted =>
          exact disciplined_notifySubscribers hlog (.broadcast .active .rsrcGranted) rfl
      | rsrcReleased => exact hlog
      | rsrcDenied =>
          exact disciplined_notifySubscribers hlog (.broadcast .all .rsrcDenied true) rfl
  | acquired =>
      rw [hstate] at hlog
      cases event with
      | rsrcSubscribe data =>
          show Disciplined true (((m.notifyRsrcStatus data
            (.receiver data.sub .rsrcGranted)).2).addSubscriber data.sub).log
          rw [addSubscriber_log]
          exact disciplined_notifyRsrcStatus hlog data _ rfl
      | rsrcUnsubscribe data =>
          exact disciplined_releaseIfUnused
            ((SameInterface.unsubscribed m data).cls.trans hcls)
            (disciplined_unsubscribed hlog data) rfl
      | rsrcReleased =>
          exact disciplined_notifySubscribers hlog (.broadcast .all .rsrcReleased true) rfl
      | rsrcGranted | rsrcDenied => exact hlog
  | releasing =>
      rw [hstate] at hlog
      cases event with
      | rsrcSubscribe data =>
          show Disciplined false (m.addSubscriber data.sub).log
          rwa [addSubscriber_log]
      | rsrcUnsubscribe data =>
          have hafter := disciplined_unsubscribed hlog data
          simp only [releasingOnRsrcEvent]
          split_ifs <;> exact hafter
      | rsrcGranted => exact hlog
      | rsrcReleased | rsrcDenied => exact disciplined_closeComplete hcls hlog rfl

theorem disciplined_stateOnRsrcEvent {m : AgpsStateMachine} (hinv : m.Inv)
    (hcls : m.cls = .agpsStateMachine) (hlog : Disciplined m.mStatePtr.connected m.log)
    (event : RsrcEvent) :
    Disciplined (m.stateOnRsrcEvent event).mStatePtr.connected (m.stateOnRsrcEvent event).log :=
  disciplined_dispatch (hinv.record _) hcls event (hlog.entry m.mStatePtr event.status)

theorem disciplined_step {m : AgpsStateMachine} (hinv : m.Inv)
    (hcls : m.cls = .agpsStateMachine) (hlog : Disciplined m.mStatePtr.connected m.log)
    (call : Call) : Disciplined (m.step call).mStatePtr.connected (m.step call).log := by
  cases call with
  | subscribeRsrc request =>
      simp only [step, subscribeRsrc]
      set m₀ := { m.record [.subscribeRsrc request.subscriber] with nextAddr := m.nextAddr + 1 }
      have hinv₀ : m₀.Inv := hinv.enter request.subscriber
      have hlog₀ : Disciplined m₀.mStatePtr.connected m₀.log :=
        hlog.silent (by simp [AgpsEvent.isSilent])
      split_ifs
      · rw [notifySubscriber]
        rw [show (m₀.notifyRsrcStatus ⟨m.nextAddr, request.subscriber⟩
          (.broadcast .all .rsrcDenied true)).2.mStatePtr = m₀.mStatePtr from
          (SameInterface.notifyRsrcStatus m₀ _ _ rfl).mStatePtr]
        exact disciplined_notifyRsrcStatus hlog₀ _ _ rfl
      · exact disciplined_stateOnRsrcEvent hinv₀ hcls hlog₀ _
  | unsubscribeRsrc request =>
      have hlog₀ : Disciplined m.mStatePtr.connected
          (m.record [.unsubscribeRsrc request.subscriber]).log :=
        hlog.silent (by simp [AgpsEvent.isSilent])
      simp only [step, unsubscribeRsrc]
      split
      · exact disciplined_stateOnRsrcEvent (hinv.record _) hcls hlog₀ _
      · exact hlog₀
  | onRsrcEvent event =>
      simp only [step, onRsrcEvent, hcls]
      cases event with
      | rsrcGranted | rsrcReleased | rsrcDenied =>
          exact disciplined_stateOnRsrcEvent hinv hcls hlog _
      | _ => exact hlog
  | setAPN | setBearer | dataCallAnswer => exact hlog

/-- What every run of the base class keeps. -/
structure Connected (m : AgpsStateMachine) : Prop where
  cls : m.cls = .agpsStateMachine
  inv : m.Inv
  disciplined : Disciplined m.mStatePtr.connected m.log

theorem connected_constructed (servType : Servicer) (type : AGpsExtType) (single : Bool) :
    (agpsStateMachine servType type single).Connected :=
  ⟨rfl, inv_constructed servType type single, Disciplined.nil⟩

theorem connected_step {m : AgpsStateMachine} (hm : m.Connected) (call : Call) :
    (m.step call).Connected :=
  ⟨(SameMachine.step m call).cls.trans hm.cls, inv_step hm.inv call,
    disciplined_step hm.inv hm.cls hm.disciplined call⟩

/-- Along every run of the base class requests and releases keep the connection
discipline, a connection is outstanding exactly in Pending and Acquired, and
whatever a transition asks for reaches the service provider. -/
theorem connection_discipline (servType : Servicer) (type : AGpsExtType) (single : Bool)
    (calls : List Call) :
    let m := (agpsStateMachine servType type single).afterCalls calls
    outstanding.Always disciplined m.log ∧
      (outstanding.after m.log = true ↔ m.mStatePtr = .pending ∨ m.mStatePtr = .acquired) ∧
      ∀ before action rest, m.log = before ++ .sendRsrcRequest action :: rest →
        ∃ nifRequest tail, rest = .requestRsrc nifRequest :: tail ∧
          nifRequest.status = action := by
  intro m
  have hlog := (afterCalls_invariant Connected (connected_constructed servType type single)
    (fun _ call hm => connected_step hm call) calls).disciplined
  refine ⟨hlog.always, ?_, hlog.answered⟩
  rw [show outstanding.after m.log = m.mStatePtr.connected from hlog.after]
  cases m.mStatePtr <;> simp [AgpsState.connected]

end AgpsStateMachine

end Serrano.Agps
