import Serrano.LocEng.SuplEs
import Serrano.Agps.Invariant

/-! # What the data call machine does to its clients

Every operation of a data call machine finishes some of its clients, starts
data calls and grants connections. As long as no active subscriber is finished,
it starts and grants for others only; the laws below say which operations keep
it so, and whom they finish.
-/

namespace Serrano.LocEng

open Agps AgpsStateMachine

/-- From `m` to `m'` finished clients are left alone, and the listed ones are
finished besides. -/
def Finishes (current : Finished) (m m' : AgpsStateMachine) (ids : List UInt32) : Prop :=
  ∃ events, m'.log = m.log ++ events ∧
    finishing.AlwaysFrom leftAlone current (events.map .did) ∧
    finishing.afterFrom current (events.map .did) = current.add ids

namespace Finishes

variable {current : Finished} {m m' m'' : AgpsStateMachine} {first second : List UInt32}

theorem trans (hfirst : Finishes current m m' first)
    (hsecond : Finishes (current.add first) m' m'' second) :
    Finishes current m m'' (first ++ second) := by
  obtain ⟨events, hlog, halways, hafter⟩ := hfirst
  obtain ⟨events', hlog', halways', hafter'⟩ := hsecond
  refine ⟨events ++ events', by rw [hlog', hlog, List.append_assoc], ?_, ?_⟩
  · rw [List.map_append, Monitor.alwaysFrom_append, hafter]
    exact ⟨halways, halways'⟩
  · rw [List.map_append, Monitor.afterFrom_append, hafter, hafter', Finished.add_add]

/-- Nobody is finished before the second part. -/
theorem trans_nil (hfirst : Finishes current m m' [])
    (hsecond : Finishes current m' m'' second) : Finishes current m m'' second := by
  have hadd : Finishes (current.add []) m' m'' second := by rwa [Finished.add_nil]
  simpa using hfirst.trans hadd

/-- Nobody is finished in the second part. -/
theorem then_nil (hfirst : Finishes current m m' first)
    (hsecond : Finishes (current.add first) m' m'' []) : Finishes current m m'' first := by
  simpa using hfirst.trans hsecond

theorem update_calm {event : AgpsEvent} (hcalm : isCalm event = true) :
    finishing.update current (.did event) = current ∧ leftAlone current (.did event) := by
  cases event with
  | atlOpenStatus handle isSucc =>
      cases isSucc <;> simp_all [isCalm, finishing, Finished.update, leftAlone]
  | atlCloseStatus handle isSucc =>
      cases isSucc <;> simp_all [isCalm, finishing, Finished.update, leftAlone]
  | _ => first | exact ⟨rfl, trivial⟩ | simp [isCalm] at hcalm

theorem calm (events : List AgpsEvent) (hlog : m'.log = m.log ++ events)
    (hcalm : ∀ event ∈ events, isCalm event = true) : Finishes current m m' [] := by
  refine ⟨events, hlog, ?_, ?_⟩
  · refine Monitor.alwaysFrom_of_forall _ fun event hmem state => ?_
    obtain ⟨event, hevent, rfl⟩ := List.mem_map.mp hmem
    exact (update_calm (hcalm event hevent)).2
  · rw [Finished.add_nil]
    refine Monitor.afterFrom_eq_of_ignored _ fun event hmem => ?_
    obtain ⟨event, hevent, rfl⟩ := List.mem_map.mp hmem
    exact (update_calm (hcalm event hevent)).1

theorem of_log_eq (hlog : m'.log = m.log) : Finishes current m m' [] :=
  calm [] (by simp [hlog]) (by simp)

end Finishes

section Deliveries

variable {current : Finished} {objs : List SubscriberObj}

/-- A delivery to a data call client is what `informStatus` does. -/
theorem delivery_ds (m : AgpsStateMachine) {obj : SubscriberObj} (hkind : obj.sub.kind = .ds)
    (status : AgpsRsrcStatus) : m.delivery status obj =
      .notifyRsrcStatus obj.addr obj.sub status :: informStatusCalls status obj.sub.ID := by
  unfold delivery notifyCalls
  rw [hkind]
  cases status <;> rfl

/-- Granting leaves finished clients alone if none of them is told. -/
theorem finishes_granted (m : AgpsStateMachine) (hkind : ∀ obj ∈ objs, obj.sub.kind = .ds)
    (hactive : ∀ obj ∈ objs, current.finished obj.sub.ID = false) :
    Finishes current m (m.deliverAll .rsrcGranted objs) [] := by
  refine ⟨_, rfl, ?_, ?_⟩
  · induction objs with
    | nil => trivial
    | cons obj rest ih =>
        rw [List.flatMap_cons, delivery_ds m (hkind obj List.mem_cons_self)]
        exact ⟨trivial, hactive obj List.mem_cons_self,
          ih (fun o ho => hkind o (List.mem_cons_of_mem _ ho))
            (fun o ho => hactive o (List.mem_cons_of_mem _ ho))⟩
  · induction objs with
    | nil => exact (Finished.add_nil current).symm
    | cons obj rest ih =>
        rw [List.flatMap_cons, delivery_ds m (hkind obj List.mem_cons_self)]
        exact ih (fun o ho => hkind o (List.mem_cons_of_mem _ ho))
          (fun o ho => hactive o (List.mem_cons_of_mem _ ho))

/-- The end of the data call is not reported to its clients. -/
theorem finishes_released (m : AgpsStateMachine) (hkind : ∀ obj ∈ objs, obj.sub.kind = .ds) :
    Finishes current m (m.deliverAll .rsrcReleased objs) [] := by
  refine Finishes.calm _ rfl fun event hmem => ?_
  obtain ⟨obj, hobj, hmem⟩ := List.mem_flatMap.mp hmem
  rw [delivery_ds m (hkind obj hobj)] at hmem
  rcases List.mem_cons.mp hmem with rfl | hmem
  · rfl
  · obtain rfl := List.mem_singleton.mp hmem
    rfl

/-- A denial lets everyone who is told fall back. -/
theorem finishes_denied (m : AgpsStateMachine) (hkind : ∀ obj ∈ objs, obj.sub.kind = .ds) :
    Finishes current m (m.deliverAll .rsrcDenied objs) (objs.map (·.sub.ID)) := by
  refine ⟨_, rfl, ?_, ?_⟩
  · induction objs generalizing current with
    | nil => trivial
    | cons obj rest ih =>
        rw [List.flatMap_cons, delivery_ds m (hkind obj List.mem_cons_self)]
        exact ⟨trivial, trivial, ih fun o ho => hkind o (List.mem_cons_of_mem _ ho)⟩
  · induction objs generalizing current with
    | nil => exact (Finished.add_nil current).symm
    | cons obj rest ih =>
        rw [List.flatMap_cons, delivery_ds m (hkind obj List.mem_cons_self)]
        refine (ih fun o ho => hkind o (List.mem_cons_of_mem _ ho)).trans ?_
        exact Finished.add_add current [obj.sub.ID] (rest.map (·.sub.ID))

theorem finishes_setInactive (m : AgpsStateMachine) {obj : SubscriberObj}
    (hkind : obj.sub.kind = .ds) : Finishes current m (m.setInactive obj) [obj.sub.ID] := by
  rw [setInactive_eq, inactiveCalls, if_pos hkind]
  exact ⟨_, rfl, ⟨trivial, trivial⟩, rfl⟩

end Deliveries

section Requests

variable {current : Finished} {m : AgpsStateMachine}

/-- A result on which `sendRsrcRequest` falls back to normal ATL. -/
def fallsBackOn (m : AgpsStateMachine) (ret : Int) : Prop :=
  ret = locApiAdapterErrUnsupported ∨ ret = -1 ∨
    ret = locApiAdapterErrEngineBusy ∧ m.mRetries + 1 > maxStartDataCallRetries

/-- An attempt to start a data call would fall back to normal ATL. -/
def fallsBack (m : AgpsStateMachine) : Prop :=
  match m.mServicer with
  | .ext ret => fallsBackOn m ret
  | .noCbParam | .agps => False

instance (m : AgpsStateMachine) (ret : Int) : Decidable (fallsBackOn m ret) :=
  inferInstanceAs (Decidable (_ ∨ _ ∨ _ ∧ _))

instance (m : AgpsStateMachine) : Decidable (fallsBack m) := by
  unfold fallsBack
  cases m.mServicer <;> infer_instance

theorem finishes_dataCallResult (m : AgpsStateMachine) (connHandle : UInt32) {ret : Int}
    (hfallback : ¬ fallsBackOn m ret) :
    Finishes current m (m.dataCallResult connHandle ret).2 [] := by
  simp only [fallsBackOn, not_or, not_and] at hfallback
  obtain ⟨hunsupported, hfailure, hbusy⟩ := hfallback
  dsimp only [dataCallResult]
  split_ifs with hret hretries
  · exact absurd hretries (hbusy hret)
  · exact Finishes.calm _ rfl (by simp [isCalm])
  · exact Finishes.of_log_eq rfl
  · exact Finishes.of_log_eq rfl

/-- A start attempt for a client that is not finished, in answer to a request
of one that is not. -/
theorem finishes_start (hcls : m.cls = .dsStateMachine) (hfallback : ¬ fallsBack m)
    {obj : SubscriberObj} (hfind : m.findSubscriber (.broadcast .active) = some obj)
    (hobj : current.finished obj.sub.ID = false)
    (hretrying : ∀ id ∈ current.retrying, current.finished id = false) :
    Finishes current m (m.sendRsrcRequest .gpsRequestAgpsDataConn).2 [] := by
  have hask : Finishes current m (m.record [.sendRsrcRequest .gpsRequestAgpsDataConn]) [] :=
    Finishes.calm _ rfl (by simp [isCalm])
  have hopen : ∀ (m' : AgpsStateMachine) (ret : Int),
      Finishes current m' (m'.record [.openAndStartDataCall obj.sub.ID ret]) [] :=
    fun m' ret => ⟨_, rfl, ⟨⟨hobj, hretrying⟩, trivial⟩, (Finished.add_nil current).symm⟩
  have hfind' : (m.record [.sendRsrcRequest .gpsRequestAgpsDataConn]).findSubscriber
      (.broadcast .active) = some obj := hfind
  simp only [sendRsrcRequest, hcls, dsSendRsrcRequest, hfind', Option.elim_some, requestDataCall]
  refine (hask.trans_nil (hopen _ _)).trans_nil (finishes_dataCallResult _ _ ?_)
  unfold fallsBack at hfallback
  simp only [record_mServicer]
  cases hservicer : m.mServicer with
  | ext ret => rwa [hservicer] at hfallback
  | noCbParam | agps =>
      simp [fallsBackOn, locApiAdapterErrUnsupported, locApiAdapterErrEngineBusy]

theorem finishes_stop (hcls : m.cls = .dsStateMachine) :
    Finishes current m (m.sendRsrcRequest .gpsReleaseAgpsDataConn).2 [] := by
  refine Finishes.calm [.sendRsrcRequest .gpsReleaseAgpsDataConn, .stopDataCall] ?_
    (by simp [isCalm])
  simp [sendRsrcRequest, hcls, dsSendRsrcRequest, requestDataCall, dataCallResult,
    locApiAdapterErrEngineBusy, locApiAdapterErrUnsupported, locApiAdapterErrSuccess]

end Requests

/-! ## Transitions -/

/-- Everybody listed is a data call client, and nobody active is finished. -/
def Clients (current : Finished) (list : List SubscriberObj) : Prop :=
  ∀ obj ∈ list, obj.sub.kind = .ds ∧
    (obj.sub.isInactive = false → current.finished obj.sub.ID = false)

/-- A data call machine without active finished clients. -/
structure Tidy (current : Finished) (m : AgpsStateMachine) : Prop where
  cls : m.cls = .dsStateMachine
  single : m.mEnforceSingleSubscriber = false
  inv : m.Inv
  clients : Clients current m.mSubscribers

section Transitions

variable {current : Finished} {m : AgpsStateMachine}

theorem clients_filter {list : List SubscriberObj} (hclients : Clients current list)
    (p : SubscriberObj → Bool) : Clients current (list.filter p) :=
  fun obj hmem => hclients obj (List.mem_filter.mp hmem).1

theorem clients_added (hclients : Clients current m.mSubscribers) {s : Subscriber}
    (hkind : s.kind = .ds) (hs : current.finished s.ID = false) : Clients current (m.added s) := by
  intro obj hmem
  unfold added at hmem
  split_ifs at hmem
  · exact hclients obj hmem
  · rcases List.mem_cons.mp hmem with rfl | hmem
    · have hclone : s.clone.kind = .ds ∧ s.clone.ID = s.ID := by
        simp [Subscriber.clone, hkind, dsSubscriber]
      exact ⟨hclone.1, fun _ => by rw [hclone.2]; exact hs⟩
    · exact hclients obj hmem

/-- When a client becomes inactive and finished, it was the only one listed
under its connection handle. -/
theorem clients_inactivated (hlisted : Listed m.mSubscribers m.nextAddr)
    (hclients : Clients current m.mSubscribers) {s : Subscriber} {data : SubscriberObj}
    (hfind : m.mSubscribers.find? (·.sub.equals s) = some data) :
    Clients (current.add [data.sub.ID]) (m.inactivated data) := by
  have hdata := List.mem_of_find?_eq_some hfind
  intro obj' hmem'
  obtain ⟨obj, hmem, rfl⟩ := List.mem_map.mp hmem'
  obtain ⟨hkind, hactive⟩ := hclients obj hmem
  split_ifs with haddr
  · refine ⟨by simp [Subscriber.setInactive, hkind], fun hinactive => ?_⟩
    simp [Subscriber.waitForCloseComplete, hkind] at hinactive
  · refine ⟨hkind, fun hobj => ?_⟩
    rw [Finished.add_finished_eq_false]
    refine ⟨fun hid => ?_, hactive hobj⟩
    have hequals : obj.sub.equals data.sub = true := by
      rw [List.mem_singleton] at hid
      simp [Subscriber.equals, hkind, hid]
    exact haddr (congrArg SubscriberObj.addr (hlisted.eq_of_equals_found hfind hmem hequals))

theorem Clients.add {list : List SubscriberObj} (hclients : Clients current list)
    {ids : List UInt32} (hids : ∀ obj ∈ list, obj.sub.isInactive = false → obj.sub.ID ∉ ids) :
    Clients (current.add ids) list := fun obj hmem =>
  ⟨(hclients obj hmem).1, fun hactive => (Finished.add_finished_eq_false _ _ _).mpr
    ⟨hids obj hmem hactive, (hclients obj hmem).2 hactive⟩⟩

/-- What a transition leaves: the machine in order, some clients finished, and
none of them active in the list. -/
def Leaves (current : Finished) (m m' : AgpsStateMachine) (ids : List UInt32) : Prop :=
  Finishes current m m' ids ∧ Clients (current.add ids) m'.mSubscribers

theorem Tidy.record (hm : Tidy current m) (events : List AgpsEvent) :
    Tidy current (m.record events) :=
  ⟨hm.cls, hm.single, hm.inv.record events, hm.clients⟩

/-- The entry of the event handler concerns nobody. -/
theorem leaves_stateOnRsrcEvent (m : AgpsStateMachine) (event : RsrcEvent) {ids : List UInt32}
    (hdispatch : Leaves current (m.record [.onRsrcEvent m.mStatePtr event.status])
      ((m.record [.onRsrcEvent m.mStatePtr event.status]).dispatch event).2 ids) :
    Leaves current m (m.stateOnRsrcEvent event) ids := by
  have hentry : Finishes current m (m.record [.onRsrcEvent m.mStatePtr event.status]) [] :=
    Finishes.calm _ rfl (by simp [isCalm])
  exact ⟨hentry.trans_nil hdispatch.1, hdispatch.2⟩

/-- Nobody is finished. -/
theorem leaves_nil {m' : AgpsStateMachine} (hfinishes : Finishes current m m' [])
    (hclients : Clients current m'.mSubscribers) : Leaves current m m' [] :=
  ⟨hfinishes, by rwa [Finished.add_nil]⟩

theorem leaves_subscribe (hm : Tidy current m) {data : SubscriberObj}
    (hkind : data.sub.kind = .ds) (hdata : current.finished data.sub.ID = false)
    (hretrying : ∀ id ∈ current.retrying, current.finished id = false)
    (hfallback : m.mStatePtr = .released → ¬ fallsBack m) :
    Leaves current m (m.dispatch (.rsrcSubscribe data)).2 [] := by
  have hclients : Clients current (m.added data.sub) := clients_added hm.clients hkind hdata
  have hadd : ∀ m' : AgpsStateMachine, Finishes current m' (m'.addSubscriber data.sub) [] :=
    fun m' => Finishes.of_log_eq (addSubscriber_log m' data.sub)
  have hlist := addSubscriber_mSubscribers m data.sub
  unfold dispatch
  cases hstate : m.mStatePtr with
  | released =>
      -- everybody listed in Released is active, so the attempt is for one of them
      have hagrees := hm.inv.agrees
      rw [hstate] at hagrees
      have hactive := active_added hagrees.active data.sub
      obtain ⟨first, hfirst⟩ := List.exists_mem_of_ne_nil _ (added_ne_nil m data.sub)
      have hfound : (m.addSubscriber data.sub).hasActiveSubscribers = true :=
        (hasActiveSubscribers_iff _).mpr ⟨first, hlist ▸ hfirst, hactive first hfirst⟩
      obtain ⟨obj, hfind⟩ := Option.isSome_iff_exists.mp hfound
      have hmem : obj ∈ m.added data.sub := by
        rw [findSubscriber_eq, hlist] at hfind
        exact List.mem_of_find?_eq_some hfind
      have hfallback' : ¬ fallsBack (m.addSubscriber data.sub) := by
        rw [addSubscriber_frame]
        exact hfallback hstate
      have hstart := finishes_start ((addSubscriber_cls m _).trans hm.cls) hfallback' hfind
        ((hclients obj hmem).2 (hactive obj hmem)) hretrying
      refine leaves_nil ((hadd m).trans_nil hstart) ?_
      rw [show (m.releasedOnRsrcEvent (.rsrcSubscribe data)).2.mSubscribers =
        m.added data.sub from (sendRsrcRequest_mSubscribers _ _).trans hlist]
      exact hclients
  | pending | releasing => exact leaves_nil (hadd m) (hlist ▸ hclients)
  | acquired =>
      have hgranted : Finishes current m (m.deliverAll .rsrcGranted [data]) [] :=
        finishes_granted m (by simpa using hkind) (by simpa using hdata)
      simp only [acquiredOnRsrcEvent,
        notifyRsrcStatus_eq m data (.receiver data.sub .rsrcGranted) rfl,
        Subscriber.forMe_receiver, Subscriber.equals_self, if_true]
      refine leaves_nil (hgranted.trans_nil (hadd _)) ?_
      rw [addSubscriber_mSubscribers]
      exact hclients

theorem leaves_unsubscribe (hm : Tidy current m) {s : Subscriber} {data : SubscriberObj}
    (hfind : m.mSubscribers.find? (·.sub.equals s) = some data)
    (hstate : m.mStatePtr ≠ .released) :
    Leaves current m (m.dispatch (.rsrcUnsubscribe data)).2 [data.sub.ID] := by
  have hkind := (hm.clients data (List.mem_of_find?_eq_some hfind)).1
  have hwaits : data.sub.waitForCloseComplete = true := by
    simp [Subscriber.waitForCloseComplete, hkind]
  have hlist : (m.unsubscribed data).mSubscribers = m.inactivated data := by
    rw [unsubscribed_mSubscribers, if_pos hwaits]
  have hclients := clients_inactivated hm.inv.listed hm.clients hfind
  have hinactive : Finishes current m (m.unsubscribed data) [data.sub.ID] := by
    rw [unsubscribed, if_pos hwaits]
    exact finishes_setInactive m hkind
  have hcls : (m.unsubscribed data).cls = .dsStateMachine :=
    (SameInterface.unsubscribed m data).cls.trans hm.cls
  have hrelease : ∀ state,
      Leaves current m ((m.unsubscribed data).releaseIfUnused state).2 [data.sub.ID] := by
    intro state
    refine ⟨hinactive.then_nil ?_, ?_⟩
    · unfold releaseIfUnused
      split_ifs
      · exact finishes_stop hcls
      · exact finishes_stop hcls
      · exact Finishes.of_log_eq rfl
    · rw [releaseIfUnused_mSubscribers, hlist]
      exact hclients
  unfold dispatch
  cases hcase : m.mStatePtr with
  | released => exact absurd hcase hstate
  | pending => exact hrelease .pending
  | acquired => exact hrelease .acquired
  | releasing => exact ⟨hinactive, hlist ▸ hclients⟩

theorem leaves_granted (hm : Tidy current m) :
    Leaves current m (m.dispatch .rsrcGranted).2 [] := by
  unfold dispatch
  cases m.mStatePtr with
  | released | acquired | releasing => exact leaves_nil (Finishes.of_log_eq rfl) hm.clients
  | pending =>
      simp only [pendingOnRsrcEvent]
      rw [notifySubscribers_keep _ _ rfl rfl]
      refine leaves_nil (finishes_granted _ (fun obj hmem => ?_) (fun obj hmem => ?_)) hm.clients
      · exact (hm.clients obj (List.mem_filter.mp hmem).1).1
      · obtain ⟨hmem, hactive⟩ := List.mem_filter.mp hmem
        exact (hm.clients obj hmem).2 (by simpa using hactive)

/-- A denial lets the clients of Pending fall back, and concerns nobody in
Released; Releasing is not denied. -/
theorem leaves_denied (hm : Tidy current m)
    (hstate : m.mStatePtr = .released ∨ m.mStatePtr = .pending) :
    ∃ ids, Leaves current m (m.dispatch .rsrcDenied).2 ids ∧
      ∀ id ∈ ids, m.mStatePtr = .pending ∧ ∃ obj ∈ m.mSubscribers, obj.sub.ID = id := by
  unfold dispatch
  rcases hstate with hstate | hstate
  · rw [hstate]
    exact ⟨[], leaves_nil (Finishes.of_log_eq rfl) hm.clients, by simp⟩
  · rw [hstate]
    simp only [pendingOnRsrcEvent]
    refine ⟨m.mSubscribers.map (·.sub.ID), ⟨?_, ?_⟩, fun id hmem => ⟨trivial, ?_⟩⟩
    · rw [notifySubscribers_delete _ _ rfl rfl]
      have hall : m.mSubscribers.filter
          (·.sub.forMe (.broadcast .all .rsrcDenied true)) = m.mSubscribers := by simp
      rw [hall]
      exact finishes_denied m fun obj hmem => (hm.clients obj hmem).1
    · rw [notifySubscribers_all _ rfl]
      exact fun _ hmem => absurd hmem List.not_mem_nil
    · exact List.mem_map.mp hmem

theorem leaves_released (hm : Tidy current m)
    (hretrying : ∀ id ∈ current.retrying, current.finished id = false)
    (hfallback : m.mStatePtr = .releasing → m.hasActiveSubscribers = true → ¬ fallsBack m) :
    Leaves current m (m.dispatch .rsrcReleased).2 [] := by
  unfold dispatch
  cases hstate : m.mStatePtr with
  | released | pending => exact leaves_nil (Finishes.of_log_eq rfl) hm.clients
  | acquired =>
      simp only [acquiredOnRsrcEvent]
      rw [notifySubscribers_delete _ _ rfl rfl]
      refine leaves_nil (finishes_released _ fun obj hmem => ?_) (clients_filter hm.clients _)
      exact (hm.clients obj (List.mem_filter.mp hmem).1).1
  | releasing =>
      set rest := m.mSubscribers.filter fun obj => !obj.sub.isInactive
      set m' := m.notifySubscribers (.broadcast .inactive .rsrcReleased true)
      have hlist : m'.mSubscribers = rest := m.notifySubscribers_inactive rfl
      have hclients : Clients current rest := clients_filter hm.clients _
      have hnotified : Finishes current m m' [] := by
        simp only [m']
        rw [notifySubscribers_delete _ _ rfl rfl]
        exact finishes_released _ fun obj hmem => (hm.clients obj (List.mem_filter.mp hmem).1).1
      simp only [releasingOnRsrcEvent, closeComplete]
      by_cases hactive : m'.hasActiveSubscribers = true
      · rw [if_pos hactive]
        obtain ⟨obj, hfind⟩ := Option.isSome_iff_exists.mp hactive
        have hobj : obj ∈ rest ∧ obj.sub.isInactive = false := by
          rw [findSubscriber_eq, hlist] at hfind
          exact ⟨List.mem_of_find?_eq_some hfind, by simpa using List.find?_some hfind⟩
        have hbefore : m.hasActiveSubscribers = true :=
          m.hasActiveSubscribers_iff.mpr ⟨obj, (List.mem_filter.mp hobj.1).1, hobj.2⟩
        have hfallback' : ¬ fallsBack m' := by
          simp only [m']
          rw [notifySubscribers_delete _ _ rfl rfl]
          exact hfallback hstate hbefore
        have hcls := (SameInterface.notifySubscribers m
          (.broadcast .inactive .rsrcReleased true) rfl).cls.trans hm.cls
        refine leaves_nil (hnotified.trans_nil (finishes_start hcls hfallback' hfind
          ((hclients obj hobj.1).2 hobj.2) hretrying)) ?_
        rw [sendRsrcRequest_mSubscribers, hlist]
        exact hclients
      · rw [if_neg hactive]
        exact leaves_nil hnotified (hlist ▸ hclients)

/-! ## Calls -/

theorem Tidy.mono (hm : Tidy current m) {current' : Finished}
    (hfinished : ∀ id, current.finished id = false → current'.finished id = false) :
    Tidy current' m :=
  ⟨hm.cls, hm.single, hm.inv, fun obj hmem => ⟨(hm.clients obj hmem).1, fun hactive =>
    hfinished _ ((hm.clients obj hmem).2 hactive)⟩⟩

theorem Tidy.leaves {m' : AgpsStateMachine} {ids : List UInt32} (hm : Tidy current m)
    (hsame : m.SameMachine m') (hinv : m'.Inv) (hleaves : Leaves current m m' ids) :
    Tidy (current.add ids) m' :=
  ⟨hsame.cls.trans hm.cls, hsame.mEnforceSingleSubscriber.trans hm.single, hinv, hleaves.2⟩

theorem leaves_subscribeRsrc (hm : Tidy current m) (s : Subscriber) (hkind : s.kind = .ds)
    (hs : current.finished s.ID = false)
    (hretrying : ∀ id ∈ current.retrying, current.finished id = false)
    (hfallback : m.mStatePtr = .released → ¬ fallsBack m) :
    Leaves current m (m.subscribeRsrc s) [] := by
  dsimp only [subscribeRsrc]
  set entered := { m.record [.subscribeRsrc s] with nextAddr := m.nextAddr + 1 }
  rw [if_neg (by simp [hm.single])]
  have hentry : Finishes current m entered [] := Finishes.calm _ rfl (by simp [isCalm])
  have hentered : Tidy current entered := ⟨hm.cls, hm.single, hm.inv.enter s, hm.clients⟩
  have hdispatch := leaves_stateOnRsrcEvent entered (.rsrcSubscribe ⟨m.nextAddr, s⟩)
    (leaves_subscribe (hentered.record _) hkind hs hretrying hfallback)
  exact ⟨hentry.trans_nil hdispatch.1, hdispatch.2⟩

theorem leaves_unsubscribeRsrc (hm : Tidy current m) (s : Subscriber)
    (hstate : ∀ data ∈ m.findSubscriber (.receiver s), m.mStatePtr ≠ .released) :
    ∃ ids, Leaves current m (m.unsubscribeRsrc s).2 ids ∧
      ∀ id ∈ ids, ∃ data ∈ m.findSubscriber (.receiver s), id = s.ID := by
  have hentry : Finishes current m (m.record [.unsubscribeRsrc s]) [] :=
    Finishes.calm _ rfl (by simp [isCalm])
  dsimp only [unsubscribeRsrc]
  split
  · rename_i data hfind
    have hfound := hfind
    rw [findSubscriber_eq] at hfound
    have hequals : data.sub.equals s = true :=
      List.find?_some (p := fun obj : SubscriberObj => obj.sub.equals s) hfound
    have hdispatch := leaves_stateOnRsrcEvent _ (.rsrcUnsubscribe data) (leaves_unsubscribe
      ((hm.record [.unsubscribeRsrc s]).record _) hfound (hstate data hfind))
    refine ⟨[data.sub.ID], ⟨hentry.trans_nil hdispatch.1, hdispatch.2⟩, fun id hmem => ?_⟩
    rw [List.mem_singleton] at hmem
    exact ⟨data, hfind, hmem.trans (Subscriber.ID_eq_of_equals hequals)⟩
  · exact ⟨[], leaves_nil hentry hm.clients, by simp⟩

/-- A close that changes no state changes no list either. -/
theorem kept_of_released
    (hstate : (m.stateOnRsrcEvent .rsrcReleased).mStatePtr = m.mStatePtr) :
    (m.mStatePtr = .released ∨ m.mStatePtr = .pending) ∧
      (m.stateOnRsrcEvent .rsrcReleased).mSubscribers = m.mSubscribers := by
  have hcases : (m.stateOnRsrcEvent .rsrcReleased).mStatePtr =
      ((m.record [.onRsrcEvent m.mStatePtr .rsrcReleased]).dispatch .rsrcReleased).1 := rfl
  rw [hcases] at hstate
  unfold stateOnRsrcEvent dispatch at *
  simp only [record_mStatePtr] at hstate ⊢
  cases hcase : m.mStatePtr with
  | released | pending => exact ⟨by simp, rfl⟩
  | acquired => simp [hcase, acquiredOnRsrcEvent] at hstate
  | releasing =>
      simp only [hcase, releasingOnRsrcEvent, closeComplete] at hstate
      split_ifs at hstate

/-- A close in Acquired or Releasing changes the state; in the other states it
becomes a denial. -/
theorem leaves_closed (hm : Tidy current m)
    (hretrying : ∀ id ∈ current.retrying, current.finished id = false)
    (hfallback : m.mStatePtr = .releasing → m.hasActiveSubscribers = true → ¬ fallsBack m) :
    ∃ ids, Leaves current m (m.onRsrcEvent .rsrcReleased) ids ∧
      ∀ id ∈ ids, m.mStatePtr = .pending ∧ ∃ obj ∈ m.mSubscribers, obj.sub.ID = id := by
  have hreleased : Leaves current m (m.stateOnRsrcEvent .rsrcReleased) [] :=
    leaves_stateOnRsrcEvent m .rsrcReleased (leaves_released (hm.record _) hretrying hfallback)
  simp only [onRsrcEvent, hm.cls, dsOnRsrcEvent]
  split_ifs with hstate
  · exact ⟨[], hreleased, by simp⟩
  · rw [not_not] at hstate
    have hkept := kept_of_released hstate
    have htidy : Tidy current (m.stateOnRsrcEvent .rsrcReleased) := by
      have := hm.leaves (SameMachine.stateOnRsrcEvent m .rsrcReleased)
        (inv_event (hm.inv.record _) (Or.inr (Or.inl rfl))) hreleased
      rwa [Finished.add_nil] at this
    obtain ⟨ids, hdenied, hids⟩ := leaves_denied (htidy.record
      [.onRsrcEvent (m.stateOnRsrcEvent .rsrcReleased).mStatePtr .rsrcDenied])
      (hstate.symm ▸ hkept.1)
    have hleaves := leaves_stateOnRsrcEvent _ .rsrcDenied hdenied
    refine ⟨ids, ⟨hreleased.1.trans_nil hleaves.1, hleaves.2⟩, fun id hmem => ?_⟩
    obtain ⟨hpending, obj, hobj, hid⟩ := hids id hmem
    exact ⟨hstate ▸ hpending, obj, hkept.2 ▸ hobj, hid⟩

end Transitions

end Serrano.LocEng
