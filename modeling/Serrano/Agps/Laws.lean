import Serrano.Agps.StateMachine

/-! # What each operation of the machine does

Every operation changes the subscriber list, the retry count and the log in a
way that is stated here once; all other members keep their values. The proofs
about states and runs use these laws and do not unfold the operations.
-/

namespace Serrano.Agps

open LinkedList

/-- The statuses that the switches of the subscriber classes know. -/
def AgpsRsrcStatus.reported : AgpsRsrcStatus → Bool
  | .rsrcUnsubscribe | .rsrcGranted | .rsrcReleased | .rsrcDenied => true
  | .rsrcSubscribe | .rsrcStatusMax => false

/-- Calls that leave the machine: to the clients, the data call service and the
timer. -/
def AgpsEvent.isOutput : AgpsEvent → Bool
  | .openAndStartDataCall _ _ | .stopDataCall | .closeDataCall | .serverDataConn _ _
  | .atlOpenStatus _ _ _ _ _ | .atlCloseStatus _ _ | .requestATL _ _ | .locTimerStart _ => true
  | .subscribeRsrc _ | .unsubscribeRsrc _ | .onRsrcEvent _ _ | .notifyRsrcStatus _ _ _
  | .sendRsrcRequest _ | .requestRsrc _ => false

namespace AgpsStateMachine

/-! ## Notifications -/

theorem output_informStatusCalls (status : AgpsRsrcStatus) (id : UInt32) :
    ∀ event ∈ informStatusCalls status id, event.isOutput = true := by
  cases status <;> simp [informStatusCalls, AgpsEvent.isOutput]

/-- Whatever a subscriber does when it is notified leaves the machine. -/
theorem output_notifyCalls (m : AgpsStateMachine) (s : Subscriber) (status : AgpsRsrcStatus) :
    ∀ event ∈ (m.notifyCalls s status).getD [], event.isOutput = true := by
  unfold notifyCalls
  cases s.kind with
  | bit => cases status <;> simp [bitNotifyCalls, AgpsEvent.isOutput]
  | atl compatibleMode => cases status <;> simp [atlNotifyCalls, AgpsEvent.isOutput]
  | wifi ssid password => cases status <;> simp [wifiNotifyCalls, AgpsEvent.isOutput]
  | ds => cases status <;> simp [dsNotifyCalls, informStatusCalls, AgpsEvent.isOutput]

theorem isSome_notifyCalls (m : AgpsStateMachine) (s : Subscriber) (status : AgpsRsrcStatus) :
    (m.notifyCalls s status).isSome = status.reported := by
  unfold notifyCalls
  cases s.kind <;> cases status <;> rfl

/-- The events of telling one object about a status. -/
def delivery (m : AgpsStateMachine) (status : AgpsRsrcStatus) (obj : SubscriberObj) :
    List AgpsEvent :=
  .notifyRsrcStatus obj.addr obj.sub status :: (m.notifyCalls obj.sub status).getD []

/-- The retry count after telling some objects about a status. -/
def retriesAfter (m : AgpsStateMachine) (status : AgpsRsrcStatus) (objs : List SubscriberObj) :
    UInt8 :=
  if status = .rsrcDenied ∧ ∃ obj ∈ objs, obj.sub.kind = .ds then 0 else m.mRetries

/-- Telling some objects, in order, about a status. -/
@[simps] def deliverAll (m : AgpsStateMachine) (status : AgpsRsrcStatus)
    (objs : List SubscriberObj) : AgpsStateMachine :=
  { m with
    mRetries := m.retriesAfter status objs
    log := m.log ++ objs.flatMap (m.delivery status) }

theorem deliverAll_nil (m : AgpsStateMachine) (status : AgpsRsrcStatus) :
    m.deliverAll status [] = m := by
  simp [deliverAll, retriesAfter]

theorem notifyRsrcStatus_eq (m : AgpsStateMachine) (obj : SubscriberObj) (n : Notification)
    (hreported : n.rsrcStatus.reported = true) :
    m.notifyRsrcStatus obj n =
      (obj.sub.forMe n,
        if obj.sub.forMe n then m.deliverAll n.rsrcStatus [obj] else m) := by
  unfold notifyRsrcStatus
  cases hforMe : obj.sub.forMe n with
  | false => rfl
  | true =>
      have hcalls : (m.notifyCalls obj.sub n.rsrcStatus).isSome = true := by
        rw [isSome_notifyCalls, hreported]
      obtain ⟨calls, hcalls⟩ := Option.isSome_iff_exists.mp hcalls
      simp [hcalls, deliverAll, delivery, retriesAfter, and_comm]

/-- What a delivery says depends on the interface the machine manages only. -/
theorem delivery_congr {m m' : AgpsStateMachine} (htype : m'.mType = m.mType)
    (hapn : m'.mAPN = m.mAPN) (hbearer : m'.mBearer = m.mBearer) (status : AgpsRsrcStatus)
    (obj : SubscriberObj) : m'.delivery status obj = m.delivery status obj := by
  simp only [delivery, notifyCalls, atlNotifyCalls, htype, hapn, hbearer]

theorem deliverAll_append (m : AgpsStateMachine) (status : AgpsRsrcStatus)
    (first second : List SubscriberObj) :
    (m.deliverAll status first).deliverAll status second =
      m.deliverAll status (first ++ second) := by
  have hdelivery : (m.deliverAll status first).delivery status = m.delivery status :=
    funext fun obj => delivery_congr rfl rfl rfl status obj
  have hretries : (m.deliverAll status first).retriesAfter status second =
      m.retriesAfter status (first ++ second) := by
    simp only [retriesAfter, deliverAll_mRetries, List.mem_append, or_and_right, exists_or]
    by_cases hdenied : status = .rsrcDenied <;>
      by_cases hds : ∃ obj ∈ second, obj.sub.kind = .ds <;> simp [hdenied, hds]
  ext1 <;> simp [hdelivery, hretries]

theorem foldl_deliverAll (m : AgpsStateMachine) (status : AgpsRsrcStatus)
    (objs : List SubscriberObj) :
    objs.foldl (fun m obj => m.deliverAll status [obj]) m = m.deliverAll status objs := by
  induction objs generalizing m with
  | nil => exact (m.deliverAll_nil status).symm
  | cons obj rest ih => rw [List.foldl_cons, ih, deliverAll_append, List.singleton_append]

/-- The loop of `notifySubscribers` tells and deletes everyone addressed. -/
theorem notifySubscribers_delete (m : AgpsStateMachine) (n : Notification)
    (hdelete : n.postNotifyDelete = true) (hreported : n.rsrcStatus.reported = true) :
    m.notifySubscribers n =
      { m.deliverAll n.rsrcStatus (m.mSubscribers.filter (·.sub.forMe n)) with
        mSubscribers := m.mSubscribers.filter fun obj => !obj.sub.forMe n } := by
  have hequal : ∀ obj (m : AgpsStateMachine), notifySubscriber n obj m =
      (obj.sub.forMe n,
        if obj.sub.forMe n then m.deliverAll n.rsrcStatus [obj] else m) := by
    intro obj m
    rw [notifySubscriber, m.notifyRsrcStatus_eq obj n hreported]
    simp [hdelete]
  rw [notifySubscribers, if_pos hdelete,
    removeAll_eq (fun obj m => m.deliverAll n.rsrcStatus [obj])
      hequal _ _ _ (Nat.lt_succ_self _), foldl_deliverAll]

/-- Without deletion everyone addressed is told and stays listed. -/
theorem notifySubscribers_keep (m : AgpsStateMachine) (n : Notification)
    (hkeep : n.postNotifyDelete = false) (hreported : n.rsrcStatus.reported = true) :
    m.notifySubscribers n =
      m.deliverAll n.rsrcStatus (m.mSubscribers.filter (·.sub.forMe n)) := by
  have hequal : ∀ obj (m : AgpsStateMachine), notifySubscriber n obj m =
      (false, if obj.sub.forMe n then m.deliverAll n.rsrcStatus [obj] else m) := by
    intro obj m
    rw [notifySubscriber, m.notifyRsrcStatus_eq obj n hreported]
    simp [hkeep]
  rw [notifySubscribers, if_neg (by simp [hkeep]),
    linkedListSearch_decline
      (fun obj m => if obj.sub.forMe n then m.deliverAll n.rsrcStatus [obj] else m)
      hequal]
  rw [← foldl_deliverAll, List.foldl_filter]

/-! ## The subscriber list -/

theorem findSubscriber_eq (m : AgpsStateMachine) (n : Notification) :
    m.findSubscriber n = m.mSubscribers.find? (·.sub.forMe n) :=
  linkedListFind_eq_find? _ _

theorem hasActiveSubscribers_iff (m : AgpsStateMachine) :
    m.hasActiveSubscribers = true ↔ ∃ obj ∈ m.mSubscribers, obj.sub.isInactive = false := by
  rw [hasActiveSubscribers, findSubscriber_eq, List.find?_isSome]
  simp

theorem hasSubscribers_iff (m : AgpsStateMachine) :
    m.hasSubscribers = true ↔ m.mSubscribers ≠ [] := by
  simp [hasSubscribers]

/-- The list after `addSubscriber`. -/
def added (m : AgpsStateMachine) (s : Subscriber) : List SubscriberObj :=
  if m.mSubscribers.any (·.sub.equals s) then m.mSubscribers
  else ⟨m.nextAddr, s.clone⟩ :: m.mSubscribers

theorem addSubscriber_of_any {m : AgpsStateMachine} {s : Subscriber}
    (hany : m.mSubscribers.any (·.sub.equals s) = true) : m.addSubscriber s = m := by
  rw [addSubscriber, findSubscriber_eq]
  obtain ⟨obj, hmem, hequals⟩ := List.any_eq_true.mp hany
  cases hfind : m.mSubscribers.find? (·.sub.forMe (.receiver s)) with
  | none => exact absurd hequals (by simpa using List.find?_eq_none.mp hfind obj hmem)
  | some _ => rfl

theorem addSubscriber_of_not_any {m : AgpsStateMachine} {s : Subscriber}
    (hany : m.mSubscribers.any (·.sub.equals s) = false) :
    m.addSubscriber s = { m with
      mSubscribers := ⟨m.nextAddr, s.clone⟩ :: m.mSubscribers
      nextAddr := m.nextAddr + 1 } := by
  rw [addSubscriber, findSubscriber_eq]
  have hfind : m.mSubscribers.find? (·.sub.forMe (.receiver s)) = none := by
    rw [List.find?_eq_none]
    intro obj hmem
    simpa using List.any_eq_false.mp hany obj hmem
  rw [hfind]

@[simp] theorem addSubscriber_mSubscribers (m : AgpsStateMachine) (s : Subscriber) :
    (m.addSubscriber s).mSubscribers = m.added s := by
  unfold added
  cases hany : m.mSubscribers.any (·.sub.equals s) with
  | true => rw [addSubscriber_of_any hany]; rfl
  | false => rw [addSubscriber_of_not_any hany]; rfl

/-- Adding a subscriber touches the list and the allocator only. -/
theorem addSubscriber_frame (m : AgpsStateMachine) (s : Subscriber) :
    m.addSubscriber s = { m with
      mSubscribers := m.added s
      nextAddr := (m.addSubscriber s).nextAddr } := by
  unfold added
  cases hany : m.mSubscribers.any (·.sub.equals s) with
  | true => rw [addSubscriber_of_any hany]; rfl
  | false => rw [addSubscriber_of_not_any hany]; rfl

@[simp] theorem addSubscriber_cls (m : AgpsStateMachine) (s : Subscriber) :
    (m.addSubscriber s).cls = m.cls := by
  rw [addSubscriber_frame]

@[simp] theorem addSubscriber_mEnforceSingleSubscriber (m : AgpsStateMachine) (s : Subscriber) :
    (m.addSubscriber s).mEnforceSingleSubscriber = m.mEnforceSingleSubscriber := by
  rw [addSubscriber_frame]

@[simp] theorem addSubscriber_log (m : AgpsStateMachine) (s : Subscriber) :
    (m.addSubscriber s).log = m.log := by
  rw [addSubscriber_frame]

/-- The list after `setInactive` on a listed object. -/
def inactivated (m : AgpsStateMachine) (obj : SubscriberObj) : List SubscriberObj :=
  m.mSubscribers.map fun listed =>
    if listed.addr = obj.addr then { listed with sub := listed.sub.setInactive } else listed

/-- What `setInactive` tells the client. -/
def inactiveCalls (obj : SubscriberObj) : List AgpsEvent :=
  if obj.sub.kind = .ds then informStatusCalls .rsrcUnsubscribe obj.sub.ID else []

theorem setInactive_eq (m : AgpsStateMachine) (obj : SubscriberObj) :
    m.setInactive obj = { m with
      mSubscribers := m.inactivated obj
      log := m.log ++ inactiveCalls obj } := by
  unfold setInactive inactiveCalls inactivated
  by_cases hds : obj.sub.kind = .ds <;> simp [hds, informStatus]

theorem output_inactiveCalls (obj : SubscriberObj) :
    ∀ event ∈ inactiveCalls obj, event.isOutput = true := by
  unfold inactiveCalls
  split_ifs
  · exact output_informStatusCalls _ _
  · simp

/-! ## Requests -/

/-- `m'` differs from `m` in the retry count and the log only. -/
def Framed (m m' : AgpsStateMachine) : Prop :=
  m' = { m with mRetries := m'.mRetries, log := m'.log }

theorem framed_record (m : AgpsStateMachine) (events : List AgpsEvent) :
    m.Framed (m.record events) := rfl

theorem Framed.trans {m m' m'' : AgpsStateMachine} (hfirst : m.Framed m')
    (hsecond : m'.Framed m'') : m.Framed m'' := by
  unfold Framed at *
  rw [hsecond, hfirst]

theorem framed_dataCallResult (m : AgpsStateMachine) (connHandle : UInt32) (ret : Int) :
    m.Framed (m.dataCallResult connHandle ret).2 := by
  dsimp only [dataCallResult]
  split_ifs <;> rfl

theorem framed_dsSendRsrcRequest (m : AgpsStateMachine) (action : AGpsStatusValue) :
    m.Framed (m.dsSendRsrcRequest action).2 := by
  cases action <;> exact (framed_record m _).trans (framed_dataCallResult _ _ _)

/-- A request touches the retry count and the log only. -/
theorem framed_sendRsrcRequest (m : AgpsStateMachine) (action : AGpsStatusValue) :
    m.Framed (m.sendRsrcRequest action).2 := by
  unfold sendRsrcRequest
  cases m.cls with
  | agpsStateMachine =>
      dsimp only [agpsSendRsrcRequest]
      split_ifs <;> rfl
  | dsStateMachine =>
      exact (framed_record m [.sendRsrcRequest action]).trans (framed_dsSendRsrcRequest _ action)

@[simp] theorem sendRsrcRequest_mSubscribers (m : AgpsStateMachine) (action : AGpsStatusValue) :
    (m.sendRsrcRequest action).2.mSubscribers = m.mSubscribers := by
  rw [framed_sendRsrcRequest m action]

@[simp] theorem sendRsrcRequest_cls (m : AgpsStateMachine) (action : AGpsStatusValue) :
    (m.sendRsrcRequest action).2.cls = m.cls := by
  rw [framed_sendRsrcRequest m action]

@[simp] theorem sendRsrcRequest_nextAddr (m : AgpsStateMachine) (action : AGpsStatusValue) :
    (m.sendRsrcRequest action).2.nextAddr = m.nextAddr := by
  rw [framed_sendRsrcRequest m action]

/-- What the base class logs for a request: the guard compares the action with
the presence of an active subscriber. -/
def agpsRequestEvents (m : AgpsStateMachine) (action : AGpsStatusValue) : List AgpsEvent :=
  .sendRsrcRequest action ::
    if m.hasActiveSubscribers = (action == .gpsRequestAgpsDataConn) then
      [.requestRsrc (m.nifRequest action (m.findSubscriber (.broadcast .active)))]
    else []

theorem sendRsrcRequest_agps {m : AgpsStateMachine} (hcls : m.cls = .agpsStateMachine)
    (action : AGpsStatusValue) :
    m.sendRsrcRequest action = (0, m.record (m.agpsRequestEvents action)) := by
  have hguard : ((m.findSubscriber (.broadcast .active)).isNone =
      (action == .gpsReleaseAgpsDataConn)) ↔
      (m.hasActiveSubscribers = (action == .gpsRequestAgpsDataConn)) := by
    unfold hasActiveSubscribers
    cases m.findSubscriber (.broadcast .active) <;> cases action <;> simp
  have hfind : (m.record [.sendRsrcRequest action]).findSubscriber (.broadcast .active) =
      m.findSubscriber (.broadcast .active) := rfl
  unfold sendRsrcRequest
  simp only [hcls, agpsSendRsrcRequest, agpsRequestEvents, hfind, hguard]
  split_ifs <;> simp [record, nifRequest]

/-! ## The parts of a transition -/

theorem unsubscribed_mSubscribers (m : AgpsStateMachine) (data : SubscriberObj) :
    (m.unsubscribed data).mSubscribers =
      if data.sub.waitForCloseComplete then m.inactivated data
      else m.mSubscribers.filter fun obj => !obj.sub.equals data.sub := by
  unfold unsubscribed
  split_ifs
  · rw [setInactive_eq]
  · rw [notifySubscribers_delete _ _ rfl rfl]
    rfl

theorem unsubscribed_frame (m : AgpsStateMachine) (data : SubscriberObj) :
    m.unsubscribed data = { m with
      mSubscribers := (m.unsubscribed data).mSubscribers
      mRetries := (m.unsubscribed data).mRetries
      log := (m.unsubscribed data).log } := by
  unfold unsubscribed
  split_ifs
  · rw [setInactive_eq]
  · rw [notifySubscribers_delete _ _ rfl rfl]
    rfl

@[simp] theorem releaseIfUnused_mSubscribers (m : AgpsStateMachine) (state : AgpsState) :
    (m.releaseIfUnused state).2.mSubscribers = m.mSubscribers := by
  unfold releaseIfUnused
  split_ifs <;> simp

theorem releaseIfUnused_frame (m : AgpsStateMachine) (state : AgpsState) :
    m.Framed (m.releaseIfUnused state).2 := by
  unfold releaseIfUnused
  split_ifs
  · exact framed_sendRsrcRequest m _
  · exact framed_sendRsrcRequest m _
  · rfl

theorem notifySubscribers_inactive (m : AgpsStateMachine) {status : AgpsRsrcStatus}
    (hreported : status.reported = true) :
    (m.notifySubscribers (.broadcast .inactive status true)).mSubscribers =
      m.mSubscribers.filter fun obj => !obj.sub.isInactive := by
  rw [notifySubscribers_delete _ _ rfl hreported]
  simp only [Subscriber.forMe_inactive]

theorem notifySubscribers_all (m : AgpsStateMachine) {status : AgpsRsrcStatus}
    (hreported : status.reported = true) :
    (m.notifySubscribers (.broadcast .all status true)).mSubscribers = [] := by
  rw [notifySubscribers_delete _ _ rfl hreported]
  simp

theorem closeComplete_mSubscribers (m : AgpsStateMachine) {status : AgpsRsrcStatus}
    (hreported : status.reported = true) :
    (m.closeComplete status).2.mSubscribers =
      m.mSubscribers.filter fun obj => !obj.sub.isInactive := by
  have hlist := m.notifySubscribers_inactive hreported
  dsimp only [closeComplete]
  split_ifs
  · rw [sendRsrcRequest_mSubscribers, hlist]
  · exact hlist

theorem notifySubscribers_frame (m : AgpsStateMachine) (n : Notification)
    (hreported : n.rsrcStatus.reported = true) :
    m.notifySubscribers n = { m with
      mSubscribers := (m.notifySubscribers n).mSubscribers
      mRetries := (m.notifySubscribers n).mRetries
      log := (m.notifySubscribers n).log } := by
  cases hdelete : n.postNotifyDelete with
  | true => rw [notifySubscribers_delete m n hdelete hreported]; rfl
  | false => rw [notifySubscribers_keep m n hdelete hreported]; rfl

theorem closeComplete_frame (m : AgpsStateMachine) {status : AgpsRsrcStatus}
    (hreported : status.reported = true) :
    (m.closeComplete status).2 = { m with
      mSubscribers := (m.closeComplete status).2.mSubscribers
      mRetries := (m.closeComplete status).2.mRetries
      log := (m.closeComplete status).2.log } := by
  have hnotify := m.notifySubscribers_frame (.broadcast .inactive status true) hreported
  dsimp only [closeComplete]
  split_ifs
  · rw [framed_sendRsrcRequest, hnotify]
  · exact hnotify

/-! ## What no transition changes -/

/-- `m'` is the machine `m` at another time: what the constructor alone sets is
the same. -/
structure SameMachine (m m' : AgpsStateMachine) : Prop where
  cls : m'.cls = m.cls
  mType : m'.mType = m.mType
  mEnforceSingleSubscriber : m'.mEnforceSingleSubscriber = m.mEnforceSingleSubscriber

theorem SameMachine.trans {m m' m'' : AgpsStateMachine} (hfirst : m.SameMachine m')
    (hsecond : m'.SameMachine m'') : m.SameMachine m'' where
  cls := hsecond.cls.trans hfirst.cls
  mType := hsecond.mType.trans hfirst.mType
  mEnforceSingleSubscriber :=
    hsecond.mEnforceSingleSubscriber.trans hfirst.mEnforceSingleSubscriber

/-- So are the members that are set from outside, and the state object. -/
structure SameInterface (m m' : AgpsStateMachine) : Prop extends SameMachine m m' where
  mServicer : m'.mServicer = m.mServicer
  mStatePtr : m'.mStatePtr = m.mStatePtr
  mAPN : m'.mAPN = m.mAPN
  mBearer : m'.mBearer = m.mBearer

namespace SameInterface

theorem refl (m : AgpsStateMachine) : m.SameInterface m := ⟨⟨rfl, rfl, rfl⟩, rfl, rfl, rfl, rfl⟩

theorem trans {m m' m'' : AgpsStateMachine} (hfirst : m.SameInterface m')
    (hsecond : m'.SameInterface m'') : m.SameInterface m'' where
  toSameMachine := hfirst.toSameMachine.trans hsecond.toSameMachine
  mServicer := hsecond.mServicer.trans hfirst.mServicer
  mStatePtr := hsecond.mStatePtr.trans hfirst.mStatePtr
  mAPN := hsecond.mAPN.trans hfirst.mAPN
  mBearer := hsecond.mBearer.trans hfirst.mBearer

/-- The list, the allocator, the retry count and the log may change. -/
theorem edited (m : AgpsStateMachine) (list : List SubscriberObj) (retries : UInt8)
    (bound : Nat) (log : List AgpsEvent) :
    m.SameInterface { m with
      mSubscribers := list, mRetries := retries, nextAddr := bound, log := log } :=
  ⟨⟨rfl, rfl, rfl⟩, rfl, rfl, rfl, rfl⟩

theorem sendRsrcRequest (m : AgpsStateMachine) (action : AGpsStatusValue) :
    m.SameInterface (m.sendRsrcRequest action).2 := by
  rw [framed_sendRsrcRequest m action]
  exact edited m _ _ _ _

theorem addSubscriber (m : AgpsStateMachine) (s : Subscriber) :
    m.SameInterface (m.addSubscriber s) := by
  rw [addSubscriber_frame]
  exact edited m _ _ _ _

theorem notifyRsrcStatus (m : AgpsStateMachine) (obj : SubscriberObj) (n : Notification)
    (hreported : n.rsrcStatus.reported = true) :
    m.SameInterface (m.notifyRsrcStatus obj n).2 := by
  rw [notifyRsrcStatus_eq m obj n hreported]
  dsimp only
  split_ifs
  · exact edited m _ _ _ _
  · exact refl m

theorem notifySubscribers (m : AgpsStateMachine) (n : Notification)
    (hreported : n.rsrcStatus.reported = true) : m.SameInterface (m.notifySubscribers n) := by
  rw [notifySubscribers_frame m n hreported]
  exact edited m _ _ _ _

theorem unsubscribed (m : AgpsStateMachine) (data : SubscriberObj) :
    m.SameInterface (m.unsubscribed data) := by
  rw [unsubscribed_frame]
  exact edited m _ _ _ _

theorem releaseIfUnused (m : AgpsStateMachine) (state : AgpsState) :
    m.SameInterface (m.releaseIfUnused state).2 := by
  rw [releaseIfUnused_frame m state]
  exact edited m _ _ _ _

theorem closeComplete (m : AgpsStateMachine) {status : AgpsRsrcStatus}
    (hreported : status.reported = true) : m.SameInterface (m.closeComplete status).2 := by
  rw [closeComplete_frame m hreported]
  exact edited m _ _ _ _

/-- The virtual call leaves the interface alone; its answer is the next state. -/
theorem dispatch (m : AgpsStateMachine) (event : RsrcEvent) :
    m.SameInterface (m.dispatch event).2 := by
  unfold AgpsStateMachine.dispatch
  cases m.mStatePtr with
  | released =>
      cases event with
      | rsrcSubscribe data => exact (addSubscriber m data.sub).trans (sendRsrcRequest _ _)
      | rsrcUnsubscribe data => exact notifyRsrcStatus m data _ rfl
      | _ => exact refl m
  | pending =>
      cases event with
      | rsrcSubscribe data => exact addSubscriber m data.sub
      | rsrcUnsubscribe data => exact (unsubscribed m data).trans (releaseIfUnused _ _)
      | rsrcGranted => exact notifySubscribers m (.broadcast .active .rsrcGranted) rfl
      | rsrcReleased => exact refl m
      | rsrcDenied => exact notifySubscribers m (.broadcast .all .rsrcDenied true) rfl
  | acquired =>
      cases event with
      | rsrcSubscribe data =>
          exact (notifyRsrcStatus m data _ rfl).trans (addSubscriber _ data.sub)
      | rsrcUnsubscribe data => exact (unsubscribed m data).trans (releaseIfUnused _ _)
      | rsrcReleased => exact notifySubscribers m (.broadcast .all .rsrcReleased true) rfl
      | rsrcGranted | rsrcDenied => exact refl m
  | releasing =>
      cases event with
      | rsrcSubscribe data => exact addSubscriber m data.sub
      | rsrcUnsubscribe data => exact unsubscribed m data
      | rsrcGranted => exact refl m
      | rsrcReleased | rsrcDenied => exact closeComplete m rfl

end SameInterface

namespace SameMachine

theorem stateOnRsrcEvent (m : AgpsStateMachine) (event : RsrcEvent) :
    m.SameMachine (m.stateOnRsrcEvent event) := by
  have hdispatch := SameInterface.dispatch
    (m.record [.onRsrcEvent m.mStatePtr event.status]) event
  exact ⟨hdispatch.cls, hdispatch.mType, hdispatch.mEnforceSingleSubscriber⟩

theorem subscribeRsrc (m : AgpsStateMachine) (s : Subscriber) :
    m.SameMachine (m.subscribeRsrc s) := by
  dsimp only [AgpsStateMachine.subscribeRsrc]
  set m₀ := { m.record [.subscribeRsrc s] with nextAddr := m.nextAddr + 1 }
  have hentry : m.SameMachine m₀ := ⟨rfl, rfl, rfl⟩
  split_ifs
  · rw [notifySubscriber]
    exact hentry.trans
      (SameInterface.notifyRsrcStatus m₀ _ (.broadcast .all .rsrcDenied true) rfl).toSameMachine
  · exact hentry.trans (stateOnRsrcEvent m₀ _)

theorem unsubscribeRsrc (m : AgpsStateMachine) (s : Subscriber) :
    m.SameMachine (m.unsubscribeRsrc s).2 := by
  have hentry : m.SameMachine (m.record [.unsubscribeRsrc s]) := ⟨rfl, rfl, rfl⟩
  dsimp only [AgpsStateMachine.unsubscribeRsrc]
  split
  · exact hentry.trans (stateOnRsrcEvent _ _)
  · exact hentry

theorem onRsrcEvent (m : AgpsStateMachine) (event : AgpsRsrcStatus) :
    m.SameMachine (m.onRsrcEvent event) := by
  have hrefl : m.SameMachine m := ⟨rfl, rfl, rfl⟩
  unfold AgpsStateMachine.onRsrcEvent
  cases m.cls with
  | agpsStateMachine =>
      cases event with
      | rsrcGranted | rsrcReleased | rsrcDenied => exact stateOnRsrcEvent m _
      | _ => exact hrefl
  | dsStateMachine =>
      cases event with
      | rsrcGranted | rsrcDenied => exact stateOnRsrcEvent m _
      | rsrcReleased =>
          dsimp only [dsOnRsrcEvent]
          split_ifs
          · exact stateOnRsrcEvent m _
          · exact (stateOnRsrcEvent m _).trans (stateOnRsrcEvent _ _)
      | _ => exact hrefl

theorem step (m : AgpsStateMachine) (call : Call) : m.SameMachine (m.step call) := by
  cases call with
  | subscribeRsrc request => exact subscribeRsrc m request.subscriber
  | unsubscribeRsrc request => exact unsubscribeRsrc m request.subscriber
  | onRsrcEvent event => exact onRsrcEvent m event
  | setAPN | setBearer | dataCallAnswer => exact ⟨rfl, rfl, rfl⟩

end SameMachine

end AgpsStateMachine

end Serrano.Agps
