import Serrano.Agps.Invariant
import Mathlib.Data.List.Nodup

/-! # Who is told what

What a transition does to the list and what it tells the subscribers belong
together: whoever is removed is told so, and who stays is told at most that
the resource is granted. `Effect` lists the ways in which the state classes
combine the two; the accounting of notifications follows from it.
-/

namespace Serrano.Agps

/-- An object and the status that was delivered to it. -/
abbrev Told := SubscriberObj × AgpsRsrcStatus

/-- The statuses that end a subscription. -/
def AgpsRsrcStatus.terminal : AgpsRsrcStatus → Bool
  | .rsrcUnsubscribe | .rsrcReleased | .rsrcDenied => true
  | .rsrcSubscribe | .rsrcGranted | .rsrcStatusMax => false

def AgpsEvent.told? : AgpsEvent → Option Told
  | .notifyRsrcStatus addr s status => some (⟨addr, s⟩, status)
  | _ => none

/-- A call of a client. -/
def AgpsEvent.isClientCall : AgpsEvent → Bool
  | .subscribeRsrc _ | .unsubscribeRsrc _ => true
  | _ => false

/-- How often an object was told that its subscription ended. -/
def endings (addr : Nat) (told : List Told) : Nat :=
  told.countP fun told => told.1.addr == addr && told.2.terminal

def terminalCount (addr : Nat) (events : List AgpsEvent) : Nat :=
  endings addr (events.filterMap AgpsEvent.told?)

namespace AgpsStateMachine

/-! ## Continuing the log -/

/-- `m'` continues the log of `m` by events that deliver these notifications
and are no calls of clients. -/
def Tells (m m' : AgpsStateMachine) (told : List Told) : Prop :=
  ∃ events, m'.log = m.log ++ events ∧ events.filterMap AgpsEvent.told? = told ∧
    ∀ event ∈ events, event.isClientCall = false

/-- Events that are neither notifications nor calls of clients. -/
def Mute (events : List AgpsEvent) : Prop :=
  ∀ event ∈ events, event.told? = none ∧ event.isClientCall = false

theorem Tells.mute {m m' : AgpsStateMachine} {events : List AgpsEvent}
    (hlog : m'.log = m.log ++ events) (hmute : Mute events) : m.Tells m' [] :=
  ⟨events, hlog, List.filterMap_eq_nil_iff.mpr fun event hmem => (hmute event hmem).1,
    fun event hmem => (hmute event hmem).2⟩

theorem Tells.of_log_eq {m m' : AgpsStateMachine} (hlog : m'.log = m.log) : m.Tells m' [] :=
  ⟨[], by simp [hlog], rfl, by simp⟩

theorem Tells.trans {m m' m'' : AgpsStateMachine} {first second : List Told}
    (hfirst : m.Tells m' first) (hsecond : m'.Tells m'' second) :
    m.Tells m'' (first ++ second) := by
  obtain ⟨events, hlog, rfl, hcalls⟩ := hfirst
  obtain ⟨events', hlog', rfl, hcalls'⟩ := hsecond
  refine ⟨events ++ events', by rw [hlog', hlog, List.append_assoc],
    List.filterMap_append, ?_⟩
  intro event hmem
  rcases List.mem_append.mp hmem with hmem | hmem
  · exact hcalls event hmem
  · exact hcalls' event hmem

/-- Appending mute events delivers nothing more. -/
theorem Tells.then {m m' m'' : AgpsStateMachine} {told : List Told} (hfirst : m.Tells m' told)
    (hsecond : m'.Tells m'' []) : m.Tells m'' told := by
  simpa using hfirst.trans hsecond

theorem mute_of_output {events : List AgpsEvent}
    (houtput : ∀ event ∈ events, event.isOutput = true) : Mute events := by
  intro event hmem
  have := houtput event hmem
  cases event <;> first | exact ⟨rfl, rfl⟩ | contradiction

theorem tells_deliverAll (m : AgpsStateMachine) (status : AgpsRsrcStatus)
    (objs : List SubscriberObj) :
    m.Tells (m.deliverAll status objs) (objs.map (·, status)) := by
  refine ⟨objs.flatMap (m.delivery status), rfl, ?_, ?_⟩
  · induction objs with
    | nil => rfl
    | cons obj rest ih =>
        have hmute : ((m.notifyCalls obj.sub status).getD []).filterMap AgpsEvent.told? = [] :=
          List.filterMap_eq_nil_iff.mpr fun event hmem =>
            (mute_of_output (m.output_notifyCalls obj.sub status) event hmem).1
        simp [delivery, AgpsEvent.told?, hmute, ih]
  · intro event hmem
    obtain ⟨obj, _, hmem⟩ := List.mem_flatMap.mp hmem
    rcases List.mem_cons.mp hmem with rfl | hmem
    · rfl
    · exact (mute_of_output (m.output_notifyCalls obj.sub status) event hmem).2

theorem tells_notifyRsrcStatus (m : AgpsStateMachine) (obj : SubscriberObj) (n : Notification)
    (hreported : n.rsrcStatus.reported = true) (hforMe : obj.sub.forMe n = true) :
    m.Tells (m.notifyRsrcStatus obj n).2 [(obj, n.rsrcStatus)] := by
  rw [notifyRsrcStatus_eq m obj n hreported, hforMe]
  exact m.tells_deliverAll n.rsrcStatus [obj]

theorem tells_notifySubscribers (m : AgpsStateMachine) (n : Notification)
    (hreported : n.rsrcStatus.reported = true) :
    m.Tells (m.notifySubscribers n)
      ((m.mSubscribers.filter (·.sub.forMe n)).map (·, n.rsrcStatus)) := by
  cases hdelete : n.postNotifyDelete with
  | true =>
      rw [notifySubscribers_delete m n hdelete hreported]
      exact m.tells_deliverAll n.rsrcStatus _
  | false =>
      rw [notifySubscribers_keep m n hdelete hreported]
      exact m.tells_deliverAll n.rsrcStatus _

theorem tells_setInactive (m : AgpsStateMachine) (obj : SubscriberObj) :
    m.Tells (m.setInactive obj) [] := by
  rw [setInactive_eq]
  exact Tells.mute rfl (mute_of_output (output_inactiveCalls obj))

theorem tells_dataCallResult (m : AgpsStateMachine) (connHandle : UInt32) (ret : Int) :
    m.Tells (m.dataCallResult connHandle ret).2 [] := by
  dsimp only [dataCallResult]
  split_ifs
  · exact Tells.mute rfl (mute_of_output (output_informStatusCalls _ _))
  · exact Tells.mute rfl (by simp [Mute, AgpsEvent.told?, AgpsEvent.isClientCall])
  · exact Tells.mute rfl (mute_of_output (output_informStatusCalls _ _))
  · exact Tells.of_log_eq rfl
  · exact Tells.mute rfl (mute_of_output (output_informStatusCalls _ _))
  · exact Tells.of_log_eq rfl

theorem tells_record (m : AgpsStateMachine) {events : List AgpsEvent} (hmute : Mute events) :
    m.Tells (m.record events) [] := Tells.mute rfl hmute

/-- A request to the service provider tells no subscriber anything. -/
theorem tells_sendRsrcRequest (m : AgpsStateMachine) (action : AGpsStatusValue) :
    m.Tells (m.sendRsrcRequest action).2 [] := by
  have hentry : m.Tells (m.record [.sendRsrcRequest action]) [] :=
    m.tells_record (by simp [Mute, AgpsEvent.told?, AgpsEvent.isClientCall])
  unfold sendRsrcRequest
  cases m.cls with
  | agpsStateMachine =>
      refine hentry.then ?_
      dsimp only [agpsSendRsrcRequest]
      split_ifs
      · exact tells_record _ (by simp [Mute, AgpsEvent.told?, AgpsEvent.isClientCall])
      · exact Tells.of_log_eq rfl
  | dsStateMachine =>
      refine hentry.then ?_
      cases action <;>
        exact (tells_record _ (by simp [Mute, AgpsEvent.told?, AgpsEvent.isClientCall])).then
          (tells_dataCallResult _ _ _)

/-! ## The effect of a transition -/

/-- The event is about a subscriber. -/
def RsrcEvent.ofClient : RsrcEvent → Bool
  | .rsrcSubscribe _ | .rsrcUnsubscribe _ => true
  | .rsrcGranted | .rsrcReleased | .rsrcDenied => false

/-- How a state class answers an event: what becomes of the list, and who is
told what. -/
inductive Effect (m : AgpsStateMachine) :
    RsrcEvent → AgpsState × AgpsStateMachine → List Told → Prop
  /-- Nothing happens to the subscribers. -/
  | stay {event : RsrcEvent} {next : AgpsState × AgpsStateMachine}
      (hevent : event.ofClient = false) (hlist : next.2.mSubscribers = m.mSubscribers) :
      Effect m event next []
  /-- A subscriber is added, if none equals it. -/
  | add {data : SubscriberObj} {next : AgpsState × AgpsStateMachine}
      (hlist : next.2.mSubscribers = m.added data.sub) : Effect m (.rsrcSubscribe data) next []
  /-- The caller is granted the resource the machine holds, and added. -/
  | addGranted {data : SubscriberObj} {next : AgpsState × AgpsStateMachine}
      (hstate : m.mStatePtr = .acquired) (hnext : next.1 = .acquired)
      (hlist : next.2.mSubscribers = m.added data.sub) :
      Effect m (.rsrcSubscribe data) next [(data, .rsrcGranted)]
  /-- Released tells an unsubscriber so and leaves it listed. -/
  | tell {data : SubscriberObj} {next : AgpsState × AgpsStateMachine}
      (hstate : m.mStatePtr = .released) (hlist : next.2.mSubscribers = m.mSubscribers) :
      Effect m (.rsrcUnsubscribe data) next [(data, .rsrcUnsubscribe)]
  /-- An unsubscriber waits for the close. -/
  | deactivate {data : SubscriberObj} {next : AgpsState × AgpsStateMachine}
      (hwaits : data.sub.waitForCloseComplete = true)
      (hlist : next.2.mSubscribers = m.inactivated data) :
      Effect m (.rsrcUnsubscribe data) next []
  /-- Some subscribers are told that it is over, and removed. -/
  | leave {event : RsrcEvent} {next : AgpsState × AgpsStateMachine}
      (leaves : SubscriberObj → Bool) (status : AgpsRsrcStatus)
      (hevent : ∀ data, event ≠ .rsrcSubscribe data) (hterminal : status.terminal = true)
      (hlist : next.2.mSubscribers = m.mSubscribers.filter fun obj => !leaves obj) :
      Effect m event next ((m.mSubscribers.filter leaves).map (·, status))
  /-- Pending becomes Acquired, and the active subscribers are told. -/
  | grant {next : AgpsState × AgpsStateMachine} (hstate : m.mStatePtr = .pending)
      (hnext : next.1 = .acquired) (hlist : next.2.mSubscribers = m.mSubscribers) :
      Effect m .rsrcGranted next
        ((m.mSubscribers.filter fun obj => !obj.sub.isInactive).map (·, .rsrcGranted))

/-- A request after the list was edited changes no effect. -/
theorem Effect.of_list_eq {m : AgpsStateMachine} {event : RsrcEvent}
    {next next' : AgpsState × AgpsStateMachine} {told : List Told}
    (heffect : m.Effect event next told) (hnext : next.1 = .acquired → next'.1 = .acquired)
    (hlist : next'.2.mSubscribers = next.2.mSubscribers) : m.Effect event next' told := by
  cases heffect with
  | stay hevent hkept => exact .stay hevent (hlist.trans hkept)
  | add hadded => exact .add (hlist.trans hadded)
  | addGranted hstate hacquired hadded =>
      exact .addGranted hstate (hnext hacquired) (hlist.trans hadded)
  | tell hstate hkept => exact .tell hstate (hlist.trans hkept)
  | deactivate hwaits hmap => exact .deactivate hwaits (hlist.trans hmap)
  | leave leaves status hevent hterminal hkept =>
      exact .leave leaves status hevent hterminal (hlist.trans hkept)
  | grant hstate hacquired hkept => exact .grant hstate (hnext hacquired) (hlist.trans hkept)

theorem effect_unsubscribed (m : AgpsStateMachine) (data : SubscriberObj) :
    ∃ told, m.Tells (m.unsubscribed data) told ∧
      m.Effect (.rsrcUnsubscribe data) (.released, m.unsubscribed data) told := by
  have hlist := m.unsubscribed_mSubscribers data
  by_cases hwaits : data.sub.waitForCloseComplete = true
  · rw [if_pos hwaits] at hlist
    refine ⟨[], ?_, .deactivate hwaits hlist⟩
    rw [unsubscribed, if_pos hwaits]
    exact m.tells_setInactive data
  · rw [if_neg hwaits] at hlist
    refine ⟨_, ?_, .leave (fun obj => obj.sub.equals data.sub) .rsrcUnsubscribe (by simp) rfl
      hlist⟩
    rw [unsubscribed, if_neg hwaits]
    exact m.tells_notifySubscribers (.receiver data.sub .rsrcUnsubscribe true) rfl

theorem tells_releaseIfUnused (m : AgpsStateMachine) (state : AgpsState) :
    m.Tells (m.releaseIfUnused state).2 [] := by
  unfold releaseIfUnused
  split_ifs
  · exact m.tells_sendRsrcRequest _
  · exact m.tells_sendRsrcRequest _
  · exact Tells.of_log_eq rfl

theorem effect_leaving (m : AgpsStateMachine) (data : SubscriberObj) (state : AgpsState) :
    ∃ told, m.Tells ((m.unsubscribed data).releaseIfUnused state).2 told ∧
      m.Effect (.rsrcUnsubscribe data) ((m.unsubscribed data).releaseIfUnused state) told := by
  obtain ⟨told, htells, heffect⟩ := m.effect_unsubscribed data
  exact ⟨told, htells.then ((m.unsubscribed data).tells_releaseIfUnused state),
    heffect.of_list_eq (by simp) (releaseIfUnused_mSubscribers _ _)⟩

/-- A terminal status for everyone. -/
theorem effect_clear (m : AgpsStateMachine) (event : RsrcEvent) (next : AgpsState)
    {status : AgpsRsrcStatus} (hevent : event.ofClient = false)
    (hreported : status.reported = true) (hterminal : status.terminal = true) :
    ∃ told, m.Tells (m.notifySubscribers (.broadcast .all status true)) told ∧
      m.Effect event (next, m.notifySubscribers (.broadcast .all status true)) told := by
  refine ⟨_, m.tells_notifySubscribers (.broadcast .all status true) hreported,
    .leave (fun obj => obj.sub.forMe (.broadcast .all status true)) status ?_ hterminal ?_⟩
  · rintro data rfl
    simp [RsrcEvent.ofClient] at hevent
  · rw [notifySubscribers_delete _ _ rfl hreported]

theorem effect_closeComplete (m : AgpsStateMachine) (event : RsrcEvent)
    {status : AgpsRsrcStatus} (hevent : event.ofClient = false)
    (hreported : status.reported = true) (hterminal : status.terminal = true) :
    ∃ told, m.Tells (m.closeComplete status).2 told ∧
      m.Effect event (m.closeComplete status) told := by
  refine ⟨(m.mSubscribers.filter (·.sub.isInactive)).map (·, status), ?_,
    .leave (fun obj => obj.sub.isInactive) status ?_ hterminal
      (m.closeComplete_mSubscribers hreported)⟩
  · have hnotified := m.tells_notifySubscribers (.broadcast .inactive status true) hreported
    simp only [Subscriber.forMe_inactive] at hnotified
    dsimp only [closeComplete]
    split_ifs
    · exact hnotified.then (tells_sendRsrcRequest _ _)
    · exact hnotified
  · rintro data rfl
    simp [RsrcEvent.ofClient] at hevent

/-- What a state class can do to the subscribers, for both machine classes. -/
theorem dispatch_effect (m : AgpsStateMachine) (event : RsrcEvent) :
    ∃ told, m.Tells (m.dispatch event).2 told ∧ m.Effect event (m.dispatch event) told := by
  have hsame : m.Tells m [] := Tells.of_log_eq rfl
  have hadded : ∀ s, m.Tells (m.addSubscriber s) [] :=
    fun s => Tells.of_log_eq (addSubscriber_log m s)
  unfold dispatch
  cases hstate : m.mStatePtr with
  | released =>
      cases event with
      | rsrcSubscribe data =>
          refine ⟨[], (hadded data.sub).then (tells_sendRsrcRequest _ _), .add ?_⟩
          simp [releasedOnRsrcEvent]
      | rsrcUnsubscribe data =>
          refine ⟨_, m.tells_notifyRsrcStatus data (.receiver data.sub .rsrcUnsubscribe) rfl
            (Subscriber.equals_self _), .tell hstate ?_⟩
          simp [releasedOnRsrcEvent, notifyRsrcStatus_eq m data (.receiver data.sub .rsrcUnsubscribe)
            rfl]
      | rsrcGranted | rsrcReleased | rsrcDenied => exact ⟨[], hsame, .stay rfl rfl⟩
  | pending =>
      cases event with
      | rsrcSubscribe data =>
          exact ⟨[], hadded data.sub, .add (addSubscriber_mSubscribers m data.sub)⟩
      | rsrcUnsubscribe data => exact m.effect_leaving data .pending
      | rsrcGranted =>
          have htells := m.tells_notifySubscribers (.broadcast .active .rsrcGranted) rfl
          simp only [Subscriber.forMe_active] at htells
          refine ⟨_, htells, .grant hstate rfl ?_⟩
          simp only [pendingOnRsrcEvent]
          rw [notifySubscribers_keep _ _ rfl rfl, deliverAll_mSubscribers]
      | rsrcReleased => exact ⟨[], hsame, .stay rfl rfl⟩
      | rsrcDenied => exact m.effect_clear .rsrcDenied .released rfl rfl rfl
  | acquired =>
      cases event with
      | rsrcSubscribe data =>
          have htold := m.tells_notifyRsrcStatus data (.receiver data.sub .rsrcGranted) rfl
            (Subscriber.equals_self _)
          refine ⟨_, htold.then (Tells.of_log_eq (addSubscriber_log _ data.sub)),
            .addGranted hstate rfl ?_⟩
          simp only [acquiredOnRsrcEvent, addSubscriber_mSubscribers,
            notifyRsrcStatus_eq m data (.receiver data.sub .rsrcGranted) rfl,
            Subscriber.forMe_receiver, Subscriber.equals_self, if_true]
          rfl
      | rsrcUnsubscribe data => exact m.effect_leaving data .acquired
      | rsrcReleased => exact m.effect_clear .rsrcReleased .released rfl rfl rfl
      | rsrcGranted | rsrcDenied => exact ⟨[], hsame, .stay rfl rfl⟩
  | releasing =>
      cases event with
      | rsrcSubscribe data =>
          exact ⟨[], hadded data.sub, .add (addSubscriber_mSubscribers m data.sub)⟩
      | rsrcUnsubscribe data =>
          obtain ⟨told, htells, heffect⟩ := m.effect_unsubscribed data
          exact ⟨told, htells, heffect.of_list_eq (by simp) rfl⟩
      | rsrcGranted => exact ⟨[], hsame, .stay rfl rfl⟩
      | rsrcReleased => exact m.effect_closeComplete .rsrcReleased rfl rfl rfl
      | rsrcDenied => exact m.effect_closeComplete .rsrcDenied rfl rfl rfl

end AgpsStateMachine

/-! ## The account of a step -/

/-- Between two lists: who is gone was told once that it is over, and who is
there was not. -/
structure Accounted (list list' : List SubscriberObj) (told : List Told) : Prop where
  leavers : ∀ obj ∈ list, (∀ obj' ∈ list', obj'.addr ≠ obj.addr) → endings obj.addr told = 1
  stayers : ∀ obj ∈ list', endings obj.addr told = 0

theorem endings_eq_zero {addr : Nat} {told : List Told}
    (hnone : ∀ t ∈ told, t.1.addr = addr → t.2.terminal = false) : endings addr told = 0 := by
  refine List.countP_eq_zero.mpr fun t hmem => ?_
  simpa using hnone t hmem

theorem endings_map (addr : Nat) {status : AgpsRsrcStatus} (hterminal : status.terminal = true)
    (list : List SubscriberObj) :
    endings addr (list.map (·, status)) = (list.map (·.addr)).count addr := by
  rw [endings, List.countP_map, List.count, List.countP_map]
  simp [Function.comp_def, hterminal]

/-- Nobody leaves, and nobody listed is told that it is over. -/
theorem Accounted.of_kept {list list' : List SubscriberObj} {told : List Told}
    (hkept : ∀ obj ∈ list, ∃ obj' ∈ list', obj'.addr = obj.addr)
    (hnone : ∀ t ∈ told, ∀ obj ∈ list', t.1.addr = obj.addr → t.2.terminal = false) :
    Accounted list list' told where
  leavers obj hmem hgone := by
    obtain ⟨obj', hmem', haddr⟩ := hkept obj hmem
    exact absurd haddr (hgone obj' hmem')
  stayers obj hmem := endings_eq_zero fun t ht haddr => hnone t ht obj hmem haddr

/-- Those who leave are told, each at its own address. -/
theorem Accounted.of_leave {list : List SubscriberObj} {bound : Nat}
    (hlisted : Listed list bound) (leaves : SubscriberObj → Bool) {status : AgpsRsrcStatus}
    (hterminal : status.terminal = true) :
    Accounted list (list.filter fun obj => !leaves obj)
      ((list.filter leaves).map (·, status)) where
  leavers obj hmem hgone := by
    have hleaves : leaves obj = true := by
      by_contra hstays
      exact hgone obj (List.mem_filter.mpr ⟨hmem, by simpa using hstays⟩) rfl
    have hnodup : ((list.filter leaves).map (·.addr)).Nodup :=
      List.pairwise_map.mpr (hlisted.addrs.sublist List.filter_sublist)
    rw [endings_map _ hterminal]
    exact List.count_eq_one_of_mem hnodup
      (List.mem_map.mpr ⟨obj, List.mem_filter.mpr ⟨hmem, hleaves⟩, rfl⟩)
  stayers obj hmem := by
    obtain ⟨hmem, hstays⟩ := List.mem_filter.mp hmem
    rw [endings_map _ hterminal]
    refine List.count_eq_zero_of_not_mem fun hin => ?_
    obtain ⟨obj', hmem', haddr⟩ := List.mem_map.mp hin
    obtain ⟨hmem', hleaves⟩ := List.mem_filter.mp hmem'
    rw [hlisted.eq_of_addr hmem' hmem haddr] at hleaves
    simp [hleaves] at hstays

namespace AgpsStateMachine

/-- An event of a machine whose list agrees with its state is accounted for. -/
theorem Effect.accounted {m : AgpsStateMachine} {event : RsrcEvent}
    {next : AgpsState × AgpsStateMachine} {told : List Told} (heffect : m.Effect event next told)
    (hlisted : Listed m.mSubscribers m.nextAddr)
    (hserved : ∀ data, event = .rsrcUnsubscribe data → m.mStatePtr ≠ .released) :
    Accounted m.mSubscribers next.2.mSubscribers told := by
  have hsame : ∀ obj ∈ m.mSubscribers, ∃ obj' ∈ m.mSubscribers, obj'.addr = obj.addr :=
    fun obj hmem => ⟨obj, hmem, rfl⟩
  have hadded : ∀ s, ∀ obj ∈ m.mSubscribers, ∃ obj' ∈ m.added s, obj'.addr = obj.addr :=
    fun s obj hmem => ⟨obj, subset_added m s hmem, rfl⟩
  cases heffect with
  | stay hevent hlist => exact .of_kept (hlist ▸ hsame) (by simp)
  | add hlist => exact .of_kept (hlist ▸ hadded _) (by simp)
  | addGranted hstate hnext hlist =>
      exact .of_kept (hlist ▸ hadded _) (by simp [AgpsRsrcStatus.terminal])
  | tell hstate hlist => exact absurd hstate (hserved _ rfl)
  | deactivate hwaits hlist =>
      rw [hlist]
      refine .of_kept (fun obj hmem => ⟨_, List.mem_map_of_mem hmem, ?_⟩) (by simp)
      split_ifs <;> rfl
  | leave leaves status hevent hterminal hlist =>
      rw [hlist]
      exact .of_leave hlisted leaves hterminal
  | grant hstate hnext hlist =>
      refine .of_kept (hlist ▸ hsame) fun t hmem _ _ _ => ?_
      obtain ⟨obj, _, rfl⟩ := List.mem_map.mp hmem
      rfl

/-- Who is granted the resource is active, and the machine holds it. -/
theorem Effect.granted {m : AgpsStateMachine} {event : RsrcEvent}
    {next : AgpsState × AgpsStateMachine} {told : List Told} (heffect : m.Effect event next told)
    (hcaller : ∀ data, event = .rsrcSubscribe data → data.sub.isInactive = false)
    {obj : SubscriberObj} (hmem : (obj, .rsrcGranted) ∈ told) :
    obj.sub.isInactive = false ∧ next.1 = .acquired ∧
      (m.mStatePtr = .pending ∨ m.mStatePtr = .acquired ∧ ∃ data, event = .rsrcSubscribe data) := by
  cases heffect with
  | stay | add | deactivate => simp at hmem
  | tell => simp at hmem
  | addGranted hstate hnext hlist =>
      obtain rfl : obj = _ := by simpa using hmem
      exact ⟨hcaller _ rfl, hnext, Or.inr ⟨hstate, _, rfl⟩⟩
  | leave leaves status hevent hterminal hlist =>
      obtain ⟨_, _, heq⟩ := List.mem_map.mp hmem
      obtain ⟨_, rfl⟩ := Prod.mk.inj heq
      simp [AgpsRsrcStatus.terminal] at hterminal
  | grant hstate hnext hlist =>
      obtain ⟨obj', hmem', heq⟩ := List.mem_map.mp hmem
      obtain ⟨rfl, _⟩ := Prod.mk.inj heq
      exact ⟨by simpa using (List.mem_filter.mp hmem').2, hnext, Or.inl hstate⟩

/-- From `m` to `m'` the notifications are accounted for, and the resource is
granted only to active subscribers, on the way from Pending to Acquired or to a
subscriber that arrives in Acquired. -/
def Accounts (m m' : AgpsStateMachine) (subscribing : Prop) : Prop :=
  ∃ events, m'.log = m.log ++ events ∧
    Accounted m.mSubscribers m'.mSubscribers (events.filterMap AgpsEvent.told?) ∧
    ∀ obj, (obj, .rsrcGranted) ∈ events.filterMap AgpsEvent.told? →
      obj.sub.isInactive = false ∧ m'.mStatePtr = .acquired ∧
        (m.mStatePtr = .pending ∨ m.mStatePtr = .acquired ∧ subscribing)

namespace Accounts

variable {m m' : AgpsStateMachine} {subscribing subscribing' : Prop}

theorem mono (haccounts : m.Accounts m' subscribing) (himp : subscribing → subscribing') :
    m.Accounts m' subscribing' := by
  obtain ⟨events, hlog, haccounted, hgranted⟩ := haccounts
  refine ⟨events, hlog, haccounted, fun obj hmem => ?_⟩
  obtain ⟨hactive, hnext, hstate⟩ := hgranted obj hmem
  exact ⟨hactive, hnext, hstate.imp_right (And.imp_right himp)⟩

/-- The entry of a call tells nobody anything. -/
theorem of_entry {entered : AgpsStateMachine} {event : AgpsEvent}
    (haccounts : entered.Accounts m' subscribing) (hlog : entered.log = m.log ++ [event])
    (htold : event.told? = none) (hlist : entered.mSubscribers = m.mSubscribers)
    (hstate : entered.mStatePtr = m.mStatePtr) : m.Accounts m' subscribing := by
  obtain ⟨events, hlog', haccounted, hgranted⟩ := haccounts
  rw [hlist] at haccounted
  rw [hstate] at hgranted
  refine ⟨event :: events, by rw [hlog', hlog, List.append_assoc, List.singleton_append], ?_, ?_⟩
  · rwa [List.filterMap_cons_none htold]
  · rwa [List.filterMap_cons_none htold]

theorem of_log_eq (hlog : m'.log = m.log) (hlist : m'.mSubscribers = m.mSubscribers) :
    m.Accounts m' subscribing :=
  ⟨[], by simp [hlog], hlist ▸ .of_kept (fun obj hmem => ⟨obj, hmem, rfl⟩) (by simp), by simp⟩

end Accounts

theorem accounts_stateOnRsrcEvent {m : AgpsStateMachine} (hinv : m.Inv) (event : RsrcEvent)
    (hserved : ∀ data, event = .rsrcUnsubscribe data → m.mStatePtr ≠ .released)
    (hcaller : ∀ data, event = .rsrcSubscribe data → data.sub.isInactive = false) :
    m.Accounts (m.stateOnRsrcEvent event) (∃ data, event = .rsrcSubscribe data) := by
  set entered := m.record [.onRsrcEvent m.mStatePtr event.status]
  obtain ⟨told, ⟨events, hlog, rfl, _⟩, heffect⟩ := entered.dispatch_effect event
  have haccounts : entered.Accounts (m.stateOnRsrcEvent event)
      (∃ data, event = .rsrcSubscribe data) :=
    ⟨events, hlog, heffect.accounted hinv.listed hserved,
      fun obj hmem => heffect.granted hcaller hmem⟩
  exact haccounts.of_entry rfl rfl rfl rfl

/-- A machine in Released has nobody to find. -/
theorem not_released_of_find {m : AgpsStateMachine} (hinv : m.Inv)
    (hcls : m.cls = .agpsStateMachine) {n : Notification}
    {data : SubscriberObj} (hfind : m.findSubscriber n = some data) :
    m.mStatePtr ≠ .released := by
  intro hstate
  have hagrees := hcls ▸ hinv.agrees
  rw [hstate] at hagrees
  rw [findSubscriber_eq, show m.mSubscribers = [] from hagrees] at hfind
  simp at hfind

theorem accounts_subscribeRsrc {m : AgpsStateMachine} (hinv : m.Inv) (request : Request) :
    m.Accounts (m.subscribeRsrc request.subscriber) True := by
  dsimp only [subscribeRsrc]
  set caller : SubscriberObj := ⟨m.nextAddr, request.subscriber⟩
  set entered := { m.record [.subscribeRsrc request.subscriber] with nextAddr := m.nextAddr + 1 }
  have hinv₀ : entered.Inv := hinv.enter request.subscriber
  suffices haccounts : ∀ m', entered.Accounts m' True → m.Accounts m' True by
    apply haccounts
    split_ifs
    · -- the caller is turned down, and is no object of the list
      rw [notifySubscriber,
        notifyRsrcStatus_eq entered caller (.broadcast .all .rsrcDenied true) rfl]
      obtain ⟨events, hlog, htold, _⟩ := entered.tells_deliverAll .rsrcDenied [caller]
      refine ⟨events, hlog, ?_, by simp [htold]⟩
      rw [htold]
      refine .of_kept (fun obj hmem => ⟨obj, hmem, rfl⟩) ?_
      rintro _ hmem obj hobj haddr
      obtain rfl := List.mem_singleton.mp hmem
      exact absurd haddr (Nat.ne_of_gt (hinv.listed.below obj hobj))
    · refine (accounts_stateOnRsrcEvent hinv₀ (.rsrcSubscribe caller) (by simp) ?_).mono
        fun _ => trivial
      rintro _ ⟨⟩
      exact request.isInactive_subscriber
  exact fun m' haccounts => haccounts.of_entry rfl rfl rfl rfl

theorem accounts_unsubscribeRsrc {m : AgpsStateMachine} (hinv : m.Inv)
    (hcls : m.cls = .agpsStateMachine) (s : Subscriber) :
    m.Accounts (m.unsubscribeRsrc s).2 False := by
  set entered := m.record [.unsubscribeRsrc s]
  have hinv₀ : entered.Inv := hinv.record _
  dsimp only [unsubscribeRsrc]
  split
  · rename_i data hfind
    exact ((accounts_stateOnRsrcEvent hinv₀ (.rsrcUnsubscribe data)
      (fun _ _ => not_released_of_find hinv₀ hcls hfind) (by simp)).mono (by simp)).of_entry
      rfl rfl rfl rfl
  · exact Accounts.of_entry (Accounts.of_log_eq rfl rfl) rfl rfl rfl rfl

theorem accounts_onRsrcEvent {m : AgpsStateMachine} (hinv : m.Inv)
    (hcls : m.cls = .agpsStateMachine) (event : AgpsRsrcStatus) :
    m.Accounts (m.onRsrcEvent event) False := by
  have hevent : ∀ event : RsrcEvent, event.ofClient = false →
      m.Accounts (m.stateOnRsrcEvent event) False := by
    intro event hframework
    refine (accounts_stateOnRsrcEvent hinv event ?_ ?_).mono ?_
    · rintro data rfl
      simp [RsrcEvent.ofClient] at hframework
    · rintro data rfl
      simp [RsrcEvent.ofClient] at hframework
    · rintro ⟨data, rfl⟩
      simp [RsrcEvent.ofClient] at hframework
  simp only [onRsrcEvent, hcls]
  cases event with
  | rsrcGranted => exact hevent .rsrcGranted rfl
  | rsrcReleased => exact hevent .rsrcReleased rfl
  | rsrcDenied => exact hevent .rsrcDenied rfl
  | _ => exact Accounts.of_log_eq rfl rfl

theorem accounts_step {m : AgpsStateMachine} (hinv : m.Inv)
    (hcls : m.cls = .agpsStateMachine) (call : Call) :
    m.Accounts (m.step call) (∃ request, call = .subscribeRsrc request) := by
  cases call with
  | subscribeRsrc request =>
      exact (accounts_subscribeRsrc hinv request).mono fun _ => ⟨request, rfl⟩
  | unsubscribeRsrc request =>
      exact (accounts_unsubscribeRsrc hinv hcls request.subscriber).mono False.elim
  | onRsrcEvent event => exact (accounts_onRsrcEvent hinv hcls event).mono False.elim
  | setAPN | setBearer | dataCallAnswer => exact Accounts.of_log_eq rfl rfl

/-- In every step of the base class, from every state it reaches, an object
that leaves the list is told exactly once that its subscription ended, no
listed object is told so, and the resource is granted to active subscribers
only, on the way from Pending to Acquired or to a new one in Acquired. -/
theorem notifications_account (servType : Servicer) (type : AGpsExtType) (single : Bool)
    (calls : List Call) (call : Call) :
    let m := (agpsStateMachine servType type single).afterCalls calls
    let m' := m.step call
    ∃ events, m'.log = m.log ++ events ∧
      (∀ obj ∈ m.mSubscribers, (∀ obj' ∈ m'.mSubscribers, obj'.addr ≠ obj.addr) →
        terminalCount obj.addr events = 1) ∧
      (∀ obj ∈ m'.mSubscribers, terminalCount obj.addr events = 0) ∧
      ∀ addr s, .notifyRsrcStatus addr s .rsrcGranted ∈ events → s.isInactive = false ∧
        m'.mStatePtr = .acquired ∧
        (m.mStatePtr = .pending ∨
          m.mStatePtr = .acquired ∧ ∃ request, call = .subscribeRsrc request) := by
  intro m m'
  have hcls : m.cls = .agpsStateMachine :=
    (sameMachine_afterCalls (agpsStateMachine servType type single) calls).cls
  obtain ⟨events, hlog, haccounted, hgranted⟩ :=
    accounts_step (inv_afterCalls servType type single calls) hcls call
  refine ⟨events, hlog, haccounted.leavers, haccounted.stayers, fun addr s hmem => ?_⟩
  exact hgranted ⟨addr, s⟩ (List.mem_filterMap.mpr ⟨_, hmem, rfl⟩)

end AgpsStateMachine

end Serrano.Agps
