import Serrano.Agps.Notifications
import Serrano.Foundation.Monitor

/-! # Subscriptions that are not lost

A client whose latest call was a subscribe, and who was not told since that the
subscription ended, should have an active entry in the list. `addSubscriber`
skips a subscriber that equals a listed one, whether or not that one is active
and whoever listed it, so this is a theorem only about runs in which the entry
it finds can stand for the new subscription.
-/

namespace Serrano.Agps

/-- Who is behind a subscriber. A BIT request for an IPv6 address is known by
that address, read up to its terminator. -/
inductive Client
  | bit (ipv4 : UInt32) (ipv6 : Option (List UInt8))
  | atl (connHandle : UInt32)
  | wifi (senderId : UInt32)
  | ds (connHandle : UInt32)
  deriving DecidableEq, Repr

def clientOf (s : Subscriber) : Client :=
  match s.kind with
  | .bit => .bit s.ID (if s.ID = inaddrNone then some (s.mIPv6Addr.toList.takeWhile (· != 0))
      else none)
  | .atl _ => .atl s.ID
  | .wifi _ _ => .wifi s.ID
  | .ds => .ds s.ID

@[simp] theorem clientOf_clone (s : Subscriber) : clientOf s.clone = clientOf s := by
  unfold clientOf Subscriber.clone
  cases s.kind <;> rfl

/-- The subscriber that a client last subscribed with, if the client has not
unsubscribed and was not told since that it is over. -/
def waiting (client : Client) : Monitor (Option Subscriber) AgpsEvent where
  init := none
  update
    | current, .subscribeRsrc s => if clientOf s = client then some s else current
    | current, .unsubscribeRsrc s => if clientOf s = client then none else current
    | current, .notifyRsrcStatus _ s status =>
        if clientOf s = client ∧ status.terminal = true then none else current
    | current, _ => current

/-- An active entry for a subscriber of a client. -/
def HasEntry (list : List SubscriberObj) (client : Client) (s : Subscriber) : Prop :=
  ∃ obj ∈ list, obj.sub.isInactive = false ∧ obj.sub.equals s = true ∧
    clientOf obj.sub = client

instance (list : List SubscriberObj) (client : Client) (s : Subscriber) :
    Decidable (HasEntry list client s) :=
  inferInstanceAs (Decidable (∃ obj ∈ list, _ ∧ _ ∧ _))

namespace AgpsStateMachine

/-- No accepted subscription is lost: who waits has an active entry. -/
def Served (m : AgpsStateMachine) : Prop :=
  ∀ client s, (waiting client).after m.log = some s →
    ∃ obj ∈ m.mSubscribers, obj.sub.isInactive = false ∧ obj.sub.equals s = true

/-- The calls after which no subscription is lost: a subscribe that finds an
equal entry finds an active one of the same client, and an unsubscribe does not
deactivate the entry of another client. -/
def Retains (m : AgpsStateMachine) : Call → Prop
  | .subscribeRsrc request =>
      (∃ obj ∈ m.mSubscribers, obj.sub.equals request.subscriber = true) →
        HasEntry m.mSubscribers (clientOf request.subscriber) request.subscriber
  | .unsubscribeRsrc request =>
      ∀ data ∈ m.findSubscriber (.receiver request.subscriber),
        data.sub.waitForCloseComplete = true → data.sub.isInactive = false →
        clientOf data.sub = clientOf request.subscriber
  | .onRsrcEvent _ | .setAPN _ | .setBearer _ | .dataCallAnswer _ => True

instance (m : AgpsStateMachine) : (call : Call) → Decidable (m.Retains call)
  | .subscribeRsrc request => inferInstanceAs (Decidable
      ((∃ obj ∈ m.mSubscribers, obj.sub.equals request.subscriber = true) →
        HasEntry m.mSubscribers (clientOf request.subscriber) request.subscriber))
  | .unsubscribeRsrc request => inferInstanceAs (Decidable
      (∀ data ∈ m.findSubscriber (.receiver request.subscriber),
        data.sub.waitForCloseComplete = true → data.sub.isInactive = false →
        clientOf data.sub = clientOf request.subscriber))
  | .onRsrcEvent _ | .setAPN _ | .setBearer _ | .dataCallAnswer _ => .isTrue trivial

/-! ## What the monitor sees of a transition -/

/-- Who still waits after some notifications was waiting before, and was not
told that it is over. -/
theorem waiting_of_told {client : Client} {current : Option Subscriber} {s : Subscriber}
    {events : List AgpsEvent} (hcalls : ∀ event ∈ events, event.isClientCall = false)
    (hwaiting : (waiting client).afterFrom current events = some s) :
    current = some s ∧ ∀ told ∈ events.filterMap AgpsEvent.told?,
      told.2.terminal = true → clientOf told.1.sub ≠ client := by
  induction events generalizing current with
  | nil => exact ⟨hwaiting, by simp⟩
  | cons event rest ih =>
      obtain ⟨hupdate, hrest⟩ := ih (fun e he => hcalls e (List.mem_cons_of_mem _ he)) hwaiting
      have hcall := hcalls event List.mem_cons_self
      cases event with
      | subscribeRsrc | unsubscribeRsrc => simp [AgpsEvent.isClientCall] at hcall
      | notifyRsrcStatus addr sub status =>
          simp only [waiting] at hupdate
          split_ifs at hupdate with hover
          refine ⟨hupdate, ?_⟩
          simp only [List.filterMap_cons, AgpsEvent.told?, List.forall_mem_cons]
          exact ⟨fun hterminal hclient => hover ⟨hclient, hterminal⟩, hrest⟩
      | _ => exact ⟨hupdate, hrest⟩

/-- Only a client's own calls make it wait. -/
theorem Tells.waiting {m m' : AgpsStateMachine} {told : List Told} (htells : m.Tells m' told)
    {client : Client} {s : Subscriber} (hwaiting : (waiting client).after m'.log = some s) :
    (Agps.waiting client).after m.log = some s ∧
      ∀ t ∈ told, t.2.terminal = true → clientOf t.1.sub ≠ client := by
  obtain ⟨events, hlog, rfl, hcalls⟩ := htells
  rw [hlog, Monitor.after_append] at hwaiting
  exact waiting_of_told hcalls hwaiting

/-! ## What a transition does to a waiting client -/

theorem hasEntry_of_subset {list list' : List SubscriberObj} {client : Client} {s : Subscriber}
    (hentry : HasEntry list client s) (hsubset : ∀ obj ∈ list, obj ∈ list') :
    HasEntry list' client s := by
  obtain ⟨obj, hmem, hrest⟩ := hentry
  exact ⟨obj, hsubset obj hmem, hrest⟩

/-- What `addSubscriber` leaves in the list stands for the new subscriber when
the entry it finds can. -/
theorem hasEntry_added {m : AgpsStateMachine} {s : Subscriber}
    (hretains : (∃ obj ∈ m.mSubscribers, obj.sub.equals s = true) →
      HasEntry m.mSubscribers (clientOf s) s) : HasEntry (m.added s) (clientOf s) s := by
  unfold added
  split_ifs with hany
  · exact hretains (List.any_eq_true.mp hany)
  · exact ⟨_, List.mem_cons_self, by simp, by simp, by simp⟩

/-- Who waits after a transition has an active entry, if everyone who waited
before had one, except for the client that is about to be added. -/
theorem Effect.hasEntry {m : AgpsStateMachine} {event : RsrcEvent}
    {next : AgpsState × AgpsStateMachine} {told : List Told} (heffect : m.Effect event next told)
    (hlisted : Listed m.mSubscribers m.nextAddr) {client : Client} {s : Subscriber}
    (hbefore : HasEntry m.mSubscribers client s ∨
      ∃ data, event = .rsrcSubscribe data ∧ data.sub = s ∧ clientOf s = client ∧
        HasEntry (m.added s) client s)
    (hdata : ∀ data, event = .rsrcUnsubscribe data → data ∈ m.mSubscribers ∧
      (data.sub.waitForCloseComplete = true → data.sub.isInactive = false →
        clientOf data.sub ≠ client))
    (htold : ∀ t ∈ told, t.2.terminal = true → clientOf t.1.sub ≠ client) :
    HasEntry next.2.mSubscribers client s := by
  have hadd : ∀ data, event = .rsrcSubscribe data →
      HasEntry (m.added data.sub) client s := by
    rintro data rfl
    rcases hbefore with hentry | ⟨data', heq, rfl, _, hentry⟩
    · exact hasEntry_of_subset hentry fun obj hmem => subset_added m data.sub hmem
    · cases heq
      exact hentry
  have hlisted_before : (∀ data, event ≠ .rsrcSubscribe data) →
      HasEntry m.mSubscribers client s := fun hevent =>
    hbefore.resolve_right fun ⟨data, heq, _⟩ => hevent data heq
  cases heffect with
  | stay hevent hlist =>
      rw [hlist]
      refine hlisted_before ?_
      rintro data rfl
      simp [RsrcEvent.ofClient] at hevent
  | add hlist => rw [hlist]; exact hadd _ rfl
  | addGranted hstate hnext hlist => rw [hlist]; exact hadd _ rfl
  | tell hstate hlist => rw [hlist]; exact hlisted_before (by simp)
  | @deactivate data next hwaits hlist =>
      obtain ⟨hmem, hother⟩ := hdata data rfl
      obtain ⟨obj, hobj, hactive, hrest⟩ := hlisted_before (by simp)
      rw [hlist]
      refine ⟨obj, List.mem_map.mpr ⟨obj, hobj, if_neg fun haddr => ?_⟩, hactive, hrest⟩
      obtain rfl := hlisted.eq_of_addr hobj hmem haddr
      exact hother hwaits hactive hrest.2
  | leave leaves status hevent hterminal hlist =>
      obtain ⟨obj, hobj, hactive, hrest⟩ := hlisted_before hevent
      rw [hlist]
      refine ⟨obj, List.mem_filter.mpr ⟨hobj, ?_⟩, hactive, hrest⟩
      cases hleaves : leaves obj with
      | false => rfl
      | true =>
          have hmem : (obj, status) ∈ (m.mSubscribers.filter leaves).map (·, status) :=
            List.mem_map.mpr ⟨obj, List.mem_filter.mpr ⟨hobj, hleaves⟩, rfl⟩
          exact absurd hrest.2 (htold _ hmem hterminal)
  | grant hstate hnext hlist => rw [hlist]; exact hlisted_before (by simp)

/-- What guarded runs keep: the list is in order, and who waits has an entry. -/
structure Kept (m : AgpsStateMachine) : Prop where
  listed : Listed m.mSubscribers m.nextAddr
  single : m.mEnforceSingleSubscriber = false
  served : ∀ client s, (waiting client).after m.log = some s → HasEntry m.mSubscribers client s

/-- An event after the entry of its call: the client of a subscribe waits
already, the client of an unsubscribe no more. -/
theorem kept_stateOnRsrcEvent (m : AgpsStateMachine)
    (hlisted : Listed m.mSubscribers m.nextAddr)
    (hsingle : m.mEnforceSingleSubscriber = false) (event : RsrcEvent)
    (hserved : ∀ client s, (waiting client).after m.log = some s →
      (HasEntry m.mSubscribers client s ∨
        ∃ data, event = .rsrcSubscribe data ∧ data.sub = s ∧ clientOf s = client ∧
          HasEntry (m.added s) client s) ∧
      ∀ data, event = .rsrcUnsubscribe data → data ∈ m.mSubscribers ∧
        (data.sub.waitForCloseComplete = true → data.sub.isInactive = false →
          clientOf data.sub ≠ client)) : (m.stateOnRsrcEvent event).Kept := by
  set entered := m.record [.onRsrcEvent m.mStatePtr event.status]
  obtain ⟨told, htells, heffect⟩ := entered.dispatch_effect event
  refine ⟨@listed_dispatch entered hlisted event,
    (SameMachine.stateOnRsrcEvent m event).mEnforceSingleSubscriber.trans hsingle, ?_⟩
  intro client s hwaiting
  obtain ⟨hentered, htold⟩ := htells.waiting hwaiting
  have hbefore : (waiting client).after m.log = some s := by
    simpa [entered, waiting] using hentered
  obtain ⟨hentry, hdata⟩ := hserved client s hbefore
  exact heffect.hasEntry hlisted hentry hdata htold

theorem kept_subscribeRsrc {m : AgpsStateMachine} (hkept : m.Kept) {request : Request}
    (hretains : m.Retains (.subscribeRsrc request)) :
    (m.subscribeRsrc request.subscriber).Kept := by
  dsimp only [subscribeRsrc]
  set caller : SubscriberObj := ⟨m.nextAddr, request.subscriber⟩
  set entered := { m.record [.subscribeRsrc request.subscriber] with nextAddr := m.nextAddr + 1 }
  rw [if_neg (by simp [hkept.single])]
  refine kept_stateOnRsrcEvent entered
    (hkept.listed.sublist (List.Sublist.refl _) (Nat.le_succ _)) hkept.single
    (.rsrcSubscribe caller) fun client s hwaiting => ⟨?_, by simp⟩
  rw [show entered.log = m.log ++ [.subscribeRsrc request.subscriber] from rfl,
    Monitor.after_append] at hwaiting
  simp only [Monitor.afterFrom_cons, Monitor.afterFrom_nil, waiting] at hwaiting
  split_ifs at hwaiting with hclient
  · obtain rfl := Option.some.inj hwaiting
    subst hclient
    exact Or.inr ⟨caller, rfl, rfl, rfl, @hasEntry_added entered _ hretains⟩
  · exact Or.inl (hkept.served client s hwaiting)

theorem kept_unsubscribeRsrc {m : AgpsStateMachine} (hkept : m.Kept) {request : Request}
    (hretains : m.Retains (.unsubscribeRsrc request)) :
    (m.unsubscribeRsrc request.subscriber).2.Kept := by
  set entered := m.record [.unsubscribeRsrc request.subscriber]
  have hwaits : ∀ client s, (waiting client).after entered.log = some s →
      HasEntry m.mSubscribers client s ∧ clientOf request.subscriber ≠ client := by
    intro client s hwaiting
    simp only [entered, record_log, Monitor.after_append, Monitor.afterFrom_cons,
      Monitor.afterFrom_nil, waiting] at hwaiting
    split_ifs at hwaiting with hclient
    exact ⟨hkept.served client s hwaiting, hclient⟩
  dsimp only [unsubscribeRsrc]
  split
  · rename_i data hfind
    have hmem : data ∈ m.mSubscribers := by
      rw [findSubscriber_eq] at hfind
      exact List.mem_of_find?_eq_some hfind
    refine kept_stateOnRsrcEvent entered hkept.listed hkept.single (.rsrcUnsubscribe data)
      fun client s hwaiting => ⟨Or.inl (hwaits client s hwaiting).1, ?_⟩
    rintro data' ⟨⟩
    refine ⟨hmem, fun hclose hactive hclient => (hwaits client s hwaiting).2 ?_⟩
    exact (hretains data hfind hclose hactive).symm.trans hclient
  · exact ⟨hkept.listed, hkept.single, fun client s hwaiting => (hwaits client s hwaiting).1⟩

theorem kept_onRsrcEvent {m : AgpsStateMachine} (hkept : m.Kept) (event : AgpsRsrcStatus) :
    (m.onRsrcEvent event).Kept := by
  refine onRsrcEvent_invariant (fun m event hframework hkept => ?_) hkept event
  refine kept_stateOnRsrcEvent m hkept.listed hkept.single event fun client s hwaiting =>
    ⟨Or.inl (hkept.served client s hwaiting), ?_⟩
  rintro data rfl
  simp at hframework

theorem kept_step {m : AgpsStateMachine} (hkept : m.Kept) {call : Call}
    (hretains : m.Retains call) : (m.step call).Kept := by
  cases call with
  | subscribeRsrc request => exact kept_subscribeRsrc hkept hretains
  | unsubscribeRsrc request => exact kept_unsubscribeRsrc hkept hretains
  | onRsrcEvent event => exact kept_onRsrcEvent hkept event
  | setAPN | setBearer | dataCallAnswer => exact ⟨hkept.listed, hkept.single, hkept.served⟩

/-- A machine of either class for any number of subscribers. -/
def constructed (cls : MachineClass) (servType : Servicer) (type : AGpsExtType) :
    AgpsStateMachine :=
  match cls with
  | .agpsStateMachine => agpsStateMachine servType type false
  | .dsStateMachine => dsStateMachine servType

theorem kept_constructed (cls : MachineClass) (servType : Servicer) (type : AGpsExtType) :
    (constructed cls servType type).Kept := by
  cases cls <;> exact ⟨Listed.nil, rfl, fun _ _ hwaiting => by cases hwaiting⟩

/-- In a run whose calls retain the subscriptions, no accepted subscription is
lost in any state. -/
theorem subscriptions_served (cls : MachineClass) (servType : Servicer) (type : AGpsExtType)
    (calls : List Call)
    (hretains : (constructed cls servType type).system.Guarded Retains
      (constructed cls servType type) calls) :
    (constructed cls servType type).system.Throughout Served
      (constructed cls servType type) calls := by
  refine Transition.System.throughout_of_guarded Kept ?_ ?_
    (kept_constructed cls servType type) hretains
  · intro m hkept client s hwaiting
    obtain ⟨obj, hmem, hactive, hequals, _⟩ := hkept.served client s hwaiting
    exact ⟨obj, hmem, hactive, hequals⟩
  · intro m call next hkept hcall hnext
    obtain rfl : m.step call = next := Option.some.inj hnext
    exact kept_step hkept hcall

/-- A data call client that subscribes again after its connection is closed. -/
theorem subscriptions_served_reopened :
    let m := constructed .dsStateMachine (.ext 0) agpsTypeInvalid
    let client := Request.ds 1 (.replicate 16 0)
    m.system.Throughout Served m [.subscribeRsrc client, .onRsrcEvent .rsrcGranted,
      .unsubscribeRsrc client, .onRsrcEvent .rsrcReleased, .subscribeRsrc client] := by
  refine subscriptions_served .dsStateMachine (.ext 0) agpsTypeInvalid _ ?_
  simp only [Transition.System.Guarded]
  decide

/-- A data call client that subscribes again before its connection is closed
waits in Releasing without an active entry. -/
theorem resubscription_lost :
    let m := constructed .dsStateMachine (.ext 0) agpsTypeInvalid
    let client := Request.ds 1 (.replicate 16 0)
    ¬ m.system.Throughout Served m [.subscribeRsrc client, .onRsrcEvent .rsrcGranted,
      .unsubscribeRsrc client, .subscribeRsrc client] := by
  intro m client hall
  have hlast : Served _ := hall.of_runFrom rfl
  obtain ⟨obj, hmem, hactive, _⟩ := hlast (.ds 1) client.subscriber (by decide)
  revert obj
  decide

end AgpsStateMachine

end Serrano.Agps
