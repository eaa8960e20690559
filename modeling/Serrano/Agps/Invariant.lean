import Serrano.Agps.Laws
import Mathlib.Data.List.Pairwise

/-! # The invariant of the subscriber list

In every state that a machine reaches, the state object agrees with the list:
Pending and Acquired have someone to serve, and Releasing has someone who waits
for the close. Released is the empty list in the base class, while a data call
machine may keep subscribers for another attempt. The list itself has no two
entries for one subscriber.
-/

namespace Serrano.Agps

/-- No entry equals a newer one, and every object has an address of its own
below the allocator. -/
structure Listed (list : List SubscriberObj) (bound : Nat) : Prop where
  distinct : list.Pairwise fun newer older => older.sub.equals newer.sub = false
  addrs : list.Pairwise fun newer older => newer.addr ≠ older.addr
  below : ∀ obj ∈ list, obj.addr < bound

/-- Agreement of the state object with the list. -/
def Matches (cls : MachineClass) : AgpsState → List SubscriberObj → Prop
  | .released, list => match cls with
      | .agpsStateMachine => list = []
      | .dsStateMachine => ∀ obj ∈ list, obj.sub.isInactive = false
  | .pending, list | .acquired, list => ∃ obj ∈ list, obj.sub.isInactive = false
  | .releasing, list => ∃ obj ∈ list, obj.sub.isInactive = true

theorem Matches.nil (cls : MachineClass) : Matches cls .released [] := by
  cases cls with
  | agpsStateMachine => rfl
  | dsStateMachine => exact fun _ hmem => absurd hmem List.not_mem_nil

/-- In Released everybody listed is active. -/
theorem Matches.active {cls : MachineClass} {list : List SubscriberObj}
    (hmatches : Matches cls .released list) : ∀ obj ∈ list, obj.sub.isInactive = false := by
  cases cls with
  | agpsStateMachine =>
      obtain rfl : list = [] := hmatches
      simp
  | dsStateMachine => exact hmatches

/-- A subscriber that equals another one which does not equal it back shares
an `INADDR_NONE` identifier with a BIT subscriber, and is none itself. -/
theorem Subscriber.of_equals_of_not_equals {a b : Subscriber} (hab : a.equals b = true)
    (hba : b.equals a = false) : b.kind = .bit ∧ a.kind ≠ .bit ∧ a.ID = inaddrNone := by
  by_cases hclass : a.kind = .bit ∧ b.kind = .bit ∨ a.ID ≠ inaddrNone ∨
      a.kind ≠ .bit ∧ b.kind ≠ .bit
  · rw [equals_comm hclass, hba] at hab
    contradiction
  · have hid := ID_eq_of_equals hab
    have hb : b.kind = .bit := by
      by_contra hb
      unfold equals at hba
      cases hkind : b.kind <;> simp_all
    simp only [not_or, not_and_or, not_not, hb, not_true, or_false] at hclass
    exact ⟨hb, hclass.1, hclass.2.1⟩

/-- What equals an entry that is no BIT subscriber's equal equals whatever the
entry equals. -/
theorem Subscriber.equals_of_equals {a b c : Subscriber} (hab : a.equals b = true)
    (hba : b.equals a = false) (hbc : b.equals c = true) : a.equals c = true := by
  obtain ⟨_, hkind, _⟩ := of_equals_of_not_equals hab hba
  have hid : a.ID = c.ID := (ID_eq_of_equals hab).trans (ID_eq_of_equals hbc)
  unfold equals
  cases hclass : a.kind <;> simp_all

namespace Listed

variable {list rest : List SubscriberObj} {bound bound' : Nat}

theorem nil : Listed [] bound :=
  ⟨List.Pairwise.nil, List.Pairwise.nil, fun _ hmem => absurd hmem List.not_mem_nil⟩

theorem sublist (hlisted : Listed list bound) (hsub : rest.Sublist list)
    (hle : bound ≤ bound') : Listed rest bound' where
  distinct := hlisted.distinct.sublist hsub
  addrs := hlisted.addrs.sublist hsub
  below obj hmem := Nat.lt_of_lt_of_le (hlisted.below obj (hsub.mem hmem)) hle

theorem cons (hlisted : Listed list bound) {s : Subscriber}
    (hnew : ∀ obj ∈ list, obj.sub.equals s = false) : Listed (⟨bound, s⟩ :: list) (bound + 1) where
  distinct := List.pairwise_cons.mpr ⟨hnew, hlisted.distinct⟩
  addrs := List.pairwise_cons.mpr
    ⟨fun obj hmem => Nat.ne_of_gt (hlisted.below obj hmem), hlisted.addrs⟩
  below obj hmem := by
    rcases List.mem_cons.mp hmem with rfl | hmem
    · exact Nat.lt_succ_self _
    · exact Nat.lt_succ_of_lt (hlisted.below obj hmem)

/-- Deactivating an entry leaves addresses and equality alone. -/
theorem inactivated (hlisted : Listed list bound) (addr : Nat) :
    Listed (list.map fun listed =>
      if listed.addr = addr then { listed with sub := listed.sub.setInactive } else listed)
      bound where
  distinct := by
    rw [List.pairwise_map]
    refine hlisted.distinct.imp fun {newer older} hne => ?_
    split_ifs <;> simpa using hne
  addrs := by
    rw [List.pairwise_map]
    refine hlisted.addrs.imp fun {newer older} hne => ?_
    split_ifs <;> simpa using hne
  below obj hmem := by
    obtain ⟨listed, hlist, rfl⟩ := List.mem_map.mp hmem
    have := hlisted.below listed hlist
    split_ifs <;> exact this

theorem eq_of_addr (hlisted : Listed list bound) {obj obj' : SubscriberObj}
    (hmem : obj ∈ list) (hmem' : obj' ∈ list) (haddr : obj.addr = obj'.addr) : obj = obj' := by
  by_contra hne
  have : Std.Symm fun newer older : SubscriberObj => newer.addr ≠ older.addr :=
    ⟨fun _ _ hne => Ne.symm hne⟩
  exact hlisted.addrs.forall hmem hmem' hne haddr

/-- The entry that a search for a subscriber finds is the only entry that
equals the found one. -/
theorem eq_of_equals_found (hlisted : Listed list bound) {s : Subscriber}
    {found obj : SubscriberObj} (hfind : list.find? (·.sub.equals s) = some found)
    (hmem : obj ∈ list) (hequals : obj.sub.equals found.sub = true) : obj = found := by
  obtain ⟨hfound, newer, older, rfl, hfirst⟩ := List.find?_eq_some_iff_append.mp hfind
  have hdistinct := List.pairwise_append.mp hlisted.distinct
  rcases List.mem_append.mp hmem with hnewer | hrest
  · have hback : found.sub.equals obj.sub = false :=
      hdistinct.2.2 obj hnewer found List.mem_cons_self
    have hobj := Subscriber.equals_of_equals hequals hback hfound
    exact absurd hobj (by simpa using hfirst obj hnewer)
  · rcases List.mem_cons.mp hrest with rfl | holder
    · rfl
    · have hne := (List.pairwise_cons.mp hdistinct.2.1).1 obj holder
      rw [hequals] at hne
      contradiction

end Listed

namespace AgpsStateMachine

/-- The invariant of both classes. -/
structure Inv (m : AgpsStateMachine) : Prop where
  listed : Listed m.mSubscribers m.nextAddr
  agrees : Matches m.cls m.mStatePtr m.mSubscribers
  single : m.mEnforceSingleSubscriber = true → m.mSubscribers.length ≤ 1

/-! ## The parts of a transition -/

theorem listed_addSubscriber {m : AgpsStateMachine} (hlisted : Listed m.mSubscribers m.nextAddr)
    (s : Subscriber) :
    Listed (m.addSubscriber s).mSubscribers (m.addSubscriber s).nextAddr := by
  cases hany : m.mSubscribers.any (·.sub.equals s) with
  | true => rwa [addSubscriber_of_any hany]
  | false =>
      rw [addSubscriber_of_not_any hany]
      refine hlisted.cons fun obj hmem => ?_
      simpa using List.any_eq_false.mp hany obj hmem

theorem added_of_nil {m : AgpsStateMachine} (hnil : m.mSubscribers = [])
    (s : Subscriber) : m.added s = [⟨m.nextAddr, s.clone⟩] := by
  simp [added, hnil]

theorem subset_added (m : AgpsStateMachine) (s : Subscriber) {obj : SubscriberObj}
    (hmem : obj ∈ m.mSubscribers) : obj ∈ m.added s := by
  unfold added
  split_ifs
  · exact hmem
  · exact List.mem_cons_of_mem _ hmem

theorem added_ne_nil (m : AgpsStateMachine) (s : Subscriber) : m.added s ≠ [] := by
  unfold added
  split_ifs with hany
  · obtain ⟨obj, hmem, _⟩ := List.any_eq_true.mp hany
    exact List.ne_nil_of_mem hmem
  · simp

theorem active_added {m : AgpsStateMachine}
    (hactive : ∀ obj ∈ m.mSubscribers, obj.sub.isInactive = false) (s : Subscriber) :
    ∀ obj ∈ m.added s, obj.sub.isInactive = false := by
  intro obj hmem
  unfold added at hmem
  split_ifs at hmem
  · exact hactive obj hmem
  · rcases List.mem_cons.mp hmem with rfl | hmem
    · exact Subscriber.isInactive_clone s
    · exact hactive obj hmem

theorem listed_unsubscribed {m : AgpsStateMachine} (hlisted : Listed m.mSubscribers m.nextAddr)
    (data : SubscriberObj) :
    Listed (m.unsubscribed data).mSubscribers (m.unsubscribed data).nextAddr := by
  rw [show (m.unsubscribed data).nextAddr = m.nextAddr by rw [unsubscribed_frame],
    unsubscribed_mSubscribers]
  split_ifs
  · exact hlisted.inactivated _
  · exact hlisted.sublist List.filter_sublist (Nat.le_refl _)

theorem length_unsubscribed_le (m : AgpsStateMachine) (data : SubscriberObj) :
    (m.unsubscribed data).mSubscribers.length ≤ m.mSubscribers.length := by
  rw [unsubscribed_mSubscribers]
  split_ifs
  · simp [inactivated]
  · exact List.length_filter_le _ _

/-- An entry outlives the unsubscribe of another one. -/
theorem mem_unsubscribed {m : AgpsStateMachine} (hlisted : Listed m.mSubscribers m.nextAddr)
    {s : Subscriber} {data obj : SubscriberObj}
    (hfind : m.mSubscribers.find? (·.sub.equals s) = some data) (hmem : obj ∈ m.mSubscribers)
    (hne : obj ≠ data) : obj ∈ (m.unsubscribed data).mSubscribers := by
  rw [unsubscribed_mSubscribers]
  split_ifs
  · refine List.mem_map.mpr ⟨obj, hmem, ?_⟩
    have haddr : obj.addr ≠ data.addr := by
      intro heq
      exact hne (hlisted.eq_of_addr hmem (List.mem_of_find?_eq_some hfind) heq)
    simp [haddr]
  · refine List.mem_filter.mpr ⟨hmem, ?_⟩
    cases hequals : obj.sub.equals data.sub with
    | false => rfl
    | true => exact absurd (hlisted.eq_of_equals_found hfind hmem hequals) hne

theorem listed_sendRsrcRequest {m : AgpsStateMachine}
    (hlisted : Listed m.mSubscribers m.nextAddr) (action : AGpsStatusValue) :
    Listed (m.sendRsrcRequest action).2.mSubscribers (m.sendRsrcRequest action).2.nextAddr := by
  rwa [sendRsrcRequest_mSubscribers, sendRsrcRequest_nextAddr]

theorem listed_notifyRsrcStatus {m : AgpsStateMachine}
    (hlisted : Listed m.mSubscribers m.nextAddr) (obj : SubscriberObj) (n : Notification)
    (hreported : n.rsrcStatus.reported = true) :
    Listed (m.notifyRsrcStatus obj n).2.mSubscribers (m.notifyRsrcStatus obj n).2.nextAddr := by
  rw [notifyRsrcStatus_eq m obj n hreported]
  dsimp only
  split_ifs <;> exact hlisted

theorem listed_notifySubscribers {m : AgpsStateMachine}
    (hlisted : Listed m.mSubscribers m.nextAddr) (n : Notification)
    (hreported : n.rsrcStatus.reported = true) :
    Listed (m.notifySubscribers n).mSubscribers (m.notifySubscribers n).nextAddr := by
  cases hdelete : n.postNotifyDelete with
  | true =>
      rw [notifySubscribers_delete m n hdelete hreported]
      exact hlisted.sublist List.filter_sublist (Nat.le_refl _)
  | false =>
      rw [notifySubscribers_keep m n hdelete hreported]
      exact hlisted

theorem listed_releaseIfUnused {m : AgpsStateMachine}
    (hlisted : Listed m.mSubscribers m.nextAddr) (state : AgpsState) :
    Listed (m.releaseIfUnused state).2.mSubscribers (m.releaseIfUnused state).2.nextAddr := by
  rw [releaseIfUnused_frame m state]
  exact hlisted

theorem listed_closeComplete {m : AgpsStateMachine}
    (hlisted : Listed m.mSubscribers m.nextAddr) {status : AgpsRsrcStatus}
    (hreported : status.reported = true) :
    Listed (m.closeComplete status).2.mSubscribers (m.closeComplete status).2.nextAddr := by
  have hnotified := listed_notifySubscribers hlisted (.broadcast .inactive status true) hreported
  dsimp only [closeComplete]
  split_ifs
  · exact listed_sendRsrcRequest hnotified _
  · exact hnotified

/-- Every transition of either class keeps the list in order. -/
theorem listed_dispatch {m : AgpsStateMachine} (hlisted : Listed m.mSubscribers m.nextAddr)
    (event : RsrcEvent) :
    Listed (m.dispatch event).2.mSubscribers (m.dispatch event).2.nextAddr := by
  unfold dispatch
  cases m.mStatePtr with
  | released =>
      cases event with
      | rsrcSubscribe data =>
          exact listed_sendRsrcRequest (listed_addSubscriber hlisted data.sub) _
      | rsrcUnsubscribe data => exact listed_notifyRsrcStatus hlisted data _ rfl
      | rsrcGranted | rsrcReleased | rsrcDenied => exact hlisted
  | pending =>
      cases event with
      | rsrcSubscribe data => exact listed_addSubscriber hlisted data.sub
      | rsrcUnsubscribe data => exact listed_releaseIfUnused (listed_unsubscribed hlisted data) _
      | rsrcGranted => exact listed_notifySubscribers hlisted (.broadcast .active .rsrcGranted) rfl
      | rsrcReleased => exact hlisted
      | rsrcDenied => exact listed_notifySubscribers hlisted (.broadcast .all .rsrcDenied true) rfl
  | acquired =>
      cases event with
      | rsrcSubscribe data =>
          exact listed_addSubscriber (listed_notifyRsrcStatus hlisted data _ rfl) data.sub
      | rsrcUnsubscribe data => exact listed_releaseIfUnused (listed_unsubscribed hlisted data) _
      | rsrcReleased =>
          exact listed_notifySubscribers hlisted (.broadcast .all .rsrcReleased true) rfl
      | rsrcGranted | rsrcDenied => exact hlisted
  | releasing =>
      cases event with
      | rsrcSubscribe data => exact listed_addSubscriber hlisted data.sub
      | rsrcUnsubscribe data => exact listed_unsubscribed hlisted data
      | rsrcGranted => exact hlisted
      | rsrcReleased | rsrcDenied => exact listed_closeComplete hlisted rfl

/-- What is left after an unsubscribe decides the next state. -/
theorem releaseIfUnused_matches (m : AgpsStateMachine) {state : AgpsState}
    (hstate : state = .pending ∨ state = .acquired) :
    Matches m.cls (m.releaseIfUnused state).1 m.mSubscribers := by
  unfold releaseIfUnused
  split_ifs with hempty hinactive
  · rw [show m.mSubscribers = [] by simpa [hasSubscribers] using hempty]
    exact Matches.nil m.cls
  · have hnonempty : m.mSubscribers ≠ [] := by simpa [hasSubscribers] using hempty
    obtain ⟨obj, hmem⟩ := List.exists_mem_of_ne_nil _ hnonempty
    refine ⟨obj, hmem, ?_⟩
    by_contra hactive
    have := m.hasActiveSubscribers_iff.mpr ⟨obj, hmem, by simpa using hactive⟩
    simp [this] at hinactive
  · have hactive := m.hasActiveSubscribers_iff.mp (by simpa using hinactive)
    rcases hstate with rfl | rfl <;> exact hactive

/-- Once the inactive subscribers are gone, the list is empty or has someone
to request the interface for. -/
theorem closeComplete_matches (m : AgpsStateMachine) {status : AgpsRsrcStatus}
    (hreported : status.reported = true) :
    Matches m.cls (m.closeComplete status).1 (m.closeComplete status).2.mSubscribers := by
  have hlist := m.notifySubscribers_inactive hreported
  rw [closeComplete_mSubscribers m hreported]
  dsimp only [closeComplete]
  split_ifs with hactive
  · rw [hasActiveSubscribers_iff, hlist] at hactive
    exact hactive
  · rw [hasActiveSubscribers_iff, hlist] at hactive
    have hnil : (m.mSubscribers.filter fun obj => !obj.sub.isInactive) = [] :=
      List.eq_nil_iff_forall_not_mem.mpr fun obj hmem =>
        hactive ⟨obj, hmem, by simpa using (List.mem_filter.mp hmem).2⟩
    rw [hnil]
    exact Matches.nil m.cls

/-! ## The transitions -/

theorem Inv.record {m : AgpsStateMachine} (hinv : m.Inv) (events : List AgpsEvent) :
    (m.record events).Inv :=
  ⟨hinv.listed, hinv.agrees, hinv.single⟩

/-- A new subscriber is added to a machine that may have more than one, or to
an empty list. -/
theorem inv_subscribe {m : AgpsStateMachine} (hinv : m.Inv)
    (hsingle : m.mEnforceSingleSubscriber = true → m.mSubscribers = []) (data : SubscriberObj) :
    (moveTo (m.dispatch (.rsrcSubscribe data))).Inv := by
  have hadd : ∀ m' : AgpsStateMachine, m'.mSubscribers = m.mSubscribers →
      m'.mEnforceSingleSubscriber = m.mEnforceSingleSubscriber →
      (m'.addSubscriber data.sub).mEnforceSingleSubscriber = true →
      (m'.addSubscriber data.sub).mSubscribers.length ≤ 1 := by
    intro m' hlist hflag henforce
    rw [addSubscriber_mEnforceSingleSubscriber, hflag] at henforce
    rw [addSubscriber_mSubscribers, added_of_nil (hlist.trans (hsingle henforce))]
    exact Nat.le_refl 1
  have hagrees := hinv.agrees
  unfold dispatch
  cases hstate : m.mStatePtr with
  | released =>
      rw [hstate] at hagrees
      have hsame := SameInterface.sendRsrcRequest (m.addSubscriber data.sub)
        .gpsRequestAgpsDataConn
      have hactive : ∀ obj ∈ m.added data.sub, obj.sub.isInactive = false :=
        active_added hagrees.active data.sub
      refine ⟨listed_sendRsrcRequest (listed_addSubscriber hinv.listed data.sub) _, ?_, ?_⟩
      · simp only [releasedOnRsrcEvent, moveTo_mStatePtr, moveTo_mSubscribers, moveTo_cls,
          sendRsrcRequest_mSubscribers, sendRsrcRequest_cls, addSubscriber_mSubscribers,
          addSubscriber_cls]
        split_ifs with hret
        · obtain ⟨obj, hmem⟩ := List.exists_mem_of_ne_nil _ (added_ne_nil m data.sub)
          exact ⟨obj, hmem, hactive obj hmem⟩
        · cases hcls : m.cls with
          | agpsStateMachine =>
              rw [sendRsrcRequest_agps ((addSubscriber_cls m data.sub).trans hcls)] at hret
              exact absurd rfl hret
          | dsStateMachine => exact hactive
      · intro henforce
        rw [show (moveTo (m.releasedOnRsrcEvent (.rsrcSubscribe data))).mSubscribers =
          (m.addSubscriber data.sub).mSubscribers from sendRsrcRequest_mSubscribers _ _]
        exact hadd m rfl rfl (hsame.mEnforceSingleSubscriber.symm.trans henforce)
  | pending =>
      refine ⟨listed_addSubscriber hinv.listed data.sub, ?_, hadd m rfl rfl⟩
      rw [hstate] at hagrees
      obtain ⟨obj, hmem, hactive⟩ := hagrees
      exact ⟨obj, by simpa [pendingOnRsrcEvent] using subset_added m data.sub hmem, hactive⟩
  | acquired =>
      simp only [acquiredOnRsrcEvent, notifyRsrcStatus_eq m data (.receiver data.sub .rsrcGranted)
        rfl, Subscriber.forMe_receiver, Subscriber.equals_self, if_true]
      set m' := m.deliverAll (Notification.receiver data.sub .rsrcGranted).rsrcStatus [data]
      have hlisted : Listed m'.mSubscribers m'.nextAddr := hinv.listed
      refine ⟨listed_addSubscriber hlisted data.sub, ?_, hadd m' rfl rfl⟩
      rw [hstate] at hagrees
      obtain ⟨obj, hmem, hactive⟩ := hagrees
      exact ⟨obj, by simpa using subset_added m' data.sub hmem, hactive⟩
  | releasing =>
      refine ⟨listed_addSubscriber hinv.listed data.sub, ?_, hadd m rfl rfl⟩
      rw [hstate] at hagrees
      obtain ⟨obj, hmem, hinactive⟩ := hagrees
      exact ⟨obj, by simpa [releasingOnRsrcEvent] using subset_added m data.sub hmem, hinactive⟩

theorem inv_unsubscribe {m : AgpsStateMachine} (hinv : m.Inv) {s : Subscriber}
    {data : SubscriberObj} (hfind : m.mSubscribers.find? (·.sub.equals s) = some data) :
    (moveTo (m.dispatch (.rsrcUnsubscribe data))).Inv := by
  have hlisted := listed_unsubscribed hinv.listed data
  have hframe := m.unsubscribed_frame data
  have hlength : m.mEnforceSingleSubscriber = true →
      (m.unsubscribed data).mSubscribers.length ≤ 1 :=
    fun henforce => Nat.le_trans (m.length_unsubscribed_le data) (hinv.single henforce)
  have hagrees := hinv.agrees
  have hleave : ∀ state, state = .pending ∨ state = .acquired →
      (moveTo ((m.unsubscribed data).releaseIfUnused state)).Inv := by
    intro state hstate
    have hmatches := (m.unsubscribed data).releaseIfUnused_matches hstate
    have hsend := (m.unsubscribed data).releaseIfUnused_frame state
    refine ⟨listed_releaseIfUnused hlisted state, ?_, ?_⟩
    · rw [moveTo_mSubscribers, releaseIfUnused_mSubscribers, moveTo_cls, hsend]
      exact hmatches
    · rw [moveTo_mSubscribers, releaseIfUnused_mSubscribers, moveTo_mEnforceSingleSubscriber,
        hsend, hframe]
      exact hlength
  unfold dispatch
  cases hstate : m.mStatePtr with
  | released =>
      -- a data call machine leaves the subscriber listed
      simp only [releasedOnRsrcEvent,
        notifyRsrcStatus_eq m data (.receiver data.sub .rsrcUnsubscribe) rfl,
        Subscriber.forMe_receiver, Subscriber.equals_self, if_true]
      rw [hstate] at hagrees
      exact ⟨hinv.listed, hagrees, hinv.single⟩
  | pending => exact hleave .pending (Or.inl rfl)
  | acquired => exact hleave .acquired (Or.inr rfl)
  | releasing =>
      -- an inactive subscriber outlives the unsubscribe of anybody else, and its own
      rw [hstate] at hagrees
      obtain ⟨obj, hmem, hinactive⟩ := hagrees
      have hstays : ∃ obj ∈ (m.unsubscribed data).mSubscribers, obj.sub.isInactive = true := by
        by_cases hwaits : data.sub.waitForCloseComplete = true
        · refine ⟨{ data with sub := data.sub.setInactive }, ?_, by simp [hwaits]⟩
          rw [unsubscribed_mSubscribers, if_pos hwaits]
          exact List.mem_map.mpr ⟨data, List.mem_of_find?_eq_some hfind, by simp⟩
        · refine ⟨obj, mem_unsubscribed hinv.listed hfind hmem ?_, hinactive⟩
          rintro rfl
          exact hwaits (Subscriber.waitForCloseComplete_of_isInactive hinactive)
      have hnonempty : (m.unsubscribed data).hasSubscribers = true := by
        obtain ⟨obj, hmem, _⟩ := hstays
        exact (hasSubscribers_iff _).mpr (List.ne_nil_of_mem hmem)
      simp only [releasingOnRsrcEvent, hnonempty, moveTo]
      refine ⟨hlisted, hstays, ?_⟩
      · rw [show (m.unsubscribed data).mEnforceSingleSubscriber = m.mEnforceSingleSubscriber by
          rw [hframe]]
        exact hlength

theorem inv_sublist {m : AgpsStateMachine} (hinv : m.Inv) (next : AgpsState × AgpsStateMachine)
    (hframe : next.2 = { m with
      mSubscribers := next.2.mSubscribers, mRetries := next.2.mRetries, log := next.2.log })
    (hsub : next.2.mSubscribers.Sublist m.mSubscribers)
    (hmatches : Matches m.cls next.1 next.2.mSubscribers) : (moveTo next).Inv where
  listed := by
    rw [moveTo_mSubscribers, moveTo_nextAddr,
      show next.2.nextAddr = m.nextAddr by rw [hframe]]
    exact hinv.listed.sublist hsub (Nat.le_refl _)
  agrees := by
    rw [moveTo_cls, show next.2.cls = m.cls by rw [hframe]]
    exact hmatches
  single henforce := by
    rw [moveTo_mEnforceSingleSubscriber, hframe] at henforce
    exact Nat.le_trans hsub.length_le (hinv.single henforce)

/-- Events from the framework shorten the list or leave it alone. -/
theorem inv_event {m : AgpsStateMachine} (hinv : m.Inv) {event : RsrcEvent}
    (hevent : event = .rsrcGranted ∨ event = .rsrcReleased ∨ event = .rsrcDenied) :
    (moveTo (m.dispatch event)).Inv := by
  have hstay : ∀ state, m.mStatePtr = state → (moveTo (state, m)).Inv :=
    fun state hstate => inv_sublist hinv _ rfl (List.Sublist.refl _) (hstate ▸ hinv.agrees)
  have hclear : ∀ status : AgpsRsrcStatus, status.reported = true →
      (moveTo (.released, m.notifySubscribers (.broadcast .all status true))).Inv := by
    intro status hreported
    have hlist := m.notifySubscribers_all hreported
    have hframe := m.notifySubscribers_frame (.broadcast .all status true) hreported
    refine inv_sublist hinv (.released, m.notifySubscribers (.broadcast .all status true))
      hframe ?_ ?_
    · exact hlist ▸ List.nil_sublist _
    · exact hlist ▸ Matches.nil m.cls
  have hclose : ∀ status : AgpsRsrcStatus, status.reported = true →
      (moveTo (m.closeComplete status)).Inv := by
    intro status hreported
    refine inv_sublist hinv _ (m.closeComplete_frame hreported) ?_
      (m.closeComplete_matches hreported)
    rw [closeComplete_mSubscribers m hreported]
    exact List.filter_sublist
  unfold dispatch
  cases hstate : m.mStatePtr with
  | released =>
      rcases hevent with rfl | rfl | rfl <;> exact hstay .released hstate
  | pending =>
      rcases hevent with rfl | rfl | rfl
      · have hlist : (m.notifySubscribers (.broadcast .active .rsrcGranted)).mSubscribers =
            m.mSubscribers := by
          rw [notifySubscribers_keep _ _ rfl rfl, deliverAll_mSubscribers]
        have hframe := m.notifySubscribers_frame (.broadcast .active .rsrcGranted) rfl
        refine inv_sublist hinv (.acquired, m.notifySubscribers (.broadcast .active .rsrcGranted))
          hframe ?_ ?_
        · exact hlist ▸ List.Sublist.refl _
        · have hagrees := hinv.agrees
          rw [hstate] at hagrees
          exact hlist ▸ hagrees
      · exact hstay .pending hstate
      · exact hclear .rsrcDenied rfl
  | acquired =>
      rcases hevent with rfl | rfl | rfl
      · exact hstay .acquired hstate
      · exact hclear .rsrcReleased rfl
      · exact hstay .acquired hstate
  | releasing =>
      rcases hevent with rfl | rfl | rfl
      · exact hstay .releasing hstate
      · exact hclose .rsrcReleased rfl
      · exact hclose .rsrcDenied rfl

/-! ## Calls and runs -/

theorem inv_constructed (servType : Servicer) (type : AGpsExtType) (single : Bool) :
    (agpsStateMachine servType type single).Inv :=
  ⟨Listed.nil, rfl, fun _ => Nat.zero_le _⟩

theorem inv_dsConstructed (servType : Servicer) : (dsStateMachine servType).Inv :=
  ⟨Listed.nil, Matches.nil .dsStateMachine, fun _ => Nat.zero_le _⟩

/-- What the events of the framework preserve in every state is preserved by
`onRsrcEvent` of both classes. -/
theorem onRsrcEvent_invariant {invariant : AgpsStateMachine → Prop}
    (hevent : ∀ m event, event = .rsrcGranted ∨ event = .rsrcReleased ∨ event = .rsrcDenied →
      invariant m → invariant (m.stateOnRsrcEvent event))
    {m : AgpsStateMachine} (hm : invariant m) (event : AgpsRsrcStatus) :
    invariant (m.onRsrcEvent event) := by
  unfold onRsrcEvent
  cases m.cls with
  | agpsStateMachine =>
      cases event with
      | rsrcGranted => exact hevent m _ (.inl rfl) hm
      | rsrcReleased => exact hevent m _ (.inr (.inl rfl)) hm
      | rsrcDenied => exact hevent m _ (.inr (.inr rfl)) hm
      | _ => exact hm
  | dsStateMachine =>
      cases event with
      | rsrcGranted => exact hevent m _ (.inl rfl) hm
      | rsrcReleased =>
          have hreleased := hevent m _ (.inr (.inl rfl)) hm
          dsimp only [dsOnRsrcEvent]
          split_ifs
          · exact hreleased
          · exact hevent _ _ (.inr (.inr rfl)) hreleased
      | rsrcDenied => exact hevent m _ (.inr (.inr rfl)) hm
      | _ => exact hm

theorem inv_onRsrcEvent {m : AgpsStateMachine} (hinv : m.Inv) (event : AgpsRsrcStatus) :
    (m.onRsrcEvent event).Inv :=
  onRsrcEvent_invariant (fun _ _ hevent hinv => inv_event (hinv.record _) hevent) hinv event

/-- The object that a caller passes in is not in the list. -/
theorem Inv.enter {m : AgpsStateMachine} (hinv : m.Inv) (s : Subscriber) :
    Inv { m.record [.subscribeRsrc s] with nextAddr := m.nextAddr + 1 } :=
  ⟨hinv.listed.sublist (List.Sublist.refl _) (Nat.le_succ _), hinv.agrees, hinv.single⟩

theorem inv_subscribeRsrc {m : AgpsStateMachine} (hinv : m.Inv) (s : Subscriber) :
    (m.subscribeRsrc s).Inv := by
  dsimp only [subscribeRsrc]
  set caller : SubscriberObj := ⟨m.nextAddr, s⟩
  set entered := { m.record [.subscribeRsrc s] with nextAddr := m.nextAddr + 1 }
  have hinv₀ : entered.Inv := hinv.enter s
  split_ifs with hgate
  · rw [notifySubscriber, notifyRsrcStatus_eq entered caller (.broadcast .all .rsrcDenied true) rfl]
    simp only [Subscriber.forMe_all, if_true]
    exact ⟨hinv₀.listed, hinv₀.agrees, hinv₀.single⟩
  · refine inv_subscribe (hinv₀.record _) ?_ caller
    intro henforce
    rw [show entered.mEnforceSingleSubscriber = true from henforce, Bool.true_and] at hgate
    show m.mSubscribers = []
    simpa [hasSubscribers] using hgate

theorem inv_unsubscribeRsrc {m : AgpsStateMachine} (hinv : m.Inv) (s : Subscriber) :
    (m.unsubscribeRsrc s).2.Inv := by
  dsimp only [unsubscribeRsrc]
  split
  · rename_i data hfind
    rw [findSubscriber_eq] at hfind
    exact inv_unsubscribe ((hinv.record _).record _) hfind
  · exact hinv.record _

theorem inv_step {m : AgpsStateMachine} (hinv : m.Inv) (call : Call) : (m.step call).Inv := by
  cases call with
  | subscribeRsrc request => exact inv_subscribeRsrc hinv request.subscriber
  | unsubscribeRsrc request => exact inv_unsubscribeRsrc hinv request.subscriber
  | onRsrcEvent event => exact inv_onRsrcEvent hinv event
  | setAPN | setBearer | dataCallAnswer => exact ⟨hinv.listed, hinv.agrees, hinv.single⟩

theorem inv_afterCalls (servType : Servicer) (type : AGpsExtType) (single : Bool)
    (calls : List Call) : ((agpsStateMachine servType type single).afterCalls calls).Inv :=
  afterCalls_invariant Inv (inv_constructed servType type single)
    (fun _ call hinv => inv_step hinv call) calls

theorem sameMachine_afterCalls (initial : AgpsStateMachine) (calls : List Call) :
    initial.SameMachine (initial.afterCalls calls) :=
  afterCalls_invariant initial.SameMachine ⟨rfl, rfl, rfl⟩
    (fun m call hsame => SameMachine.trans hsame (SameMachine.step m call)) calls

/-- Two entries of the list may be equal in one direction only, and then one
of them is a BIT subscriber for an IPv6 address. -/
theorem listed_pairwise_equals {list : List SubscriberObj} {bound : Nat}
    (hlisted : Listed list bound) :
    list.Pairwise fun newer older => older.sub.equals newer.sub = false ∧
      (newer.sub.equals older.sub = true →
        older.sub.kind = .bit ∧ newer.sub.kind ≠ .bit ∧ newer.sub.ID = inaddrNone) :=
  hlisted.distinct.imp fun hdistinct =>
    ⟨hdistinct, fun hequals => Subscriber.of_equals_of_not_equals hequals hdistinct⟩

/-- In every state the base class reaches, the state object agrees with the
list, no two entries are equal, and a machine for one subscriber has no two. -/
theorem state_agrees_with_list (servType : Servicer) (type : AGpsExtType) (single : Bool)
    (calls : List Call) :
    let m := (agpsStateMachine servType type single).afterCalls calls
    (m.mStatePtr = .released ↔ m.mSubscribers = []) ∧
      (m.mStatePtr = .pending ∨ m.mStatePtr = .acquired →
        ∃ obj ∈ m.mSubscribers, obj.sub.isInactive = false) ∧
      (m.mStatePtr = .releasing → ∃ obj ∈ m.mSubscribers, obj.sub.isInactive = true) ∧
      (m.mSubscribers.Pairwise fun newer older => older.sub.equals newer.sub = false ∧
        (newer.sub.equals older.sub = true →
          older.sub.kind = .bit ∧ newer.sub.kind ≠ .bit ∧ newer.sub.ID = inaddrNone)) ∧
      (single = true → m.mSubscribers.length ≤ 1) := by
  intro m
  have hinv : m.Inv := inv_afterCalls servType type single calls
  have hsame := sameMachine_afterCalls (agpsStateMachine servType type single) calls
  have hagrees : Matches .agpsStateMachine m.mStatePtr m.mSubscribers :=
    (show m.cls = .agpsStateMachine from hsame.cls) ▸ hinv.agrees
  have hflag : m.mEnforceSingleSubscriber = single := hsame.mEnforceSingleSubscriber
  refine ⟨⟨fun hstate => ?_, fun hnil => ?_⟩, fun hstate => ?_, fun hstate => ?_,
    listed_pairwise_equals hinv.listed, fun hsingle => hinv.single (hflag.trans hsingle)⟩
  · rwa [hstate] at hagrees
  · cases hstate : m.mStatePtr with
    | released => rfl
    | pending | acquired | releasing => simp [hstate, Matches, hnil] at hagrees
  · rcases hstate with hstate | hstate <;> rwa [hstate] at hagrees
  · rwa [hstate] at hagrees

end AgpsStateMachine

end Serrano.Agps
