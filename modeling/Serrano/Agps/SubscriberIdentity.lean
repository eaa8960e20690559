import Mathlib.Data.Set.Basic
import Serrano.Agps.Notifications

/-! # Who is who among the subscribers

BIT and ATL clients share a machine, which tells them apart by `equals` alone.
Their entries are kept apart exactly when no connection handle is also the IPv4
address of a BIT client, and no two addresses of BIT clients for IPv6 agree up
to a common zero byte, where the comparison of the addresses ends.
-/

namespace Serrano.Agps

/-! ## Addresses compared as strings -/

/-- The bytes agree up to a common zero and differ behind it. -/
def MaskedByZero (a b : List UInt8) : Prop :=
  ∃ common rest rest', a = common ++ 0 :: rest ∧ b = common ++ 0 :: rest' ∧ rest ≠ rest'

theorem MaskedByZero.ne {a b : List UInt8} (hmasked : MaskedByZero a b) : a ≠ b := by
  obtain ⟨common, rest, rest', rfl, rfl, hne⟩ := hmasked
  simpa using hne

theorem maskedByZero_cons {x y : UInt8} {a b : List UInt8} :
    MaskedByZero (x :: a) (y :: b) ↔ x = y ∧ (x = 0 ∧ a ≠ b ∨ MaskedByZero a b) := by
  constructor
  · rintro ⟨common, rest, rest', ha, hb, hne⟩
    cases common with
    | nil =>
        simp only [List.nil_append, List.cons.injEq] at ha hb
        obtain ⟨rfl, rfl⟩ := ha
        obtain ⟨rfl, rfl⟩ := hb
        exact ⟨rfl, .inl ⟨rfl, hne⟩⟩
    | cons c common =>
        simp only [List.cons_append, List.cons.injEq] at ha hb
        obtain ⟨rfl, rfl⟩ := ha
        obtain ⟨rfl, rfl⟩ := hb
        exact ⟨rfl, .inr ⟨common, rest, rest', rfl, rfl, hne⟩⟩
  · rintro ⟨rfl, ⟨rfl, hne⟩ | ⟨common, rest, rest', rfl, rfl, hne⟩⟩
    · exact ⟨[], a, b, rfl, rfl, hne⟩
    · exact ⟨x :: common, rest, rest', rfl, rfl, hne⟩

/-- On buffers of one length, `strncmp` sees a difference unless a zero masks it. -/
theorem strncmpEq_iff {a b : List UInt8} (hlength : a.length = b.length) :
    strncmpEq a b = true ↔ a = b ∨ MaskedByZero a b := by
  induction a generalizing b with
  | nil =>
      cases b with
      | nil => simp [strncmpEq]
      | cons y b => cases hlength
  | cons x a ih =>
      cases b with
      | nil => cases hlength
      | cons y b =>
          have hrest := ih (Nat.succ.inj hlength)
          rw [maskedByZero_cons, strncmpEq, Bool.and_eq_true, Bool.or_eq_true, beq_iff_eq,
            beq_iff_eq, hrest, List.cons.injEq, ← and_or_left]
          by_cases hab : a = b
          · simp [hab]
          · simp [hab]

/-! ## Clients -/

/-- What identifies a client: its kind with its connection handle or address.
The IPv6 address counts when there is no IPv4 address. -/
inductive ClientIdentity
  | bit (ipv4 : UInt32) (ipv6 : Option (Vector UInt8 16))
  | atl (connHandle : UInt32)
  | other
  deriving DecidableEq

/-- The client a subscriber was created for. -/
def identityOf (s : Subscriber) : ClientIdentity :=
  match s.kind with
  | .bit => .bit s.ID (if s.ID = inaddrNone then some s.mIPv6Addr else none)
  | .atl _ => .atl s.ID
  | .wifi _ _ | .ds => .other

/-- The requests of BIT and ATL clients. The subscriber of an ATL request holds
`beyond` past its members. -/
inductive BitAtlRequest
  | bit (ipv4 : UInt32) (ipv6 : Vector UInt8 16)
  | atl (connHandle : UInt32) (compatibleMode : Bool) (beyond : Vector UInt8 16)
  deriving DecidableEq

namespace BitAtlRequest

def request : BitAtlRequest → Request
  | .bit ipv4 ipv6 => .bit ipv4 (some ipv6) ipv6
  | .atl connHandle compatibleMode beyond => .atl connHandle compatibleMode beyond

def subscriber (r : BitAtlRequest) : Subscriber := r.request.subscriber

/-- The requests whose clients are taken for each other. -/
def Clashes : BitAtlRequest → BitAtlRequest → Prop
  | .bit ipv4 ipv6, .bit ipv4' ipv6' =>
      ipv4 = inaddrNone ∧ ipv4' = inaddrNone ∧ MaskedByZero ipv6.toList ipv6'.toList
  | .bit ipv4 _, .atl connHandle _ _ | .atl connHandle _ _, .bit ipv4 _ => connHandle = ipv4
  | .atl _ _ _, .atl _ _ _ => False

@[simp] theorem clone_subscriber (r : BitAtlRequest) : r.subscriber.clone = r.subscriber := by
  cases r <;> rfl

@[simp] theorem waitForCloseComplete_subscriber (r : BitAtlRequest) :
    r.subscriber.waitForCloseComplete = false := by
  cases r <;> rfl

theorem identityOf_bit (ipv4 : UInt32) (ipv6 : Vector UInt8 16) :
    identityOf (bit ipv4 ipv6).subscriber =
      .bit ipv4 (if ipv4 = inaddrNone then some ipv6 else none) := rfl

theorem equals_bit (ipv4 ipv4' : UInt32) (ipv6 ipv6' : Vector UInt8 16) :
    (bit ipv4 ipv6).subscriber.equals (bit ipv4' ipv6').subscriber =
      (ipv4 == ipv4' && (inaddrNone != ipv4 || strncmpEq ipv6.toList ipv6'.toList)) := rfl

/-- Requests of one client compare equal, whichever of them is listed. -/
theorem equals_of_identity_eq {a b : BitAtlRequest}
    (hsame : identityOf a.subscriber = identityOf b.subscriber) :
    a.subscriber.equals b.subscriber = true := by
  cases a with
  | atl connHandle compatibleMode beyond =>
      cases b with
      | atl connHandle' _ _ =>
          exact beq_iff_eq.mpr (ClientIdentity.atl.inj hsame)
      | bit ipv4 ipv6 => cases hsame
  | bit ipv4 ipv6 =>
      cases b with
      | atl connHandle' _ _ => cases hsame
      | bit ipv4' ipv6' =>
          rw [identityOf_bit, identityOf_bit, ClientIdentity.bit.injEq] at hsame
          obtain ⟨rfl, haddr⟩ := hsame
          by_cases hnone : ipv4 = inaddrNone
          · rw [if_pos hnone, if_pos hnone, Option.some.injEq] at haddr
            subst haddr
            exact Subscriber.equals_self _
          · simp [equals_bit, Ne.symm hnone]

/-- Without a clash, requests that compare equal are of one client. -/
theorem identity_eq_of_equals {a b : BitAtlRequest} (hclash : ¬ a.Clashes b)
    (hequals : a.subscriber.equals b.subscriber = true) :
    identityOf a.subscriber = identityOf b.subscriber := by
  have hid := Subscriber.ID_eq_of_equals hequals
  cases a with
  | atl connHandle compatibleMode beyond =>
      cases b with
      | atl connHandle' _ _ => exact congrArg ClientIdentity.atl hid
      | bit ipv4 ipv6 => exact absurd hid hclash
  | bit ipv4 ipv6 =>
      cases b with
      | atl connHandle' _ _ => exact absurd hid.symm hclash
      | bit ipv4' ipv6' =>
          obtain rfl : ipv4 = ipv4' := hid
          by_cases hnone : ipv4 = inaddrNone
          · have haddr : strncmpEq ipv6.toList ipv6'.toList = true := by
              simpa [equals_bit, hnone] using hequals
            rw [strncmpEq_iff (by simp)] at haddr
            rcases haddr with haddr | hmasked
            · obtain rfl : ipv6 = ipv6' := Vector.toList_inj.mp haddr
              rfl
            · exact absurd ⟨hnone, hnone, hmasked⟩ hclash
          · simp [identityOf_bit, hnone]

/-- A clash makes the requests of two clients equal, in one order at least. -/
theorem mistaken_of_clash {a b : BitAtlRequest} (hclash : a.Clashes b) :
    identityOf a.subscriber ≠ identityOf b.subscriber ∧
      (a.subscriber.equals b.subscriber = true ∨ b.subscriber.equals a.subscriber = true) := by
  cases a with
  | atl connHandle compatibleMode beyond =>
      cases b with
      | atl connHandle' _ _ => cases hclash
      | bit ipv4 ipv6 => exact ⟨nofun, .inl (beq_iff_eq.mpr hclash)⟩
  | bit ipv4 ipv6 =>
      cases b with
      | atl connHandle' _ _ => exact ⟨nofun, .inr (beq_iff_eq.mpr hclash)⟩
      | bit ipv4' ipv6' =>
          obtain ⟨rfl, rfl, hmasked⟩ := hclash
          refine ⟨fun hsame => hmasked.ne ?_, .inl ?_⟩
          · rw [identityOf_bit, identityOf_bit] at hsame
            simpa [Vector.toList_inj] using hsame
          · simpa [equals_bit] using (strncmpEq_iff (by simp)).mpr (.inr hmasked)

end BitAtlRequest

/-! ## The machine they share -/

/-- The call is made by one of the clients, or by no client. -/
def Call.From (clients : Set BitAtlRequest) : Call → Prop
  | .subscribeRsrc request | .unsubscribeRsrc request => ∃ r ∈ clients, request = r.request
  | .onRsrcEvent _ | .setAPN _ | .setBearer _ | .dataCallAnswer _ => True

namespace AgpsStateMachine

variable {clients : Set BitAtlRequest}

/-- A subscribe that is not denied leaves an entry of its own client, and an
unsubscribe leaves the entries of the others. -/
structure Unmixed (clients : Set BitAtlRequest) (m : AgpsStateMachine) : Prop where
  subscribed : ∀ r ∈ clients, (m.mEnforceSingleSubscriber && m.hasSubscribers) = false →
    ∃ obj ∈ (m.step (.subscribeRsrc r.request)).mSubscribers,
      identityOf obj.sub = identityOf r.subscriber
  unsubscribed : ∀ r ∈ clients, ∀ obj ∈ m.mSubscribers,
    identityOf obj.sub ≠ identityOf r.subscriber →
    obj ∈ (m.step (.unsubscribeRsrc r.request)).mSubscribers

/-- The entries are subscribers of the clients. -/
def ListedFrom (clients : Set BitAtlRequest) (m : AgpsStateMachine) : Prop :=
  ∀ obj ∈ m.mSubscribers, ∃ r ∈ clients, obj.sub = r.subscriber

theorem listedFrom_added {m : AgpsStateMachine} (hm : m.ListedFrom clients) {r : BitAtlRequest}
    (hr : r ∈ clients) : ∀ obj ∈ m.added r.subscriber, ∃ r ∈ clients, obj.sub = r.subscriber := by
  intro obj hobj
  unfold added at hobj
  split_ifs at hobj
  · exact hm obj hobj
  · rcases List.mem_cons.mp hobj with rfl | hobj
    · exact ⟨r, hr, r.clone_subscriber⟩
    · exact hm obj hobj

theorem Effect.listedFrom {m : AgpsStateMachine} {event : RsrcEvent}
    {next : AgpsState × AgpsStateMachine} {told : List Told} (heffect : m.Effect event next told)
    (hm : m.ListedFrom clients)
    (hdata : ∀ data, event = .rsrcSubscribe data ∨ event = .rsrcUnsubscribe data →
      ∃ r ∈ clients, data.sub = r.subscriber) : next.2.ListedFrom clients := by
  have hadded : ∀ data, event = .rsrcSubscribe data →
      ∀ obj ∈ m.added data.sub, ∃ r ∈ clients, obj.sub = r.subscriber := by
    intro data hevent
    obtain ⟨r, hr, hsub⟩ := hdata data (.inl hevent)
    rw [hsub]
    exact listedFrom_added hm hr
  unfold ListedFrom
  cases heffect with
  | stay hevent hlist => rwa [hlist]
  | add hlist =>
      rw [hlist]
      exact hadded _ rfl
  | addGranted hstate hnext hlist =>
      rw [hlist]
      exact hadded _ rfl
  | tell hstate hlist => rwa [hlist]
  | @deactivate data next hwaits hlist =>
      -- None of these subscribers waits for the close.
      obtain ⟨r, -, hsub⟩ := hdata data (.inr rfl)
      rw [hsub, r.waitForCloseComplete_subscriber] at hwaits
      cases hwaits
  | leave leaves status hevent hterminal hlist =>
      rw [hlist]
      exact fun obj hobj => hm obj (List.mem_filter.mp hobj).1
  | grant hstate hnext hlist => rwa [hlist]

theorem listedFrom_stateOnRsrcEvent {m : AgpsStateMachine} (hm : m.ListedFrom clients)
    {event : RsrcEvent} (hdata : ∀ data, event = .rsrcSubscribe data ∨
      event = .rsrcUnsubscribe data → ∃ r ∈ clients, data.sub = r.subscriber) :
    (m.stateOnRsrcEvent event).ListedFrom clients := by
  obtain ⟨told, -, heffect⟩ := dispatch_effect (m.record [.onRsrcEvent m.mStatePtr event.status])
    event
  exact heffect.listedFrom hm hdata

theorem listedFrom_step {m : AgpsStateMachine} (hm : m.ListedFrom clients) {call : Call}
    (hcall : call.From clients) : (m.step call).ListedFrom clients := by
  cases call with
  | subscribeRsrc request =>
      obtain ⟨r, hr, rfl⟩ := hcall
      dsimp only [step, subscribeRsrc]
      split_ifs
      · rw [notifySubscriber, notifyRsrcStatus_eq _ _ (.broadcast .all .rsrcDenied true) rfl]
        exact hm
      · apply listedFrom_stateOnRsrcEvent
        · exact hm
        · rintro data (hdata | hdata)
          · rw [← RsrcEvent.rsrcSubscribe.inj hdata]
            exact ⟨r, hr, rfl⟩
          · cases hdata
  | unsubscribeRsrc request =>
      dsimp only [step, unsubscribeRsrc]
      split
      · rename_i data hfind
        rw [findSubscriber_eq] at hfind
        apply listedFrom_stateOnRsrcEvent
        · exact hm
        · rintro data' (hdata | hdata)
          · cases hdata
          · rw [← RsrcEvent.rsrcUnsubscribe.inj hdata]
            exact hm data (List.mem_of_find?_eq_some hfind)
      · exact hm
  | onRsrcEvent event =>
      refine onRsrcEvent_invariant (fun m event hframework hm => ?_) hm event
      refine listedFrom_stateOnRsrcEvent hm ?_
      rintro data (rfl | rfl)
      · simp at hframework
      · simp at hframework
  | setAPN | setBearer | dataCallAnswer => exact hm

/-- What a subscribe that is not denied leaves in the list. -/
theorem subscribeRsrc_mSubscribers {m : AgpsStateMachine} {s : Subscriber}
    (haccepted : (m.mEnforceSingleSubscriber && m.hasSubscribers) = false) :
    ∃ addr, (m.subscribeRsrc s).mSubscribers =
      if m.mSubscribers.any (·.sub.equals s) then m.mSubscribers
      else ⟨addr, s.clone⟩ :: m.mSubscribers := by
  let entered := { m.record [.subscribeRsrc s] with nextAddr := m.nextAddr + 1 }
  let caller : SubscriberObj := ⟨m.nextAddr, s⟩
  have hgate : m.subscribeRsrc s = entered.stateOnRsrcEvent (.rsrcSubscribe caller) := by
    dsimp only [subscribeRsrc]
    exact if_neg (Bool.eq_false_iff.mp haccepted)
  rw [hgate]
  obtain ⟨told, -, heffect⟩ := dispatch_effect
    (entered.record [.onRsrcEvent entered.mStatePtr .rsrcSubscribe]) (.rsrcSubscribe caller)
  refine ⟨m.nextAddr + 1, ?_⟩
  cases heffect with
  | stay hevent hlist => cases hevent
  | add hlist => exact hlist
  | addGranted hstate hnext hlist => exact hlist
  | leave leaves status hevent hterminal hlist => exact absurd rfl (hevent caller)

/-- An unsubscribe leaves whoever does not equal the entry it found, if that
entry is not one to wait for the close. -/
theorem mem_unsubscribeRsrc {m : AgpsStateMachine} {s : Subscriber}
    {data : SubscriberObj} (hfind : m.findSubscriber (.receiver s) = some data)
    (hwaits : data.sub.waitForCloseComplete = false) {obj : SubscriberObj}
    (hobj : obj ∈ m.mSubscribers) (hequals : obj.sub.equals data.sub = false) :
    obj ∈ (m.unsubscribeRsrc s).2.mSubscribers := by
  let entered := m.record [.unsubscribeRsrc s]
  let heard := entered.record [.onRsrcEvent entered.mStatePtr .rsrcUnsubscribe]
  have hgate : (m.unsubscribeRsrc s).2 = moveTo (heard.dispatch (.rsrcUnsubscribe data)) := by
    have hfind' : entered.findSubscriber (.receiver s) = some data := hfind
    simp only [unsubscribeRsrc]
    rw [hfind']
    rfl
  have hleft : obj ∈ (heard.unsubscribed data).mSubscribers := by
    rw [unsubscribed_mSubscribers, if_neg (Bool.eq_false_iff.mp hwaits), List.mem_filter]
    exact ⟨hobj, by simp [hequals]⟩
  rw [hgate, moveTo_mSubscribers]
  unfold dispatch
  cases heard.mStatePtr with
  | released =>
      simp only [releasedOnRsrcEvent]
      rw [notifyRsrcStatus_eq _ _ (.receiver data.sub .rsrcUnsubscribe) rfl]
      have hkept : obj ∈ heard.mSubscribers := hobj
      simpa using hkept
  | pending | acquired =>
      simp only [pendingOnRsrcEvent, acquiredOnRsrcEvent, releaseIfUnused_mSubscribers]
      exact hleft
  | releasing => exact hleft

/-- Without a clash, the entry that a client's request finds is its own. -/
theorem identity_of_listed (hclash : ∀ a ∈ clients, ∀ b ∈ clients, ¬ a.Clashes b)
    {m : AgpsStateMachine} (hm : m.ListedFrom clients) {r : BitAtlRequest} (hr : r ∈ clients)
    {obj : SubscriberObj} (hobj : obj ∈ m.mSubscribers)
    (hequals : obj.sub.equals r.subscriber = true) :
    identityOf obj.sub = identityOf r.subscriber := by
  obtain ⟨r', hr', hsub⟩ := hm obj hobj
  rw [hsub] at hequals ⊢
  exact BitAtlRequest.identity_eq_of_equals (hclash r' hr' r hr) hequals

theorem unmixed_of_listedFrom (hclash : ∀ a ∈ clients, ∀ b ∈ clients, ¬ a.Clashes b)
    {m : AgpsStateMachine} (hm : m.ListedFrom clients) : m.Unmixed clients where
  subscribed r hr haccepted := by
    obtain ⟨addr, hlist⟩ := subscribeRsrc_mSubscribers (s := r.subscriber) haccepted
    change ∃ obj ∈ (m.subscribeRsrc r.subscriber).mSubscribers, _
    rw [hlist]
    split_ifs with hany
    · obtain ⟨obj, hobj, hequals⟩ := List.any_eq_true.mp hany
      exact ⟨obj, hobj, identity_of_listed hclash hm hr hobj hequals⟩
    · exact ⟨_, List.mem_cons_self, by rw [r.clone_subscriber]⟩
  unsubscribed r hr obj hobj hother := by
    change obj ∈ (m.unsubscribeRsrc r.subscriber).2.mSubscribers
    cases hfind : m.findSubscriber (.receiver r.subscriber) with
    | none =>
        have hfind' : (m.record [.unsubscribeRsrc r.subscriber]).findSubscriber
            (.receiver r.subscriber) = none := hfind
        simp only [unsubscribeRsrc]
        rw [hfind']
        exact hobj
    | some data =>
        have hdata := hfind
        rw [findSubscriber_eq] at hdata
        have hmem : data ∈ m.mSubscribers := List.mem_of_find?_eq_some hdata
        have hown : identityOf data.sub = identityOf r.subscriber :=
          identity_of_listed hclash hm hr hmem (by simpa using List.find?_some hdata)
        obtain ⟨r', hr', hsub⟩ := hm data hmem
        have hwaits : data.sub.waitForCloseComplete = false := by
          rw [hsub]
          exact r'.waitForCloseComplete_subscriber
        -- Who equals the entry that was found is of its client, and so of this one.
        refine mem_unsubscribeRsrc hfind hwaits hobj (Bool.eq_false_iff.mpr fun hequals => ?_)
        rw [hsub] at hequals hown
        exact hother ((identity_of_listed hclash hm hr' hobj hequals).trans hown)

end AgpsStateMachine

/-- The clients are told apart: subscribers are equal exactly when they are of
one client, and no run of a machine of any type mixes them up. -/
structure KeptApart (clients : Set BitAtlRequest) : Prop where
  exact : ∀ a ∈ clients, ∀ b ∈ clients, a.subscriber.equals b.subscriber = true ↔
    identityOf a.subscriber = identityOf b.subscriber
  runs : ∀ servType type single calls, (∀ call ∈ calls, Call.From clients call) →
    (agpsStateMachine servType type single).system.Throughout
      (AgpsStateMachine.Unmixed clients) (agpsStateMachine servType type single) calls

/-- The clients are told apart exactly when no two of them clash. -/
theorem keptApart_iff (clients : Set BitAtlRequest) :
    KeptApart clients ↔ ∀ a ∈ clients, ∀ b ∈ clients, ¬ a.Clashes b := by
  constructor
  · intro hapart a ha b hb hclash
    obtain ⟨hne, hequals | hequals⟩ := BitAtlRequest.mistaken_of_clash hclash
    · exact hne ((hapart.exact a ha b hb).mp hequals)
    · exact hne ((hapart.exact b hb a ha).mp hequals).symm
  · intro hclash
    refine ⟨fun a ha b hb => ?_, fun servType type single calls hcalls => ?_⟩
    · exact ⟨BitAtlRequest.identity_eq_of_equals (hclash a ha b hb),
        BitAtlRequest.equals_of_identity_eq⟩
    · have hguard : (agpsStateMachine servType type single).system.Guarded
          (fun _ call => call.From clients) (agpsStateMachine servType type single) calls :=
        Transition.System.guarded_of_forall_mem (fun call hcall _ => hcalls call hcall) _
      refine Transition.System.throughout_of_guarded (AgpsStateMachine.ListedFrom clients)
        (fun _ hm => AgpsStateMachine.unmixed_of_listedFrom hclash hm) ?_
        (fun _ hobj => absurd hobj List.not_mem_nil) hguard
      intro m call next hm hcall hnext
      obtain rfl : m.step call = next := Option.some.inj hnext
      exact AgpsStateMachine.listedFrom_step hm hcall

/-- Two link-local addresses, alike up to their last bytes, behind a zero. -/
theorem link_local_addresses_equal :
    ¬ KeptApart {.bit inaddrNone #v[0xfe, 0x80, 0, 0, 0, 0, 0, 0, 0, 0, 0, 0, 0, 0, 0, 1],
      .bit inaddrNone #v[0xfe, 0x80, 0, 0, 0, 0, 0, 0, 0, 0, 0, 0, 0, 0, 0, 2]} := by
  intro hapart
  have hsame := (hapart.exact _ (.inl rfl) _ (.inr rfl)).mp (by decide)
  revert hsame
  decide

end Serrano.Agps
