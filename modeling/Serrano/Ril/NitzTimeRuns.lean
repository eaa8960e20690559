import Serrano.Ril.NitzTime

/-! # When network time is told right

What is missing on a slot is always the last event of the slot, and as long as
nothing disturbs the copy, it is the copy of just that event, whose time of receipt
is the one kept for the slot. So each delivery is of the last event.
-/

namespace Serrano.Ril

section History

variable {history : List NitzEntry} {slotId slot : Nat} {event indication : NitzIndication}
  {connected : Bool}

@[simp] theorem receivedOn_append_received :
    receivedOn (history ++ [.received slot event connected]) slotId =
      receivedOn history slotId ++ if slot = slotId then [event] else [] := by
  rw [receivedOn, List.filterMap_append]
  split_ifs with hslot <;> simp [receivedOn, NitzEntry.receivedOn, hslot]

@[simp] theorem receivedOn_append_delivered :
    receivedOn (history ++ [.delivered slot indication]) slotId = receivedOn history slotId := by
  simp [receivedOn, NitzEntry.receivedOn]

@[simp] theorem deliveredOn_append_received :
    deliveredOn (history ++ [.received slot event connected]) slotId =
      deliveredOn history slotId := by
  simp [deliveredOn, NitzEntry.deliveredOn]

@[simp] theorem deliveredOn_append_delivered :
    deliveredOn (history ++ [.delivered slot indication]) slotId =
      deliveredOn history slotId ++ if slot = slotId then [indication] else [] := by
  rw [deliveredOn, List.filterMap_append]
  split_ifs with hslot <;> simp [deliveredOn, NitzEntry.deliveredOn, hslot]

@[simp] theorem missing_append (entry : NitzEntry) :
    missing (history ++ [entry]) slotId = entry.update slotId (missing history slotId) := by
  simp [missing]

/-- What is missing is the last event. -/
theorem getLast?_of_missing (hmissing : missing history slotId = some event) :
    (receivedOn history slotId).getLast? = some event := by
  induction history using List.reverseRecOn with
  | nil => cases hmissing
  | append_singleton history entry ih =>
      rw [missing_append] at hmissing
      cases entry with
      | received slot other connected =>
          simp only [NitzEntry.update] at hmissing
          rw [receivedOn_append_received]
          split_ifs at hmissing ⊢ with hslot
          · rw [← hmissing, List.getLast?_append]
            rfl
          · rw [List.append_nil]
            exact ih hmissing
      | delivered slot indication =>
          simp only [NitzEntry.update] at hmissing
          rw [receivedOn_append_delivered]
          split_ifs at hmissing with hslot
          exact ih hmissing

theorem InOrder.received (horder : InOrder history slotId) :
    InOrder (history ++ [.received slot event connected]) slotId := by
  obtain ⟨origins, hsorted, horigins⟩ := horder
  refine ⟨origins, hsorted, ?_⟩
  rw [deliveredOn_append_received, receivedOn_append_received]
  refine horigins.imp fun origin indication horigin => ?_
  obtain ⟨hlt, -⟩ := List.getElem?_eq_some_iff.mp horigin
  rw [List.getElem?_append_left hlt]
  exact horigin

/-- Delivering the last event keeps the order. -/
theorem InOrder.delivered (horder : InOrder history slotId)
    (hlast : slot = slotId → (receivedOn history slotId).getLast? = some indication) :
    InOrder (history ++ [.delivered slot indication]) slotId := by
  obtain ⟨origins, hsorted, horigins⟩ := horder
  unfold InOrder
  rw [receivedOn_append_delivered, deliveredOn_append_delivered]
  by_cases hslot : slot = slotId
  · have hnew := hlast hslot
    rw [List.getLast?_eq_getElem?] at hnew
    rw [if_pos hslot]
    refine ⟨origins ++ [(receivedOn history slotId).length - 1], ?_,
      List.rel_append horigins (.cons hnew .nil)⟩
    have hboth : List.Forall₂ (fun origin (_ : NitzIndication) =>
        origin < (receivedOn history slotId).length ∧ True) origins
          (deliveredOn history slotId) :=
      horigins.imp fun _ _ horigin => ⟨(List.getElem?_eq_some_iff.mp horigin).1, trivial⟩
    have hbelow := ((List.forall₂_and_left _ _).mp hboth).1
    refine List.pairwise_append.mpr ⟨hsorted, List.pairwise_singleton _ _, ?_⟩
    intro origin horigin last hlast
    obtain rfl := List.mem_singleton.mp hlast
    exact Nat.le_sub_one_of_lt (hbelow origin horigin)
  · rw [if_neg hslot, List.append_nil]
    exact ⟨origins, hsorted, horigins⟩

end History

def NitzPoint.fails : NitzPoint → Bool
  | .failed .. | .reacquire => true
  | .idle | .storing .. | .connected _ | .checkAgain _ | .resending _ => false

namespace NitzState

variable {Thread : Type} (s : NitzState Thread)

/-- What storing a copy may rely on at each point. -/
def Storing (slotId : Nat) (data : List UInt8) (point : StorePoint) : Prop :=
  (missing s.history slotId).map NitzIndication.nitzTime = some (Ril.nitzTime data) ∧ data ≠ [] ∧
    match point with
    | .schedule | .check =>
        ∀ address, s.s_lastNITZTimeData = some address → s.memory address ≠ none
    | .free => ∃ address, s.s_lastNITZTimeData = some address ∧ s.memory address ≠ none
    | .clear | .calloc => True
    | .checkCalloc | .setSize => ∃ address bytes, s.s_lastNITZTimeData = some address ∧
        s.memory address = some bytes ∧ bytes.length = data.length
    | .copy => s.s_lastNITZTimeDataSize = data.length ∧ ∃ address bytes,
        s.s_lastNITZTimeData = some address ∧ s.memory address = some bytes ∧
          bytes.length = data.length

/-- The buffer is the copy of what is missing on its slot. -/
def Copied (address : Nat) : Prop :=
  ∃ data, data ≠ [] ∧ s.memory address = some data ∧ s.s_lastNITZTimeDataSize = data.length ∧
    (missing s.history s.storedOn).map NitzIndication.nitzTime = some (Ril.nitzTime data)

/-- What every undisturbed step keeps. -/
structure Kept : Prop where
  defined : s.undefined = false
  succeeds : ∀ thread, (s.threads thread).fails = false
  stamped : ∀ slotId event, (receivedOn s.history slotId).getLast? = some event →
    s.nitzTimeReceived slotId = event.receivedTime
  inOrder : ∀ slotId, InOrder s.history slotId
  one : ∀ first second, (s.threads first).stores = true → (s.threads second).stores = true →
    first = second
  storing : ∀ thread point slotId data, s.threads thread = .storing point slotId data →
    s.Storing slotId data point
  copied : s.Stored → ∀ address, s.s_lastNITZTimeData = some address → s.Copied address
  covered : ∀ slotId, missing s.history slotId ≠ none →
    (s.Stored → s.s_lastNITZTimeData ≠ none ∧ s.storedOn = slotId) ∧
      ∀ thread point slot data, s.threads thread = .storing point slot data → slot = slotId
  connecting : ∀ slotId, s.hasClient slotId = true → missing s.history slotId ≠ none →
    ∃ thread, (s.threads thread).connects = some slotId

variable {s}

theorem Kept.timely (hs : s.Kept) : s.Timely where
  defined := hs.defined
  inOrder := hs.inOrder
  delivered slotId hclient hnone := by
    by_contra hmissing
    obtain ⟨thread, hconnects⟩ := hs.connecting slotId hclient hmissing
    exact hnone thread hconnects

theorem kept_initial : (initial : NitzState Thread).Kept where
  defined := rfl
  succeeds _ := rfl
  stamped _ _ hlast := by cases hlast
  inOrder _ := ⟨[], List.Pairwise.nil, .nil⟩
  one _ _ hfirst _ := by cases hfirst
  storing _ _ _ _ hpoint := by cases hpoint
  copied _ _ hlast := by cases hlast
  covered _ hmissing := absurd rfl hmissing
  connecting _ hclient _ := by cases hclient

/-- Nothing stores, so whatever needs a thread that does is void. -/
theorem Stored.not_storing {thread : Thread} (hstored : s.Stored) {point : StorePoint} {slotId : Nat}
    {data : List UInt8} (hpoint : s.threads thread = .storing point slotId data) : False := by
  have hstores := hstored thread
  rw [hpoint] at hstores
  cases hstores

/-- An event that the client is told of at once. -/
theorem Kept.told (hs : s.Kept) (hstored : s.Stored) {slotId : Nat} (data : List UInt8)
    (hcopy : s.s_lastNITZTimeData ≠ none → s.storedOn ≠ slotId) (elapsedRealtime : Int) :
    (({ s with
      nitzTimeReceived := Function.update s.nitzTimeReceived slotId elapsedRealtime }.record
        [.received slotId ⟨Ril.nitzTime data, elapsedRealtime⟩ true]).record
          [.delivered slotId ⟨Ril.nitzTime data, elapsedRealtime⟩]).Kept := by
  have hmissing : ∀ slot, missing ((s.history ++ [.received slotId
      ⟨Ril.nitzTime data, elapsedRealtime⟩ true]) ++ [.delivered slotId
        ⟨Ril.nitzTime data, elapsedRealtime⟩]) slot =
          if slotId = slot then none else missing s.history slot := by
    intro slot
    simp only [missing_append, NitzEntry.update]
    split_ifs <;> simp_all
  refine ⟨hs.defined, hs.succeeds, fun slot event hevent => ?_, fun slot => ?_, hs.one,
    fun other point slot data' hother => (hstored.not_storing hother).elim,
    fun _ address hlast => ?_, fun slot hslot => ?_, fun slot hconnected hslot => ?_⟩
  · simp only [record, receivedOn_append_delivered, receivedOn_append_received] at hevent ⊢
    split_ifs at hevent with hslot
    · rw [List.getLast?_append, List.getLast?_singleton, Option.some_or] at hevent
      rw [← hslot, Function.update_self, ← Option.some.inj hevent]
    · rw [List.append_nil] at hevent
      rw [Function.update_of_ne (Ne.symm hslot)]
      exact hs.stamped slot event hevent
  · refine (hs.inOrder slot).received.delivered fun hslot => ?_
    rw [receivedOn_append_received, if_pos hslot, List.getLast?_append]
    rfl
  · obtain ⟨bytes, hbytes, hmemory, hsize, hcopied⟩ := hs.copied hstored address hlast
    refine ⟨bytes, hbytes, hmemory, hsize, ?_⟩
    have hne := hcopy (Option.ne_none_iff_exists'.mpr ⟨address, hlast⟩)
    change Option.map _ (missing ((s.history ++ _) ++ _) s.storedOn) = _
    rw [hmissing, if_neg (Ne.symm hne)]
    exact hcopied
  · change missing ((s.history ++ _) ++ _) slot ≠ none at hslot
    rw [hmissing] at hslot
    split_ifs at hslot
    · exact absurd rfl hslot
    · exact hs.covered slot hslot
  · change missing ((s.history ++ _) ++ _) slot ≠ none at hslot
    rw [hmissing] at hslot
    split_ifs at hslot
    · exact absurd rfl hslot
    · exact hs.connecting slot hconnected hslot

/-- Nothing is missing anywhere when there is no copy and none is being stored. -/
theorem Kept.missing_eq_none (hs : s.Kept) (hstored : s.Stored)
    (hlast : s.s_lastNITZTimeData = none) (slotId : Nat) : missing s.history slotId = none := by
  by_contra hmissing
  exact ((hs.covered slotId hmissing).1 hstored).1 hlast

/-- What is there to be sent is what is missing. -/
theorem Kept.lastData (hs : s.Kept) (hstored : s.Stored) {address : Nat}
    (hlast : s.s_lastNITZTimeData = some address) :
    ∃ data event, data ≠ [] ∧ s.lastData = some data ∧
      s.memory address ≠ none ∧ missing s.history s.storedOn = some event ∧
        event = ⟨Ril.nitzTime data, s.nitzTimeReceived s.storedOn⟩ := by
  obtain ⟨data, hdata, hmemory, hsize, hmissing⟩ := hs.copied hstored address hlast
  obtain ⟨event, hevent, htime⟩ := Option.map_eq_some_iff.mp hmissing
  have hstamp := hs.stamped s.storedOn event (getLast?_of_missing hevent)
  refine ⟨data, event, hdata, ?_, Option.ne_none_iff_exists'.mpr ⟨data, hmemory⟩, hevent, ?_⟩
  · simp [NitzState.lastData, hlast, hmemory, hsize]
  · rw [hstamp, ← htime]

theorem hasClient_of_die {client slotId : Nat}
    (hclient : ({ s with dead := Function.update s.dead client true } : NitzState Thread).hasClient
      slotId = true) : s.hasClient slotId = true := by
  obtain ⟨other, hother, halive⟩ := (Option.any_eq_true _ _).mp hclient
  refine (Option.any_eq_true _ _).mpr ⟨other, hother, ?_⟩
  by_cases heq : other = client
  · simp [heq] at halive
  · simpa [Function.update_of_ne heq] using halive

/-- A client that is taken away is not missed. -/
theorem hasClient_of_setIndication_none {slotId slot : Nat}
    (hclient : (s.setIndication slotId none).hasClient slot = true) :
    s.hasClient slot = true := by
  simp only [hasClient, setIndication, Function.update_apply] at hclient ⊢
  split_ifs at hclient
  · cases hclient
  · exact hclient

/-- Other clients. A client that is new is being connected. -/
theorem Kept.clients (hs : s.Kept) (mRadioIndication : Nat → Option Nat)
    (mCounterRadio : Nat → Int) (dead : Nat → Bool)
    (hclients : ∀ slotId, (mRadioIndication slotId).any (fun client => !dead client) = true →
      s.hasClient slotId = true ∨ ∃ thread, (s.threads thread).connects = some slotId) :
    { s with
      mRadioIndication := mRadioIndication
      mCounterRadio := mCounterRadio
      dead := dead }.Kept := by
  refine ⟨hs.defined, hs.succeeds, hs.stamped, hs.inOrder, hs.one, hs.storing, hs.copied,
    hs.covered, fun slotId hclient hmissing => ?_⟩
  rcases hclients slotId hclient with hbefore | hconnecting
  · exact hs.connecting slotId hbefore hmissing
  · exact hconnecting

variable [DecidableEq Thread] {thread : Thread}

theorem goTo_threads (s : NitzState Thread) (thread : Thread) (point : NitzPoint)
    (other : Thread) :
    (s.goTo thread point).threads other = if other = thread then point else s.threads other :=
  Function.update_apply ..

/-- A thread that stores nothing, neither before nor after. -/
theorem stored_goTo {point : NitzPoint} (hbefore : (s.threads thread).stores = false)
    (hafter : point.stores = false) : (s.goTo thread point).Stored ↔ s.Stored := by
  constructor
  · intro hstored other
    have hother := hstored other
    rw [goTo_threads] at hother
    split_ifs at hother with heq
    · exact heq ▸ hbefore
    · exact hother
  · intro hstored other
    rw [goTo_threads]
    split_ifs with heq
    · exact hafter
    · exact hstored other

/-- A thread that moves on without storing. A client it was connecting to is not left
with an event missing. -/
theorem Kept.moved (hs : s.Kept) {point : NitzPoint}
    (hbefore : (s.threads thread).stores = false) (hafter : point.stores = false)
    (hsucceeds : point.fails = false)
    (hconnects : ∀ slotId, (s.threads thread).connects = some slotId →
      s.hasClient slotId = true → missing s.history slotId ≠ none →
        point.connects = some slotId) : (s.goTo thread point).Kept where
  defined := hs.defined
  succeeds other := by
    rw [goTo_threads]
    split_ifs
    · exact hsucceeds
    · exact hs.succeeds other
  stamped := hs.stamped
  inOrder := hs.inOrder
  one first second hfirst hsecond := by
    rw [goTo_threads] at hfirst hsecond
    split_ifs at hfirst hsecond
    · simp [hafter] at hfirst
    · simp [hafter] at hfirst
    · simp [hafter] at hsecond
    · exact hs.one first second hfirst hsecond
  storing other at' slotId data hpoint := by
    rw [goTo_threads] at hpoint
    split_ifs at hpoint
    · rw [hpoint] at hafter
      cases hafter
    · exact hs.storing other at' slotId data hpoint
  copied hstored := hs.copied ((stored_goTo hbefore hafter).mp hstored)
  covered slotId hmissing := by
    obtain ⟨hcopy, hslot⟩ := hs.covered slotId hmissing
    refine ⟨fun hstored => hcopy ((stored_goTo hbefore hafter).mp hstored), ?_⟩
    intro other at' slot data hpoint
    rw [goTo_threads] at hpoint
    split_ifs at hpoint
    · rw [hpoint] at hafter
      cases hafter
    · exact hslot other at' slot data hpoint
  connecting slotId hclient hmissing := by
    obtain ⟨other, hother⟩ := hs.connecting slotId hclient hmissing
    by_cases heq : other = thread
    · refine ⟨thread, ?_⟩
      rw [goTo_threads, if_pos rfl]
      exact hconnects slotId (heq ▸ hother) hclient hmissing
    · refine ⟨other, ?_⟩
      rw [goTo_threads, if_neg heq]
      exact hother

/-- A thread that goes on storing, with another copy. -/
theorem Kept.advanced (hs : s.Kept) {point next : StorePoint} {slotId : Nat}
    {data : List UInt8} (hpoint : s.threads thread = .storing point slotId data)
    (last : Option Nat) (size : Nat) (memory : Nat → Option (List UInt8))
    (hnext : ({ s with
      s_lastNITZTimeData := last
      s_lastNITZTimeDataSize := size
      memory := memory } : NitzState Thread).Storing slotId data next) :
    ({ s with
      s_lastNITZTimeData := last
      s_lastNITZTimeDataSize := size
      memory := memory }.goTo thread (.storing next slotId data)).Kept := by
  have hstores : (s.threads thread).stores = true := by
    rw [hpoint]
    rfl
  have hafter : ({ s with
      s_lastNITZTimeData := last
      s_lastNITZTimeDataSize := size
      memory := memory }.goTo thread (.storing next slotId data)).Stored → False := by
    intro hstored
    have hthread := hstored thread
    rw [goTo_threads, if_pos rfl] at hthread
    cases hthread
  refine ⟨hs.defined, fun other => ?_, hs.stamped, hs.inOrder, fun first second hfirst hsecond => ?_,
    fun other at' slot bytes hother => ?_, fun hstored => (hafter hstored).elim,
    fun slot hmissing => ⟨fun hstored => (hafter hstored).elim, ?_⟩, fun slot hclient hmissing => ?_⟩
  · rw [goTo_threads]
    split_ifs
    · rfl
    · exact hs.succeeds other
  · rw [goTo_threads] at hfirst hsecond
    refine hs.one first second ?_ ?_
    · split_ifs at hfirst with heq
      · exact heq ▸ hstores
      · exact hfirst
    · split_ifs at hsecond with heq
      · exact heq ▸ hstores
      · exact hsecond
  · rw [goTo_threads] at hother
    split_ifs at hother with heq
    · obtain ⟨rfl, rfl, rfl⟩ := NitzPoint.storing.inj hother
      exact hnext
    · refine absurd (hs.one other thread ?_ hstores) heq
      rw [show s.threads other = _ from hother]
      rfl
  · intro other at' slot' bytes hother
    rw [goTo_threads] at hother
    split_ifs at hother with heq
    · obtain ⟨rfl, rfl, rfl⟩ := NitzPoint.storing.inj hother
      exact (hs.covered slot hmissing).2 thread point slotId data hpoint
    · exact (hs.covered slot hmissing).2 other at' slot' bytes hother
  · obtain ⟨other, hother⟩ := hs.connecting slot hclient hmissing
    refine ⟨other, ?_⟩
    rw [goTo_threads, if_neg]
    · exact hother
    · rintro rfl
      rw [hpoint] at hother
      cases hother

/-- While a copy is stored nothing else is. -/
theorem Kept.stored_after (hs : s.Kept) (hstores : (s.threads thread).stores = true) :
    (s.goTo thread .idle).Stored := by
  intro other
  rw [goTo_threads]
  split_ifs with heq
  · rfl
  · by_contra hother
    exact heq (hs.one other thread (Bool.eq_true_of_not_eq_false hother) hstores)

theorem Kept.scheduleTimeout (hs : s.Kept) {slotId : Nat} {data : List UInt8}
    (hpoint : s.threads thread = .storing .schedule slotId data) :
    (s.goTo thread (.storing .check slotId data)).Kept := by
  obtain ⟨hmissing, hdata, hallocated⟩ := hs.storing thread _ _ _ hpoint
  exact hs.advanced hpoint _ _ _ ⟨hmissing, hdata, hallocated⟩

theorem Kept.callocData (hs : s.Kept) {slotId : Nat} {data : List UInt8}
    (hpoint : s.threads thread = .storing .calloc slotId data) (address : Nat) :
    ({ s with
      memory := Function.update s.memory address (some (List.replicate data.length 0))
      s_lastNITZTimeData := some address }.goTo thread (.storing .checkCalloc slotId data)).Kept := by
  obtain ⟨hmissing, hdata, -⟩ := hs.storing thread _ _ _ hpoint
  refine hs.advanced hpoint _ _ _ ⟨hmissing, hdata, address, List.replicate data.length 0, rfl, ?_, ?_⟩
  · exact Function.update_self ..
  · exact List.length_replicate

/-- The last step of storing a copy. -/
theorem Kept.copy (hs : s.Kept) {slotId : Nat} {data : List UInt8}
    (hpoint : s.threads thread = .storing .copy slotId data) :
    ((s.copyLast slotId data).goTo thread .idle).Kept := by
  obtain ⟨hmissing, hdata, hsize, address, bytes, hlast, hbytes, hlength⟩ :=
    hs.storing thread _ _ _ hpoint
  have hcopy : s.copyLast slotId data = { s with
      memory := Function.update s.memory address (some data), storedOn := slotId } := by
    have hrest : bytes.drop data.length = [] := List.drop_eq_nil_of_le (Nat.le_of_eq hlength)
    simp only [copyLast, hlast, hbytes, Option.bind_some, Option.map_some, hlength, Nat.le_refl,
      if_true, hrest, List.append_nil]
  have hstored : (s.goTo thread .idle).Stored := hs.stored_after (by rw [hpoint]; rfl)
  rw [hcopy]
  refine ⟨hs.defined, fun other => ?_, hs.stamped, hs.inOrder, fun first second hfirst => ?_,
    fun other point slot data' hother => ?_, fun _ other hother => ?_, fun slot hslot => ?_,
    fun slot hclient hslot => ?_⟩
  · rw [goTo_threads]
    split_ifs
    · rfl
    · exact hs.succeeds other
  · exact absurd ((hstored first).symm.trans hfirst) Bool.false_ne_true
  · have hidle := hstored other
    rw [show (s.goTo thread .idle).threads other = _ from hother] at hidle
    cases hidle
  · obtain rfl : address = other := Option.some.inj (hlast.symm.trans hother)
    exact ⟨data, hdata, Function.update_self .., hsize, hmissing⟩
  · have hthis : slotId = slot := (hs.covered slot hslot).2 thread _ _ _ hpoint
    refine ⟨fun _ => ⟨?_, hthis⟩, fun other point slot' data' hother => ?_⟩
    · exact Option.ne_none_iff_exists'.mpr ⟨address, hlast⟩
    · have hidle := hstored other
      rw [show (s.goTo thread .idle).threads other = _ from hother] at hidle
      cases hidle
  · obtain ⟨other, hother⟩ := hs.connecting slot hclient hslot
    refine ⟨other, ?_⟩
    rw [goTo_threads, if_neg]
    · exact hother
    · rintro rfl
      rw [hpoint] at hother
      cases hother

theorem Kept.store (hs : s.Kept) {slotId : Nat} {data : List UInt8} {point : StorePoint}
    (hpoint : s.threads thread = .storing point slotId data) {s' : NitzState Thread}
    (hstep : s.storeStep thread slotId data point = some s') : s'.Kept := by
  obtain ⟨hmissing, hdata, hat⟩ := hs.storing thread _ _ _ hpoint
  cases point with
  | schedule | calloc => cases hstep
  | check =>
      obtain rfl := Option.some.inj hstep
      cases hlast : s.s_lastNITZTimeData with
      | none => exact hs.advanced hpoint _ _ _ ⟨hmissing, hdata, trivial⟩
      | some address =>
          exact hs.advanced hpoint _ _ _ ⟨hmissing, hdata, address, hlast, hat address hlast⟩
  | free =>
      obtain rfl := Option.some.inj hstep
      obtain ⟨address, hlast, hallocated⟩ := hat
      unfold freeLast
      simp only [hlast, if_neg hallocated]
      exact hs.advanced hpoint _ _ _ ⟨hmissing, hdata, trivial⟩
  | clear =>
      obtain rfl := Option.some.inj hstep
      exact hs.advanced hpoint _ _ _ ⟨hmissing, hdata, trivial⟩
  | checkCalloc =>
      obtain rfl := Option.some.inj hstep
      obtain ⟨address, bytes, hlast, hbytes⟩ := hat
      rw [if_pos (by rw [hlast]; rfl)]
      exact hs.advanced hpoint _ _ _ ⟨hmissing, hdata, address, bytes, hlast, hbytes⟩
  | setSize =>
      obtain rfl := Option.some.inj hstep
      exact hs.advanced hpoint _ _ _ ⟨hmissing, hdata, rfl, hat⟩
  | copy =>
      obtain rfl := Option.some.inj hstep
      exact hs.copy hpoint

/-- An event that no client is there for. -/
theorem Kept.missed (hs : s.Kept) (hstored : s.Stored)
    (hidle : (s.threads thread).connects = none) {slotId : Nat}
    {data : List UInt8} (hdata : data ≠ []) (hclient : s.hasClient slotId = false)
    (hcopy : s.s_lastNITZTimeData ≠ none → s.storedOn = slotId) (elapsedRealtime : Int) :
    (({ s with
      nitzTimeReceived := Function.update s.nitzTimeReceived slotId elapsedRealtime }.record
        [.received slotId ⟨Ril.nitzTime data, elapsedRealtime⟩ false]).goTo thread
          (.storing .schedule slotId data)).Kept := by
  refine ⟨hs.defined, fun other => ?_, fun slot event hevent => ?_, fun slot => ?_,
    fun first second hfirst hsecond => ?_, fun other point slot data' hother => ?_,
    fun hafter => ?_, fun slot hslot => ⟨fun hafter => ?_, fun other point slot' data' hother => ?_⟩,
    fun slot hconnected hslot => ?_⟩
  · rw [goTo_threads]
    split_ifs
    · rfl
    · exact hs.succeeds other
  · simp only [goTo, record, receivedOn_append_received] at hevent ⊢
    split_ifs at hevent with hslot
    · rw [List.getLast?_append, List.getLast?_singleton, Option.some_or] at hevent
      rw [← hslot, Function.update_self, ← Option.some.inj hevent]
    · rw [List.append_nil] at hevent
      rw [Function.update_of_ne (Ne.symm hslot)]
      exact hs.stamped slot event hevent
  · exact (hs.inOrder slot).received
  · rw [goTo_threads] at hfirst hsecond
    split_ifs at hfirst hsecond with hthis hthat
    · rw [hthis, hthat]
    · exact absurd ((hstored second).symm.trans hsecond) Bool.false_ne_true
    · exact absurd ((hstored first).symm.trans hfirst) Bool.false_ne_true
    · exact absurd ((hstored first).symm.trans hfirst) Bool.false_ne_true
  · rw [goTo_threads] at hother
    split_ifs at hother
    · obtain ⟨rfl, rfl, rfl⟩ := NitzPoint.storing.inj hother
      refine ⟨?_, hdata, fun address hlast => ?_⟩
      · simp [goTo, record, NitzEntry.update]
      · obtain ⟨bytes, -, hbytes, -⟩ := hs.copied hstored address hlast
        exact Option.ne_none_iff_exists'.mpr ⟨bytes, hbytes⟩
    · exact (hstored.not_storing hother).elim
  · have hthread := hafter thread
    rw [goTo_threads, if_pos rfl] at hthread
    cases hthread
  · have hthread := hafter thread
    rw [goTo_threads, if_pos rfl] at hthread
    cases hthread
  · rw [goTo_threads] at hother
    split_ifs at hother
    · obtain ⟨rfl, rfl, rfl⟩ := NitzPoint.storing.inj hother
      by_contra hne
      simp only [goTo, record, missing_append, NitzEntry.update, if_neg hne] at hslot
      obtain ⟨hlast, hon⟩ := (hs.covered slot hslot).1 hstored
      exact hne ((hcopy hlast).symm.trans hon)
    · exact (hstored.not_storing hother).elim
  · by_cases hne : slotId = slot
    · subst hne
      exact absurd (hclient.symm.trans hconnected) Bool.false_ne_true
    · simp only [goTo, record, missing_append, NitzEntry.update, if_neg hne] at hslot
      obtain ⟨other, hother⟩ := hs.connecting slot hconnected hslot
      refine ⟨other, ?_⟩
      rw [goTo_threads, if_neg]
      · exact hother
      · rintro rfl
        rw [hidle] at hother
        cases hother

/-- A client that is new is being connected. -/
theorem Kept.connect (hs : s.Kept) (hidle : s.threads thread = .idle) (slotId : Nat)
    (radioIndication : Option Nat) :
    ((s.setIndication slotId radioIndication).goTo thread (.connected slotId)).Kept := by
  have hmoved : (s.goTo thread (.connected slotId)).Kept := by
    refine hs.moved ?_ rfl rfl fun slot hslot => ?_
    · rw [hidle]
      rfl
    · rw [hidle] at hslot
      cases hslot
  refine hmoved.clients _ _ _ fun slot hclient => ?_
  simp only [setIndication, Function.update_apply] at hclient
  split_ifs at hclient with hslot
  · refine Or.inr ⟨thread, ?_⟩
    rw [goTo_threads, if_pos rfl, hslot]
    rfl
  · exact Or.inl hclient

theorem Kept.look (hs : s.Kept) (hstored : s.Stored) {slotId : Nat}
    (hconnects : (s.threads thread).connects = some slotId) {next : NitzPoint}
    (hstores : next.stores = false) (hfails : next.fails = false)
    (hnext : next.connects = some slotId) :
    (s.goTo thread (if s.s_lastNITZTimeData.isSome then next else .idle)).Kept := by
  cases hlast : s.s_lastNITZTimeData with
  | none =>
      exact hs.moved (hstored thread) rfl rfl fun slot _ _ hslot =>
        absurd (hs.missing_eq_none hstored hlast slot) hslot
  | some address =>
      refine hs.moved (hstored thread) hstores hfails fun slot hslot _ _ => ?_
      exact hnext.trans (hconnects.symm.trans hslot)

/-- The copy is sent to the client of its slot. -/
theorem Kept.resent (hs : s.Kept) (hstored : s.Stored) (thread : Thread)
    {event : NitzIndication} (hmissing : missing s.history s.storedOn = some event)
    (memory : Nat → Option (List UInt8)) :
    ({ s.record [.delivered s.storedOn event] with
      s_lastNITZTimeData := none, memory := memory }.goTo thread .idle).Kept := by
  have hnone : ∀ slot, missing (s.history ++ [.delivered s.storedOn event]) slot = none := by
    intro slot
    rw [missing_append]
    by_contra hslot
    by_cases hon : s.storedOn = slot
    · simp [NitzEntry.update, ← hon, hmissing] at hslot
    · simp only [NitzEntry.update, hon, false_and, if_false] at hslot
      exact hon ((hs.covered slot hslot).1 hstored).2
  refine ⟨hs.defined, fun other => ?_, fun slot last hevent => ?_, fun slot => ?_,
    fun first second hfirst hsecond => ?_, fun other point slot data' hother => ?_,
    fun _ _ hnever => ?_, fun slot hslot => absurd (hnone slot) hslot,
    fun slot _ hslot => absurd (hnone slot) hslot⟩
  · rw [goTo_threads]
    split_ifs
    · rfl
    · exact hs.succeeds other
  · refine hs.stamped slot last ?_
    simpa [goTo, record] using hevent
  · exact (hs.inOrder slot).delivered fun hslot => hslot ▸ getLast?_of_missing hmissing
  · rw [goTo_threads] at hfirst
    split_ifs at hfirst
    · cases hfirst
    · exact absurd ((hstored first).symm.trans hfirst) Bool.false_ne_true
  · rw [goTo_threads] at hother
    split_ifs at hother
    exact (hstored.not_storing hother).elim
  · cases hnever

theorem Kept.resend (hs : s.Kept) (hstored : s.Stored) {slotId : Nat} {sent : List UInt8}
    (hpoint : s.threads thread = .resending slotId)
    (hguard : s.s_lastNITZTimeData ≠ none → s.mRadioIndication slotId ≠ none →
      s.storedOn = slotId ∧ s.hasClient slotId = true ∧
        s.lastData.map Ril.nitzTime = some sent) : (s.resend thread slotId sent).Kept := by
  have hconnects : (s.threads thread).connects = some slotId := by
    rw [hpoint]
    rfl
  unfold NitzState.resend
  cases hclient : s.mRadioIndication slotId with
  | none =>
      rw [if_pos rfl]
      refine hs.moved (hstored thread) rfl rfl fun slot hslot hconnected _ => ?_
      obtain rfl := Option.some.inj (hconnects.symm.trans hslot)
      simp [hasClient, hclient] at hconnected
  | some client =>
      rw [if_neg (Option.some_ne_none client)]
      cases hlast : s.s_lastNITZTimeData with
      | none =>
          have hsame : (s.freeLast.clearLast).goTo thread .idle = s.goTo thread .idle := by
            simp only [freeLast, hlast]
            unfold clearLast
            rw [← hlast]
          simp only [NitzState.lastData, hlast, nitzTimeReceivedInd, hclient, if_true]
          rw [hsame]
          exact hs.moved (hstored thread) rfl rfl fun slot _ _ hslot =>
            absurd (hs.missing_eq_none hstored hlast slot) hslot
      | some address =>
          obtain ⟨rfl, halive, hsent⟩ := hguard (hlast ▸ Option.some_ne_none address)
            (hclient ▸ Option.some_ne_none client)
          obtain ⟨data, event, hdata, hlastData, hmemory, hmissing, rfl⟩ :=
            hs.lastData hstored hlast
          obtain rfl : Ril.nitzTime data = sent := by
            rw [hlastData] at hsent
            exact Option.some.inj hsent
          have hliving : s.dead client = false := by
            simpa [hasClient, hclient] using halive
          simp only [hlastData, nitzTimeReceivedInd, hclient, if_neg hdata, hliving,
            Bool.false_eq_true, if_false]
          have hfreed := hs.resent hstored thread hmissing
            (Function.update s.memory address none)
          unfold freeLast
          simp only [record, hlast, if_neg hmemory]
          exact hfreed

theorem Kept.onUnsolicitedResponse (hs : s.Kept) (hstored : s.Stored)
    (hidle : s.threads thread = .idle) {slotId : Nat} {data sent : List UInt8}
    (hdata : data ≠ [])
    (hguard : if s.mRadioIndication slotId = none then
        s.s_lastNITZTimeData ≠ none → s.storedOn = slotId
      else s.hasClient slotId = true ∧ sent = Ril.nitzTime data ∧
        (s.s_lastNITZTimeData ≠ none → s.storedOn ≠ slotId)) (elapsedRealtime : Int) :
    (s.onUnsolicitedResponse thread slotId data elapsedRealtime sent).Kept := by
  unfold NitzState.onUnsolicitedResponse nitzTimeReceivedInd
  cases hclient : s.mRadioIndication slotId with
  | none =>
      have hnobody : s.hasClient slotId = false := by
        rw [hasClient, hclient]
        rfl
      have hconnects : (s.threads thread).connects = none := by
        rw [hidle]
        rfl
      rw [if_pos hclient] at hguard
      simp only [record, hclient, hnobody]
      exact hs.missed hstored hconnects hdata hnobody hguard elapsedRealtime
  | some client =>
      rw [if_neg (hclient ▸ Option.some_ne_none client)] at hguard
      obtain ⟨halive, rfl, hcopy⟩ := hguard
      have hliving : s.dead client = false := by
        simpa [hasClient, hclient] using halive
      simp only [record, hclient, halive, if_neg hdata, hliving, Bool.false_eq_true, if_false,
        Function.update_self]
      exact hs.told hstored data hcopy elapsedRealtime

section Steps

variable {k : Int} {s' : NitzState Thread}

/-- An old library whose timeout was allocated goes on, as a new one does. -/
theorem goes_of_allocated {allocated : Bool} (hguard : 13 ≤ k ∨ allocated = true) :
    ¬ (k < 13 ∧ allocated = false) := by
  rintro ⟨hversion, hfailed⟩
  rcases hguard with hnew | hallocated
  · omega
  · exact Bool.false_ne_true (hfailed.symm.trans hallocated)

theorem Kept.stepAt_idle (hs : s.Kept) (hpoint : s.threads thread = .idle) {action : NitzAction}
    (hguard : s.Undisturbed k (thread, action))
    (hstep : s.stepAt thread k .idle action = some s') : s'.Kept := by
  cases action with
  | onUnsolicitedResponse slotId data elapsedRealtime sent =>
      obtain ⟨hstored, hdata, hguard⟩ := hguard
      obtain rfl := Option.some.inj hstep
      exact hs.onUnsolicitedResponse hstored hpoint hdata hguard elapsedRealtime
  | setResponseFunctions slotId radioIndication =>
      obtain rfl := Option.some.inj hstep
      exact hs.connect hpoint slotId radioIndication
  | _ => cases hstep

/-- The thread stores the copy of an event. -/
theorem Kept.stepAt_storing (hs : s.Kept) {point : StorePoint} {slotId : Nat} {data : List UInt8}
    (hpoint : s.threads thread = .storing point slotId data) {action : NitzAction}
    (hguard : s.Undisturbed k (thread, action))
    (hstep : s.stepAt thread k (.storing point slotId data) action = some s') : s'.Kept := by
  cases action with
  | scheduleTimeout allocated =>
      cases point with
      | schedule =>
          rw [stepAt, if_neg (goes_of_allocated hguard)] at hstep
          obtain rfl := Option.some.inj hstep
          exact hs.scheduleTimeout hpoint
      | _ => cases hstep
  | callocData answer =>
      cases point with
      | calloc =>
          obtain ⟨address, rfl⟩ := Option.ne_none_iff_exists'.mp hguard
          rw [stepAt, callocLast] at hstep
          split_ifs at hstep
          · obtain rfl := Option.some.inj hstep
            exact hs.callocData hpoint address
          · cases hstep
      | _ => cases hstep
  | store => cases point <;> exact hs.store hpoint hstep
  | _ => cases point <;> cases hstep

/-- A client is told what is stored, when it has looked twice. -/
theorem Kept.stepAt_connecting (hs : s.Kept) {slotId : Nat}
    (hconnects : (s.threads thread).connects = some slotId) {action : NitzAction}
    (hguard : s.Undisturbed k (thread, action))
    (hstep : s.stepAt thread k (s.threads thread) action = some s') : s'.Kept := by
  cases hpoint : s.threads thread with
  | connected slotId =>
      rw [hpoint] at hstep
      cases action with
      | look =>
          obtain rfl := Option.some.inj hstep
          exact hs.look hguard (by rw [hpoint]; rfl) rfl rfl rfl
      | _ => cases hstep
  | checkAgain slotId =>
      rw [hpoint] at hstep
      cases action with
      | look =>
          obtain rfl := Option.some.inj hstep
          exact hs.look hguard (by rw [hpoint]; rfl) rfl rfl rfl
      | _ => cases hstep
  | resending slotId =>
      rw [hpoint] at hstep
      cases action with
      | resend sent =>
          obtain ⟨hstored, hguard⟩ := hguard
          obtain rfl := Option.some.inj hstep
          exact hs.resend hstored hpoint (hguard slotId (by rw [hpoint]; rfl))
      | _ => cases hstep
  | idle | storing | failed | reacquire =>
      rw [hpoint] at hconnects
      cases hconnects

theorem Kept.stepAt (hs : s.Kept) {action : NitzAction}
    (hguard : s.Undisturbed k (thread, action))
    (hstep : s.stepAt thread k (s.threads thread) action = some s') : s'.Kept := by
  cases hpoint : s.threads thread with
  | idle => exact hs.stepAt_idle hpoint hguard (hpoint ▸ hstep)
  | storing point slotId data => exact hs.stepAt_storing hpoint hguard (hpoint ▸ hstep)
  | connected slotId | checkAgain slotId | resending slotId =>
      exact hs.stepAt_connecting (by rw [hpoint]; rfl) hguard hstep
  -- no delivery has failed, so that nothing is cleared or freed after one
  | failed | reacquire =>
      have hsucceeds := hs.succeeds thread
      rw [hpoint] at hsucceeds
      cases hsucceeds

theorem kept_step (k : Int) (hs : s.Kept) {action : Thread × NitzAction}
    (hguard : s.Undisturbed k action) {s' : NitzState Thread}
    (hstep : s.step k action = some s') : s'.Kept := by
  obtain ⟨thread, action⟩ := action
  have hdefined : ¬ s.undefined = true := by simp [hs.defined]
  replace hstep := (if_neg hdefined).symm.trans hstep
  cases action with
  | die client =>
      obtain rfl := Option.some.inj hstep
      exact hs.clients _ _ _ fun slotId hclient => Or.inl (hasClient_of_die hclient)
  | checkReturnStatus slotId =>
      simp only at hstep
      split_ifs at hstep
      obtain rfl := Option.some.inj hstep
      exact hs.clients _ _ _ fun slot hclient => Or.inl (hasClient_of_setIndication_none hclient)
  | _ => exact hs.stepAt hguard hstep

end Steps

/-- In every run of undisturbed steps the clients are told right. -/
theorem timely_of_undisturbed (Thread : Type) [DecidableEq Thread] (k : Int)
    (actions : List (Thread × NitzAction))
    (hguard : (system Thread k).Guarded (fun s => s.Undisturbed k) initial actions) :
    (system Thread k).Throughout Timely initial actions :=
  Transition.System.throughout_of_guarded Kept (fun _ hs => hs.timely)
    (fun _ _ _ hs hguard hstep => kept_step k hs hguard hstep) kept_initial hguard

/-- The accesses that store a copy when there was none before. -/
def storeActions (address : Nat) : List NitzAction :=
  [.scheduleTimeout true, .store, .callocData (some address), .store, .store, .store]

/-- The accesses of a client that connects and is sent what is stored. -/
def connectActions (slotId client : Nat) (sent : List UInt8) : List NitzAction :=
  [.setResponseFunctions slotId (some client), .look, .look, .resend sent]

/-- An event is missed on slot 1, and a client connects there, is told, and is told of the
next event. -/
theorem timely_missed_and_told :
    (system (Fin 2) 15).Throughout Timely initial
      ((NitzAction.onUnsolicitedResponse 1 [49, 44, 50] 10 [] :: storeActions 100).map ((0 : Fin 2), ·)
        ++ (connectActions 1 7 [49, 44, 50]).map ((1 : Fin 2), ·)
        ++ [((0 : Fin 2), .onUnsolicitedResponse 1 [51] 20 [51])]) :=
  timely_of_undisturbed (Fin 2) 15 _ (by decide)

/-- The event is missed on slot 0, but it is a client on slot 1 that connects: it is told
the time of an event that never was on its slot, with a stamp that is none. -/
theorem told_on_other_slot :
    ∃ s : NitzState (Fin 2), (system (Fin 2) 15).run
        ((NitzAction.onUnsolicitedResponse 0 [49, 44, 50] 10 [] :: storeActions 100).map
            ((0 : Fin 2), ·)
          ++ (connectActions 1 7 [49, 44, 50]).map ((1 : Fin 2), ·)) = some s ∧
      receivedOn s.history 1 = [] ∧ deliveredOn s.history 1 = [⟨[49, 44, 50], 0⟩] ∧
        ¬ s.Timely := by
  refine ⟨_, rfl, by decide, by decide, fun hs => ?_⟩
  obtain ⟨origins, -, horigins⟩ := hs.inOrder 1
  cases horigins with
  | cons horigin _ => cases horigin

end NitzState

end Serrano.Ril
