import Serrano.Agps.SubscriberMemory
import Serrano.Agps.Subscriptions

/-! # The lifetimes of subscribers

The clones in the list are there and the others are not. A notification that is for a
listed subscriber keeps this up as long as nobody is left to be compared with the
receiver after it has been deleted, which is when it is the only one in the list.
-/

namespace Serrano.Agps

open Lifetime

/-- The object at the address is listed. -/
def AddrIn (list : List SubscriberObj) (addr : Nat) : Prop := ∃ obj ∈ list, obj.addr = addr

/-- What the machine can read. -/
def Readable (list : List SubscriberObj) : SubscriberRef → Prop
  | .caller => True
  | .clone addr => AddrIn list addr

/-- Reads of what the machine can read. -/
def Reads (list : List SubscriberObj) (ops : List SubscriberOp) : Prop :=
  ∀ op ∈ ops, ∃ ref, Readable list ref ∧ op = .use ref

/-- The clones are there as long as they are listed, and objects from `bound` on have yet
to be made. -/
structure Tracks (list : List SubscriberObj) (bound : Nat) (ops : List SubscriberOp) : Prop where
  listed : ∀ addr, AddrIn list addr → statusAfter (.clone addr) ops .absent = some .live
  gone : ∀ addr, ¬ AddrIn list addr → statusAfter (.clone addr) ops .absent = some .absent ∨
    statusAfter (.clone addr) ops .absent = some .freed
  fresh : ∀ addr, bound ≤ addr → statusAfter (.clone addr) ops .absent = some .absent
  caller : .free .caller ∉ ops

namespace Tracks

variable {list rest : List SubscriberObj} {bound : Nat} {ops more : List SubscriberOp}

theorem init : Tracks [] bound [] where
  listed _ h := by
    obtain ⟨obj, hmem, -⟩ := h
    cases hmem
  gone _ _ := .inl rfl
  fresh _ _ := rfl
  caller := List.not_mem_nil

/-- Only the addresses in the list count. -/
theorem congr (h : Tracks list bound ops) (haddr : ∀ addr, AddrIn rest addr ↔ AddrIn list addr) :
    Tracks rest bound ops where
  listed addr hin := h.listed addr ((haddr addr).mp hin)
  gone addr hout := h.gone addr fun hin => hout ((haddr addr).mpr hin)
  fresh := h.fresh
  caller := h.caller

/-- An address is given to an object of a caller. -/
theorem bump (h : Tracks list bound ops) : Tracks list (bound + 1) ops where
  listed := h.listed
  gone := h.gone
  fresh addr hle := h.fresh addr (Nat.le_of_succ_le hle)
  caller := h.caller

theorem reads (h : Tracks list bound ops) (hreads : Reads list more) :
    Tracks list bound (ops ++ more) := by
  have hsame : ∀ addr, statusAfter (.clone addr) (ops ++ more) .absent =
      statusAfter (.clone addr) ops .absent := by
    intro addr
    rw [statusAfter_append]
    by_cases hin : AddrIn list addr
    · rw [h.listed addr hin, Option.bind_some]
      refine statusAfter_of_forall_use fun op hop hobject => ?_
      obtain ⟨ref, -, rfl⟩ := hreads op hop
      rw [Option.some.inj hobject]
    · have hother : ∀ op ∈ more, op.object ≠ some (.clone addr) := by
        intro op hop hobject
        obtain ⟨ref, hreadable, rfl⟩ := hreads op hop
        obtain rfl := Option.some.inj hobject
        exact hin hreadable
      rcases h.gone addr hin with hgone | hgone <;>
        rw [hgone, Option.bind_some, statusAfter_of_forall_ne hother]
  refine ⟨fun addr hin => ?_, fun addr hout => ?_, fun addr hle => ?_, fun hmem => ?_⟩
  · rw [hsame]
    exact h.listed addr hin
  · rw [hsame]
    exact h.gone addr hout
  · rw [hsame]
    exact h.fresh addr hle
  · rcases List.mem_append.mp hmem with hmem | hmem
    · exact h.caller hmem
    · obtain ⟨ref, -, hop⟩ := hreads _ hmem
      cases hop

/-- A clone is made and listed. -/
theorem alloc (h : Tracks list bound ops) (s : Subscriber) :
    Tracks (⟨bound, s⟩ :: list) (bound + 1) (ops ++ [.alloc (.clone bound)]) := by
  have hnew : statusAfter (.clone bound) (ops ++ [.alloc (.clone bound)]) .absent =
      some .live := by
    rw [statusAfter_concat_self rfl, h.fresh bound (Nat.le_refl bound)]
    rfl
  have hold : ∀ addr, addr ≠ bound →
      statusAfter (.clone addr) (ops ++ [.alloc (.clone bound)]) .absent =
        statusAfter (.clone addr) ops .absent := by
    intro addr hne
    refine statusAfter_concat_of_ne fun hobject => hne ?_
    exact (SubscriberRef.clone.inj (Option.some.inj hobject)).symm
  refine ⟨fun addr hin => ?_, fun addr hout => ?_, fun addr hle => ?_, fun hmem => ?_⟩
  · by_cases heq : addr = bound
    · rw [heq]
      exact hnew
    · rw [hold addr heq]
      obtain ⟨obj, hobj, rfl⟩ := hin
      rcases List.mem_cons.mp hobj with rfl | hobj
      · exact absurd rfl heq
      · exact h.listed obj.addr ⟨obj, hobj, rfl⟩
  · have hne : addr ≠ bound := fun heq => hout ⟨⟨bound, s⟩, List.mem_cons_self, heq.symm⟩
    rw [hold addr hne]
    exact h.gone addr fun ⟨obj, hobj, haddr⟩ => hout ⟨obj, List.mem_cons_of_mem _ hobj, haddr⟩
  · rw [hold addr (Nat.ne_of_gt hle)]
    exact h.fresh addr (Nat.le_of_succ_le hle)
  · rcases List.mem_append.mp hmem with hmem | hmem
    · exact h.caller hmem
    · cases List.mem_singleton.mp hmem

/-- A clone is taken from the list and deleted. -/
theorem free (h : Tracks list bound ops) {obj : SubscriberObj} (hmem : obj ∈ list)
    (hrest : ∀ addr, AddrIn rest addr ↔ AddrIn list addr ∧ addr ≠ obj.addr) :
    Tracks rest bound (ops ++ [.free obj.ref]) := by
  have hfreed : statusAfter (.clone obj.addr) (ops ++ [.free obj.ref]) .absent = some .freed := by
    rw [statusAfter_concat_self rfl, h.listed obj.addr ⟨obj, hmem, rfl⟩]
    rfl
  have hother : ∀ addr, addr ≠ obj.addr →
      statusAfter (.clone addr) (ops ++ [.free obj.ref]) .absent =
        statusAfter (.clone addr) ops .absent := by
    intro addr hne
    refine statusAfter_concat_of_ne fun hobject => hne ?_
    exact (SubscriberRef.clone.inj (Option.some.inj hobject)).symm
  refine ⟨fun addr hin => ?_, fun addr hout => ?_, fun addr hle => ?_, fun hmem => ?_⟩
  · obtain ⟨hlist, hne⟩ := (hrest addr).mp hin
    rw [hother addr hne]
    exact h.listed addr hlist
  · by_cases heq : addr = obj.addr
    · rw [heq]
      exact .inr hfreed
    · rw [hother addr heq]
      exact h.gone addr fun hin => hout ((hrest addr).mpr ⟨hin, heq⟩)
  · have hne : addr ≠ obj.addr := by
      rintro rfl
      have hlive := h.listed obj.addr ⟨obj, hmem, rfl⟩
      rw [h.fresh obj.addr hle] at hlive
      cases hlive
    rw [hother addr hne]
    exact h.fresh addr hle
  · rcases List.mem_append.mp hmem with hmem | hmem
    · exact h.caller hmem
    · cases List.mem_singleton.mp hmem

/-- What is kept of the memory. -/
theorem keepsObjects {m : AgpsStateMachine} (h : Tracks m.mSubscribers bound ops) :
    MachineMemory.KeepsObjects ⟨m, ops⟩ where
  wellUsed addr := by
    by_cases hin : AddrIn m.mSubscribers addr
    · rw [h.listed addr hin]
      exact Option.some_ne_none _
    · rcases h.gone addr hin with hgone | hgone <;> rw [hgone] <;> exact Option.some_ne_none _
  live addr := by
    refine ⟨fun hlive => ?_, h.listed addr⟩
    by_contra hout
    rcases h.gone addr hout with hgone | hgone <;> rw [hgone] at hlive <;> cases hlive
  caller := h.caller

end Tracks

/-! ## The searches -/

section Searches

variable {list : List SubscriberObj} {rcver : Option SubscriberRef}

theorem Reads.append {first second : List SubscriberOp} (hfirst : Reads list first)
    (hsecond : Reads list second) : Reads list (first ++ second) := by
  intro op hop
  rcases List.mem_append.mp hop with hop | hop
  · exact hfirst op hop
  · exact hsecond op hop

theorem Reads.nil : Reads list [] := fun _ hop => absurd hop List.not_mem_nil

theorem reads_use {ref : SubscriberRef} (href : Readable list ref) : Reads list [.use ref] :=
  fun _ hop => ⟨ref, href, List.mem_singleton.mp hop⟩

theorem readable_ref {obj : SubscriberObj} (hmem : obj ∈ list) : Readable list obj.ref :=
  ⟨obj, hmem, rfl⟩

theorem readable_none (list : List SubscriberObj) :
    ∀ ref ∈ (none : Option SubscriberRef), Readable list ref :=
  fun _ hnone => by cases hnone

theorem readable_caller (list : List SubscriberObj) :
    ∀ ref ∈ some SubscriberRef.caller, Readable list ref := by
  rintro ref ⟨⟩
  trivial

theorem reads_forMeOps {self : SubscriberRef} (hrcver : ∀ ref ∈ rcver, Readable list ref)
    (hself : Readable list self) : Reads list (forMeOps rcver self) := by
  refine Reads.append (reads_use hself) fun op hop => ?_
  obtain ⟨ref, href, rfl⟩ := List.mem_map.mp hop
  exact ⟨ref, hrcver ref (Option.mem_toList.mp href), rfl⟩

theorem reads_searchOps {equal : SubscriberObj → Bool} (hrcver : ∀ ref ∈ rcver, Readable list ref)
    {visited : List SubscriberObj} (hvisited : ∀ obj ∈ visited, obj ∈ list) :
    Reads list (searchOps rcver equal visited) := by
  induction visited with
  | nil => exact Reads.nil
  | cons obj rest ih =>
      have hfirst := reads_forMeOps hrcver (readable_ref (hvisited obj List.mem_cons_self))
      refine hfirst.append ?_
      split_ifs
      · exact Reads.nil
      · exact ih fun o ho => hvisited o (List.mem_cons_of_mem _ ho)

/-- Taking out the entry that a search finds takes out its address. -/
theorem addrIn_eraseP {bound : Nat} (hlisted : Listed list bound) {equal : SubscriberObj → Bool}
    {obj : SubscriberObj} (hfind : list.find? equal = some obj) (addr : Nat) :
    AddrIn (list.eraseP equal) addr ↔ AddrIn list addr ∧ addr ≠ obj.addr := by
  obtain ⟨hequal, before, after, rfl, hbefore⟩ := List.find?_eq_some_iff_append.mp hfind
  have hnot : ∀ other ∈ before, ¬ equal other = true := by simpa using hbefore
  have herase : (before ++ obj :: after).eraseP equal = before ++ after := by
    rw [List.eraseP_append_right _ hnot, List.eraseP_cons_of_pos hequal]
  rw [herase]
  obtain ⟨-, hcons, hcross⟩ := List.pairwise_append.mp hlisted.addrs
  have hne : ∀ other ∈ before ++ after, other.addr ≠ obj.addr := by
    intro other hother
    rcases List.mem_append.mp hother with hother | hother
    · exact hcross other hother obj List.mem_cons_self
    · exact ((List.pairwise_cons.mp hcons).1 other hother).symm
  constructor
  · rintro ⟨other, hmem, rfl⟩
    refine ⟨⟨other, ?_, rfl⟩, hne other hmem⟩
    simp only [List.mem_append, List.mem_cons] at hmem ⊢
    exact hmem.imp_right .inr
  · rintro ⟨⟨other, hmem, rfl⟩, hother⟩
    refine ⟨other, ?_, rfl⟩
    simp only [List.mem_append, List.mem_cons] at hmem ⊢
    refine hmem.imp_right fun hrest => hrest.resolve_left ?_
    rintro rfl
    exact hother rfl

/-- A loop without a receiver deletes what it takes out. -/
theorem Tracks.removeAllOps {bound : Nat} {ops : List SubscriberOp} {equal : SubscriberObj → Bool}
    (h : Tracks list bound ops) (hlisted : Listed list bound) {passes : Nat}
    (hpasses : list.length < passes) :
    Tracks (list.filter fun obj => !equal obj) bound
      (ops ++ Agps.removeAllOps none equal passes list) := by
  induction passes generalizing list ops with
  | zero => omega
  | succ passes ih =>
      have hsearch : Tracks list bound (ops ++ searchOps none equal list) :=
        h.reads (reads_searchOps (readable_none list) fun _ hobj => hobj)
      rw [Agps.removeAllOps]
      cases hfind : list.find? equal with
      | none =>
          have hkeep : list.filter (fun obj => !equal obj) = list := by
            rw [List.filter_eq_self]
            intro obj hobj
            simpa using List.find?_eq_none.mp hfind obj hobj
          rw [hkeep, List.append_nil]
          exact hsearch
      | some obj =>
          have hmem := List.mem_of_find?_eq_some hfind
          have hfree := hsearch.free hmem (addrIn_eraseP hlisted hfind)
          have hlength : (list.eraseP equal).length < passes := by
            rw [List.length_eraseP_of_mem hmem (List.find?_some hfind)]
            have := List.length_pos_of_mem hmem
            omega
          have hrest := ih hfree (hlisted.sublist List.eraseP_sublist (Nat.le_refl _)) hlength
          rw [LinkedList.filter_not_eraseP] at hrest
          simpa using hrest

end Searches

namespace AgpsStateMachine

variable {m : AgpsStateMachine} {ops : List SubscriberOp}

/-- The memory of a machine. -/
def Tracked (m : AgpsStateMachine) (ops : List SubscriberOp) : Prop :=
  Tracks m.mSubscribers m.nextAddr ops

theorem reads_findSubscriberOps (m : AgpsStateMachine) (n : Notification)
    {rcver : Option SubscriberRef} (hrcver : ∀ ref ∈ rcver, Readable m.mSubscribers ref) :
    Reads m.mSubscribers (m.findSubscriberOps n rcver) :=
  reads_searchOps hrcver fun _ hobj => hobj

theorem reads_hasActiveSubscribersOps (m : AgpsStateMachine) :
    Reads m.mSubscribers m.hasActiveSubscribersOps :=
  m.reads_findSubscriberOps _ (readable_none _)

theorem reads_sendRsrcRequestOps (m : AgpsStateMachine) (action : AGpsStatusValue) :
    Reads m.mSubscribers (m.sendRsrcRequestOps action) := by
  refine (m.reads_findSubscriberOps _ (readable_none _)).append ?_
  cases hfind : m.findSubscriber (.broadcast .active) with
  | none => exact Reads.nil
  | some s =>
      rw [findSubscriber_eq] at hfind
      dsimp only
      split_ifs
      · exact Reads.nil
      · exact reads_use (readable_ref (List.mem_of_find?_eq_some hfind))

theorem tracked_addSubscriber (h : m.Tracked ops) (s : Subscriber) :
    (m.addSubscriber s).Tracked (ops ++ m.addSubscriberOps s) := by
  have hsearch := h.reads (m.reads_findSubscriberOps (.receiver s) (readable_caller _))
  unfold addSubscriberOps
  cases hfind : m.findSubscriber (.receiver s) with
  | some found =>
      have hsame : m.addSubscriber s = m := by rw [addSubscriber, hfind]
      rw [hsame, if_neg Bool.noConfusion, List.append_nil]
      exact hsearch
  | none =>
      have hadded : m.addSubscriber s = { m with
          mSubscribers := ⟨m.nextAddr, s.clone⟩ :: m.mSubscribers
          nextAddr := m.nextAddr + 1 } := by rw [addSubscriber, hfind]
      have hread := hsearch.reads (reads_use (show Readable m.mSubscribers .caller from trivial))
      rw [hadded, Option.isNone_none, if_pos rfl, ← List.append_assoc, List.append_cons]
      exact hread.alloc s.clone

theorem equal_notifySubscriber (m : AgpsStateMachine) {n : Notification}
    (hreported : n.rsrcStatus.reported = true) (hdelete : n.postNotifyDelete = true) :
    (fun obj => (notifySubscriber n obj m).1) = fun obj => obj.sub.forMe n := by
  funext obj
  rw [notifySubscriber, m.notifyRsrcStatus_eq obj n hreported]
  exact (congrArg (obj.sub.forMe n && ·) hdelete).trans (Bool.and_true _)

theorem notifySubscribersOps_delete (m : AgpsStateMachine) {n : Notification}
    (rcver : Option SubscriberRef) (hreported : n.rsrcStatus.reported = true)
    (hdelete : n.postNotifyDelete = true) :
    m.notifySubscribersOps n rcver = removeAllOps rcver (fun obj => obj.sub.forMe n)
      (m.mSubscribers.length + 1) m.mSubscribers := by
  rw [notifySubscribersOps, equal_notifySubscriber m hreported hdelete]
  exact if_pos hdelete

/-- Telling a group. -/
theorem tracked_notifySubscribers (h : m.Tracked ops)
    (hlisted : Listed m.mSubscribers m.nextAddr) {n : Notification}
    (hreported : n.rsrcStatus.reported = true) :
    (m.notifySubscribers n).Tracked (ops ++ m.notifySubscribersOps n none) := by
  cases hdelete : n.postNotifyDelete with
  | true =>
      have hremoved : Tracks (m.mSubscribers.filter fun obj => !obj.sub.forMe n) m.nextAddr
          (ops ++ removeAllOps none (fun obj => obj.sub.forMe n) (m.mSubscribers.length + 1)
            m.mSubscribers) := h.removeAllOps hlisted (Nat.lt_succ_self _)
      rw [notifySubscribers_delete m n hdelete hreported,
        notifySubscribersOps_delete m none hreported hdelete]
      exact hremoved
  | false =>
      rw [notifySubscribers_keep m n hdelete hreported, notifySubscribersOps, hdelete,
        if_neg Bool.noConfusion]
      exact h.reads (reads_searchOps (readable_none _) fun _ hobj => hobj)

theorem tracked_releaseIfUnused (h : m.Tracked ops) (state : AgpsState) :
    (m.releaseIfUnused state).2.Tracked (ops ++ m.releaseIfUnusedOps) := by
  have hlist := m.releaseIfUnused_mSubscribers state
  have hbound : (m.releaseIfUnused state).2.nextAddr = m.nextAddr := by
    rw [m.releaseIfUnused_frame state]
  rw [Tracked, hlist, hbound]
  refine Tracks.reads h ?_
  unfold releaseIfUnusedOps
  split_ifs
  · exact m.reads_sendRsrcRequestOps _
  · exact m.reads_hasActiveSubscribersOps.append (m.reads_sendRsrcRequestOps _)
  · exact m.reads_hasActiveSubscribersOps.append Reads.nil

theorem addrIn_inactivated (m : AgpsStateMachine) (data : SubscriberObj) (addr : Nat) :
    AddrIn (m.inactivated data) addr ↔ AddrIn m.mSubscribers addr := by
  constructor
  · rintro ⟨obj, hobj, rfl⟩
    obtain ⟨listed, hlisted, rfl⟩ := List.mem_map.mp hobj
    refine ⟨listed, hlisted, ?_⟩
    split_ifs <;> rfl
  · rintro ⟨listed, hlisted, rfl⟩
    refine ⟨_, List.mem_map_of_mem hlisted, ?_⟩
    split_ifs <;> rfl

/-- Who unsubscribes is listed, and alone unless it waits for the close. -/
theorem tracked_unsubscribed (h : m.Tracked ops) {data : SubscriberObj}
    (hmem : data ∈ m.mSubscribers)
    (halone : data.sub.waitForCloseComplete = false → m.mSubscribers = [data]) :
    (m.unsubscribed data).Tracked (ops ++ m.unsubscribedOps data) := by
  have hread := h.reads (reads_use (readable_ref hmem))
  have hbound : (m.unsubscribed data).nextAddr = m.nextAddr := by rw [unsubscribed_frame]
  rw [Tracked, unsubscribed_mSubscribers, hbound, unsubscribedOps, List.append_cons]
  cases hwaits : data.sub.waitForCloseComplete with
  | true =>
      rw [if_pos rfl, if_pos rfl]
      refine (hread.reads (reads_use (readable_ref hmem))).congr fun addr => ?_
      exact addrIn_inactivated m data addr
  | false =>
      have hsingle := halone hwaits
      have hcompared : Tracks m.mSubscribers m.nextAddr
          (ops ++ [.use data.ref] ++ forMeOps (some data.ref) data.ref) := by
        refine hread.reads (reads_forMeOps ?_ (readable_ref hmem))
        rintro ref ⟨⟩
        exact readable_ref hmem
      have hloop : m.notifySubscribersOps (.receiver data.sub .rsrcUnsubscribe true)
          (some data.ref) = forMeOps (some data.ref) data.ref ++ [.free data.ref] := by
        rw [notifySubscribersOps_delete m _ rfl rfl, hsingle]
        simp [removeAllOps, searchOps]
      rw [if_neg Bool.noConfusion, if_neg Bool.noConfusion, hloop, ← List.append_assoc]
      refine hcompared.free hmem fun addr => ?_
      rw [hsingle]
      simp only [List.filter_cons, Subscriber.equals_self, Bool.not_true, List.filter_nil]
      constructor
      · rintro ⟨obj, hobj, -⟩
        cases hobj
      · rintro ⟨⟨obj, hobj, rfl⟩, hne⟩
        rw [List.mem_singleton.mp hobj] at hne
        exact absurd rfl hne

theorem tracked_closeComplete (h : m.Tracked ops) (hlisted : Listed m.mSubscribers m.nextAddr)
    {status : AgpsRsrcStatus} (hreported : status.reported = true) :
    (m.closeComplete status).2.Tracked (ops ++ m.closeCompleteOps status) := by
  let rest := m.notifySubscribers (.broadcast .inactive status true)
  have hnotified : rest.Tracked (ops ++ m.notifySubscribersOps (.broadcast .inactive status true)
    none) := tracked_notifySubscribers h hlisted hreported
  have hactive := hnotified.reads rest.reads_hasActiveSubscribersOps
  rw [closeCompleteOps, ← List.append_assoc, ← List.append_assoc]
  cases hsome : rest.hasActiveSubscribers with
  | true =>
      have hclose : m.closeComplete status =
          (.pending, (rest.sendRsrcRequest .gpsRequestAgpsDataConn).2) := if_pos hsome
      rw [hclose, if_pos rfl, Tracked, sendRsrcRequest_mSubscribers, sendRsrcRequest_nextAddr]
      exact hactive.reads (rest.reads_sendRsrcRequestOps _)
  | false =>
      have hnone : ¬ rest.hasActiveSubscribers = true := by
        rw [hsome]
        exact Bool.noConfusion
      have hclose : m.closeComplete status = (.released, rest) := if_neg hnone
      rw [hclose, if_neg Bool.noConfusion, List.append_nil]
      exact hactive

theorem tracked_notifyRsrcStatus (h : m.Tracked ops) (obj : SubscriberObj) {n : Notification}
    (hreported : n.rsrcStatus.reported = true) : (m.notifyRsrcStatus obj n).2.Tracked ops := by
  rw [notifyRsrcStatus_eq m obj n hreported]
  dsimp only
  split_ifs <;> exact h

/-- Every transition keeps track of the subscribers, if whoever unsubscribes is listed, and
alone where it is deleted. -/
theorem tracked_dispatch (h : m.Tracked ops) (hlisted : Listed m.mSubscribers m.nextAddr)
    (event : RsrcEvent)
    (halone : ∀ data, event = .rsrcUnsubscribe data → data ∈ m.mSubscribers ∧
      (m.mStatePtr ≠ .released → data.sub.waitForCloseComplete = false →
        m.mSubscribers = [data])) :
    (m.dispatch event).2.Tracked (ops ++ m.dispatchOps event) := by
  unfold dispatch dispatchOps
  cases hstate : m.mStatePtr with
  | released =>
      cases event with
      | rsrcSubscribe data =>
          have hadded := tracked_addSubscriber h data.sub
          have hlist := (m.addSubscriber data.sub).sendRsrcRequest_mSubscribers
            .gpsRequestAgpsDataConn
          have hbound := (m.addSubscriber data.sub).sendRsrcRequest_nextAddr
            .gpsRequestAgpsDataConn
          have hsent := hadded.reads
            ((m.addSubscriber data.sub).reads_sendRsrcRequestOps .gpsRequestAgpsDataConn)
          rw [← hlist, ← hbound, List.append_assoc] at hsent
          exact hsent
      | rsrcUnsubscribe data =>
          have hmem := (halone data rfl).1
          refine tracked_notifyRsrcStatus (n := .receiver data.sub .rsrcUnsubscribe) ?_ data rfl
          refine h.reads (reads_forMeOps ?_ (readable_ref hmem))
          rintro ref ⟨⟩
          exact readable_ref hmem
      | rsrcGranted | rsrcReleased | rsrcDenied => exact (List.append_nil ops).symm ▸ h
  | pending =>
      cases event with
      | rsrcSubscribe data => exact tracked_addSubscriber h data.sub
      | rsrcUnsubscribe data =>
          obtain ⟨hmem, hsingle⟩ := halone data rfl
          have hnot : m.mStatePtr ≠ .released := by rw [hstate]; exact AgpsState.noConfusion
          have hleft := tracked_unsubscribed h hmem (hsingle hnot)
          have hafter := tracked_releaseIfUnused hleft .pending
          rw [List.append_assoc] at hafter
          exact hafter
      | rsrcGranted => exact tracked_notifySubscribers h hlisted rfl
      | rsrcReleased => exact (List.append_nil ops).symm ▸ h
      | rsrcDenied => exact tracked_notifySubscribers h hlisted rfl
  | acquired =>
      cases event with
      | rsrcSubscribe data =>
          have hgranted : Tracks m.mSubscribers m.nextAddr
              (ops ++ forMeOps (some .caller) .caller) :=
            h.reads (reads_forMeOps (readable_caller _) trivial)
          have hadded := tracked_addSubscriber (tracked_notifyRsrcStatus
            (n := .receiver data.sub .rsrcGranted) hgranted data rfl) data.sub
          rw [List.append_assoc] at hadded
          exact hadded
      | rsrcUnsubscribe data =>
          obtain ⟨hmem, hsingle⟩ := halone data rfl
          have hnot : m.mStatePtr ≠ .released := by rw [hstate]; exact AgpsState.noConfusion
          have hleft := tracked_unsubscribed h hmem (hsingle hnot)
          have hafter := tracked_releaseIfUnused hleft .acquired
          rw [List.append_assoc] at hafter
          exact hafter
      | rsrcReleased => exact tracked_notifySubscribers h hlisted rfl
      | rsrcGranted | rsrcDenied => exact (List.append_nil ops).symm ▸ h
  | releasing =>
      cases event with
      | rsrcSubscribe data => exact tracked_addSubscriber h data.sub
      | rsrcUnsubscribe data =>
          obtain ⟨hmem, hsingle⟩ := halone data rfl
          have hnot : m.mStatePtr ≠ .released := by rw [hstate]; exact AgpsState.noConfusion
          exact tracked_unsubscribed h hmem (hsingle hnot)
      | rsrcGranted => exact (List.append_nil ops).symm ▸ h
      | rsrcReleased | rsrcDenied => exact tracked_closeComplete h hlisted rfl

theorem tracked_stateOnRsrcEvent (h : m.Tracked ops) (hlisted : Listed m.mSubscribers m.nextAddr)
    (event : RsrcEvent)
    (halone : ∀ data, event = .rsrcUnsubscribe data → data ∈ m.mSubscribers ∧
      (m.mStatePtr ≠ .released → data.sub.waitForCloseComplete = false →
        m.mSubscribers = [data])) :
    (m.stateOnRsrcEvent event).Tracked (ops ++ m.stateOnRsrcEventOps event) := by
  have hrecorded : (m.record [.onRsrcEvent m.mStatePtr event.status]).Tracked ops := h
  exact tracked_dispatch hrecorded hlisted event halone

theorem tracked_subscribeRsrc (h : m.Tracked ops) (hlisted : Listed m.mSubscribers m.nextAddr)
    (s : Subscriber) : (m.subscribeRsrc s).Tracked (ops ++ m.subscribeRsrcOps s) := by
  let entered : AgpsStateMachine :=
    { m.record [.subscribeRsrc s] with nextAddr := m.nextAddr + 1 }
  have hentered : entered.Tracked ops := Tracks.bump h
  have hbelow : Listed entered.mSubscribers entered.nextAddr :=
    hlisted.sublist (List.Sublist.refl _) (Nat.le_succ _)
  dsimp only [subscribeRsrc, subscribeRsrcOps]
  split_ifs
  · have hread : entered.Tracked (ops ++ forMeOps none .caller) :=
      hentered.reads (reads_forMeOps (readable_none _) trivial)
    exact tracked_notifyRsrcStatus (n := .broadcast .all .rsrcDenied true) hread _ rfl
  · refine tracked_stateOnRsrcEvent hentered hbelow (.rsrcSubscribe _) fun data hdata => ?_
    cases hdata

theorem tracked_unsubscribeRsrc (h : m.Tracked ops) (hlisted : Listed m.mSubscribers m.nextAddr)
    (s : Subscriber)
    (halone : ∀ data, m.findSubscriber (.receiver s) = some data → m.mStatePtr ≠ .released →
      data.sub.waitForCloseComplete = false → m.mSubscribers = [data]) :
    (m.unsubscribeRsrc s).2.Tracked (ops ++ m.unsubscribeRsrcOps s) := by
  let entered := m.record [.unsubscribeRsrc s]
  have hread : entered.Tracked (ops ++ entered.findSubscriberOps (.receiver s) (some .caller)) :=
    h.reads (entered.reads_findSubscriberOps _ (readable_caller _))
  rw [unsubscribeRsrcOps, ← List.append_assoc]
  cases hfind : m.findSubscriber (.receiver s) with
  | none =>
      have hentered : entered.findSubscriber (.receiver s) = none := hfind
      dsimp only [unsubscribeRsrc]
      rw [hentered, List.append_nil]
      exact hread
  | some data =>
      have hentered : entered.findSubscriber (.receiver s) = some data := hfind
      have hmem : data ∈ m.mSubscribers := by
        rw [findSubscriber_eq] at hfind
        exact List.mem_of_find?_eq_some hfind
      dsimp only [unsubscribeRsrc]
      rw [hentered]
      refine tracked_stateOnRsrcEvent hread hlisted (.rsrcUnsubscribe data) fun other hother => ?_
      obtain rfl := RsrcEvent.rsrcUnsubscribe.inj hother
      exact ⟨hmem, halone data hfind⟩

theorem tracked_event (h : m.Tracked ops) (hlisted : Listed m.mSubscribers m.nextAddr)
    {event : RsrcEvent} (hevent : event.ofClient = false) :
    (m.stateOnRsrcEvent event).Tracked (ops ++ m.stateOnRsrcEventOps event) := by
  refine tracked_stateOnRsrcEvent h hlisted event fun data hdata => ?_
  rw [hdata] at hevent
  cases hevent

theorem tracked_onRsrcEvent (h : m.Tracked ops) (hlisted : Listed m.mSubscribers m.nextAddr)
    (event : AgpsRsrcStatus) : (m.onRsrcEvent event).Tracked (ops ++ m.onRsrcEventOps event) := by
  have hnothing : m.Tracked (ops ++ []) := (List.append_nil ops).symm ▸ h
  unfold onRsrcEvent onRsrcEventOps
  cases m.cls with
  | agpsStateMachine =>
      cases event with
      | rsrcGranted | rsrcReleased | rsrcDenied => exact tracked_event h hlisted rfl
      | rsrcSubscribe | rsrcUnsubscribe | rsrcStatusMax => exact hnothing
  | dsStateMachine =>
      cases event with
      | rsrcGranted | rsrcDenied => exact tracked_event h hlisted rfl
      | rsrcReleased =>
          have hreleased : (m.stateOnRsrcEvent .rsrcReleased).Tracked
              (ops ++ m.stateOnRsrcEventOps .rsrcReleased) := tracked_event h hlisted rfl
          dsimp only [dsOnRsrcEvent, dsOnRsrcEventOps]
          rw [← List.append_assoc]
          split_ifs
          · rw [List.append_nil]
            exact hreleased
          · have hrest : Listed (m.stateOnRsrcEvent .rsrcReleased).mSubscribers
                (m.stateOnRsrcEvent .rsrcReleased).nextAddr :=
              listed_dispatch (m := m.record _) hlisted .rsrcReleased
            exact tracked_event hreleased hrest rfl
      | rsrcSubscribe | rsrcUnsubscribe | rsrcStatusMax => exact hnothing

theorem tracked_step (h : m.Tracked ops) (hlisted : Listed m.mSubscribers m.nextAddr) (call : Call)
    (halone : MachineMemory.Alone ⟨m, ops⟩ call) :
    (m.step call).Tracked (ops ++ m.stepOps call) := by
  cases call with
  | subscribeRsrc request => exact tracked_subscribeRsrc h hlisted request.subscriber
  | unsubscribeRsrc request => exact tracked_unsubscribeRsrc h hlisted request.subscriber halone
  | onRsrcEvent event => exact tracked_onRsrcEvent h hlisted event
  | setAPN | setBearer | dataCallAnswer => exact (List.append_nil ops).symm ▸ h

/-- The pass that finds an entry destroys it and goes round again. -/
theorem removeAllOps_of_find {rcver : Option SubscriberRef} {equal : SubscriberObj → Bool}
    {passes : Nat} {list : List SubscriberObj} {obj : SubscriberObj}
    (hfind : list.find? equal = some obj) :
    removeAllOps rcver equal (passes + 1) list =
      searchOps rcver equal list ++
        .free obj.ref :: removeAllOps rcver equal passes (list.eraseP equal) := by
  rw [removeAllOps, hfind]

/-- The loop looks for the receiver again when it has deleted it. -/
theorem mem_removeAllOps {rcver : SubscriberRef} {equal : SubscriberObj → Bool}
    {list : List SubscriberObj} {passes : Nat} (hne : list ≠ []) (hpasses : passes ≠ 0) :
    .use rcver ∈ removeAllOps (some rcver) equal passes list := by
  obtain ⟨first, rest, rfl⟩ := List.exists_cons_of_ne_nil hne
  obtain ⟨more, rfl⟩ := Nat.exists_eq_succ_of_ne_zero hpasses
  simp [removeAllOps, searchOps, forMeOps]

theorem misused_unsubscribedOps (h : m.Tracked ops) (hlisted : Listed m.mSubscribers m.nextAddr)
    {s : Subscriber} {data : SubscriberObj}
    (hfind : m.findSubscriber (.receiver s) = some data)
    (hwaits : data.sub.waitForCloseComplete = false) (hothers : m.mSubscribers ≠ [data]) :
    statusAfter data.ref (ops ++ m.unsubscribedOps data) .absent = none := by
  rw [findSubscriber_eq] at hfind
  have hmem := List.mem_of_find?_eq_some hfind
  let equal : SubscriberObj → Bool :=
    fun obj => obj.sub.forMe (.receiver data.sub .rsrcUnsubscribe true)
  have hfound : m.mSubscribers.find? equal = some data := by
    cases hsearch : m.mSubscribers.find? equal with
    | none =>
        have hself := List.find?_eq_none.mp hsearch data hmem
        exact absurd (Subscriber.equals_self data.sub) hself
    | some obj =>
        have hequal : equal obj = true := List.find?_some hsearch
        rw [hlisted.eq_of_equals_found hfind (List.mem_of_find?_eq_some hsearch) hequal]
  have hrest : m.mSubscribers.eraseP equal ≠ [] := by
    intro hnil
    rcases List.eraseP_eq_nil_iff.mp hnil with hempty | ⟨obj, hequal, hsingle⟩
    · rw [hempty] at hmem
      cases hmem
    · rw [hsingle] at hmem hothers
      exact hothers (by rw [List.mem_singleton.mp hmem])
  have hlength : m.mSubscribers.length ≠ 0 :=
    Nat.ne_of_gt (List.length_pos_of_mem hmem)
  have hread : Tracks m.mSubscribers m.nextAddr
      (ops ++ [.use data.ref] ++ searchOps (some data.ref) equal m.mSubscribers) := by
    refine (h.reads (reads_use (readable_ref hmem))).reads (reads_searchOps ?_ fun _ hobj => hobj)
    rintro ref ⟨⟩
    exact readable_ref hmem
  have hfreed : statusAfter data.ref (ops ++ [.use data.ref] ++
      searchOps (some data.ref) equal m.mSubscribers ++ [.free data.ref]) .absent =
        some .freed := by
    rw [statusAfter_concat_self rfl]
    have hlive := hread.listed data.addr ⟨data, hmem, rfl⟩
    rw [SubscriberObj.ref] at hlive ⊢
    rw [hlive]
    rfl
  have hops : ops ++ m.unsubscribedOps data =
      (ops ++ [.use data.ref] ++ searchOps (some data.ref) equal m.mSubscribers ++
        [.free data.ref]) ++ removeAllOps (some data.ref) equal m.mSubscribers.length
          (m.mSubscribers.eraseP equal) := by
    rw [unsubscribedOps, hwaits, if_neg Bool.noConfusion,
      notifySubscribersOps_delete m _ rfl rfl, removeAllOps_of_find hfound]
    simp [equal]
  rw [hops, statusAfter_append, hfreed, Option.bind_some]
  exact statusAfter_freed (mem_removeAllOps hrest hlength) rfl

/-- Somebody else is listed when a subscriber leaves at once. -/
theorem misused_step (h : m.Tracked ops) (hlisted : Listed m.mSubscribers m.nextAddr) {call : Call}
    (hnot : ¬ MachineMemory.Alone ⟨m, ops⟩ call) :
    ∃ addr, statusAfter (.clone addr) (ops ++ m.stepOps call) .absent = none := by
  cases call with
  | subscribeRsrc | onRsrcEvent | setAPN | setBearer | dataCallAnswer => exact absurd trivial hnot
  | unsubscribeRsrc request =>
      simp only [MachineMemory.Alone, not_forall] at hnot
      obtain ⟨data, hfind, hstate, hwaits, hothers⟩ := hnot
      let entered := m.record [.unsubscribeRsrc request.subscriber]
      let heard := entered.record [.onRsrcEvent entered.mStatePtr .rsrcUnsubscribe]
      have hread : heard.Tracked
          (ops ++ entered.findSubscriberOps (.receiver request.subscriber) (some .caller)) :=
        h.reads (entered.reads_findSubscriberOps _ (readable_caller _))
      have hmisused := misused_unsubscribedOps hread hlisted hfind hwaits hothers
      refine ⟨data.addr, ?_⟩
      have hentered : entered.findSubscriber (.receiver request.subscriber) = some data := hfind
      have hstep : m.stepOps (.unsubscribeRsrc request) =
          entered.findSubscriberOps (.receiver request.subscriber) (some .caller) ++
            heard.dispatchOps (.rsrcUnsubscribe data) := by
        rw [stepOps, unsubscribeRsrcOps, hentered]
        rfl
      rw [hstep, ← List.append_assoc]
      have hsame : heard.mStatePtr = m.mStatePtr := rfl
      rw [dispatchOps, hsame]
      cases hat : m.mStatePtr with
      | released => exact absurd hat hstate
      | pending | acquired =>
          change statusAfter data.ref (_ ++ (_ ++ _)) .absent = none
          rw [← List.append_assoc]
          exact statusAfter_append_eq_none hmisused
      | releasing => exact hmisused

end AgpsStateMachine

namespace MachineMemory

/-- Of a machine that begins with nobody, the runs that keep the objects are those in
which whoever leaves at once is alone. -/
theorem keepsObjects_iff_of_inv {initial : AgpsStateMachine} (hinv : initial.Inv)
    (hempty : initial.mSubscribers = []) (calls : List Call) :
    (system initial).Throughout KeepsObjects ⟨initial, []⟩ calls ↔
      (system initial).Guarded Alone ⟨initial, []⟩ calls := by
  refine Transition.System.throughout_iff_guarded
    (fun s => s.machine.Inv ∧ s.machine.Tracked s.ops) (fun s h => h.2.keepsObjects) ?_ ?_ ?_ calls
  · rintro s call next ⟨hmachine, htracked⟩ halone hnext
    obtain rfl : s.step call = next := Option.some.inj hnext
    exact ⟨AgpsStateMachine.inv_step hmachine call,
      AgpsStateMachine.tracked_step htracked hmachine.listed call halone⟩
  · rintro s call ⟨hmachine, htracked⟩ hnot
    refine ⟨s.step call, rfl, fun hkeeps => ?_⟩
    obtain ⟨addr, hmisused⟩ := AgpsStateMachine.misused_step htracked hmachine.listed hnot
    exact hkeeps.wellUsed addr hmisused
  · refine ⟨hinv, ?_⟩
    rw [AgpsStateMachine.Tracked, hempty]
    exact Tracks.init

theorem keepsObjects_iff (servType : Servicer) (type : AGpsExtType) (single : Bool)
    (calls : List Call) :
    let initial := agpsStateMachine servType type single
    (system initial).Throughout KeepsObjects ⟨initial, []⟩ calls ↔
      (system initial).Guarded Alone ⟨initial, []⟩ calls :=
  keepsObjects_iff_of_inv (AgpsStateMachine.inv_constructed servType type single) rfl calls

/-- Two connections are requested, and the second one is closed. -/
theorem not_keepsObjects_two_connections :
    ¬ (system (agpsStateMachine .agps 1 false)).Throughout KeepsObjects
      ⟨agpsStateMachine .agps 1 false, []⟩
      [.subscribeRsrc (.atl 1 false (.replicate 16 0)),
        .subscribeRsrc (.atl 2 false (.replicate 16 0)),
        .unsubscribeRsrc (.atl 2 false (.replicate 16 0))] := by
  refine Transition.System.not_throughout_of_any
    (fun s => statusAfter (.clone 3) s.ops .absent = none) ?_ (by decide)
  intro s hs hkeeps
  exact hkeeps.wellUsed 3 (of_decide_eq_true hs)

end MachineMemory

end Serrano.Agps
