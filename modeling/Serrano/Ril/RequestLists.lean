import Serrano.Ril.RequestInfo

/-! # What the pending lists hold

Each list in memory is a path through the addresses of the open requests of its
slot, so a token that is found is the one of an open request, and any other token
is not found. Linking in, marking and linking out keep it so.
-/

namespace Serrano.Ril

/-- A request that was added and not completed since. -/
structure OpenRequest where
  pRI : Nat
  serial : Int
  slotId : Nat
  request : Int
  acked : Bool

namespace OpenRequest

def update (opened : List OpenRequest) : RequestEvent → List OpenRequest
  | .added pRI serial slotId request => ⟨pRI, serial, slotId, request, false⟩ :: opened
  | .ack t => opened.map fun r => if t = some r.pRI then { r with acked := true } else r
  | .complete t => opened.filter fun r => t ≠ some r.pRI
  | .refused .. | .acknowledgeRequest .. | .response .. | .freed _ => opened

/-- The addresses on one slot, the newest first. -/
def on (opened : List OpenRequest) (slotId : Nat) : List Nat :=
  (opened.filter fun r => r.slotId = slotId).map pRI

/-- What memory holds of an open request. -/
structure Describes (r : OpenRequest) (info : RequestInfo) : Prop where
  token : info.token = r.serial
  pCI : info.pCI = r.request
  cancelled : info.cancelled = 0
  isLocal : info.local = 0
  socket_id : info.socket_id = r.slotId
  wasAckSent : info.wasAckSent = r.acked

end OpenRequest

namespace Requests

variable {k : Platform} {s : Requests} {opened : List OpenRequest}

/-- The lists in memory hold what is open. -/
structure Lists (k : Platform) (s : Requests) (opened : List OpenRequest) : Prop where
  path : ∀ slotId < k.simCount, SinglyLinked.Path s.next
    (s.pendingRequests (pendingHook k.simCount slotId)) (OpenRequest.on opened slotId) none
  info : ∀ r ∈ opened, ∃ info, s.memory r.pRI = some info ∧ r.Describes info
  slot : ∀ r ∈ opened, r.slotId < k.simCount
  nodup : (opened.map OpenRequest.pRI).Nodup
  used : ∀ r ∈ opened, r.pRI ∈ s.used
  fits : opened.length ≤ s.used.length

theorem pendingHook_inj (k : Platform) {first second : Nat} (hfirst : first < k.simCount)
    (hsecond : second < k.simCount)
    (hhook : pendingHook k.simCount first = pendingHook k.simCount second) : first = second := by
  have hle := k.le_four
  simp only [pendingHook] at hhook
  split_ifs at hhook <;> omega

theorem exists_slot (k : Platform) (socket_id : Nat) :
    ∃ slotId < k.simCount, pendingHook k.simCount socket_id = pendingHook k.simCount slotId := by
  by_cases hslot : socket_id < k.simCount
  · exact ⟨socket_id, hslot, rfl⟩
  · refine ⟨0, k.one_le, ?_⟩
    rw [pendingHook, if_neg (by omega), if_neg (by omega), if_neg (by omega)]
    simp [pendingHook]

namespace Lists

theorem mem_on {r : OpenRequest} (hr : r ∈ opened) : r.pRI ∈ OpenRequest.on opened r.slotId :=
  List.mem_map_of_mem (List.mem_filter.mpr ⟨hr, by simp⟩)

theorem of_mem_on {pRI slotId : Nat} (hmem : pRI ∈ OpenRequest.on opened slotId) :
    ∃ r ∈ opened, r.pRI = pRI ∧ r.slotId = slotId := by
  obtain ⟨r, hr, rfl⟩ := List.mem_map.mp hmem
  obtain ⟨hopen, hslot⟩ := List.mem_filter.mp hr
  exact ⟨r, hopen, rfl, by simpa using hslot⟩

theorem on_nodup (hs : s.Lists k opened) (slotId : Nat) :
    (OpenRequest.on opened slotId).Nodup :=
  hs.nodup.sublist (List.filter_sublist.map _)

theorem on_length (hs : s.Lists k opened) (slotId : Nat) :
    (OpenRequest.on opened slotId).length ≤ s.used.length := by
  rw [OpenRequest.on, List.length_map]
  exact Nat.le_trans (List.length_filter_le _ _) hs.fits

theorem allocated (hs : s.Lists k opened) {pRI slotId : Nat}
    (hmem : pRI ∈ OpenRequest.on opened slotId) : ∃ info, s.memory pRI = some info := by
  obtain ⟨r, hr, rfl, -⟩ := of_mem_on hmem
  obtain ⟨info, hinfo, -⟩ := hs.info r hr
  exact ⟨info, hinfo⟩

/-- An address is open on one slot only. -/
theorem slot_unique (hs : s.Lists k opened) {pRI first second : Nat}
    (hfirst : pRI ∈ OpenRequest.on opened first) (hsecond : pRI ∈ OpenRequest.on opened second) :
    first = second := by
  obtain ⟨r, hr, hpRI, rfl⟩ := of_mem_on hfirst
  obtain ⟨r', hr', hpRI', rfl⟩ := of_mem_on hsecond
  rw [List.inj_on_of_nodup_map hs.nodup hr hr' (hpRI.trans hpRI'.symm)]

end Lists

/-- The pointer that leads to what follows these cells. -/
def behind (ppCur : PPCur) : List Nat → PPCur
  | [] => ppCur
  | cell :: rest => behind (.p_next cell) rest

theorem behind_concat (ppCur : PPCur) (cells : List Nat) (last : Nat) :
    behind ppCur (cells ++ [last]) = .p_next last := by
  induction cells generalizing ppCur with
  | nil => rfl
  | cons cell rest ih => exact ih (.p_next cell)

section Loop

variable {pRI : Nat} {fuel : Nat} {ppCur : PPCur} {start : Option Nat}

theorem load_p_next {cell : Nat} {info : RequestInfo} (hinfo : s.memory cell = some info) :
    s.load (.p_next cell) = some (s.next cell) := by
  simp [load, next, hinfo]

/-- The loop goes past the cells of others. -/
theorem dequeueLoop_skip (isAck : Bool) {first second : List Nat}
    (hpath : SinglyLinked.Path s.next start (first ++ second) none)
    (hload : s.load ppCur = some start)
    (hcells : ∀ cell ∈ first, ∃ info, s.memory cell = some info)
    (hfuel : first.length ≤ fuel) (hother : pRI ∉ first) :
    ∃ middle, SinglyLinked.Path s.next middle second none ∧
      s.load (behind ppCur first) = some middle ∧
      s.dequeueLoop pRI isAck fuel ppCur =
        s.dequeueLoop pRI isAck (fuel - first.length) (behind ppCur first) := by
  induction first generalizing fuel ppCur start with
  | nil => exact ⟨start, hpath, hload, rfl⟩
  | cons cell rest ih =>
      obtain ⟨rfl, hrest⟩ := hpath
      obtain ⟨info, hinfo⟩ := hcells cell List.mem_cons_self
      rw [List.mem_cons, not_or] at hother
      obtain ⟨hne, hother⟩ := hother
      cases fuel with
      | zero => simp at hfuel
      | succ fuel =>
          obtain ⟨middle, hmiddle, hbehind, hloop⟩ := ih hrest (load_p_next hinfo)
            (fun c hc => hcells c (List.mem_cons_of_mem _ hc)) (by simpa using hfuel) hother
          refine ⟨middle, hmiddle, hbehind, ?_⟩
          rw [dequeueLoop, hload, Option.bind_some]
          simpa only [if_neg hne, List.length_cons, Nat.add_sub_add_right, behind] using hloop

theorem dequeueLoop_absent (isAck : Bool) {cells : List Nat}
    (hpath : SinglyLinked.Path s.next start cells none)
    (hload : s.load ppCur = some start)
    (hcells : ∀ cell ∈ cells, ∃ info, s.memory cell = some info)
    (hfuel : cells.length ≤ fuel) (hother : pRI ∉ cells) :
    s.dequeueLoop pRI isAck fuel ppCur = some (false, s) := by
  obtain ⟨middle, hmiddle, hbehind, hloop⟩ := dequeueLoop_skip isAck
    (by rwa [List.append_nil]) hload hcells hfuel hother
  obtain rfl : middle = none := hmiddle
  rw [hloop]
  cases fuel - cells.length with
  | zero =>
      rw [dequeueLoop, hbehind, Option.bind_some]
      rfl
  | succ rest => rw [dequeueLoop, hbehind, Option.bind_some]

theorem dequeueLoop_found (isAck : Bool) {first second : List Nat}
    (hpath : SinglyLinked.Path s.next start (first ++ pRI :: second) none)
    (hload : s.load ppCur = some start)
    (hcells : ∀ cell ∈ first, ∃ info, s.memory cell = some info)
    (hfuel : (first ++ pRI :: second).length ≤ fuel) (hother : pRI ∉ first) :
    s.dequeueLoop pRI isAck fuel ppCur =
      (s.found (behind ppCur first) pRI isAck).map (true, ·) := by
  rw [List.length_append, List.length_cons] at hfuel
  have hfirst : first.length ≤ fuel := by omega
  obtain ⟨middle, hmiddle, hbehind, hloop⟩ := dequeueLoop_skip isAck hpath hload hcells hfirst hother
  obtain ⟨rfl, -⟩ := hmiddle
  obtain ⟨rest, hrest⟩ : ∃ rest, fuel - first.length = rest + 1 :=
    ⟨fuel - first.length - 1, by omega⟩
  rw [hloop, hrest, dequeueLoop, hbehind, Option.bind_some]
  exact if_pos rfl

end Loop

/-- The search for nobody's request changes nothing, whichever list it goes through. -/
theorem dequeueIfAck_absent (hs : s.Lists k opened) {pRI : Nat}
    (habsent : ∀ r ∈ opened, r.pRI ≠ pRI) (socket_id : Nat) (isAck : Bool) :
    s.dequeueIfAck k pRI socket_id isAck = some (none, s) := by
  obtain ⟨slotId, hslot, hhook⟩ := exists_slot k socket_id
  have hother : pRI ∉ OpenRequest.on opened slotId := by
    intro hmem
    obtain ⟨r, hr, heq, -⟩ := Lists.of_mem_on hmem
    exact habsent r hr heq
  rw [dequeueIfAck, hhook, dequeueLoop_absent isAck (hs.path slotId hslot) rfl
    (fun _ => hs.allocated) (hs.on_length slotId) hother]
  rfl

/-- The search for an open request in its list finds it. -/
theorem dequeueIfAck_open (hs : s.Lists k opened) {r : OpenRequest} (hr : r ∈ opened)
    {socket_id : Nat}
    (hhook : pendingHook k.simCount socket_id = pendingHook k.simCount r.slotId) (isAck : Bool) :
    ∃ first second, OpenRequest.on opened r.slotId = first ++ r.pRI :: second ∧
      s.dequeueIfAck k r.pRI socket_id isAck =
        (s.found (behind (.hook (pendingHook k.simCount r.slotId)) first) r.pRI isAck).map
          (some r.pRI, ·) := by
  obtain ⟨first, second, hsplit⟩ := List.append_of_mem (Lists.mem_on hr)
  refine ⟨first, second, hsplit, ?_⟩
  have hother : r.pRI ∉ first := by
    have hnodup := hs.on_nodup r.slotId
    rw [hsplit, List.nodup_append] at hnodup
    exact fun hmem => hnodup.2.2 _ hmem _ List.mem_cons_self rfl
  have hcells : ∀ cell ∈ first, ∃ info, s.memory cell = some info := by
    intro cell hcell
    have hmem : cell ∈ OpenRequest.on opened r.slotId :=
      hsplit ▸ List.mem_append_left _ hcell
    exact hs.allocated hmem
  have hload : s.load (.hook (pendingHook k.simCount r.slotId)) =
      some (s.pendingRequests (pendingHook k.simCount r.slotId)) := rfl
  have hloop := dequeueLoop_found isAck (hsplit ▸ hs.path r.slotId (hs.slot r hr)) hload hcells
    (hsplit ▸ hs.on_length r.slotId) hother
  rw [dequeueIfAck, hhook, hloop]
  cases s.found _ r.pRI isAck with
  | none => rfl
  | some found => rfl

theorem next_congr {s' : Requests} {cell : Nat} (hmemory : s'.memory cell = s.memory cell) :
    s'.next cell = s.next cell := by
  rw [next, next, hmemory]

theorem withRequest_memory_of_ne {pRI cell : Nat} (change : RequestInfo → RequestInfo)
    (hne : cell ≠ pRI) : (s.withRequest pRI change).memory cell = s.memory cell :=
  Function.update_of_ne hne _ _

theorem withRequest_memory_self (pRI : Nat) (change : RequestInfo → RequestInfo) :
    (s.withRequest pRI change).memory pRI = (s.memory pRI).map change :=
  Function.update_self _ _ _

theorem next_withRequest {pRI : Nat} {info : RequestInfo} (hinfo : s.memory pRI = some info)
    (value : Option Nat) :
    (s.withRequest pRI fun info => { info with p_next := value }).next =
      Function.update s.next pRI value := by
  funext cell
  by_cases heq : cell = pRI
  · subst heq
    rw [next, withRequest_memory_self, hinfo, Function.update_self]
    rfl
  · rw [Function.update_of_ne heq]
    exact next_congr (withRequest_memory_of_ne _ heq)

@[simp] theorem store_used (s : Requests) (ppCur : PPCur) (value : Option Nat) :
    (s.store ppCur value).used = s.used := by
  cases ppCur <;> rfl

@[simp] theorem store_history (s : Requests) (ppCur : PPCur) (value : Option Nat) :
    (s.store ppCur value).history = s.history := by
  cases ppCur <;> rfl

/-- A store into a list changes at most a link of a request. -/
theorem store_memory (ppCur : PPCur) (value : Option Nat) {pRI : Nat} {info : RequestInfo}
    (hinfo : s.memory pRI = some info) :
    ∃ info', (s.store ppCur value).memory pRI = some info' ∧
      ∀ r : OpenRequest, r.Describes info → r.Describes info' := by
  cases ppCur with
  | hook hook => exact ⟨info, hinfo, fun _ hdescribes => hdescribes⟩
  | p_next cell =>
      by_cases heq : pRI = cell
      · subst heq
        refine ⟨{ info with p_next := value }, ?_, fun r hdescribes => { hdescribes with }⟩
        rw [store, withRequest_memory_self, hinfo]
        rfl
      · exact ⟨info, (withRequest_memory_of_ne _ heq).trans hinfo, fun _ hdescribes => hdescribes⟩

namespace Lists

theorem record (hs : s.Lists k opened) (events : List RequestEvent) :
    (s.record events).Lists k opened :=
  ⟨hs.path, hs.info, hs.slot, hs.nodup, hs.used, hs.fits⟩

theorem used_of_mem_on (hs : s.Lists k opened) {pRI slotId : Nat}
    (hmem : pRI ∈ OpenRequest.on opened slotId) : pRI ∈ s.used := by
  obtain ⟨r, hr, rfl, -⟩ := of_mem_on hmem
  exact hs.used r hr

theorem path_congr (hs : s.Lists k opened) {slotId : Nat} (hslot : slotId < k.simCount)
    (s' : Requests)
    (hmemory : ∀ cell ∈ OpenRequest.on opened slotId, s'.memory cell = s.memory cell) :
    SinglyLinked.Path s'.next (s.pendingRequests (pendingHook k.simCount slotId))
      (OpenRequest.on opened slotId) none :=
  (hs.path slotId hslot).congr fun cell hcell => next_congr (hmemory cell hcell)

/-- A new request is linked in at the head of the list of its slot. -/
theorem added (hs : s.Lists k opened) {pRI slotId : Nat} {serial request : Int}
    (hnew : pRI ∉ s.used) (hslot : slotId < k.simCount) {info : RequestInfo}
    (hdescribes : OpenRequest.Describes ⟨pRI, serial, slotId, request, false⟩ info)
    (hnext : info.p_next = s.pendingRequests (pendingHook k.simCount slotId)) :
    Lists k { s with
        memory := Function.update s.memory pRI (some info)
        used := pRI :: s.used
        pendingRequests :=
          Function.update s.pendingRequests (pendingHook k.simCount slotId) (some pRI) }
      (⟨pRI, serial, slotId, request, false⟩ :: opened) where
  path other hother := by
    have hcells : ∀ cell ∈ OpenRequest.on opened other, cell ≠ pRI := by
      rintro cell hcell rfl
      exact hnew (hs.used_of_mem_on hcell)
    have hrest := hs.path_congr hother
    by_cases heq : slotId = other
    · subst heq
      simp only [OpenRequest.on, List.filter_cons, decide_true, if_true, List.map_cons,
        Function.update_self]
      refine ⟨rfl, ?_⟩
      simp only [next, Function.update_self, Option.bind_some, hnext]
      exact hrest _ fun cell hcell => Function.update_of_ne (hcells cell hcell) _ _
    · have hhook : pendingHook k.simCount other ≠ pendingHook k.simCount slotId :=
        fun hsame => heq (pendingHook_inj k hother hslot hsame).symm
      simp only [OpenRequest.on, List.filter_cons, heq, decide_false, Bool.false_eq_true, if_false]
      rw [Function.update_of_ne hhook]
      exact hrest _ fun cell hcell => Function.update_of_ne (hcells cell hcell) _ _
  info r hr := by
    rcases List.mem_cons.mp hr with rfl | hr
    · exact ⟨info, Function.update_self _ _ _, hdescribes⟩
    · obtain ⟨old, hold, hdescribes⟩ := hs.info r hr
      have hne : r.pRI ≠ pRI := fun heq => hnew (heq ▸ hs.used r hr)
      exact ⟨old, (Function.update_of_ne hne _ _).trans hold, hdescribes⟩
  slot r hr := by
    rcases List.mem_cons.mp hr with rfl | hr
    · exact hslot
    · exact hs.slot r hr
  nodup := by
    refine List.nodup_cons.mpr ⟨fun hmem => ?_, hs.nodup⟩
    obtain ⟨r, hr, rfl⟩ := List.mem_map.mp hmem
    exact hnew (hs.used r hr)
  used r hr := by
    rcases List.mem_cons.mp hr with rfl | hr
    · exact List.mem_cons_self
    · exact List.mem_cons_of_mem _ (hs.used r hr)
  fits := Nat.succ_le_succ hs.fits

/-- The mark of an acknowledgement leaves the links alone. -/
theorem acked (hs : s.Lists k opened) (pRI : Nat) :
    Lists k (s.withRequest pRI fun info => { info with wasAckSent := true })
      (opened.map fun r => if some pRI = some r.pRI then { r with acked := true } else r) := by
  have hon : ∀ slotId, OpenRequest.on
      (opened.map fun r => if some pRI = some r.pRI then { r with acked := true } else r) slotId =
      OpenRequest.on opened slotId := by
    intro slotId
    rw [OpenRequest.on, List.filter_map, List.map_map, OpenRequest.on]
    congr 1
    · funext r
      simp only [Function.comp_apply]
      split_ifs <;> rfl
    · congr 1
      funext r
      simp only [Function.comp_apply]
      split_ifs <;> rfl
  have hnext : (s.withRequest pRI fun info => { info with wasAckSent := true }).next = s.next := by
    funext cell
    by_cases heq : cell = pRI
    · subst heq
      rw [next, withRequest_memory_self, next]
      cases s.memory cell with
      | none => rfl
      | some info => rfl
    · exact next_congr (withRequest_memory_of_ne _ heq)
  refine ⟨fun slotId hslot => ?_, fun r hr => ?_, fun r hr => ?_, ?_, fun r hr => ?_, ?_⟩
  · rw [hon, hnext]
    exact hs.path slotId hslot
  · obtain ⟨old, hold, rfl⟩ := List.mem_map.mp hr
    obtain ⟨info, hinfo, hdescribes⟩ := hs.info old hold
    by_cases heq : pRI = old.pRI
    · subst heq
      rw [if_pos rfl, withRequest_memory_self, hinfo]
      exact ⟨_, rfl, { hdescribes with wasAckSent := rfl }⟩
    · rw [if_neg fun hsome => heq (Option.some.inj hsome)]
      exact ⟨info, (withRequest_memory_of_ne _ (Ne.symm heq)).trans hinfo, hdescribes⟩
  · obtain ⟨old, hold, rfl⟩ := List.mem_map.mp hr
    split_ifs <;> exact hs.slot old hold
  · rw [List.map_map]
    convert hs.nodup using 2
    funext r
    simp only [Function.comp_apply]
    split_ifs <;> rfl
  · obtain ⟨old, hold, rfl⟩ := List.mem_map.mp hr
    split_ifs <;> exact hs.used old hold
  · rw [List.length_map]
    exact hs.fits

theorem on_completed (opened : List OpenRequest) (pRI slotId : Nat) :
    OpenRequest.on (opened.filter fun r => some pRI ≠ some r.pRI) slotId =
      (OpenRequest.on opened slotId).filter fun cell => pRI ≠ cell := by
  simp only [OpenRequest.on, List.filter_map, List.filter_filter]
  congr 1
  refine List.filter_congr fun r _ => ?_
  simp [Bool.and_comm]

theorem path_completed (hs : s.Lists k opened) {r : OpenRequest} (hr : r ∈ opened)
    {first second : List Nat}
    (hsplit : OpenRequest.on opened r.slotId = first ++ r.pRI :: second) {slotId : Nat}
    (hslot : slotId < k.simCount) :
    let s' := s.store (behind (.hook (pendingHook k.simCount r.slotId)) first) (s.next r.pRI)
    SinglyLinked.Path s'.next (s'.pendingRequests (pendingHook k.simCount slotId))
      ((OpenRequest.on opened slotId).filter fun cell => r.pRI ≠ cell) none := by
  intro s'
  have hnodup := hs.on_nodup r.slotId
  rw [hsplit] at hnodup
  by_cases heq : slotId = r.slotId
  · have hpath := hs.path slotId hslot
    rw [heq, hsplit] at hpath ⊢
    have hrest : (first ++ r.pRI :: second).filter (fun cell => r.pRI ≠ cell) =
        first ++ second := by
      have hnot : r.pRI ∉ first ++ second :=
        (List.nodup_cons.mp (List.perm_middle.nodup_iff.mp hnodup)).1
      rw [List.mem_append, not_or] at hnot
      rw [List.filter_append, List.filter_cons_of_neg (by simp),
        List.filter_eq_self.mpr, List.filter_eq_self.mpr]
      · intro cell hcell
        simpa using fun hsame : r.pRI = cell => hnot.2 (hsame ▸ hcell)
      · intro cell hcell
        simpa using fun hsame : r.pRI = cell => hnot.1 (hsame ▸ hcell)
    rw [hrest]
    cases List.eq_nil_or_concat first with
    | inl hnil =>
        -- the first one: the variable of the list takes over its pointer
        subst hnil
        simp only [s', behind, store, Function.update_self, List.nil_append]
        exact hpath.2
    | inr hconcat =>
        obtain ⟨init, last, rfl⟩ := hconcat
        rw [List.concat_eq_append] at hsplit hnodup hpath ⊢
        have hlast : last ∈ OpenRequest.on opened r.slotId := by simp [hsplit]
        obtain ⟨info, hinfo⟩ := hs.allocated hlast
        have hnext : s'.next = Function.update s.next last (s.next r.pRI) := by
          simp only [s', List.concat_eq_append, behind_concat, store]
          exact next_withRequest hinfo _
        have hheads : s'.pendingRequests = s.pendingRequests := by
          simp only [s', List.concat_eq_append, behind_concat, store]
          rfl
        rw [hnext, hheads]
        simpa using SinglyLinked.Path.bypass (by simpa using hpath) (by simpa using hnodup)
  · have hrest : (OpenRequest.on opened slotId).filter (fun cell => r.pRI ≠ cell) =
        OpenRequest.on opened slotId := by
      refine List.filter_eq_self.mpr fun cell hcell => ?_
      simpa using fun hsame : r.pRI = cell =>
        heq (hs.slot_unique (hsame ▸ hcell) (mem_on hr))
    rw [hrest]
    cases List.eq_nil_or_concat first with
    | inl hnil =>
        subst hnil
        have hhook : pendingHook k.simCount slotId ≠ pendingHook k.simCount r.slotId :=
          fun hsame => heq (pendingHook_inj k hslot (hs.slot r hr) hsame)
        simp only [s', behind, store, Function.update_of_ne hhook]
        exact hs.path_congr hslot _ fun _ _ => rfl
    | inr hconcat =>
        obtain ⟨init, last, rfl⟩ := hconcat
        have hlast : last ∈ OpenRequest.on opened r.slotId := by simp [hsplit]
        simp only [s', List.concat_eq_append, behind_concat, store]
        refine hs.path_congr hslot _ fun cell hcell => withRequest_memory_of_ne _ ?_
        rintro rfl
        exact heq (hs.slot_unique hcell hlast)

/-- A completed request is linked out. -/
theorem completed (hs : s.Lists k opened) {r : OpenRequest} (hr : r ∈ opened)
    {first second : List Nat}
    (hsplit : OpenRequest.on opened r.slotId = first ++ r.pRI :: second) :
    Lists k (s.store (behind (.hook (pendingHook k.simCount r.slotId)) first) (s.next r.pRI))
      (opened.filter fun other => some r.pRI ≠ some other.pRI) where
  path slotId hslot := by
    rw [on_completed]
    exact hs.path_completed hr hsplit hslot
  info other hother := by
    obtain ⟨info, hinfo, hdescribes⟩ := hs.info other (List.mem_of_mem_filter hother)
    obtain ⟨info', hinfo', hsame⟩ := store_memory
      (behind (.hook (pendingHook k.simCount r.slotId)) first) (s.next r.pRI) hinfo
    exact ⟨info', hinfo', hsame other hdescribes⟩
  slot other hother := hs.slot other (List.mem_of_mem_filter hother)
  nodup := hs.nodup.sublist (List.filter_sublist.map _)
  used other hother := by
    rw [store_used]
    exact hs.used other (List.mem_of_mem_filter hother)
  fits := by
    rw [store_used]
    exact Nat.le_trans (List.length_filter_le _ _) hs.fits

/-- Freeing a request that is not in a list. -/
theorem freed (hs : s.Lists k opened) {pRI : Nat} (hother : ∀ r ∈ opened, r.pRI ≠ pRI) :
    (s.free pRI).Lists k opened where
  path slotId hslot := by
    refine hs.path_congr hslot (s.free pRI) fun cell hcell => ?_
    obtain ⟨r, hr, rfl, -⟩ := of_mem_on hcell
    exact Function.update_of_ne (hother r hr) _ _
  info r hr := by
    obtain ⟨info, hinfo, hdescribes⟩ := hs.info r hr
    exact ⟨info, (Function.update_of_ne (hother r hr) _ _).trans hinfo, hdescribes⟩
  slot := hs.slot
  nodup := hs.nodup
  used := hs.used
  fits := hs.fits

end Lists

/-- The list step of an acknowledgement marks an open request. -/
theorem dequeueIfAck_acked (hs : s.Lists k opened) {r : OpenRequest} (hr : r ∈ opened)
    {socket_id : Nat}
    (hhook : pendingHook k.simCount socket_id = pendingHook k.simCount r.slotId) :
    s.dequeueIfAck k r.pRI socket_id true =
      some (some r.pRI, s.withRequest r.pRI fun info => { info with wasAckSent := true }) := by
  obtain ⟨first, second, -, hfound⟩ := dequeueIfAck_open hs hr hhook true
  obtain ⟨info, hinfo, -⟩ := hs.info r hr
  rw [hfound, found, hinfo]
  rfl

/-- The list step of a completion links an open request out and leaves it in
memory. -/
theorem dequeueIfAck_completed (hs : s.Lists k opened) {r : OpenRequest} (hr : r ∈ opened)
    {socket_id : Nat}
    (hhook : pendingHook k.simCount socket_id = pendingHook k.simCount r.slotId) :
    ∃ s' info, s.dequeueIfAck k r.pRI socket_id false = some (some r.pRI, s') ∧
      s'.Lists k (opened.filter fun other => some r.pRI ≠ some other.pRI) ∧
      s'.memory r.pRI = some info ∧ r.Describes info ∧
      s'.history = s.history ∧ s'.used = s.used := by
  obtain ⟨first, second, hsplit, hfound⟩ := dequeueIfAck_open hs hr hhook false
  obtain ⟨info, hinfo, hdescribes⟩ := hs.info r hr
  have hnext : s.next r.pRI = info.p_next := by
    rw [next, hinfo, Option.bind_some]
  obtain ⟨info', hinfo', hsame⟩ := store_memory
    (behind (.hook (pendingHook k.simCount r.slotId)) first) info.p_next hinfo
  refine ⟨_, info', ?_, hnext ▸ hs.completed hr hsplit, hinfo', hsame r hdescribes,
    store_history _ _ _, store_used _ _ _⟩
  rw [hfound, found, hinfo]
  rfl

end Requests

end Serrano.Ril
