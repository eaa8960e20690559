import Serrano.Ril.SapQueue

/-! # Which request a completion takes out

The queue in memory is a path through what is outstanding. A completion takes out
the newest request that has the message id and the token of the completed one, which
is another one when the library completes two such requests in the order they came.
-/

namespace Serrano.Ril.SapQueue

/-- What the steps keep as long as requests are completed in turn. -/
structure Kept (s : SapQueue) : Prop where
  path : SinglyLinked.Path s.next s.front s.outstanding none
  entries : ∀ request ∈ s.outstanding, ∃ entry header, s.requests request = some entry ∧
    s.headers entry.curr = some header ∧ entry.token = header.token
  requests : ∀ address, s.requests address ≠ none → address ∈ s.outstanding
  headers : ∀ address, s.headers address ≠ none →
    ∃ request ∈ s.outstanding, (s.requests request).map SapSocketRequest.curr = some address
  nodup : s.outstanding.Nodup
  own : (s.outstanding.map fun request => (s.requests request).map SapSocketRequest.curr).Nodup
  fits : s.outstanding.length ≤ s.dispatched

variable {s s' : SapQueue}

theorem kept_initial : initial.Kept where
  path := rfl
  entries _ hmem := absurd hmem List.not_mem_nil
  requests _ hne := absurd rfl hne
  headers _ hne := absurd rfl hne
  nodup := List.nodup_nil
  own := List.nodup_nil
  fits := Nat.le_refl _

/-- The test of the loop compares keys. -/
theorem isFound_eq (hs : s.Kept) {request other : Nat} (hrequest : request ∈ s.outstanding)
    (hother : other ∈ s.outstanding) {entry : SapSocketRequest} {hdr : MsgHeader}
    (hentry : s.requests request = some entry) (hhdr : s.headers entry.curr = some hdr) :
    s.isFound hdr.id hdr.token other = some (decide (s.key other = s.key request)) := by
  obtain ⟨entry', hdr', hentry', hhdr', htoken⟩ := hs.entries request hrequest
  obtain rfl : entry = entry' := Option.some.inj (hentry.symm.trans hentry')
  obtain rfl : hdr = hdr' := Option.some.inj (hhdr.symm.trans hhdr')
  obtain ⟨found, header, hfound, hheader, -⟩ := hs.entries other hother
  simp only [isFound, key, hfound, hheader, hentry, hhdr, Option.bind_some, Option.map_some,
    Option.some.injEq, Prod.mk.injEq, htoken]
  by_cases hsame : hdr.token = found.token
  · simp [hsame, eq_comm]
  · simp [hsame, Ne.symm hsame]

/-- A completion takes out the newest request with the key of the completed one. -/
theorem onRequestComplete_eq (hs : s.Kept) {t found : Nat} (ht : t ∈ s.outstanding)
    {first second : List Nat} (hsplit : s.outstanding = first ++ found :: second)
    (hfirst : ∀ other ∈ first, s.key other ≠ s.key t) (hfound : s.key found = s.key t) :
    ∃ entry hdr, s.requests t = some entry ∧ s.headers entry.curr = some hdr ∧
      s.onRequestComplete t = some { ((s.bypass first.getLast? found).withRequest found
        none).withHeader entry.curr none with outstanding := s.outstanding.erase t } := by
  obtain ⟨entry, hdr, hentry, hhdr, -⟩ := hs.entries t ht
  refine ⟨entry, hdr, hentry, hhdr, ?_⟩
  have hsearch : SinglyLinked.search s.next (s.isFound hdr.id hdr.token) s.dispatched none
      s.front = some (some (first.getLast?, found)) := by
    have hpath := hsplit ▸ hs.path
    have hlength : first.length < s.dispatched := by
      have hfits := hs.fits
      rw [hsplit, List.length_append, List.length_cons] at hfits
      omega
    have hskips : ∀ other ∈ first, s.isFound hdr.id hdr.token other = some false := by
      intro other hother
      rw [isFound_eq hs ht (hsplit ▸ List.mem_append_left _ hother) hentry hhdr]
      simp [hfirst other hother]
    have hstops : s.isFound hdr.id hdr.token found = some true := by
      have hmem : found ∈ s.outstanding := hsplit ▸ List.mem_append_right _ List.mem_cons_self
      rw [isFound_eq hs ht hmem hentry hhdr]
      simp [hfound]
    rw [SinglyLinked.search_eq hpath hskips hstops hlength, Option.or_none]
  have houtstanding : ((s.bypass first.getLast? found).withRequest found none).outstanding =
      s.outstanding := by
    cases first.getLast? <;> rfl
  simp only [onRequestComplete, hentry, hhdr, Option.bind_some, checkAndDequeue, hsearch,
    Option.map_some, houtstanding]

/-- The newest request with the key of an outstanding one. -/
theorem exists_found {t : Nat} (ht : t ∈ s.outstanding) :
    ∃ found first second, s.outstanding.find? (fun request => s.key request = s.key t) =
        some found ∧ s.outstanding = first ++ found :: second ∧
      (∀ other ∈ first, s.key other ≠ s.key t) ∧ s.key found = s.key t := by
  have hsome : (s.outstanding.find? fun request => s.key request = s.key t).isSome = true :=
    List.find?_isSome.mpr ⟨t, ht, by simp⟩
  obtain ⟨found, hfound⟩ := Option.isSome_iff_exists.mp hsome
  obtain ⟨hkey, first, second, hsplit, hfirst⟩ := List.find?_eq_some_iff_append.mp hfound
  exact ⟨found, first, second, hfound, hsplit, fun other hother => by simpa using hfirst other hother,
    by simpa using hkey⟩

theorem Kept.accounted (hs : s.Kept) : s.Accounted where
  queue := hs.path.walk_eq hs.fits
  requests address := by
    refine ⟨hs.requests address, fun hmem => ?_⟩
    obtain ⟨entry, -, hentry, -⟩ := hs.entries address hmem
    exact Option.ne_none_iff_exists'.mpr ⟨entry, hentry⟩
  headers address := by
    refine ⟨hs.headers address, ?_⟩
    rintro ⟨request, hmem, hcurr⟩
    obtain ⟨entry, header, hentry, hheader, -⟩ := hs.entries request hmem
    rw [hentry] at hcurr
    rw [← Option.some.inj hcurr, hheader]
    exact Option.some_ne_none header
  own := hs.own
  completes t ht := by
    obtain ⟨found, first, second, -, hsplit, hfirst, hkey⟩ := exists_found ht
    obtain ⟨entry, hdr, -, -, heq⟩ := onRequestComplete_eq hs ht hsplit hfirst hkey
    rw [step, if_pos ht, heq]
    exact Option.some_ne_none _

theorem bypass_requests (s : SapQueue) (before : Option Nat) (temp address : Nat) :
    (s.bypass before temp).requests address = (s.requests address).map fun entry =>
      if before = some address then { entry with p_next := s.next temp } else entry := by
  cases before with
  | none => simp [bypass]
  | some link =>
      by_cases heq : link = address
      · subst heq
        simp [bypass, withRequest]
      · simp [bypass, withRequest, heq, Function.update_of_ne (Ne.symm heq)]

@[simp] theorem bypass_headers (s : SapQueue) (before : Option Nat) (temp : Nat) :
    (s.bypass before temp).headers = s.headers := by
  cases before <;> rfl

@[simp] theorem bypass_dispatched (s : SapQueue) (before : Option Nat) (temp : Nat) :
    (s.bypass before temp).dispatched = s.dispatched := by
  cases before <;> rfl

/-- The queue without the request that was taken out. -/
theorem path_bypass (hs : s.Kept) {first second : List Nat} {temp : Nat}
    (hsplit : s.outstanding = first ++ temp :: second) :
    SinglyLinked.Path ((s.bypass first.getLast? temp).withRequest temp none).next
      ((s.bypass first.getLast? temp).withRequest temp none).front (first ++ second) none := by
  have hnodup : (first ++ temp :: second).Nodup := hsplit ▸ hs.nodup
  have hunlinked := (hsplit ▸ hs.path).unlink hnodup
  have hgone : temp ∉ first ++ second := (List.nodup_cons.mp (List.nodup_middle.mp hnodup)).1
  have hrest : ∀ cell ∈ first ++ second,
      ((s.bypass first.getLast? temp).withRequest temp none).next cell =
        (s.bypass first.getLast? temp).next cell := by
    intro cell hcell
    have hne : cell ≠ temp := fun heq => hgone (heq ▸ hcell)
    simp only [next, withRequest, Function.update_of_ne hne]
  refine SinglyLinked.Path.congr ?_ hrest
  cases hlast : first.getLast? with
  | none =>
      rw [hlast, if_pos (List.getLast?_eq_none_iff.mp hlast)] at hunlinked
      exact hunlinked
  | some before =>
      have hmem : before ∈ s.outstanding :=
        hsplit ▸ List.mem_append_left _ (List.mem_of_getLast? hlast)
      obtain ⟨entry, -, hentry, -⟩ := hs.entries before hmem
      have hnext : (s.bypass (some before) temp).next =
          Function.update s.next before (s.next temp) := by
        funext cell
        by_cases heq : cell = before
        · subst heq
          simp [next, bypass_requests, hentry]
        · simp [next, bypass_requests, Ne.symm heq, Function.update_of_ne heq]
      have hne : first ≠ [] := by
        rintro rfl
        cases hlast
      rw [hlast, if_neg hne] at hunlinked
      rw [hnext]
      exact hunlinked

/-- Only the links of the others change. -/
theorem removed_requests (s : SapQueue) (before : Option Nat) {temp request : Nat}
    (hne : request ≠ temp) :
    ((s.bypass before temp).withRequest temp none).requests request =
      (s.requests request).map fun entry =>
        if before = some request then { entry with p_next := s.next temp } else entry :=
  (Function.update_of_ne hne _ _).trans (bypass_requests ..)

theorem removed_curr (s : SapQueue) (before : Option Nat) {temp request : Nat}
    (hne : request ≠ temp) :
    (((s.bypass before temp).withRequest temp none).requests request).map SapSocketRequest.curr =
      (s.requests request).map SapSocketRequest.curr := by
  rw [removed_requests s before hne, Option.map_map]
  congr 1
  funext entry
  simp only [Function.comp_apply]
  split_ifs <;> rfl

theorem mem_rest_iff (hs : s.Kept) {first second : List Nat} {temp : Nat}
    (hsplit : s.outstanding = first ++ temp :: second) (request : Nat) :
    request ∈ first ++ second ↔ request ∈ s.outstanding ∧ request ≠ temp := by
  have hnodup : (first ++ temp :: second).Nodup := hsplit ▸ hs.nodup
  have hgone := (List.nodup_cons.mp (List.nodup_middle.mp hnodup)).1
  rw [hsplit, List.mem_append, List.mem_append, List.mem_cons]
  constructor
  · intro hmem
    refine ⟨hmem.imp_right .inr, ?_⟩
    rintro rfl
    exact hgone (List.mem_append.mpr hmem)
  · rintro ⟨hmem, hne⟩
    exact hmem.imp_right fun hright => hright.resolve_left hne

theorem erase_eq_rest (hs : s.Kept) {first second : List Nat} {temp : Nat}
    (hsplit : s.outstanding = first ++ temp :: second) :
    s.outstanding.erase temp = first ++ second := by
  have hnodup : (first ++ temp :: second).Nodup := hsplit ▸ hs.nodup
  have hgone := (List.nodup_cons.mp (List.nodup_middle.mp hnodup)).1
  rw [hsplit, List.erase_append_right _ fun hmem => hgone (List.mem_append_left _ hmem),
    List.erase_cons_head]

/-- The messages of the requests that are left. -/
theorem own_rest (hs : s.Kept) {first second : List Nat} {temp : Nat}
    (hsplit : s.outstanding = first ++ temp :: second) (before : Option Nat) :
    ((first ++ second).map fun request =>
      (((s.bypass before temp).withRequest temp none).requests request).map
        SapSocketRequest.curr).Nodup := by
  have hsublist : ((first ++ second).map fun request =>
      (s.requests request).map SapSocketRequest.curr).Nodup := by
    refine hs.own.sublist (List.Sublist.map _ ?_)
    rw [hsplit]
    exact (List.sublist_cons_self temp second).append_left first
  rwa [← List.map_congr_left fun request hmem =>
    removed_curr s before ((mem_rest_iff hs hsplit request).mp hmem).2] at hsublist

/-- A request that is completed in turn leaves the others. -/
theorem kept_complete (hs : s.Kept) {t : Nat} (ht : t ∈ s.outstanding)
    (hturn : s.InTurn (.complete t)) (hstep : s.onRequestComplete t = some s') : s'.Kept := by
  obtain ⟨found, first, second, hfind, hsplit, hfirst, hkey⟩ := exists_found ht
  obtain rfl : found = t := Option.some.inj (hfind.symm.trans (hturn ht))
  obtain ⟨entry, hdr, hentry, hhdr, heq⟩ := onRequestComplete_eq hs ht hsplit hfirst hkey
  obtain rfl := Option.some.inj (heq.symm.trans hstep)
  rw [erase_eq_rest hs hsplit]
  have hrest := mem_rest_iff hs hsplit
  refine ⟨path_bypass hs hsplit, fun request hmem => ?_, fun address hne => ?_,
    fun address hne => ?_, ?_, own_rest hs hsplit _, ?_⟩
  · obtain ⟨hopen, hne⟩ := (hrest request).mp hmem
    obtain ⟨other, header, hother, hheader, htoken⟩ := hs.entries request hopen
    refine ⟨if first.getLast? = some request then { other with p_next := s.next found } else other,
      header, (removed_requests s _ hne).trans (by rw [hother]; rfl), ?_, ?_⟩
    · -- no two requests share a message
      have hdiff : other.curr ≠ entry.curr := by
        intro hsame
        refine hne (List.inj_on_of_nodup_map hs.own hopen ht ?_)
        rw [hother, hentry, Option.map_some, Option.map_some, hsame]
      have hlinked : (if first.getLast? = some request then { other with p_next := s.next found }
          else other).curr = other.curr := by
        split_ifs <;> rfl
      rw [hlinked, ← hheader, ← bypass_headers s first.getLast? found]
      exact Function.update_of_ne hdiff _ _
    · split_ifs
      · exact htoken
      · exact htoken
  · by_cases hfound : address = found
    · subst hfound
      exact absurd (Function.update_self ..) hne
    · refine (hrest address).mpr ⟨hs.requests address fun hnone => ?_, hfound⟩
      refine hne ((removed_requests s _ hfound).trans ?_)
      rw [hnone]
      rfl
  · have haddress : address ≠ entry.curr := by
      rintro rfl
      exact hne (Function.update_self ..)
    have hbefore : s.headers address ≠ none := by
      intro hnone
      refine hne ((Function.update_of_ne haddress _ _).trans ?_)
      exact (congrFun (bypass_headers ..) address).trans hnone
    obtain ⟨request, hmem, hrequest⟩ := hs.headers address hbefore
    have hfound : request ≠ found := by
      rintro rfl
      rw [hentry] at hrequest
      exact haddress (Option.some.inj hrequest).symm
    exact ⟨request, (hrest request).mpr ⟨hmem, hfound⟩, (removed_curr s _ hfound).trans hrequest⟩
  · have hnodup : (first ++ found :: second).Nodup := hsplit ▸ hs.nodup
    exact (List.nodup_cons.mp (List.nodup_middle.mp hnodup)).2
  · have hfits := hs.fits
    rw [hsplit, List.length_append, List.length_cons] at hfits
    change (first ++ second).length ≤ (s.bypass first.getLast? found).dispatched
    rw [bypass_dispatched, List.length_append]
    omega

theorem request_eq (s : SapQueue) (id token : Int) (header address : Nat) :
    s.request id token header (some address) = some
      { requests := Function.update s.requests address (some ⟨token, header, s.front⟩)
        headers := Function.update s.headers header (some ⟨token, id⟩)
        front := some address
        dispatched := s.dispatched + 1
        outstanding := address :: s.outstanding } := by
  simp [request, dispatchRequest, enqueue, withHeader, withRequest]

/-- A new request comes to the front. -/
theorem kept_request (hs : s.Kept) {id token : Int} {header : Nat} {currRequest : Option Nat}
    (hheader : s.headers header = none)
    (hnew : ∀ address ∈ currRequest, s.requests address = none)
    (hstep : s.request id token header currRequest = some s') : s'.Kept := by
  cases currRequest with
  | none =>
      have hsame : (s.withHeader header (some ⟨token, id⟩)).withHeader header none = s := by
        simp only [withHeader, Function.update_idem]
        rw [← hheader, Function.update_eq_self]
      obtain rfl : _ = s' := Option.some.inj hstep
      rw [hsame]
      exact hs
  | some address =>
      obtain rfl := Option.some.inj ((request_eq ..).symm.trans hstep)
      have hfree := hnew address rfl
      have hold : ∀ request ∈ s.outstanding, request ≠ address := by
        rintro request hmem rfl
        obtain ⟨entry, -, hentry, -⟩ := hs.entries request hmem
        rw [hfree] at hentry
        cases hentry
      have hrequests : ∀ request ∈ s.outstanding, Function.update s.requests address
          (some ⟨token, header, s.front⟩) request = s.requests request :=
        fun request hmem => Function.update_of_ne (hold request hmem) _ _
      refine ⟨⟨rfl, ?_⟩, fun request hmem => ?_, fun other hne => ?_, fun other hne => ?_, ?_, ?_, ?_⟩
      · have hnext : ∀ cell ∈ s.outstanding, (Function.update s.requests address
            (some ⟨token, header, s.front⟩) cell).bind SapSocketRequest.p_next = s.next cell :=
          fun cell hcell => by rw [hrequests cell hcell]; rfl
        have hpath : SinglyLinked.Path (fun cell => (Function.update s.requests address
            (some ⟨token, header, s.front⟩) cell).bind SapSocketRequest.p_next)
              ((Function.update s.requests address (some ⟨token, header, s.front⟩)
                address).bind SapSocketRequest.p_next) s.outstanding none := by
          rw [Function.update_self]
          exact hs.path.congr hnext
        exact hpath
      · rcases List.mem_cons.mp hmem with rfl | hmem
        · exact ⟨_, _, Function.update_self .., Function.update_self .., rfl⟩
        · obtain ⟨entry, hdr, hentry, hhdr, htoken⟩ := hs.entries request hmem
          have hother : entry.curr ≠ header := by
            rintro rfl
            rw [hheader] at hhdr
            cases hhdr
          exact ⟨entry, hdr, (hrequests request hmem).trans hentry,
            (Function.update_of_ne hother _ _).trans hhdr, htoken⟩
      · by_cases heq : other = address
        · exact heq ▸ List.mem_cons_self
        · refine List.mem_cons_of_mem _ (hs.requests other fun hnone => hne ?_)
          exact (Function.update_of_ne heq _ _).trans hnone
      · by_cases heq : other = header
        · refine ⟨address, List.mem_cons_self, ?_⟩
          change Option.map _ (Function.update s.requests address _ address) = _
          rw [Function.update_self, heq]
          rfl
        · obtain ⟨request, hmem, hcurr⟩ := hs.headers other fun hnone =>
            hne ((Function.update_of_ne heq _ _).trans hnone)
          refine ⟨request, List.mem_cons_of_mem _ hmem, ?_⟩
          change Option.map _ (Function.update s.requests address _ request) = _
          rw [hrequests request hmem]
          exact hcurr
      · exact List.nodup_cons.mpr ⟨fun hmem => hold address hmem rfl, hs.nodup⟩
      · have hcurrs := hs.own
        rw [← List.map_congr_left fun request hmem =>
          congrArg (Option.map SapSocketRequest.curr) (hrequests request hmem)] at hcurrs
        refine List.nodup_cons.mpr ⟨fun hmem => ?_, hcurrs⟩
        obtain ⟨request, hmem, hcurr⟩ := List.mem_map.mp hmem
        obtain ⟨entry, hdr, hentry, hhdr, -⟩ := hs.entries request hmem
        change Option.map _ (Function.update s.requests address _ request) =
          Option.map _ (Function.update s.requests address _ address) at hcurr
        rw [hrequests request hmem, hentry, Function.update_self] at hcurr
        rw [Option.some.inj hcurr, hheader] at hhdr
        cases hhdr
      · exact Nat.succ_le_succ hs.fits

theorem kept_step (hs : s.Kept) {call : SapCall} (hturn : s.InTurn call)
    (hstep : s.step call = some s') : s'.Kept := by
  cases call with
  | request id token header currRequest =>
      rw [step] at hstep
      split_ifs at hstep with hnew
      exact kept_request hs hnew.1 hnew.2 hstep
  | complete t =>
      rw [step] at hstep
      split_ifs at hstep with ht
      exact kept_complete hs ht hturn hstep

/-- Completing another request of the same key first leaves that one outstanding with
its memory gone. -/
theorem not_accounted_of_not_inTurn (hs : s.Kept) {call : SapCall} (hturn : ¬ s.InTurn call) :
    ∃ next, s.step call = some next ∧ ¬ next.Accounted := by
  cases call with
  | request => exact absurd trivial hturn
  | complete t =>
      obtain ⟨ht, hother⟩ := Classical.not_imp.mp hturn
      obtain ⟨found, first, second, hfind, hsplit, hfirst, hkey⟩ := exists_found ht
      obtain ⟨entry, hdr, hentry, hhdr, heq⟩ := onRequestComplete_eq hs ht hsplit hfirst hkey
      refine ⟨_, (if_pos ht).trans heq, fun haccounted => ?_⟩
      have hne : found ≠ t := by
        rintro rfl
        exact hother hfind
      have hmem : found ∈ s.outstanding := hsplit ▸ List.mem_append_right _ List.mem_cons_self
      have hgone := (haccounted.requests found).mpr ((List.mem_erase_of_ne hne).mpr hmem)
      exact hgone (Function.update_self ..)

/-- Every request is accounted for throughout a run exactly when, of the requests with
one message id and client token, the newest is always completed first. -/
theorem accounted_iff_inTurn (calls : List SapCall) :
    system.Throughout Accounted initial calls ↔ system.Guarded InTurn initial calls :=
  Transition.System.throughout_iff_guarded Kept (fun _ hs => hs.accounted)
    (fun _ _ _ hs hturn hstep => kept_step hs hturn hstep)
    (fun _ _ hs hturn => not_accounted_of_not_inTurn hs hturn) kept_initial calls

/-- Two requests of one kind with one token, completed in the order they came: the second one
is freed for the first, and its completion would read it. -/
theorem not_accounted_equal_tokens :
    ¬ system.Throughout Accounted initial
      [.request 5 1 10 (some 100), .request 5 1 20 (some 200), .complete 100] := by
  refine Transition.System.not_throughout_of_any
    (fun s => s.outstanding == [200] && s.requests 200 = none) (fun s hcheck haccounted => ?_)
      (by decide)
  simp only [Bool.and_eq_true, beq_iff_eq, decide_eq_true_eq] at hcheck
  exact (haccounted.requests 200).mpr (by simp [hcheck.1]) hcheck.2

end Serrano.Ril.SapQueue
