import Mathlib.Data.List.TakeWhile
import Serrano.Ril.EventLoop

/-! # Deadlines and wake-ups

The timers that fired, those that are about to, and those in the list are in the
order of their deadlines, one after the other, and hold every timer that was added
once. A loop that is blocked has a timeout for every timer in the list whose writer
has written; the timeout counts from the entry to `select`, which may come later
than the reading of the clock it was computed from.
-/

namespace Serrano.Ril

/-- The order of the deadlines. -/
def Timer.NoLater (first second : Timer) : Prop := first.timeout.toUs ≤ second.timeout.toUs

instance : DecidableRel Timer.NoLater := fun first second =>
  inferInstanceAs (Decidable (first.timeout.toUs ≤ second.timeout.toUs))

instance : Std.Total Timer.NoLater := ⟨fun _ _ => Int.le_total _ _⟩

instance : IsTrans Timer Timer.NoLater := ⟨fun _ _ _ => Int.le_trans⟩

theorem insertTimer_eq_orderedInsert (ev : Timer) (timer_list : List Timer) :
    insertTimer ev timer_list = timer_list.orderedInsert Timer.NoLater ev := by
  induction timer_list with
  | nil => rfl
  | cons list rest ih =>
      rw [insertTimer, List.orderedInsert_cons, ih]
      by_cases hlater : ev.NoLater list
      · rw [if_pos hlater, if_neg]
        rw [Timeval.timercmp_lt_iff]
        exact Int.not_lt.mpr hlater
      · rw [if_neg hlater, if_pos]
        exact (Timeval.timercmp_lt_iff _ _).mpr (Int.not_le.mp hlater)

/-- The timeout ends at the deadline of the first timer, or at once if that is over. -/
theorem exists_calcNextTimeout (now : Timeval) (tev : Timer) :
    ∃ tv ∈ calcNextTimeout now (some tev), now.toUs + tv.toUs = max now.toUs tev.timeout.toUs := by
  by_cases hlater : now.toUs < tev.timeout.toUs
  · refine ⟨tev.timeout.timersub now, ?_, ?_⟩
    · exact congrArg some (if_pos ((Timeval.timercmp_gt_iff _ _).mpr hlater))
    · rw [Timeval.toUs_timersub]
      omega
  · refine ⟨.zero, ?_, ?_⟩
    · refine congrArg some (if_neg ?_)
      rwa [Timeval.timercmp_gt_iff]
    · rw [Timeval.toUs_zero]
      omega

namespace EventLoop

variable (s : EventLoop)

def pendingTimers : List Timer := s.pending_list.filterMap PendingEvent.timer?

/-- The timers that were taken off the list. -/
def taken : List Timer := s.fired.map Firing.ev ++ s.pendingTimers

/-- All timers: those that fired, those about to, and those in the list. -/
def timers : List Timer := s.taken ++ s.timer_list

/-- `select` has nothing to read and its timeout is not over. -/
def Blocked : Prop :=
  match s.point with
  | .select _ ptv entered =>
      s.wakeupBytes = 0 ∧ ∀ tv ∈ ptv, s.clock.toUs < entered.toUs + tv.toUs
  | _ => False

/-- The list is sorted, every timer that was added is there once, none fires before
its deadline, and all of them in the order of their deadlines. -/
structure InOrder : Prop where
  listed : s.timer_list.Pairwise Timer.NoLater
  once : (s.timers.map Timer.event).Perm (List.range s.added)
  notEarly : ∀ firing ∈ s.fired, firing.ev.timeout.toUs < firing.now.toUs
  ordered : s.timers.Pairwise Timer.NoLater

/-- The blocked loop wakes up by every deadline in the list, or the writer of an
earlier timer did not write yet. -/
def WakesUp : Prop :=
  ∀ now ptv entered, s.point = .select now ptv entered → s.Blocked → ∀ ev ∈ s.timer_list,
    (∃ tv ∈ ptv, entered.toUs + tv.toUs ≤ ev.timeout.toUs) ∨ ∃ writer ∈ s.writers, writer.NoLater ev

/-- The blocked loop is late by no more than the time that passed between the
reading of the clock and the entry to `select`. -/
def WakesUpAfterDelay : Prop :=
  ∀ now ptv entered, s.point = .select now ptv entered → s.Blocked → ∀ ev ∈ s.timer_list,
    (∃ tv ∈ ptv, entered.toUs + tv.toUs ≤ ev.timeout.toUs + (entered.toUs - now.toUs)) ∨
      ∃ writer ∈ s.writers, writer.NoLater ev

/-- The writer of the timer has written, and its byte is still there, or it will. -/
def Announced (ev : Timer) : Prop := 0 < s.wakeupBytes ∨ ev ∈ s.writers

/-- The timeout of the loop covers every timer that is not announced. -/
def Covered (now : Timeval) (ptv : Option Timeval) : Prop :=
  ∀ ev ∈ s.timer_list,
    s.Announced ev ∨ ∃ tv ∈ ptv, now.toUs + tv.toUs ≤ max now.toUs ev.timeout.toUs

/-- What the loop has established on its way to `select` and in it. -/
def Waiting : Prop :=
  match s.point with
  | .calcNextTimeout | .processTimeouts _ => s.pending_list = []
  | .firstTimer tev => s.pending_list = [] ∧
      ∀ ev ∈ s.timer_list, s.Announced ev ∨ ∃ first ∈ tev, first.NoLater ev
  | .timeout now ptv => s.pending_list = [] ∧ s.Covered now ptv
  | .select now ptv entered =>
      s.pending_list = [] ∧ s.Covered now ptv ∧ entered.toUs ≤ s.clock.toUs
  | .processReadReadies _ | .firePending | .userTimerCallback _ | .processWakeupCallback => True

/-- The invariant of the loop. -/
structure Kept : Prop where
  accounted : (s.timers.map Timer.event).Perm (List.range s.added)
  ordered : s.timers.Pairwise Timer.NoLater
  expired : ∀ ev ∈ s.taken, ev.timeout.toUs < s.clock.toUs
  notEarly : ∀ firing ∈ s.fired, firing.ev.timeout.toUs < firing.now.toUs
  waiting : s.Waiting

variable {s} {s' : EventLoop}

theorem expired_iff {ev : Timer} : s.expired ev = true ↔ ev.timeout.toUs < s.clock.toUs :=
  Timeval.timercmp_gt_iff _ _

theorem clock_le_newTimer (tv : RelativeTime) : s.clock.toUs ≤ (s.newTimer tv).timeout.toUs := by
  have htv := tv.toUs_nonneg
  rw [newTimer, Timeval.toUs_timeradd]
  omega

theorem mem_ril_timer_add {tv : RelativeTime} {ev : Timer} :
    ev ∈ (s.ril_timer_add tv).timer_list ↔ ev = s.newTimer tv ∨ ev ∈ s.timer_list := by
  rw [ril_timer_add, insertTimer_eq_orderedInsert, List.mem_orderedInsert]

theorem timers_perm_ril_timer_add (tv : RelativeTime) :
    (s.ril_timer_add tv).timers.Perm (s.newTimer tv :: s.timers) := by
  have hinsert : (insertTimer (s.newTimer tv) s.timer_list).Perm
      (s.newTimer tv :: s.timer_list) := by
    rw [insertTimer_eq_orderedInsert]
    exact List.perm_orderedInsert _ _ _
  exact (hinsert.append_left s.taken).trans List.perm_middle

theorem taken_processTimeouts (readable : Bool) (hpending : s.pending_list = []) :
    (s.processTimeouts readable).taken = s.taken ++ s.timer_list.takeWhile s.expired := by
  simp [taken, pendingTimers, processTimeouts, hpending, List.filterMap_map, Function.comp_def]

/-- Taking the expired timers off the list keeps the order of all timers. -/
theorem timers_processTimeouts (readable : Bool) (hpending : s.pending_list = []) :
    (s.processTimeouts readable).timers = s.timers := by
  rw [timers, taken_processTimeouts readable hpending, List.append_assoc]
  exact congrArg (s.taken ++ ·) List.takeWhile_append_dropWhile

theorem taken_processReadReadies (readable : Bool) :
    (s.processReadReadies readable).taken = s.taken := by
  cases readable
  · simp [taken, pendingTimers, processReadReadies]
  · simp [taken, pendingTimers, processReadReadies]

theorem taken_firePending : s.firePending.taken = s.taken := by
  unfold firePending
  split
  · rfl
  · rename_i ev rest hpending
    simp [taken, pendingTimers, hpending]
  · rename_i rest hpending
    simp [taken, pendingTimers, hpending, List.filterMap_cons]

theorem Kept.inOrder (hs : s.Kept) : s.InOrder where
  listed := (List.pairwise_append.mp hs.ordered).2.1
  once := hs.accounted
  notEarly := hs.notEarly
  ordered := hs.ordered

theorem Announced.of_le {ev : Timer} (hev : s.Announced ev)
    (hbytes : s.wakeupBytes ≤ s'.wakeupBytes) (hwriters : ∀ ev ∈ s.writers, ev ∈ s'.writers) :
    s'.Announced ev :=
  hev.imp (fun h => Nat.lt_of_lt_of_le h hbytes) (hwriters ev)

/-- The loop keeps waiting when time passes, and when every timer it does not know
of is announced. -/
theorem Waiting.of_announced (hs : s.Waiting) (hpoint : s'.point = s.point)
    (hpending : s'.pending_list = s.pending_list) (hclock : s.clock.toUs ≤ s'.clock.toUs)
    (hlist : ∀ ev ∈ s'.timer_list, s'.Announced ev ∨ ev ∈ s.timer_list)
    (hannounced : ∀ ev, s.Announced ev → s'.Announced ev) : s'.Waiting := by
  have hcovered : ∀ {cover : Timer → Prop},
      (∀ ev ∈ s.timer_list, s.Announced ev ∨ cover ev) →
        ∀ ev ∈ s'.timer_list, s'.Announced ev ∨ cover ev := fun hcover ev hev =>
    (hlist ev hev).elim Or.inl fun hold => (hcover ev hold).imp_left (hannounced ev)
  unfold Waiting at hs ⊢
  rw [hpoint, hpending]
  cases hpt : s.point with
  | calcNextTimeout => rwa [hpt] at hs
  | processTimeouts readable => rwa [hpt] at hs
  | firstTimer tev =>
      rw [hpt] at hs
      exact ⟨hs.1, hcovered hs.2⟩
  | timeout now ptv =>
      rw [hpt] at hs
      exact ⟨hs.1, hcovered hs.2⟩
  | select now ptv entered =>
      rw [hpt] at hs
      exact ⟨hs.1, hcovered hs.2.1, Int.le_trans hs.2.2 hclock⟩
  | processReadReadies readable => trivial
  | firePending => trivial
  | userTimerCallback ev => trivial
  | processWakeupCallback => trivial

/-- The order of the timers survives a step that only moves the loop on. -/
theorem Kept.of_timers (hs : s.Kept) (htimers : s'.timers = s.timers) (hadded : s'.added = s.added)
    (hexpired : ∀ ev ∈ s'.taken, ev.timeout.toUs < s'.clock.toUs)
    (hfired : ∀ firing ∈ s'.fired, firing.ev.timeout.toUs < firing.now.toUs)
    (hwaiting : s'.Waiting) : s'.Kept where
  accounted := by rw [htimers, hadded]; exact hs.accounted
  ordered := by rw [htimers]; exact hs.ordered
  expired := hexpired
  notEarly := hfired
  waiting := hwaiting

/-- A step that leaves the timers where they are. -/
theorem Kept.of_point (hs : s.Kept) (htaken : s'.taken = s.taken)
    (hlist : s'.timer_list = s.timer_list) (hadded : s'.added = s.added)
    (hfired : s'.fired = s.fired) (hclock : s.clock.toUs ≤ s'.clock.toUs)
    (hwaiting : s'.Waiting) : s'.Kept := by
  refine hs.of_timers ?_ hadded (fun ev hev => ?_) (fun firing h => ?_) hwaiting
  · rw [timers, htaken, hlist, timers]
  · exact Int.lt_of_lt_of_le (hs.expired ev (htaken ▸ hev)) hclock
  · exact hs.notEarly firing (hfired ▸ h)

/-- A new timer is no earlier than any that was taken off the list. -/
theorem Kept.ril_timer_add (hs : s.Kept) (tv : RelativeTime) {writers : List Timer}
    (hwaiting : { s.ril_timer_add tv with writers := writers }.Waiting) :
    { s.ril_timer_add tv with writers := writers }.Kept where
  accounted := by
    have hmap := (timers_perm_ril_timer_add (s := s) tv).map Timer.event
    refine hmap.trans ?_
    rw [List.map_cons, show (s.ril_timer_add tv).added = s.added + 1 from rfl, List.range_succ]
    exact (hs.accounted.cons _).trans (List.perm_append_singleton _ _).symm
  ordered := by
    obtain ⟨htaken, hlist, hacross⟩ := List.pairwise_append.mp hs.ordered
    refine List.pairwise_append.mpr ⟨htaken, ?_, fun first hfirst second hsecond => ?_⟩
    · have hinsert := hlist.orderedInsert (s.newTimer tv)
      rwa [← insertTimer_eq_orderedInsert] at hinsert
    · rcases mem_ril_timer_add.mp hsecond with rfl | hold
      · exact Int.le_of_lt (Int.lt_of_lt_of_le (hs.expired first hfirst) (clock_le_newTimer tv))
      · exact hacross first hfirst second hold
  expired := hs.expired
  notEarly := hs.notEarly
  waiting := hwaiting

theorem kept_timerAdd (hs : s.Kept) (tv : RelativeTime) : (s.timerAdd tv).Kept := by
  refine hs.ril_timer_add tv ?_
  refine hs.waiting.of_announced rfl rfl (Int.le_refl _) (fun ev hev => ?_) fun ev hev => ?_
  · rcases mem_ril_timer_add.mp hev with rfl | hold
    · exact Or.inl (Or.inr List.mem_cons_self)
    · exact Or.inr hold
  · exact hev.of_le (Nat.le_refl _) fun ev hev => List.mem_cons_of_mem _ hev

theorem kept_triggerEvLoop (hs : s.Kept) {ev : Timer} (hstep : s.triggerEvLoop ev = some s') :
    s'.Kept := by
  rw [triggerEvLoop, Option.ite_none_right_eq_some, Option.some.injEq] at hstep
  obtain ⟨-, rfl⟩ := hstep
  refine hs.of_point rfl rfl rfl rfl (Int.le_refl _) ?_
  refine hs.waiting.of_announced rfl rfl (Int.le_refl _) (fun _ hev => Or.inr hev) fun _ _ => ?_
  exact Or.inl (Nat.succ_pos _)

theorem kept_tick (hs : s.Kept) (elapsed : RelativeTime) :
    { s with clock := s.clock.timeradd elapsed.toTimeval }.Kept := by
  have hclock : s.clock.toUs ≤ (s.clock.timeradd elapsed.toTimeval).toUs := by
    have helapsed := elapsed.toUs_nonneg
    rw [Timeval.toUs_timeradd]
    omega
  refine hs.of_point rfl rfl rfl rfl hclock ?_
  exact hs.waiting.of_announced rfl rfl hclock (fun _ => Or.inr) fun _ => id

theorem kept_interrupt (hs : s.Kept) (hstep : s.interrupt = some s') : s'.Kept := by
  unfold interrupt at hstep
  split at hstep
  · rename_i now ptv entered hpoint
    obtain rfl := Option.some.inj hstep
    have hwaiting := hs.waiting
    rw [Waiting, hpoint] at hwaiting
    exact hs.of_point rfl rfl rfl rfl (Int.le_refl _) hwaiting.1
  · cases hstep

theorem kept_callbackTimerAdd (hs : s.Kept) {tv : RelativeTime}
    (hstep : s.callbackTimerAdd tv = some s') : s'.Kept := by
  unfold callbackTimerAdd at hstep
  split at hstep
  · rename_i ev hpoint
    obtain rfl := Option.some.inj hstep
    have hwaiting : (s.ril_timer_add tv).Waiting := by
      rw [Waiting, show (s.ril_timer_add tv).point = s.point from rfl, hpoint]
      trivial
    exact hs.ril_timer_add tv hwaiting
  · cases hstep

/-- From the first timer on, the list is in the order of the deadlines. -/
theorem Kept.head_noLater (hs : s.Kept) {ev : Timer} (hev : ev ∈ s.timer_list) :
    ∃ first ∈ s.timer_list.head?, first.NoLater ev := by
  have hlist := hs.inOrder.listed
  cases htimers : s.timer_list with
  | nil =>
      rw [htimers] at hev
      cases hev
  | cons first rest =>
      rw [htimers] at hev hlist
      refine ⟨first, rfl, ?_⟩
      rcases List.mem_cons.mp hev with rfl | hrest
      · exact Int.le_refl _
      · exact List.rel_of_pairwise_cons hlist hrest

theorem kept_firstTimer (hs : s.Kept) (hpoint : s.point = .calcNextTimeout) :
    { s with point := .firstTimer s.timer_list.head? }.Kept := by
  have hwaiting := hs.waiting
  rw [Waiting, hpoint] at hwaiting
  refine hs.of_point rfl rfl rfl rfl (Int.le_refl _) ⟨hwaiting, fun ev hev => ?_⟩
  exact Or.inr (hs.head_noLater hev)

theorem kept_calcNextTimeout (hs : s.Kept) {tev : Option Timer} (hpoint : s.point = .firstTimer tev) :
    { s with point := .timeout s.clock (calcNextTimeout s.clock tev) }.Kept := by
  have hwaiting := hs.waiting
  rw [Waiting, hpoint] at hwaiting
  refine hs.of_point rfl rfl rfl rfl (Int.le_refl _) ⟨hwaiting.1, fun ev hev => ?_⟩
  rcases hwaiting.2 ev hev with hannounced | ⟨first, rfl, hfirst⟩
  · exact Or.inl hannounced
  · obtain ⟨tv, htv, htimeout⟩ := exists_calcNextTimeout s.clock first
    have hle : first.timeout.toUs ≤ ev.timeout.toUs := hfirst
    exact Or.inr ⟨tv, htv, by omega⟩

theorem kept_select (hs : s.Kept) {ptv : Option Timeval} {entered now : Timeval}
    (hpoint : s.point = .select now ptv entered) (hstep : s.select ptv entered = some s') :
    s'.Kept := by
  have hwaiting := hs.waiting
  rw [Waiting, hpoint] at hwaiting
  have hkept : ∀ readable, { s with point := .processTimeouts readable }.Kept := fun _ =>
    hs.of_point rfl rfl rfl rfl (Int.le_refl _) hwaiting.1
  unfold select at hstep
  split_ifs at hstep
  · exact Option.some.inj hstep ▸ hkept true
  · exact Option.some.inj hstep ▸ hkept false

theorem kept_processTimeouts (hs : s.Kept) {readable : Bool}
    (hpoint : s.point = .processTimeouts readable) : (s.processTimeouts readable).Kept := by
  have hwaiting := hs.waiting
  rw [Waiting, hpoint] at hwaiting
  refine hs.of_timers (timers_processTimeouts readable hwaiting) rfl (fun ev hev => ?_)
    hs.notEarly trivial
  rw [taken_processTimeouts readable hwaiting, List.mem_append] at hev
  rcases hev with htaken | hexpired
  · exact hs.expired ev htaken
  · exact expired_iff.mp (List.mem_takeWhile_imp hexpired)

/-- The first pending timer expired, and is called no earlier than that. -/
theorem kept_firePending (hs : s.Kept) : s.firePending.Kept := by
  have htaken := taken_firePending (s := s)
  unfold firePending at htaken ⊢
  cases hpending : s.pending_list with
  | nil =>
      rw [hpending] at htaken
      exact hs.of_point htaken rfl rfl rfl (Int.le_refl _) rfl
  | cons pending rest =>
      rw [hpending] at htaken
      cases pending with
      | timer ev =>
          have hev : ev ∈ s.taken := by
            rw [taken, pendingTimers, hpending]
            exact List.mem_append_right _ List.mem_cons_self
          refine hs.of_timers (congrArg (· ++ s.timer_list) htaken) rfl (fun other hother => ?_)
            (fun firing hfiring => ?_) trivial
          · exact hs.expired other (htaken ▸ hother)
          · rcases List.mem_append.mp hfiring with hold | hnew
            · exact hs.notEarly firing hold
            · obtain rfl := List.mem_singleton.mp hnew
              exact hs.expired ev hev
      | s_wakeupfd_event => exact hs.of_point htaken rfl rfl rfl (Int.le_refl _) trivial

theorem kept_processWakeupCallback (hs : s.Kept) (hpoint : s.point = .processWakeupCallback) :
    s.processWakeupCallback.Kept := by
  unfold processWakeupCallback
  split_ifs
  · exact hs.of_point rfl rfl rfl rfl (Int.le_refl _) trivial
  · refine hs.of_point rfl rfl rfl rfl (Int.le_refl _) ?_
    rw [Waiting, hpoint]
    trivial

theorem kept_loop (hs : s.Kept) (hstep : s.loop = some s') : s'.Kept := by
  unfold loop at hstep
  cases hpoint : s.point with
  | calcNextTimeout =>
      rw [hpoint] at hstep
      exact Option.some.inj hstep ▸ kept_firstTimer hs hpoint
  | firstTimer tev =>
      rw [hpoint] at hstep
      exact Option.some.inj hstep ▸ kept_calcNextTimeout hs hpoint
  | timeout now ptv =>
      rw [hpoint] at hstep
      have hwaiting := hs.waiting
      rw [Waiting, hpoint] at hwaiting
      exact Option.some.inj hstep ▸ hs.of_point rfl rfl rfl rfl (Int.le_refl _)
        ⟨hwaiting.1, hwaiting.2, Int.le_refl _⟩
  | select now ptv entered =>
      rw [hpoint] at hstep
      exact kept_select hs hpoint hstep
  | processTimeouts readable =>
      rw [hpoint] at hstep
      exact Option.some.inj hstep ▸ kept_processTimeouts hs hpoint
  | processReadReadies readable =>
      rw [hpoint] at hstep
      exact Option.some.inj hstep ▸ hs.of_point (taken_processReadReadies readable) rfl rfl rfl
        (Int.le_refl _) trivial
  | firePending =>
      rw [hpoint] at hstep
      exact Option.some.inj hstep ▸ kept_firePending hs
  | userTimerCallback ev =>
      rw [hpoint] at hstep
      exact Option.some.inj hstep ▸ hs.of_point rfl rfl rfl rfl (Int.le_refl _) trivial
  | processWakeupCallback =>
      rw [hpoint] at hstep
      exact Option.some.inj hstep ▸ kept_processWakeupCallback hs hpoint

theorem kept_step (hs : s.Kept) {action : EventAction} (hstep : s.step action = some s') :
    s'.Kept := by
  cases action with
  | tick elapsed => exact Option.some.inj hstep ▸ kept_tick hs elapsed
  | timerAdd tv => exact Option.some.inj hstep ▸ kept_timerAdd hs tv
  | triggerEvLoop ev => exact kept_triggerEvLoop hs hstep
  | interrupt => exact kept_interrupt hs hstep
  | callbackTimerAdd tv => exact kept_callbackTimerAdd hs hstep
  | loop => exact kept_loop hs hstep

theorem kept_initial (clock : Timeval) (wakeupBytes : Nat) : (initial clock wakeupBytes).Kept where
  accounted := List.Perm.refl _
  ordered := List.Pairwise.nil
  expired _ hev := absurd hev List.not_mem_nil
  notEarly _ hfiring := absurd hfiring List.not_mem_nil
  waiting := rfl

/-- A blocked loop has not reached its timeout, which covers every timer whose
writer has written. -/
theorem Kept.covered_of_blocked (hs : s.Kept) {now entered : Timeval} {ptv : Option Timeval}
    (hpoint : s.point = .select now ptv entered) (hblocked : s.Blocked) {ev : Timer}
    (hev : ev ∈ s.timer_list) :
    ev ∈ s.writers ∨ ∃ tv ∈ ptv, now.toUs + tv.toUs ≤ ev.timeout.toUs := by
  have hwaiting := hs.waiting
  rw [Waiting, hpoint] at hwaiting
  rw [Blocked, hpoint] at hblocked
  rcases hwaiting.2.1 ev hev with (hbytes | hwriter) | ⟨tv, htv, hle⟩
  · exact absurd hblocked.1 (Nat.pos_iff_ne_zero.mp hbytes)
  · exact Or.inl hwriter
  · have hlater := hblocked.2 tv htv
    exact Or.inr ⟨tv, htv, by omega⟩

theorem Kept.wakesUpAfterDelay (hs : s.Kept) : s.WakesUpAfterDelay := by
  intro now ptv entered hpoint hblocked ev hev
  rcases hs.covered_of_blocked hpoint hblocked hev with hwriter | ⟨tv, htv, hle⟩
  · exact Or.inr ⟨ev, hwriter, Int.le_refl _⟩
  · exact Or.inl ⟨tv, htv, by omega⟩

end EventLoop

end Serrano.Ril
