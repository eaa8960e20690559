import Serrano.Foundation.InfiniteRun
import Serrano.Ril.EventLoopOrder

/-! # Every timer fires

In a run that goes on for ever, in which time passes, writers write, and the loop is
held up nowhere but in a `select` that has no reason to return, every timer that was
added fires: a deadline that has passed leaves the loop only finitely many moments in
which it is blocked, and the next look at the list takes the timer off it.
-/

namespace Serrano.Ril

open Transition

namespace EventLoop

/-- The loop is about to look for expired timers. -/
def AtTimeouts (s : EventLoop) : Prop := ∃ readable, s.point = .processTimeouts readable

/-- A run of the loop that is fair: signals do not interrupt `select` for ever,
callbacks return, and the pipe is drained in the end. -/
structure FairRun (clock : Timeval) (wakeupBytes : Nat) extends
    InfiniteRun (system clock wakeupBytes) (system clock wakeupBytes).init where
  time_passes : ∀ i us, ∃ j, i ≤ j ∧ us < (state j).clock.toUs
  writers_write : ∀ i, ∀ ev ∈ (state i).writers, ∃ j, i ≤ j ∧ ev ∉ (state j).writers
  select_returns : ∀ i, ∃ j, i ≤ j ∧ ((state j).AtTimeouts ∨ (state j).Blocked)
  iteration_ends : ∀ i, ∃ j, i ≤ j ∧ ((state j).point = .calcNextTimeout ∨ (state j).Blocked)

/-- What a step does to the time and the timers. -/
structure Evolves (s s' : EventLoop) : Prop where
  clock : s.clock.toUs ≤ s'.clock.toUs
  timers : ∀ ev ∈ s.timers, ev ∈ s'.timers
  writers : ∀ ev ∈ s'.writers, ev ∈ s.writers ∨ ev.event = s.added
  listed : ∀ ev ∈ s'.timer_list, ev ∈ s.timer_list ∨ ev.event = s.added

/-- The deadline of the timer is over, and its writer has written. -/
structure Due (ev : Timer) (s : EventLoop) : Prop where
  kept : s.Kept
  added : ev ∈ s.timers
  past : ev.timeout.toUs < s.clock.toUs
  written : ev ∉ s.writers

/-- From the time `since` on, the timeouts that the loop computed before do not last
longer than `last`. -/
structure Elapsing (since last : Int) (s : EventLoop) : Prop where
  clock : since ≤ s.clock.toUs
  timeout : ∀ now ptv, s.point = .timeout now ptv → since ≤ now.toUs
  select : ∀ now ptv entered, s.point = .select now ptv entered →
    since ≤ now.toUs ∨ ∀ tv ∈ ptv, entered.toUs + tv.toUs ≤ last

variable {s s' : EventLoop} {ev : Timer}

theorem evolves_ril_timer_add (tv : RelativeTime) {writers : List Timer}
    (hwriters : ∀ ev ∈ writers, ev ∈ s.writers ∨ ev.event = s.added) :
    s.Evolves { s.ril_timer_add tv with writers := writers } where
  clock := Int.le_refl _
  timers _ hev := (timers_perm_ril_timer_add tv).mem_iff.mpr (List.mem_cons_of_mem _ hev)
  writers := hwriters
  listed ev hev := by
    rcases mem_ril_timer_add.mp hev with rfl | hold
    · exact Or.inr rfl
    · exact Or.inl hold

theorem Evolves.of_point (htimers : s'.timers = s.timers) (hclock : s.clock.toUs ≤ s'.clock.toUs)
    (hwriters : ∀ ev ∈ s'.writers, ev ∈ s.writers)
    (hlist : ∀ ev ∈ s'.timer_list, ev ∈ s.timer_list) : s.Evolves s' where
  clock := hclock
  timers _ hev := htimers ▸ hev
  writers ev hev := Or.inl (hwriters ev hev)
  listed ev hev := Or.inl (hlist ev hev)

theorem evolves_firePending : s.Evolves s.firePending := by
  refine .of_point ?_ ?_ ?_ ?_
  · have hlist : s.firePending.timer_list = s.timer_list := by
      unfold firePending
      split <;> rfl
    rw [timers, taken_firePending, hlist, timers]
  all_goals
    unfold firePending
    split <;> simp

theorem evolves_loop (hs : s.Kept) (hstep : s.loop = some s') : s.Evolves s' := by
  have hmove : ∀ point, s.Evolves { s with point := point } := fun _ =>
    .of_point rfl (Int.le_refl _) (fun _ => id) fun _ => id
  unfold loop at hstep
  cases hpoint : s.point with
  | calcNextTimeout | firstTimer | timeout | userTimerCallback =>
      rw [hpoint] at hstep
      exact Option.some.inj hstep ▸ hmove _
  | select now ptv entered =>
      rw [hpoint] at hstep
      simp only [select] at hstep
      split_ifs at hstep
      · exact Option.some.inj hstep ▸ hmove _
      · exact Option.some.inj hstep ▸ hmove _
  | processTimeouts readable =>
      rw [hpoint] at hstep
      have hwaiting := hs.waiting
      rw [Waiting, hpoint] at hwaiting
      exact Option.some.inj hstep ▸ .of_point (timers_processTimeouts readable hwaiting)
        (Int.le_refl _) (fun _ => id) fun _ hev => (List.dropWhile_sublist _).subset hev
  | processReadReadies readable =>
      rw [hpoint] at hstep
      exact Option.some.inj hstep ▸ .of_point
        (congrArg (· ++ s.timer_list) (taken_processReadReadies readable)) (Int.le_refl _)
        (fun _ => id) fun _ => id
  | firePending =>
      rw [hpoint] at hstep
      exact Option.some.inj hstep ▸ evolves_firePending
  | processWakeupCallback =>
      rw [hpoint] at hstep
      obtain rfl := Option.some.inj hstep
      unfold processWakeupCallback
      split_ifs
      · exact hmove _
      · exact .of_point rfl (Int.le_refl _) (fun _ => id) fun _ => id

theorem evolves_step (hs : s.Kept) {action : EventAction} (hstep : s.step action = some s') :
    s.Evolves s' := by
  cases action with
  | tick elapsed =>
      obtain rfl := Option.some.inj hstep
      have helapsed := elapsed.toUs_nonneg
      refine .of_point rfl ?_ (fun _ => id) fun _ => id
      simp only [Timeval.toUs_timeradd]
      omega
  | timerAdd tv =>
      obtain rfl := Option.some.inj hstep
      refine evolves_ril_timer_add tv fun ev hev => ?_
      rcases List.mem_cons.mp hev with rfl | hold
      · exact Or.inr rfl
      · exact Or.inl hold
  | triggerEvLoop ev =>
      simp only [step, triggerEvLoop, Option.ite_none_right_eq_some, Option.some.injEq] at hstep
      obtain ⟨-, rfl⟩ := hstep
      exact .of_point rfl (Int.le_refl _) (fun _ => List.mem_of_mem_erase) fun _ => id
  | interrupt =>
      simp only [step, interrupt] at hstep
      split at hstep
      · exact Option.some.inj hstep ▸ .of_point rfl (Int.le_refl _) (fun _ => id) fun _ => id
      · cases hstep
  | callbackTimerAdd tv =>
      simp only [step, callbackTimerAdd] at hstep
      split at hstep
      · exact Option.some.inj hstep ▸ evolves_ril_timer_add tv fun _ => Or.inl
      · cases hstep
  | loop => exact evolves_loop hs hstep

/-- The number of a timer that is there was given out. -/
theorem Kept.event_ne_added (hs : s.Kept) (hev : ev ∈ s.timers) : ev.event ≠ s.added := by
  have hmem := hs.accounted.mem_iff.mp (List.mem_map_of_mem hev)
  exact Nat.ne_of_lt (List.mem_range.mp hmem)

theorem Due.step (hs : Due ev s) {action : EventAction} (hstep : s.step action = some s') :
    Due ev s' := by
  have hevolves := evolves_step hs.kept hstep
  refine ⟨kept_step hs.kept hstep, hevolves.timers ev hs.added,
    Int.lt_of_lt_of_le hs.past hevolves.clock, fun hwriter => ?_⟩
  rcases hevolves.writers ev hwriter with hold | hnew
  · exact hs.written hold
  · exact hs.kept.event_ne_added hs.added hnew

/-- A due timer that is off the list does not come back. -/
theorem Due.notMem_step (hs : Due ev s) (hev : ev ∉ s.timer_list) {action : EventAction}
    (hstep : s.step action = some s') : ev ∉ s'.timer_list := by
  intro hlist
  rcases (evolves_step hs.kept hstep).listed ev hlist with hold | hnew
  · exact hev hold
  · exact hs.kept.event_ne_added hs.added hnew

/-- Looking for expired timers takes every due timer off the list. -/
theorem Due.notMem_processTimeouts (hs : Due ev s) (readable : Bool) :
    ev ∉ (s.processTimeouts readable).timer_list := by
  intro hev
  have hsorted : (s.timer_list.dropWhile s.expired).Pairwise Timer.NoLater :=
    hs.kept.inOrder.listed.sublist (List.dropWhile_sublist _)
  have hfirst := List.head?_dropWhile_not s.expired s.timer_list
  change ev ∈ s.timer_list.dropWhile s.expired at hev
  cases hdrop : s.timer_list.dropWhile s.expired with
  | nil =>
      rw [hdrop] at hev
      cases hev
  | cons first rest =>
      rw [hdrop] at hev hsorted hfirst
      have hlater : first.NoLater ev := by
        rcases List.mem_cons.mp hev with rfl | hrest
        · exact Int.le_refl _
        · exact List.rel_of_pairwise_cons hsorted hrest
      have hexpired : s.expired first = true :=
        expired_iff.mpr (Int.lt_of_le_of_lt hlater hs.past)
      simp [hexpired] at hfirst

/-- The loop leaves its look for expired timers by taking them off the list. -/
theorem eq_processTimeouts_of_step {readable : Bool} (hpoint : s.point = .processTimeouts readable)
    {action : EventAction} (hstep : s.step action = some s') :
    s'.AtTimeouts ∨ s' = s.processTimeouts readable := by
  cases action with
  | tick elapsed => exact Or.inl ⟨readable, Option.some.inj hstep ▸ hpoint⟩
  | timerAdd tv => exact Or.inl ⟨readable, Option.some.inj hstep ▸ hpoint⟩
  | triggerEvLoop ev =>
      simp only [step, triggerEvLoop, Option.ite_none_right_eq_some, Option.some.injEq] at hstep
      exact Or.inl ⟨readable, hstep.2 ▸ hpoint⟩
  | interrupt =>
      rw [step, interrupt, hpoint] at hstep
      cases hstep
  | callbackTimerAdd tv =>
      rw [step, callbackTimerAdd, hpoint] at hstep
      cases hstep
  | loop =>
      rw [step, loop, hpoint] at hstep
      exact Or.inr (Option.some.inj hstep).symm

/-- The loop gets to a timeout by reading the clock, and to a `select` from there. -/
theorem point_of_loop (hstep : s.loop = some s') :
    (∀ now ptv, s'.point = .timeout now ptv → now = s.clock) ∧
      ∀ now ptv entered, s'.point = .select now ptv entered → s.point = .timeout now ptv := by
  unfold loop at hstep
  cases hpoint : s.point with
  | select now ptv entered =>
      rw [hpoint] at hstep
      simp only [select] at hstep
      split_ifs at hstep <;> (obtain rfl := Option.some.inj hstep; simp)
  | firePending =>
      rw [hpoint] at hstep
      obtain rfl := Option.some.inj hstep
      unfold firePending
      split <;> simp
  | processWakeupCallback =>
      rw [hpoint] at hstep
      obtain rfl := Option.some.inj hstep
      unfold processWakeupCallback
      split_ifs <;> simp [hpoint]
  | calcNextTimeout | firstTimer | timeout | userTimerCallback | processTimeouts
  | processReadReadies =>
      rw [hpoint] at hstep
      obtain rfl := Option.some.inj hstep
      simp [processTimeouts, processReadReadies]

/-- Steps of others than the loop leave it where it is, but for an interruption. -/
theorem point_of_step {action : EventAction} (hstep : s.step action = some s')
    (haction : action ≠ .loop) : s'.point = s.point ∨ s'.point = .calcNextTimeout := by
  cases action with
  | tick elapsed => exact Or.inl (Option.some.inj hstep ▸ rfl)
  | timerAdd tv => exact Or.inl (Option.some.inj hstep ▸ rfl)
  | triggerEvLoop ev =>
      simp only [step, triggerEvLoop, Option.ite_none_right_eq_some, Option.some.injEq] at hstep
      exact Or.inl (hstep.2 ▸ rfl)
  | interrupt =>
      simp only [step, interrupt] at hstep
      split at hstep
      · exact Or.inr (Option.some.inj hstep ▸ rfl)
      · cases hstep
  | callbackTimerAdd tv =>
      simp only [step, callbackTimerAdd] at hstep
      split at hstep
      · exact Or.inl (Option.some.inj hstep ▸ rfl)
      · cases hstep
  | loop => exact absurd rfl haction

theorem Elapsing.step {since last : Int} (hs : Elapsing since last s) (hkept : s.Kept)
    {action : EventAction} (hstep : s.step action = some s') : Elapsing since last s' := by
  have hclock := Int.le_trans hs.clock (evolves_step hkept hstep).clock
  by_cases haction : action = .loop
  · subst haction
    obtain ⟨htimeout, hselect⟩ := point_of_loop hstep
    exact ⟨hclock, fun now ptv h => htimeout now ptv h ▸ hs.clock,
      fun now ptv entered h => Or.inl (hs.timeout now ptv (hselect now ptv entered h))⟩
  · rcases point_of_step hstep haction with hpoint | hpoint
    · exact ⟨hclock, fun now ptv h => hs.timeout now ptv (hpoint ▸ h),
        fun now ptv entered h => hs.select now ptv entered (hpoint ▸ h)⟩
    · refine ⟨hclock, fun now ptv h => ?_, fun now ptv entered h => ?_⟩
      · rw [hpoint] at h
        cases h
      · rw [hpoint] at h
        cases h

/-- Once the timeouts from before the deadline are over, a due timer in the list does
not let the loop block. -/
theorem Due.not_blocked (hs : Due ev s) (hev : ev ∈ s.timer_list) {since last : Int}
    (helapsing : Elapsing since last s) (hsince : ev.timeout.toUs < since)
    (hlast : last ≤ s.clock.toUs) : ¬ s.Blocked := by
  intro hblocked
  cases hpoint : s.point with
  | select now ptv entered =>
      have hwaiting := hs.kept.waiting
      rw [Waiting, hpoint] at hwaiting
      rcases hs.kept.covered_of_blocked hpoint hblocked hev with hwriter | ⟨tv, htv, hle⟩
      · exact hs.written hwriter
      · rw [Blocked, hpoint] at hblocked
        have hlater := hblocked.2 tv htv
        rcases helapsing.select now ptv entered hpoint with hnow | hold
        · omega
        · have hend := hold tv htv
          omega
  | calcNextTimeout | firstTimer | timeout | userTimerCallback | processTimeouts
  | processReadReadies | firePending | processWakeupCallback =>
      rw [Blocked, hpoint] at hblocked
      exact hblocked

theorem kept_of_reachable {clock : Timeval} {wakeupBytes : Nat}
    (hreach : (system clock wakeupBytes).Reachable s) : s.Kept := by
  have hstep : ∀ (s : EventLoop) (action : EventAction) (s' : EventLoop), s.Kept →
      s.step action = some s' → s'.Kept := fun _ _ _ hs h => kept_step hs h
  exact hreach.invariant (kept_initial clock wakeupBytes) hstep

namespace FairRun

variable {clock : Timeval} {wakeupBytes : Nat} (run : FairRun clock wakeupBytes)

theorem kept (i : Nat) : (run.state i).Kept := kept_of_reachable (run.reachable i)

/-- What steps that evolve the state keep is kept from any moment on. -/
theorem stable (property : EventLoop → Prop)
    (hstep : ∀ s action s', s.Kept → property s → s.step action = some s' → property s')
    {i j : Nat} (hij : i ≤ j) (hi : property (run.state i)) : property (run.state j) := by
  have hboth := run.toInfiniteRun.stable (fun s => s.Kept ∧ property s)
    (fun s action s' hs h => ⟨kept_step hs.1 h, hstep s action s' hs.1 hs.2 h⟩) hij ⟨run.kept i, hi⟩
  exact hboth.2

theorem clock_le {i j : Nat} (hij : i ≤ j) :
    (run.state i).clock.toUs ≤ (run.state j).clock.toUs :=
  run.stable (fun s => (run.state i).clock.toUs ≤ s.clock.toUs)
    (fun _ _ _ hs hle hstep => Int.le_trans hle (evolves_step hs hstep).clock) hij (Int.le_refl _)

theorem mem_timers {i j : Nat} (hij : i ≤ j) (hev : ev ∈ (run.state i).timers) :
    ev ∈ (run.state j).timers :=
  run.stable (fun s => ev ∈ s.timers)
    (fun _ _ _ hs hmem hstep => (evolves_step hs hstep).timers ev hmem) hij hev

theorem due_of_le {i j : Nat} (hij : i ≤ j) (hdue : Due ev (run.state i)) : Due ev (run.state j) :=
  run.stable (Due ev) (fun _ _ _ _ hs hstep => hs.step hstep) hij hdue

/-- Time passes and writers write until a timer is due. -/
theorem exists_due {i : Nat} (hev : ev ∈ (run.state i).timers) : ∃ j, Due ev (run.state j) := by
  obtain ⟨j, hij, hover⟩ := run.time_passes i ev.timeout.toUs
  obtain ⟨k, hjk, hwritten⟩ : ∃ k, j ≤ k ∧ ev ∉ (run.state k).writers := by
    by_cases hwriter : ev ∈ (run.state j).writers
    · exact run.writers_write j ev hwriter
    · exact ⟨j, Nat.le_refl j, hwriter⟩
  exact ⟨k, run.kept k, run.mem_timers (Nat.le_trans hij hjk) hev,
    Int.lt_of_lt_of_le hover (run.clock_le hjk), hwritten⟩

/-- A loop that is blocked now has, after some time, no timeout from before. -/
theorem exists_elapsing {i : Nat} (hblocked : (run.state i).Blocked) (us : Int)
    (hus : us ≤ (run.state i).clock.toUs) :
    ∃ last j, i ≤ j ∧ last ≤ (run.state j).clock.toUs ∧ Elapsing us last (run.state j) := by
  obtain ⟨now, ptv, entered, hpoint⟩ :
      ∃ now ptv entered, (run.state i).point = .select now ptv entered := by
    unfold Blocked at hblocked
    split at hblocked
    · exact ⟨_, _, _, ‹_›⟩
    · exact hblocked.elim
  let last := ptv.elim us fun tv => entered.toUs + tv.toUs
  have helapsing : Elapsing us last (run.state i) := by
    refine ⟨hus, fun now' ptv' h => ?_, fun now' ptv' entered' h => ?_⟩
    · rw [hpoint] at h
      cases h
    · rw [hpoint] at h
      cases h
      refine Or.inr fun tv htv => ?_
      obtain rfl := htv
      exact Int.le_refl _
  obtain ⟨j, hij, hlast⟩ := run.time_passes i last
  exact ⟨last, j, hij, Int.le_of_lt hlast,
    run.stable (Elapsing us last) (fun _ _ _ hs h hstep => h.step hs hstep) hij helapsing⟩

/-- The loop looks for expired timers again while a due timer is in the list. -/
theorem exists_atTimeouts {i : Nat} (hdue : Due ev (run.state i))
    (hlist : ∀ j, i ≤ j → ev ∈ (run.state j).timer_list) :
    ∃ j, i ≤ j ∧ (run.state j).AtTimeouts := by
  by_contra hnever
  push Not at hnever
  have hblocks : ∀ j, i ≤ j → ∃ k, j ≤ k ∧ (run.state k).Blocked := fun j hij => by
    obtain ⟨k, hjk, hreturns⟩ := run.select_returns j
    exact ⟨k, hjk, hreturns.resolve_left (hnever k (Nat.le_trans hij hjk))⟩
  obtain ⟨j, hij, hblocked⟩ := hblocks i (Nat.le_refl i)
  obtain ⟨last, k, hjk, hlast, helapsing⟩ :=
    run.exists_elapsing hblocked _ (run.clock_le hij)
  obtain ⟨m, hkm, hagain⟩ := hblocks k (Nat.le_trans hij hjk)
  have him : i ≤ m := Nat.le_trans hij (Nat.le_trans hjk hkm)
  have hstill := run.stable (Elapsing _ last) (fun _ _ _ hs h hstep => h.step hs hstep) hkm
    helapsing
  exact (run.due_of_le him hdue).not_blocked (hlist m him) hstill hdue.past
    (Int.le_trans hlast (run.clock_le hkm)) hagain

theorem exists_iteration_end (i : Nat) :
    ∃ j, i ≤ j ∧ (run.state j).pending_list = [] ∧ ¬ (run.state j).AtTimeouts := by
  obtain ⟨j, hij, hend⟩ := run.iteration_ends i
  have hwaiting := (run.kept j).waiting
  refine ⟨j, hij, ?_⟩
  rcases hend with hpoint | hblocked
  · rw [Waiting, hpoint] at hwaiting
    refine ⟨hwaiting, ?_⟩
    simp [AtTimeouts, hpoint]
  · unfold Blocked at hblocked
    split at hblocked
    · rename_i hpoint
      rw [Waiting, hpoint] at hwaiting
      refine ⟨hwaiting.1, ?_⟩
      simp [AtTimeouts, hpoint]
    · exact hblocked.elim

/-- A due timer is taken off the list. -/
theorem exists_notMem {i : Nat} (hdue : Due ev (run.state i)) :
    ∃ j, i ≤ j ∧ ev ∉ (run.state j).timer_list := by
  by_contra hlist
  push Not at hlist
  obtain ⟨j, hij, hat⟩ := run.exists_atTimeouts hdue hlist
  obtain ⟨k, hjk, -, hleft⟩ := run.exists_iteration_end j
  obtain ⟨m, hjm, -, ⟨readable, hpoint⟩, hnext⟩ := run.exists_last hjk hat hleft
  have him := Nat.le_trans hij hjm
  have heq := (eq_processTimeouts_of_step hpoint (run.next m)).resolve_left hnext
  refine (run.due_of_le him hdue).notMem_processTimeouts readable ?_
  exact heq ▸ hlist (m + 1) (Nat.le_succ_of_le him)

/-- Every timer fires. -/
theorem exists_fired {i : Nat} (hev : ev ∈ (run.state i).timers) :
    ∃ j, ∃ firing ∈ (run.state j).fired, firing.ev = ev := by
  obtain ⟨j, hdue⟩ := run.exists_due hev
  obtain ⟨k, hjk, hnot⟩ := run.exists_notMem hdue
  obtain ⟨m, hkm, hpending, -⟩ := run.exists_iteration_end k
  have hgone : Due ev (run.state m) ∧ ev ∉ (run.state m).timer_list :=
    run.stable (fun s => Due ev s ∧ ev ∉ s.timer_list)
      (fun _ _ _ _ hs hstep => ⟨hs.1.step hstep, hs.1.notMem_step hs.2 hstep⟩) hkm
      ⟨run.due_of_le hjk hdue, hnot⟩
  have htaken := (List.mem_append.mp hgone.1.added).resolve_right hgone.2
  rw [taken, pendingTimers, hpending, List.filterMap_nil, List.append_nil] at htaken
  exact ⟨m, List.mem_map.mp htaken⟩

end FairRun

/-- Every timer that was added fires once, no earlier than its deadline and in the
order of the deadlines; a blocked loop is late by no more than it took to get to
`select`, unless a writer is still to write. -/
theorem timers_fire_in_order (clock : Timeval) (wakeupBytes : Nat) :
    (∀ s, (system clock wakeupBytes).Reachable s → s.InOrder ∧ s.WakesUpAfterDelay) ∧
      ∀ (run : FairRun clock wakeupBytes) (i : Nat), ∀ ev ∈ (run.state i).timers,
        ∃ j, ∃ firing ∈ (run.state j).fired, firing.ev = ev := by
  refine ⟨fun s hreach => ?_, fun run i ev hev => run.exists_fired hev⟩
  have hkept := kept_of_reachable hreach
  exact ⟨hkept.inOrder, hkept.wakesUpAfterDelay⟩

/-- So many seconds. -/
def seconds (sec : Nat) : RelativeTime :=
  { Timeval.zero with tv_sec := sec, sec_nonneg := Int.natCast_nonneg sec }

/-- A loop that entered `select` two seconds after it read the clock, for a timer that
is due five seconds after the reading. -/
def lateLoop : EventLoop where
  clock := (seconds 2).toTimeval
  timer_list := [⟨0, (seconds 5).toTimeval⟩]
  pending_list := []
  wakeupBytes := 0
  writers := []
  added := 1
  point := .select .zero (some (seconds 5).toTimeval) (seconds 2).toTimeval
  fired := []

/-- The late loop wakes up two seconds after the deadline. -/
theorem not_wakesUp : ¬ ∀ s, (system .zero 0).Reachable s → s.WakesUp := by
  intro hwakes
  have hreach : (system .zero 0).Reachable lateLoop :=
    ⟨[.timerAdd (seconds 5), .triggerEvLoop ⟨0, (seconds 5).toTimeval⟩] ++
      List.replicate 12 .loop ++ [.tick (seconds 2), .loop], by decide⟩
  have hblocked : lateLoop.Blocked := by
    refine ⟨rfl, fun tv htv => ?_⟩
    obtain rfl := Option.mem_some_iff.mp htv
    decide
  rcases hwakes _ hreach _ _ _ rfl hblocked _ List.mem_cons_self with
    ⟨tv, htv, hle⟩ | ⟨writer, hwriter, -⟩
  · obtain rfl := Option.mem_some_iff.mp htv
    exact absurd hle (by decide)
  · cases hwriter

/-- A loop whose only timer fired after a second, so many seconds later. -/
def steadyLoop (sec : Nat) : EventLoop where
  clock := (seconds (1 + sec)).toTimeval
  timer_list := []
  pending_list := []
  wakeupBytes := 0
  writers := []
  added := 1
  point := .select (seconds 1).toTimeval none (seconds 1).toTimeval
  fired := [⟨⟨0, .zero⟩, (seconds 1).toTimeval⟩]

theorem toUs_steadyLoop (sec : Nat) : (steadyLoop sec).clock.toUs = (1 + sec) * 1000000 := by
  simp [steadyLoop, seconds, Timeval.toUs, Timeval.zero]

/-- From then on only time passes. -/
def steadyRun : InfiniteRun (system .zero 0) (steadyLoop 0) where
  state := steadyLoop
  action _ := .tick (seconds 1)
  start := rfl
  next sec := by simp [system, step, steadyLoop, seconds, Timeval.timeradd, Timeval.zero, Int.add_assoc]

theorem steadyLoop_blocked (sec : Nat) : (steadyLoop sec).Blocked :=
  ⟨rfl, fun _ htv => absurd htv (Option.not_mem_none _)⟩

/-- Fair runs exist, and timers are added in them. -/
theorem exists_fairRun :
    ∃ (run : FairRun .zero 0) (i : Nat) (ev : Timer), ev ∈ (run.state i).timers := by
  have hstart : (system .zero 0).run ([.timerAdd (seconds 0), .triggerEvLoop ⟨0, .zero⟩,
      .tick (seconds 1)] ++ List.replicate 15 .loop) = some (steadyLoop 0) := by decide
  obtain ⟨run, hrun⟩ := steadyRun.exists_append hstart
  have hstate : ∀ i, ∃ j, i ≤ j ∧ run.state j = steadyLoop i := fun i =>
    ⟨_, Nat.le_add_left i _, hrun i⟩
  have hlater : ∀ (property : EventLoop → Prop) (i : Nat), property (steadyLoop i) →
      ∃ j, i ≤ j ∧ property (run.state j) := fun property i hi => by
    obtain ⟨j, hij, hj⟩ := hstate i
    exact ⟨j, hij, hj ▸ hi⟩
  refine ⟨{ run with
    time_passes := fun i us => ?_
    writers_write := fun i ev _ => hlater (fun s => ev ∉ s.writers) i List.not_mem_nil
    select_returns := fun i => hlater (fun s => s.AtTimeouts ∨ s.Blocked) i
      (Or.inr (steadyLoop_blocked i))
    iteration_ends := fun i => hlater (fun s => s.point = .calcNextTimeout ∨ s.Blocked) i
      (Or.inr (steadyLoop_blocked i)) }, ?_⟩
  · obtain ⟨j, hij, hj⟩ := hstate (i + us.toNat)
    refine ⟨j, Nat.le_trans (Nat.le_add_right i _) hij, ?_⟩
    rw [hj, toUs_steadyLoop]
    omega
  · obtain ⟨j, -, hj⟩ := hstate 0
    exact ⟨j, ⟨0, .zero⟩, hj ▸ List.mem_cons_self⟩

end EventLoop

end Serrano.Ril
