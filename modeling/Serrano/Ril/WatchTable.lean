import Mathlib.Data.List.FinRange
import Mathlib.Logic.Function.Basic
import Serrano.Foundation.Transition

/-! # The table of watched events

Events with a descriptor are kept in a table of a fixed size. Each event knows its
place in the table; the descriptors are also in the set that is passed to `select`,
and `nfds` is above them all. Every access is made under one mutex, so an operation
is one step. The history tells which events are watched.
-/

namespace Serrano.Ril

/-- `MAX_FD_EVENTS` -/
def maxFdEvents : Nat := 8

/-- `FD_SETSIZE`, the number of descriptors that an `fd_set` has room for. -/
def fdSetSize : Nat := 1024

/-- The events of a program, after `ril_event_set`, with descriptors of their own. -/
structure EventSet (Event : Type) where
  fd : Event → Fin fdSetSize
  persist : Event → Bool
  fd_injective : Function.Injective fd

inductive WatchEntry (Event : Type)
  | added (ev : Event)
  | deleted (ev : Event)
  | delivered (ev : Event)

structure WatchState (Event : Type) where
  watch_table : Fin maxFdEvents → Option Event
  index : Event → Int
  readFds : Fin fdSetSize → Bool
  nfds : Nat
  history : List (WatchEntry Event)

/-- `select` has filled the set of descriptors and returned a number. -/
inductive WatchAction (Event : Type)
  | ril_event_add (ev : Event)
  | ril_event_del (ev : Event)
  | processReadReadies (rfds : Fin fdSetSize → Bool) (n : Nat)

namespace EventSet

variable {Event : Type} (events : EventSet Event)

/-- The descriptor of an entry of the table, if it is higher. -/
def higherFd (n : Nat) : Option Event → Nat
  | some rev => if n < (events.fd rev).val then (events.fd rev).val else n
  | none => n

/-- The highest descriptor in the table, or zero. -/
def highestFd (watch_table : Fin maxFdEvents → Option Event) : Nat :=
  (List.finRange maxFdEvents).foldl (fun n i => events.higherFd n (watch_table i)) 0

variable {events}

theorem le_higherFd (n : Nat) (entry : Option Event) : n ≤ events.higherFd n entry := by
  cases entry with
  | none => exact Nat.le_refl n
  | some rev =>
      rw [higherFd]
      split
      next hlt => exact Nat.le_of_lt hlt
      next => exact Nat.le_refl n

theorem fd_le_higherFd (n : Nat) (rev : Event) :
    (events.fd rev).val ≤ events.higherFd n (some rev) := by
  rw [higherFd]
  split
  next => exact Nat.le_refl _
  next hge => exact Nat.not_lt.mp hge

/-- The loop over the table passes every entry and never gets lower. -/
theorem fd_le_highestFd {watch_table : Fin maxFdEvents → Option Event} {i : Fin maxFdEvents}
    {rev : Event} (h : watch_table i = some rev) :
    (events.fd rev).val ≤ events.highestFd watch_table := by
  have hloop : ∀ (places : List (Fin maxFdEvents)) (n : Nat),
      ((events.fd rev).val ≤ n ∨ i ∈ places) →
        (events.fd rev).val ≤
          places.foldl (fun n i => events.higherFd n (watch_table i)) n := by
    intro places
    induction places with
    | nil =>
        rintro n (hle | hmem)
        · exact hle
        · cases hmem
    | cons place rest ih =>
        intro n hcases
        apply ih
        obtain hle | hmem := hcases
        · exact .inl (Nat.le_trans hle (le_higherFd n _))
        · obtain rfl | hrest := List.mem_cons.mp hmem
          · have hle : (events.fd rev).val ≤ events.higherFd n (some rev) :=
              fd_le_higherFd n rev
            rw [← h] at hle
            exact .inl hle
          · exact .inr hrest
  exact hloop _ 0 (.inr (List.mem_finRange i))

variable [DecidableEq Event] (events)

/-- Whether an event is watched after an entry. -/
def update (ev : Event) (watched : Bool) : WatchEntry Event → Bool
  | .added other => if other = ev then true else watched
  | .deleted other => if other = ev then false else watched
  | .delivered other => if other = ev ∧ events.persist ev = false then false else watched

/-- An event is watched when it was added, not deleted, and not delivered as a one-shot event. -/
def Watched (history : List (WatchEntry Event)) (ev : Event) : Prop :=
  history.foldl (events.update ev) false = true

instance (history : List (WatchEntry Event)) (ev : Event) :
    Decidable (events.Watched history ev) :=
  inferInstanceAs (Decidable (_ = true))

variable (s : WatchState Event)

def removeWatch (ev : Event) (index : Fin maxFdEvents) : WatchState Event :=
  let watch_table := Function.update s.watch_table index none
  { s with
    watch_table := watch_table
    index := Function.update s.index ev (-1)
    readFds := Function.update s.readFds (events.fd ev) false
    nfds := if (events.fd ev).val + 1 = s.nfds then events.highestFd watch_table + 1 else s.nfds }

/-- The first place that is free, if any. -/
def ril_event_add (ev : Event) : WatchState Event :=
  match (List.finRange maxFdEvents).find? fun i => (s.watch_table i).isNone with
  | some i =>
      { s with
        watch_table := Function.update s.watch_table i (some ev)
        index := Function.update s.index ev i
        readFds := Function.update s.readFds (events.fd ev) true
        nfds := if s.nfds ≤ (events.fd ev).val then (events.fd ev).val + 1 else s.nfds }
  | none => s

def ril_event_del (ev : Event) : WatchState Event :=
  if h : 0 ≤ s.index ev ∧ s.index ev < maxFdEvents then
    events.removeWatch s ev ⟨(s.index ev).toNat, (Int.toNat_lt h.1).mpr h.2⟩
  else s

def record (entry : WatchEntry Event) : WatchState Event :=
  { s with history := s.history ++ [entry] }

/-- The event is added to the list of pending events, which the history stands for. -/
def deliver (rev : Event) (i : Fin maxFdEvents) : WatchState Event :=
  let s := record s (.delivered rev)
  if events.persist rev = false then events.removeWatch s rev i else s

/-- The loop body of `processReadReadies`, with the number that is left. -/
def readReady (rfds : Fin fdSetSize → Bool) (left : WatchState Event × Nat)
    (i : Fin maxFdEvents) : WatchState Event × Nat :=
  match left.1.watch_table i with
  | some rev =>
      if 0 < left.2 ∧ rfds (events.fd rev) = true then
        (events.deliver left.1 rev i, left.2 - 1)
      else left
  | none => left

def processReadReadies (rfds : Fin fdSetSize → Bool) (n : Nat) : WatchState Event :=
  ((List.finRange maxFdEvents).foldl (events.readReady rfds) (s, n)).1

/-- An event is added only while it is not watched. -/
def step : WatchAction Event → Option (WatchState Event)
  | .ril_event_add ev =>
      if events.Watched s.history ev then none
      else some (record (events.ril_event_add s ev) (.added ev))
  | .ril_event_del ev => some (record (events.ril_event_del s ev) (.deleted ev))
  | .processReadReadies rfds n => some (events.processReadReadies s rfds n)

def system : Transition.System (WatchState Event) (WatchAction Event) where
  init :=
    { watch_table := fun _ => none
      index := fun _ => -1
      readFds := fun _ => false
      nfds := 0
      history := [] }
  step := events.step

/-- The table, the places, the descriptors and `nfds` are those of the watched events. -/
structure Consistent : Prop where
  watched_iff : ∀ ev, events.Watched s.history ev ↔ ∃ i, s.watch_table i = some ev
  index_eq : ∀ i ev, s.watch_table i = some ev → s.index ev = i.val
  readFds_iff : ∀ fd, s.readFds fd = true ↔ ∃ ev, events.Watched s.history ev ∧ events.fd ev = fd
  lt_nfds : ∀ ev, events.Watched s.history ev → (events.fd ev).val < s.nfds

/-- An event that is not in the table has no place. -/
structure Coherent : Prop extends Consistent events s where
  index_of_absent : ∀ ev, (∀ i, s.watch_table i ≠ some ev) → s.index ev = -1

/-- The table has room for an event that is to be added. -/
def HasRoom : WatchAction Event → Prop
  | .ril_event_add ev => events.Watched s.history ev ∨ ∃ i, s.watch_table i = none
  | .ril_event_del _ => True
  | .processReadReadies .. => True

variable {events s}

theorem watched_append {history : List (WatchEntry Event)} {entry : WatchEntry Event}
    {ev : Event} :
    events.Watched (history ++ [entry]) ev ↔
      events.update ev (history.foldl (events.update ev) false) entry = true := by
  rw [Watched, List.foldl_append, List.foldl_cons, List.foldl_nil]

theorem watched_added {history : List (WatchEntry Event)} {ev other : Event} :
    events.Watched (history ++ [.added ev]) other ↔
      other = ev ∨ events.Watched history other := by
  rw [watched_append, update]
  split
  next heq => exact iff_of_true rfl (.inl heq.symm)
  next hne => exact ⟨.inr, fun h => h.resolve_left (Ne.symm hne)⟩

theorem watched_deleted {history : List (WatchEntry Event)} {ev other : Event} :
    events.Watched (history ++ [.deleted ev]) other ↔
      other ≠ ev ∧ events.Watched history other := by
  rw [watched_append, update]
  split
  next heq => exact iff_of_false Bool.false_ne_true fun h => h.1 heq.symm
  next hne => exact ⟨fun h => ⟨Ne.symm hne, h⟩, And.right⟩

theorem watched_delivered {history : List (WatchEntry Event)} {ev other : Event} :
    events.Watched (history ++ [.delivered ev]) other ↔
      ¬ (ev = other ∧ events.persist other = false) ∧ events.Watched history other := by
  rw [watched_append, update]
  split
  next hboth => exact iff_of_false Bool.false_ne_true fun h => h.1 hboth
  next hnot => exact ⟨fun h => ⟨hnot, h⟩, And.right⟩

namespace Coherent

/-- Two places hold different events. -/
theorem place_unique (h : Coherent events s) {i j : Fin maxFdEvents} {ev : Event}
    (hi : s.watch_table i = some ev) (hj : s.watch_table j = some ev) : i = j := by
  have hindex := (h.index_eq i ev hi).symm.trans (h.index_eq j ev hj)
  exact Fin.ext (Int.ofNat_inj.mp hindex)

/-- An entry that does not change what is watched. -/
theorem record (h : Coherent events s) {entry : WatchEntry Event}
    (hentry : ∀ other, events.Watched (s.history ++ [entry]) other ↔
      events.Watched s.history other) : Coherent events (record s entry) where
  watched_iff ev := (hentry ev).trans (h.watched_iff ev)
  index_eq := h.index_eq
  readFds_iff fd := by
    rw [EventSet.record]
    simp only [hentry]
    exact h.readFds_iff fd
  lt_nfds ev hev := h.lt_nfds ev ((hentry ev).mp hev)
  index_of_absent := h.index_of_absent

/-- An entry after which one event is not watched any more, with its removal. -/
theorem removeWatch (h : Coherent events s) {i : Fin maxFdEvents} {ev : Event}
    (hi : s.watch_table i = some ev) {entry : WatchEntry Event}
    (hentry : ∀ other, events.Watched (s.history ++ [entry]) other ↔
      other ≠ ev ∧ events.Watched s.history other) :
    Coherent events (EventSet.record (events.removeWatch s ev i) entry) := by
  have htable : ∀ j other, Function.update s.watch_table i none j = some other ↔
      other ≠ ev ∧ s.watch_table j = some other := by
    intro j other
    by_cases hj : j = i
    · subst hj
      rw [Function.update_self, hi]
      refine iff_of_false (fun hnone => by cases hnone) fun hboth => ?_
      exact hboth.1 (Option.some.inj hboth.2).symm
    · rw [Function.update_of_ne hj]
      refine ⟨fun hother => ⟨?_, hother⟩, And.right⟩
      rintro rfl
      exact hj (h.place_unique hother hi)
  constructor
  · constructor
    · intro other
      refine (hentry other).trans ?_
      rw [h.watched_iff]
      simp only [EventSet.record, EventSet.removeWatch, htable]
      exact ⟨fun ⟨hne, j, hj⟩ => ⟨j, hne, hj⟩, fun ⟨j, hne, hj⟩ => ⟨hne, j, hj⟩⟩
    · intro j other hother
      obtain ⟨hne, hj⟩ := (htable j other).mp hother
      exact (Function.update_of_ne hne _ _).trans (h.index_eq j other hj)
    · intro fd
      simp only [EventSet.record, EventSet.removeWatch, hentry]
      by_cases hfd : fd = events.fd ev
      · subst hfd
        rw [Function.update_self]
        refine iff_of_false Bool.false_ne_true ?_
        rintro ⟨other, ⟨hne, -⟩, hsame⟩
        exact hne (events.fd_injective hsame)
      · rw [Function.update_of_ne hfd, h.readFds_iff]
        constructor
        · rintro ⟨other, hother, rfl⟩
          exact ⟨other, ⟨fun hsame => hfd (congrArg events.fd hsame), hother⟩, rfl⟩
        · rintro ⟨other, ⟨-, hother⟩, hsame⟩
          exact ⟨other, hother, hsame⟩
    · intro other hother
      obtain ⟨hne, hwatched⟩ := (hentry other).mp hother
      obtain ⟨j, hj⟩ := (h.watched_iff other).mp hwatched
      simp only [EventSet.record, EventSet.removeWatch]
      split
      next => exact Nat.lt_succ_of_le (fd_le_highestFd ((htable j other).mpr ⟨hne, hj⟩))
      next => exact h.lt_nfds other hwatched
  · intro other habsent
    by_cases hother : other = ev
    · subst hother
      exact Function.update_self _ _ _
    · refine (Function.update_of_ne hother _ _).trans (h.index_of_absent other fun j hj => ?_)
      exact habsent j ((htable j other).mpr ⟨hother, hj⟩)

/-- The first free place is taken. -/
theorem ril_event_add (h : Coherent events s) {ev : Event}
    (hev : ¬ events.Watched s.history ev) (hroom : ∃ i, s.watch_table i = none) :
    Coherent events (EventSet.record (events.ril_event_add s ev) (.added ev)) := by
  rw [EventSet.ril_event_add]
  split
  next i hfind =>
    have hnone := List.find?_some hfind
    have hfree : s.watch_table i = none := Option.isNone_iff_eq_none.mp hnone
    have htable : ∀ j other, Function.update s.watch_table i (some ev) j = some other ↔
        (j = i ∧ other = ev) ∨ s.watch_table j = some other := by
      intro j other
      by_cases hj : j = i
      · subst hj
        rw [Function.update_self, hfree, Option.some.injEq]
        exact ⟨fun heq => .inl ⟨rfl, heq.symm⟩, fun hor => by
          obtain ⟨-, heq⟩ | hnone := hor
          · exact heq.symm
          · cases hnone⟩
      · rw [Function.update_of_ne hj]
        exact ⟨.inr, fun hor => hor.resolve_left fun hboth => hj hboth.1⟩
    have hne : ∀ j other, s.watch_table j = some other → other ≠ ev := by
      rintro j other hj rfl
      exact hev ((h.watched_iff other).mpr ⟨j, hj⟩)
    constructor
    · constructor
      · intro other
        refine watched_added.trans ?_
        rw [h.watched_iff]
        simp only [EventSet.record, htable]
        constructor
        · rintro (heq | ⟨j, hj⟩)
          · exact ⟨i, .inl ⟨rfl, heq⟩⟩
          · exact ⟨j, .inr hj⟩
        · rintro ⟨j, ⟨-, heq⟩ | hj⟩
          · exact .inl heq
          · exact .inr ⟨j, hj⟩
      · intro j other hother
        obtain ⟨rfl, rfl⟩ | hj := (htable j other).mp hother
        · exact Function.update_self _ _ _
        · exact (Function.update_of_ne (hne j other hj) _ _).trans (h.index_eq j other hj)
      · intro fd
        simp only [EventSet.record, watched_added]
        by_cases hfd : fd = events.fd ev
        · subst hfd
          rw [Function.update_self]
          exact iff_of_true rfl ⟨ev, .inl rfl, rfl⟩
        · rw [Function.update_of_ne hfd, h.readFds_iff]
          constructor
          · rintro ⟨other, hother, hsame⟩
            exact ⟨other, .inr hother, hsame⟩
          · rintro ⟨other, rfl | hother, hsame⟩
            · exact absurd hsame.symm hfd
            · exact ⟨other, hother, hsame⟩
      · intro other hother
        simp only [EventSet.record]
        obtain rfl | hwatched := watched_added.mp hother
        · split
          next => exact Nat.lt_succ_self _
          next hgt => exact Nat.not_le.mp hgt
        · have hlt := h.lt_nfds other hwatched
          split
          next hle => exact Nat.lt_succ_of_lt (Nat.lt_of_lt_of_le hlt hle)
          next => exact hlt
    · intro other habsent
      have hother : other ≠ ev := by
        rintro rfl
        exact habsent i ((htable i other).mpr (.inl ⟨rfl, rfl⟩))
      refine (Function.update_of_ne hother _ _).trans (h.index_of_absent other fun j hj => ?_)
      exact habsent j ((htable j other).mpr (.inr hj))
  next hfind =>
    obtain ⟨i, hi⟩ := hroom
    have hsome := List.find?_eq_none.mp hfind i (List.mem_finRange i)
    rw [hi] at hsome
    exact absurd rfl hsome

/-- An event with a place is in the table there. -/
theorem place_of_index (h : Coherent events s) {ev : Event} (hnonneg : 0 ≤ s.index ev)
    (hlt : (s.index ev).toNat < maxFdEvents) :
    s.watch_table ⟨(s.index ev).toNat, hlt⟩ = some ev := by
  have hpresent : ∃ i, s.watch_table i = some ev := by
    by_contra habsent
    rw [h.index_of_absent ev fun i hi => habsent ⟨i, hi⟩] at hnonneg
    exact absurd hnonneg (by decide)
  obtain ⟨i, hi⟩ := hpresent
  have hplace : (⟨(s.index ev).toNat, hlt⟩ : Fin maxFdEvents) = i := by
    apply Fin.ext
    change (s.index ev).toNat = i.val
    rw [h.index_eq i ev hi, Int.toNat_natCast]
  rw [hplace, hi]

theorem ril_event_del (h : Coherent events s) (ev : Event) :
    Coherent events (EventSet.record (events.ril_event_del s ev) (.deleted ev)) := by
  rw [EventSet.ril_event_del]
  split
  next hplace =>
    exact h.removeWatch (h.place_of_index hplace.1 _) fun other => watched_deleted
  next hplace =>
    refine h.record fun other => watched_deleted.trans ⟨And.right, fun hother => ⟨?_, hother⟩⟩
    rintro rfl
    obtain ⟨i, hi⟩ := (h.watched_iff other).mp hother
    rw [h.index_eq i other hi] at hplace
    exact hplace ⟨Int.natCast_nonneg _, Int.ofNat_lt.mpr i.isLt⟩

theorem deliver (h : Coherent events s) {rev : Event} {i : Fin maxFdEvents}
    (hi : s.watch_table i = some rev) : Coherent events (events.deliver s rev i) := by
  rw [EventSet.deliver]
  split
  next honce =>
    refine h.removeWatch hi fun other => watched_delivered.trans (and_congr_left' ?_)
    refine not_congr ⟨fun hboth => hboth.1.symm, ?_⟩
    rintro rfl
    exact ⟨rfl, honce⟩
  next hpersist =>
    refine h.record fun other => watched_delivered.trans ⟨And.right, fun hother => ⟨?_, hother⟩⟩
    rintro ⟨rfl, honce⟩
    exact hpersist honce

/-- Every entry of the table is looked at once, whatever was removed before. -/
theorem processReadReadies (h : Coherent events s) (rfds : Fin fdSetSize → Bool) (n : Nat) :
    Coherent events (events.processReadReadies s rfds n) := by
  have hloop : ∀ (places : List (Fin maxFdEvents)) (left : WatchState Event × Nat),
      Coherent events left.1 →
        Coherent events (places.foldl (events.readReady rfds) left).1 := by
    intro places
    induction places with
    | nil => exact fun left hleft => hleft
    | cons place rest ih =>
        intro left hleft
        apply ih
        rw [readReady]
        split
        next rev hrev =>
          split
          next => exact hleft.deliver hrev
          next => exact hleft
        next => exact hleft
  exact hloop _ (s, n) h

end Coherent

theorem coherent_init : Coherent events (system events).init where
  watched_iff ev := iff_of_false Bool.false_ne_true fun ⟨_, hi⟩ => by cases hi
  index_eq i ev hi := by cases hi
  readFds_iff fd := iff_of_false Bool.false_ne_true fun ⟨_, hev, _⟩ => by cases hev
  lt_nfds ev hev := by cases hev
  index_of_absent ev _ := rfl

theorem coherent_step {next : WatchState Event} {action : WatchAction Event}
    (h : Coherent events s) (hroom : events.HasRoom s action)
    (hstep : events.step s action = some next) : Coherent events next := by
  cases action with
  | ril_event_add ev =>
      rw [step] at hstep
      split at hstep
      next => cases hstep
      next hev =>
        cases hstep
        exact h.ril_event_add hev (hroom.resolve_left hev)
  | ril_event_del ev =>
      cases hstep
      exact h.ril_event_del ev
  | processReadReadies rfds n =>
      cases hstep
      exact h.processReadReadies rfds n

/-- Without a free place, the event is dropped. -/
theorem ril_event_add_of_full {ev : Event} (hfull : ¬ ∃ i, s.watch_table i = none) :
    events.ril_event_add s ev = s := by
  rw [ril_event_add]
  split
  next i hfind =>
    have hnone := List.find?_some hfind
    exact absurd ⟨i, Option.isNone_iff_eq_none.mp hnone⟩ hfull
  next => rfl

/-- An event that finds no room is not watched: it has no place in the table, and `select` is
not asked for its descriptor. -/
theorem absent_of_full {ev : Event} (h : Consistent events s)
    (hev : ¬ events.Watched s.history ev) (hfull : ¬ ∃ i, s.watch_table i = none) :
    (∀ i, (events.ril_event_add s ev).watch_table i ≠ some ev) ∧
      (events.ril_event_add s ev).readFds (events.fd ev) = false := by
  rw [ril_event_add_of_full hfull]
  constructor
  · intro i hi
    exact hev ((h.watched_iff ev).mpr ⟨i, hi⟩)
  · rw [Bool.eq_false_iff, ne_eq, h.readFds_iff]
    rintro ⟨other, hother, hsame⟩
    exact hev (events.fd_injective hsame ▸ hother)

theorem not_consistent_of_full {ev : Event} (h : Consistent events s)
    (hev : ¬ events.Watched s.history ev) (hfull : ¬ ∃ i, s.watch_table i = none) :
    ¬ Consistent events (record (events.ril_event_add s ev) (.added ev)) := by
  intro hnext
  obtain ⟨i, hi⟩ := (hnext.watched_iff ev).mp (watched_added.mpr (.inl rfl))
  exact (absent_of_full h hev hfull).1 i hi

/-- The table describes the watched events throughout a run exactly when every event that is
added finds room. -/
theorem throughout_consistent_iff (events : EventSet Event) (actions : List (WatchAction Event)) :
    events.system.Throughout events.Consistent events.system.init actions ↔
      events.system.Guarded events.HasRoom events.system.init actions := by
  refine Transition.System.throughout_iff_guarded events.Coherent
    (fun _ h => h.toConsistent) (fun _ _ _ => coherent_step) ?_ coherent_init actions
  intro s action h hroom
  cases action with
  | ril_event_add ev =>
      obtain ⟨hev, hfull⟩ := not_or.mp hroom
      refine ⟨_, if_neg hev, not_consistent_of_full h.toConsistent hev hfull⟩
  | ril_event_del ev => exact absurd trivial hroom
  | processReadReadies rfds n => exact absurd trivial hroom

/-- Nine events with the descriptors from 0 to 8. -/
def nineEvents : EventSet (Fin 9) where
  fd ev := ⟨ev.val, Nat.lt_trans ev.isLt (by decide)⟩
  persist _ := true
  fd_injective _ _ h := Fin.ext (congrArg (fun fd : Fin fdSetSize => fd.val) h)

/-- The ninth event is not watched. -/
theorem not_consistent_nineEvents :
    ¬ nineEvents.system.Throughout nineEvents.Consistent nineEvents.system.init
      ((List.finRange 9).map .ril_event_add) := by
  refine Transition.System.not_throughout_of_any
    (fun s => decide (nineEvents.Watched s.history 8 ∧ ∀ i, s.watch_table i ≠ some 8)) ?_
    (by decide)
  intro s hcheck hconsistent
  obtain ⟨hwatched, habsent⟩ := of_decide_eq_true hcheck
  obtain ⟨i, hi⟩ := (hconsistent.watched_iff 8).mp hwatched
  exact habsent i hi

end EventSet

end Serrano.Ril
