import Mathlib.Algebra.Ring.Int.Defs
import Serrano.Foundation.RwLock
import Serrano.Foundation.Transition

/-! # Clearing the callbacks of a dead client

The radio service and the OEM hook service of a slot keep the callbacks of their
clients under one readers-writer lock. A thread that delivers with the lock held
and finds the client dead lets go of the lock, takes it for writing and clears
the callbacks, unless a counter says that they changed meanwhile. The critical
section of an installation is one step, since everything it touches is touched
under the lock only.
-/

namespace Serrano.Ril

inductive Service
  | radio
  | oemHook
  deriving DecidableEq

/-- The pointers of a service; `none` is `NULL`. The OEM hook service has no
callbacks of version 1.1. -/
structure Callbacks where
  response : Option Nat
  indication : Option Nat
  responseV1_1 : Option Nat
  indicationV1_1 : Option Nat
  deriving DecidableEq

def Callbacks.null : Callbacks := ⟨none, none, none, none⟩

/-- Which pointer a function uses. -/
inductive CallbackPointer
  | response
  | indication
  | responseV1_1
  | indicationV1_1

def Callbacks.get (callbacks : Callbacks) : CallbackPointer → Option Nat
  | .response => callbacks.response
  | .indication => callbacks.indication
  | .responseV1_1 => callbacks.responseV1_1
  | .indicationV1_1 => callbacks.indicationV1_1

/-- A call of one of these pointers that failed: the callbacks of its service at
that time, and the number of the installation they came from. Nothing reads
them. -/
structure Delivery where
  service : Service
  callbacks : Callbacks
  installation : Nat
  deriving DecidableEq

/-- Where a thread is: outside, inside a function that is called with the lock
held, or in `checkReturnStatus`. -/
inductive DeliveryPoint
  | outside
  | inside
  | failed (isRadioService : Bool) (delivery : Delivery)
  | noted (isRadioService : Bool) (counter : Int) (delivery : Delivery)
  | released (isRadioService : Bool) (counter : Int) (delivery : Delivery)
  | exclusive (isRadioService : Bool) (counter : Int) (delivery : Delivery)
  | checked
  | reacquire
  deriving DecidableEq

/-- Callbacks that were cleared: of which service, which ones, from which
installation, and the delivery because of which they were. -/
structure Clearing where
  service : Service
  callbacks : Callbacks
  installation : Nat
  delivery : Delivery
  deriving DecidableEq

/-- The services of a slot and the threads. -/
structure SlotServices where
  callbacks : Service → Callbacks
  counter : Service → Int
  lock : RwLock Nat
  threads : Nat → DeliveryPoint
  installation : Service → Nat
  clearings : List Clearing

/-- A step of a thread. A delivery comes with the pointer it uses and with
whether the client is alive, an installation with the results of `castFrom`. -/
inductive SlotAction
  | setRadioResponseFunctions (response indication castResponse castIndication : Option Nat)
  | setOemHookResponseFunctions (response indication : Option Nat)
  | rdlock
  | wrlock
  | deliver (service : Service) (pointer : CallbackPointer) (alive : Bool)
  | noteCounter
  | unlockForWriting
  | lockForWriting
  | resetCallbacks
  | unlockAfterReset
  | lockAgain
  | unlock

namespace SlotServices

variable (s : SlotServices) (thread : Nat)

def isRadio : Service → Bool
  | .radio => true
  | .oemHook => false

def ofFlag (isRadioService : Bool) : Service := if isRadioService then .radio else .oemHook

def goTo (point : DeliveryPoint) : SlotServices :=
  { s with threads := Function.update s.threads thread point }

/-- The counters are `int32_t`, and an overflow ends the process. -/
def increment (service : Service) : Option SlotServices :=
  if s.counter service = 2 ^ 31 - 1 then none
  else some { s with
    counter := Function.update s.counter service (s.counter service + 1) }

/-- The critical section of `setResponseFunctions` of either service. -/
def setResponseFunctions (service : Service) (callbacks : Callbacks) : Option SlotServices :=
  if s.threads thread = .outside then
    (s.lock.wrlock thread).bind fun _ =>
      { s with
        callbacks := Function.update s.callbacks service callbacks
        installation := Function.update s.installation service (s.installation service + 1)
      }.increment service
  else none

/-- The callbacks of version 1.1 are used when both casts succeed. -/
def radioCallbacks (response indication castResponse castIndication : Option Nat) : Callbacks :=
  if castResponse = none ∨ castIndication = none then ⟨response, indication, none, none⟩
  else ⟨response, indication, castResponse, castIndication⟩

/-- Entering a function with the lock held, for reading or for writing. -/
def enter (acquire : RwLock Nat → Nat → Option (RwLock Nat)) : Option SlotServices :=
  if s.threads thread = .outside then
    (acquire s.lock thread).map fun lock => { s with lock := lock }.goTo thread .inside
  else none

/-- A call through a pointer, if it is not `NULL`. -/
def deliver (service : Service) (pointer : CallbackPointer) (alive : Bool) :
    Option SlotServices :=
  if s.threads thread = .inside then
    if ((s.callbacks service).get pointer).isSome ∧ alive = false then
      some (s.goTo thread (.failed (isRadio service)
        ⟨service, s.callbacks service, s.installation service⟩))
    else some s
  else none

/-- What `checkReturnStatus` does under the write lock. -/
def reset (isRadioService : Bool) (counter : Int) (delivery : Delivery) :
    Option SlotServices :=
  let service := ofFlag isRadioService
  let clearing : Clearing :=
    ⟨service, s.callbacks service, s.installation service, delivery⟩
  if counter = s.counter service then
    { s with
      callbacks := Function.update s.callbacks service .null
      clearings := s.clearings ++ [clearing]
    }.increment service
  else some s

def step : Nat × SlotAction → Option SlotServices
  | (thread, .setRadioResponseFunctions response indication castResponse castIndication) =>
      s.setResponseFunctions thread .radio
        (radioCallbacks response indication castResponse castIndication)
  | (thread, .setOemHookResponseFunctions response indication) =>
      s.setResponseFunctions thread .oemHook ⟨response, indication, none, none⟩
  | (thread, .rdlock) => s.enter thread RwLock.rdlock
  | (thread, .wrlock) => s.enter thread RwLock.wrlock
  | (thread, .deliver service pointer alive) => s.deliver thread service pointer alive
  | (thread, .noteCounter) =>
      match s.threads thread with
      | .failed isRadioService delivery =>
          some (s.goTo thread
            (.noted isRadioService (s.counter (ofFlag isRadioService)) delivery))
      | _ => none
  | (thread, .unlockForWriting) =>
      match s.threads thread with
      | .noted isRadioService counter delivery =>
          (s.lock.unlock thread).map fun lock =>
            { s with lock := lock }.goTo thread (.released isRadioService counter delivery)
      | _ => none
  | (thread, .lockForWriting) =>
      match s.threads thread with
      | .released isRadioService counter delivery =>
          (s.lock.wrlock thread).map fun lock =>
            { s with lock := lock }.goTo thread (.exclusive isRadioService counter delivery)
      | _ => none
  | (thread, .resetCallbacks) =>
      match s.threads thread with
      | .exclusive isRadioService counter delivery =>
          (s.reset isRadioService counter delivery).map fun s => s.goTo thread .checked
      | _ => none
  | (thread, .unlockAfterReset) =>
      match s.threads thread with
      | .checked =>
          (s.lock.unlock thread).map fun lock => { s with lock := lock }.goTo thread .reacquire
      | _ => none
  | (thread, .lockAgain) =>
      match s.threads thread with
      | .reacquire =>
          (s.lock.rdlock thread).map fun lock => { s with lock := lock }.goTo thread .inside
      | _ => none
  | (thread, .unlock) =>
      match s.threads thread with
      | .inside =>
          (s.lock.unlock thread).map fun lock => { s with lock := lock }.goTo thread .outside
      | _ => none

def initial : SlotServices where
  callbacks _ := .null
  counter _ := 0
  lock := .free
  threads _ := .outside
  installation _ := 0
  clearings := []

/-- Any number of threads, each taking a step at a time. -/
def system : Transition.System SlotServices (Nat × SlotAction) where
  init := initial
  step := step

/-- Callbacks are only cleared because of a failed delivery to themselves: to the
same service, the same pointers, and the same installation. -/
def ClearedForThemselves : Prop :=
  ∀ clearing ∈ s.clearings, clearing.delivery =
    ⟨clearing.service, clearing.callbacks, clearing.installation⟩

end SlotServices

namespace DeliveryPoint

/-- The thread holds the lock, for reading or for writing. -/
def Holds : DeliveryPoint → Prop
  | inside | failed .. | noted .. => True
  | outside | released .. | exclusive .. | checked | reacquire => False

/-- The thread holds the lock for writing, in `checkReturnStatus`. -/
def Writes : DeliveryPoint → Prop
  | exclusive .. | checked => True
  | outside | inside | failed .. | noted .. | released .. | reacquire => False

end DeliveryPoint

namespace SlotServices

/-- The delivery was to the callbacks that are there. -/
def Current (s : SlotServices) (isRadioService : Bool) (delivery : Delivery) : Prop :=
  delivery = ⟨ofFlag isRadioService, s.callbacks (ofFlag isRadioService),
    s.installation (ofFlag isRadioService)⟩

/-- What a thread knows of the callbacks. The counter that it noted tells those
it delivered to from later ones. -/
def Knows (s : SlotServices) : DeliveryPoint → Prop
  | .failed isRadioService delivery => s.Current isRadioService delivery
  | .noted isRadioService counter delivery =>
      s.Current isRadioService delivery ∧ counter = s.counter (ofFlag isRadioService)
  | .released isRadioService counter delivery | .exclusive isRadioService counter delivery =>
      counter ≤ s.counter (ofFlag isRadioService) ∧
        (counter = s.counter (ofFlag isRadioService) → s.Current isRadioService delivery)
  | .outside | .inside | .checked | .reacquire => True

/-- What every step keeps. -/
structure Kept (s : SlotServices) : Prop where
  holds : ∀ thread, (s.threads thread).Holds → s.lock.Holds thread
  writes : ∀ thread, (s.threads thread).Writes → s.lock.Writes thread
  knows : ∀ thread, s.Knows (s.threads thread)
  cleared : s.ClearedForThemselves

variable {s s' : SlotServices} {thread : Nat} {point : DeliveryPoint}

theorem ofFlag_isRadio (service : Service) : ofFlag (isRadio service) = service := by
  cases service <;> rfl

/-- A service whose callbacks change has its counter increased, so that nobody
takes the new callbacks for those it noted. -/
theorem Knows.changed (service : Service) (hknows : s.Knows point) (hpoint : ¬ point.Holds)
    (hcallbacks : ∀ other ≠ service, s'.callbacks other = s.callbacks other)
    (hinstallation : ∀ other ≠ service, s'.installation other = s.installation other)
    (hcounter : ∀ other ≠ service, s'.counter other = s.counter other)
    (hmore : s.counter service < s'.counter service) : s'.Knows point := by
  cases point with
  | outside | inside | checked | reacquire => trivial
  | failed | noted => exact absurd trivial hpoint
  | released isRadioService counter delivery | exclusive isRadioService counter delivery =>
      obtain ⟨hle, hsame⟩ := hknows
      by_cases heq : ofFlag isRadioService = service
      · rw [← heq] at hmore
        exact ⟨by omega, fun hcount => by omega⟩
      · refine ⟨by rw [hcounter _ heq]; exact hle, fun hcount => ?_⟩
        rw [hcounter _ heq] at hcount
        rw [Current, hcallbacks _ heq, hinstallation _ heq]
        exact hsame hcount

theorem increment_spec {service : Service} (hincrement : s.increment service = some s') :
    s' = { s with counter := Function.update s.counter service (s.counter service + 1) } := by
  rw [increment] at hincrement
  split_ifs at hincrement
  exact (Option.some.inj hincrement).symm

/-- A thread goes on with the callbacks unchanged. -/
theorem Kept.goTo (hs : s.Kept) {lock : RwLock Nat}
    (hholds : point.Holds → lock.Holds thread) (hwrites : point.Writes → lock.Writes thread)
    (hknows : s.Knows point)
    (hothers : ∀ other ≠ thread, (s.lock.Holds other → lock.Holds other) ∧
      (s.lock.Writes other → lock.Writes other)) :
    ({ s with lock := lock }.goTo thread point).Kept where
  holds other hother := by
    by_cases heq : other = thread
    · subst heq
      simp only [SlotServices.goTo, Function.update_self] at hother
      exact hholds hother
    · simp only [SlotServices.goTo, Function.update_of_ne heq] at hother
      exact (hothers other heq).1 (hs.holds other hother)
  writes other hother := by
    by_cases heq : other = thread
    · subst heq
      simp only [SlotServices.goTo, Function.update_self] at hother
      exact hwrites hother
    · simp only [SlotServices.goTo, Function.update_of_ne heq] at hother
      exact (hothers other heq).2 (hs.writes other hother)
  knows other := by
    by_cases heq : other = thread
    · subst heq
      simp only [SlotServices.goTo, Function.update_self]
      exact hknows
    · simp only [SlotServices.goTo, Function.update_of_ne heq]
      exact hs.knows other
  cleared := hs.cleared

/-- Callbacks change while nobody holds the lock without writing to it. -/
theorem Kept.changed (hs : s.Kept) (service : Service) (callbacks : Callbacks)
    (installation : Nat) (clearings : List Clearing)
    (hnobody : ∀ thread, ¬ (s.threads thread).Holds)
    (hclearings : ({ s with clearings := clearings } : SlotServices).ClearedForThemselves)
    (hincrement : ({ s with
        callbacks := Function.update s.callbacks service callbacks
        installation := Function.update s.installation service installation
        clearings := clearings } : SlotServices).increment service = some s') : s'.Kept := by
  obtain rfl := increment_spec hincrement
  refine ⟨hs.holds, hs.writes, fun thread => ?_, hclearings⟩
  refine Knows.changed service (hs.knows thread) (hnobody thread) (fun other hne => ?_)
    (fun other hne => ?_) (fun other hne => ?_) ?_
  · exact Function.update_of_ne hne _ _
  · exact Function.update_of_ne hne _ _
  · exact Function.update_of_ne hne _ _
  · simp only [Function.update_self]
    exact Int.lt_succ _

theorem kept_setResponseFunctions (hs : s.Kept) {service : Service} {callbacks : Callbacks}
    (hstep : s.setResponseFunctions thread service callbacks = some s') : s'.Kept := by
  rw [setResponseFunctions] at hstep
  split_ifs at hstep
  obtain ⟨lock, hlock, hincrement⟩ := Option.bind_eq_some_iff.mp hstep
  refine hs.changed service callbacks _ s.clearings (fun other hholds => ?_) hs.cleared hincrement
  exact (RwLock.wrlock_spec hlock).2.2 other (hs.holds other hholds)

theorem kept_enter (hs : s.Kept) {acquire : RwLock Nat → Nat → Option (RwLock Nat)}
    (hacquire : ∀ lock, acquire s.lock thread = some lock → lock.Holds thread ∧
      ∀ other ≠ thread, (s.lock.Holds other → lock.Holds other) ∧
        (s.lock.Writes other → lock.Writes other))
    (hstep : s.enter thread acquire = some s') : s'.Kept := by
  rw [enter] at hstep
  split_ifs at hstep
  obtain ⟨lock, hlock, rfl⟩ := Option.map_eq_some_iff.mp hstep
  obtain ⟨hholds, hothers⟩ := hacquire lock hlock
  exact hs.goTo (fun _ => hholds) (fun hwrites => hwrites.elim) trivial hothers

theorem kept_deliver (hs : s.Kept) {service : Service} {pointer : CallbackPointer} {alive : Bool}
    (hstep : s.deliver thread service pointer alive = some s') : s'.Kept := by
  rw [deliver] at hstep
  split_ifs at hstep with hinside hdead
  · obtain rfl := Option.some.inj hstep
    refine hs.goTo (fun _ => hs.holds thread (hinside ▸ trivial)) (fun hwrites => hwrites.elim) ?_
      fun _ _ => ⟨id, id⟩
    simp only [Knows, Current, ofFlag_isRadio]
  · exact Option.some.inj hstep ▸ hs

/-- The locks of the others, when a thread lets go of its own. -/
theorem unlock_others {lock lock' : RwLock Nat} (hlock : lock.unlock thread = some lock') :
    ∀ other ≠ thread, (lock.Holds other → lock'.Holds other) ∧
      (lock.Writes other → lock'.Writes other) := by
  obtain ⟨hreads, hwrites⟩ := RwLock.unlock_spec hlock
  refine fun other hne => ⟨fun hholds => ?_, fun hother => (hwrites other).mpr ⟨hne, hother⟩⟩
  rcases hholds with hother | hother
  · exact .inl ((hreads other).mpr ⟨hne, hother⟩)
  · exact .inr ((hwrites other).mpr ⟨hne, hother⟩)

theorem rdlock_others {lock lock' : RwLock Nat} (hlock : lock.rdlock thread = some lock') :
    lock'.Holds thread ∧ ∀ other ≠ thread, (lock.Holds other → lock'.Holds other) ∧
      (lock.Writes other → lock'.Writes other) := by
  obtain ⟨hreads, -, hnone⟩ := RwLock.rdlock_spec hlock
  refine ⟨.inl ((hreads thread).mpr (.inl rfl)), fun other _ => ⟨fun hholds => ?_, fun hother =>
    absurd hother (hnone other)⟩⟩
  exact .inl ((hreads other).mpr (.inr (hholds.resolve_right (hnone other))))

theorem wrlock_others {lock lock' : RwLock Nat} (hlock : lock.wrlock thread = some lock') :
    lock'.Writes thread ∧ ∀ other ≠ thread, (lock.Holds other → lock'.Holds other) ∧
      (lock.Writes other → lock'.Writes other) := by
  obtain ⟨-, hwrites, hnone⟩ := RwLock.wrlock_spec hlock
  exact ⟨(hwrites thread).mpr rfl, fun other _ => ⟨fun hholds => absurd hholds (hnone other),
    fun hother => absurd (.inr hother) (hnone other)⟩⟩

theorem reset_threads {isRadioService : Bool} {counter : Int} {delivery : Delivery}
    (hstep : s.reset isRadioService counter delivery = some s') :
    s'.threads = s.threads ∧ s'.lock = s.lock := by
  simp only [reset] at hstep
  split_ifs at hstep
  · rw [increment_spec hstep]
    exact ⟨rfl, rfl⟩
  · obtain rfl := Option.some.inj hstep
    exact ⟨rfl, rfl⟩

/-- The reset clears the callbacks of the failed delivery or leaves everything
alone. -/
theorem kept_reset (hs : s.Kept) {isRadioService : Bool} {counter : Int} {delivery : Delivery}
    (hpoint : s.threads thread = .exclusive isRadioService counter delivery)
    (hstep : s.reset isRadioService counter delivery = some s') : s'.Kept := by
  simp only [reset] at hstep
  split_ifs at hstep with hcounter
  · have hwrites := hs.writes thread (hpoint ▸ trivial)
    have hcurrent : s.Current isRadioService delivery := by
      have hknows := hs.knows thread
      rw [hpoint] at hknows
      exact hknows.2 hcounter
    refine hs.changed (ofFlag isRadioService) .null (s.installation (ofFlag isRadioService))
      (s.clearings ++ [⟨ofFlag isRadioService, s.callbacks (ofFlag isRadioService),
        s.installation (ofFlag isRadioService), delivery⟩]) (fun other hholds => ?_) ?_
      (by simpa only [Function.update_eq_self] using hstep)
    · -- the writer is alone, and it is not at a point where the lock may be read
      obtain rfl := hwrites.unique (hs.holds other hholds)
      rw [hpoint] at hholds
      exact hholds
    · intro clearing hmem
      rcases List.mem_append.mp hmem with hmem | hmem
      · exact hs.cleared clearing hmem
      · obtain rfl := List.mem_singleton.mp hmem
        exact hcurrent
  · exact Option.some.inj hstep ▸ hs

theorem kept_step (hs : s.Kept) {action : Nat × SlotAction} (hstep : s.step action = some s') :
    s'.Kept := by
  obtain ⟨thread, action⟩ := action
  cases action with
  | setRadioResponseFunctions => exact kept_setResponseFunctions hs hstep
  | setOemHookResponseFunctions => exact kept_setResponseFunctions hs hstep
  | rdlock => exact kept_enter hs (fun _ => rdlock_others) hstep
  | wrlock =>
      refine kept_enter hs (fun lock hlock => ?_) hstep
      obtain ⟨hwrites, hothers⟩ := wrlock_others hlock
      exact ⟨.inr hwrites, hothers⟩
  | deliver service pointer alive => exact kept_deliver hs hstep
  | noteCounter =>
      simp only [step] at hstep
      split at hstep
      · next isRadioService delivery hpoint =>
          obtain rfl := Option.some.inj hstep
          have hknows := hs.knows thread
          rw [hpoint] at hknows
          exact hs.goTo (fun _ => hs.holds thread (hpoint ▸ trivial)) (fun hwrites => hwrites.elim)
            ⟨hknows, rfl⟩ fun _ _ => ⟨id, id⟩
      · cases hstep
  | unlockForWriting =>
      simp only [step] at hstep
      split at hstep
      · next isRadioService counter delivery hpoint =>
          obtain ⟨lock, hlock, rfl⟩ := Option.map_eq_some_iff.mp hstep
          have hknows := hs.knows thread
          rw [hpoint] at hknows
          exact hs.goTo (fun hholds => hholds.elim) (fun hwrites => hwrites.elim)
            ⟨Int.le_of_eq hknows.2, fun _ => hknows.1⟩ (unlock_others hlock)
      · cases hstep
  | lockForWriting =>
      simp only [step] at hstep
      split at hstep
      · next isRadioService counter delivery hpoint =>
          obtain ⟨lock, hlock, rfl⟩ := Option.map_eq_some_iff.mp hstep
          have hknows := hs.knows thread
          rw [hpoint] at hknows
          obtain ⟨hwrites, hothers⟩ := wrlock_others hlock
          exact hs.goTo (fun hholds => hholds.elim) (fun _ => hwrites) hknows hothers
      · cases hstep
  | resetCallbacks =>
      simp only [step] at hstep
      split at hstep
      · next isRadioService counter delivery hpoint =>
          obtain ⟨reset, hreset, rfl⟩ := Option.map_eq_some_iff.mp hstep
          have hkept := kept_reset hs hpoint hreset
          have hthreads : reset.threads = s.threads ∧ reset.lock = s.lock := reset_threads hreset
          refine hkept.goTo (fun hholds => hholds.elim) (fun _ => ?_) trivial fun _ _ => ⟨id, id⟩
          rw [hthreads.2]
          exact hs.writes thread (hpoint ▸ trivial)
      · cases hstep
  | unlockAfterReset =>
      simp only [step] at hstep
      split at hstep
      · obtain ⟨lock, hlock, rfl⟩ := Option.map_eq_some_iff.mp hstep
        exact hs.goTo (fun hholds => hholds.elim) (fun hwrites => hwrites.elim) trivial
          (unlock_others hlock)
      · cases hstep
  | lockAgain =>
      simp only [step] at hstep
      split at hstep
      · obtain ⟨lock, hlock, rfl⟩ := Option.map_eq_some_iff.mp hstep
        obtain ⟨hholds, hothers⟩ := rdlock_others hlock
        exact hs.goTo (fun _ => hholds) (fun hwrites => hwrites.elim) trivial hothers
      · cases hstep
  | unlock =>
      simp only [step] at hstep
      split at hstep
      · obtain ⟨lock, hlock, rfl⟩ := Option.map_eq_some_iff.mp hstep
        exact hs.goTo (fun hholds => hholds.elim) (fun hwrites => hwrites.elim) trivial
          (unlock_others hlock)
      · cases hstep

theorem kept_initial : initial.Kept where
  holds _ hholds := hholds.elim
  writes _ hwrites := hwrites.elim
  knows _ := trivial
  cleared _ hmem := absurd hmem List.not_mem_nil

/-- Whatever the threads do, callbacks are only cleared for themselves. -/
theorem callbacks_cleared_for_themselves (actions : List (Nat × SlotAction)) :
    system.Throughout ClearedForThemselves initial actions :=
  Transition.System.throughout_of_guarded Kept (fun _ hs => hs.cleared)
    (fun _ _ _ hs (_ : True) hstep => kept_step hs hstep) kept_initial
    (Transition.System.guarded_of_forall (fun _ _ => trivial) _ actions)

/-- A client is found dead, and another one connects before the lock is taken
again: its callbacks stay. -/
example :
    (system.run [(1, .setRadioResponseFunctions (some 7) (some 8) none none), (2, .rdlock),
      (2, .deliver .radio .response false), (2, .noteCounter), (2, .unlockForWriting),
      (1, .setRadioResponseFunctions (some 9) (some 10) none none), (2, .lockForWriting),
      (2, .resetCallbacks), (2, .unlockAfterReset), (2, .lockAgain), (2, .unlock)]).map
        (fun s => (s.callbacks .radio, s.counter .radio)) =
      some (⟨some 9, some 10, none, none⟩, 2) := by
  decide

end SlotServices

end Serrano.Ril
