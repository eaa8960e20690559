import Mathlib.Data.List.Basic

/-! # Partial transition systems and their runs

A system is an initial state together with a partial step function: an action
that is not enabled in a state has no successor. A run performs a list of
actions. Invariants, guarded runs, and the comparison of a property of all
visited states with a guard on all performed steps are stated once here.
-/

namespace Transition

universe uState uAction

/-- An initial state and a partial step function. -/
structure System (State : Type uState) (Action : Type uAction) where
  init : State
  step : State → Action → Option State

namespace System

variable {State : Type uState} {Action : Type uAction} (sys : System State Action)

/-- Perform the actions in order; `none` when one of them is not enabled. -/
def runFrom : State → List Action → Option State
  | state, [] => some state
  | state, action :: rest => (sys.step state action).bind fun next => runFrom next rest

/-- Every run starts in the initial state. -/
def run (actions : List Action) : Option State := sys.runFrom sys.init actions

/-- The states that some run ends in. -/
def Reachable (state : State) : Prop := ∃ actions, sys.run actions = some state

/-- Every performed step meets the guard in the state it is performed in. -/
def Guarded (guard : State → Action → Prop) : State → List Action → Prop
  | _, [] => True
  | state, action :: rest => guard state action ∧
      ∀ next, sys.step state action = some next → Guarded guard next rest

/-- Every state the run visits, its start included, has the property. -/
def Throughout (property : State → Prop) : State → List Action → Prop
  | state, [] => property state
  | state, action :: rest => property state ∧
      ∀ next, sys.step state action = some next → Throughout property next rest

/-- Whether a run respects a decidable guard is found out by performing it. -/
instance decidableGuarded (guard : State → Action → Prop)
    [∀ state action, Decidable (guard state action)] (state : State) :
    (actions : List Action) → Decidable (sys.Guarded guard state actions)
  | [] => .isTrue trivial
  | action :: rest =>
      have : ∀ next, Decidable (sys.Guarded guard next rest) :=
        fun next => decidableGuarded guard next rest
      inferInstanceAs (Decidable
        (guard state action ∧ ∀ next ∈ sys.step state action, sys.Guarded guard next rest))

@[simp] theorem runFrom_nil (state : State) : sys.runFrom state [] = some state := rfl

@[simp] theorem runFrom_cons (state : State) (action : Action) (rest : List Action) :
    sys.runFrom state (action :: rest) =
      (sys.step state action).bind fun next => sys.runFrom next rest := rfl

theorem runFrom_append (state : State) (first second : List Action) :
    sys.runFrom state (first ++ second) =
      (sys.runFrom state first).bind fun middle => sys.runFrom middle second := by
  induction first generalizing state with
  | nil => rfl
  | cons action rest ih =>
      rw [List.cons_append, runFrom_cons, runFrom_cons]
      cases sys.step state action with
      | none => rfl
      | some next => exact ih next

variable {sys}

theorem Reachable.step {state next : State} {action : Action}
    (hreach : sys.Reachable state) (hstep : sys.step state action = some next) :
    sys.Reachable next := by
  obtain ⟨actions, hrun⟩ := hreach
  refine ⟨actions ++ [action], ?_⟩
  rw [run, runFrom_append, show sys.runFrom sys.init actions = some state from hrun]
  simp [hstep]

/-- A predicate preserved by every guarded step survives a guarded run. -/
theorem guarded_invariant (guard : State → Action → Prop) {invariant : State → Prop}
    (hstep : ∀ state action next, invariant state → guard state action →
      sys.step state action = some next → invariant next)
    {state final : State} {actions : List Action} (hstate : invariant state)
    (hguard : sys.Guarded guard state actions)
    (hrun : sys.runFrom state actions = some final) : invariant final := by
  induction actions generalizing state with
  | nil =>
      rw [runFrom_nil, Option.some.injEq] at hrun
      exact hrun ▸ hstate
  | cons action rest ih =>
      rw [runFrom_cons, Option.bind_eq_some_iff] at hrun
      obtain ⟨next, hnext, hrest⟩ := hrun
      exact ih (hstep state action next hstate hguard.1 hnext) (hguard.2 next hnext) hrest

theorem guarded_of_forall_mem {guard : State → Action → Prop} {actions : List Action}
    (hguard : ∀ action ∈ actions, ∀ state, guard state action) (state : State) :
    sys.Guarded guard state actions := by
  induction actions generalizing state with
  | nil => trivial
  | cons action rest ih =>
      refine ⟨hguard action List.mem_cons_self state, fun next _ => ih (fun a ha => ?_) next⟩
      exact hguard a (List.mem_cons_of_mem _ ha)

theorem guarded_of_forall {guard : State → Action → Prop}
    (hguard : ∀ state action, guard state action) (state : State) (actions : List Action) :
    sys.Guarded guard state actions :=
  guarded_of_forall_mem (fun action _ state => hguard state action) state

/-- A predicate that holds initially and is preserved by every step holds in
every reachable state. -/
theorem Reachable.invariant {invariant : State → Prop} (hinit : invariant sys.init)
    (hstep : ∀ state action next, invariant state →
      sys.step state action = some next → invariant next)
    {state : State} (hreach : sys.Reachable state) : invariant state := by
  obtain ⟨actions, hrun⟩ := hreach
  exact guarded_invariant (fun _ _ => True)
    (fun s a t hs _ => hstep s a t hs) hinit (guarded_of_forall (fun _ _ => trivial) _ _) hrun

/-- A guarded run keeps, in all its states, what an invariant implies. -/
theorem throughout_of_guarded {guard : State → Action → Prop}
    (invariant : State → Prop) {property : State → Prop}
    (hproperty : ∀ state, invariant state → property state)
    (hstep : ∀ state action next, invariant state → guard state action →
      sys.step state action = some next → invariant next)
    {state : State} (hstate : invariant state) {actions : List Action}
    (hguard : sys.Guarded guard state actions) : sys.Throughout property state actions := by
  induction actions generalizing state with
  | nil => exact hproperty state hstate
  | cons action rest ih =>
      exact ⟨hproperty state hstate, fun next hnext =>
        ih (hstep state action next hstate hguard.1 hnext) (hguard.2 next hnext)⟩

/-- The last state of a run is one of its states. -/
theorem Throughout.of_runFrom {property : State → Prop} {state final : State}
    {actions : List Action} (hall : sys.Throughout property state actions)
    (hrun : sys.runFrom state actions = some final) : property final := by
  induction actions generalizing state with
  | nil => exact Option.some.inj hrun ▸ hall
  | cons action rest ih =>
      rw [runFrom_cons, Option.bind_eq_some_iff] at hrun
      obtain ⟨next, hnext, hrest⟩ := hrun
      exact ih (hall.2 next hnext) hrest

/-- A run performs no more paid actions than the rank it starts with allows and
its free actions give back. -/
theorem countP_add_rank_le {invariant : State → Prop} (rank : State → Nat) (paid : Action → Bool)
    (credit : Nat)
    (hpaid : ∀ state action next, invariant state → sys.step state action = some next →
      paid action = true → rank next + 1 ≤ rank state)
    (hfree : ∀ state action next, invariant state → sys.step state action = some next →
      paid action = false → rank next ≤ rank state + credit)
    (hstep : ∀ state action next, invariant state →
      sys.step state action = some next → invariant next)
    {state final : State} {actions : List Action} (hstate : invariant state)
    (hrun : sys.runFrom state actions = some final) :
    actions.countP paid + rank final ≤
      rank state + credit * actions.countP fun action => !paid action := by
  induction actions generalizing state with
  | nil =>
      rw [runFrom_nil, Option.some.injEq] at hrun
      simp [hrun]
  | cons action rest ih =>
      rw [runFrom_cons, Option.bind_eq_some_iff] at hrun
      obtain ⟨next, hnext, hrest⟩ := hrun
      have htail := ih (hstep state action next hstate hnext) hrest
      cases haction : paid action with
      | true =>
          have hless := hpaid state action next hstate hnext haction
          simp only [List.countP_cons, haction, if_true, Bool.not_true, Bool.false_eq_true,
            if_false, Nat.add_zero]
          omega
      | false =>
          have hmore := hfree state action next hstate hnext haction
          simp only [List.countP_cons, haction, if_true, Bool.not_false, Bool.false_eq_true,
            if_false, Nat.mul_add]
          omega

/-- A run does not keep a property that a check of its last state refutes. -/
theorem not_throughout_of_any {property : State → Prop} (check : State → Bool)
    (hcheck : ∀ state, check state = true → ¬ property state)
    {state : State} {actions : List Action}
    (hany : (sys.runFrom state actions).any check = true) :
    ¬ sys.Throughout property state actions := by
  intro hall
  rw [Option.any_eq_true] at hany
  obtain ⟨final, hrun, hfinal⟩ := hany
  exact hcheck final hfinal (hall.of_runFrom hrun)

/-- Properties that agree wherever an invariant holds are kept by the same runs. -/
theorem Throughout.congr {invariant first second : State → Prop}
    (hiff : ∀ state, invariant state → (first state ↔ second state))
    {state : State} {actions : List Action}
    (hall : sys.Throughout invariant state actions) :
    sys.Throughout first state actions ↔ sys.Throughout second state actions := by
  induction actions generalizing state with
  | nil => exact hiff state hall
  | cons action rest ih =>
      refine and_congr (hiff state hall.1) (forall_congr' fun next => ?_)
      exact forall_congr' fun hnext => ih (hall.2 next hnext)

/-- When guarded steps preserve an invariant that implies the property, and a
step outside the guard leaves the property false, a run keeps the property in
all its states exactly when it respects the guard. -/
theorem throughout_iff_guarded {guard : State → Action → Prop}
    (invariant : State → Prop) {property : State → Prop}
    (hproperty : ∀ state, invariant state → property state)
    (hstep : ∀ state action next, invariant state → guard state action →
      sys.step state action = some next → invariant next)
    (hbreak : ∀ state action, invariant state → ¬ guard state action →
      ∃ next, sys.step state action = some next ∧ ¬ property next)
    {state : State} (hstate : invariant state) (actions : List Action) :
    sys.Throughout property state actions ↔ sys.Guarded guard state actions := by
  refine ⟨fun hall => ?_, throughout_of_guarded invariant hproperty hstep hstate⟩
  induction actions generalizing state with
  | nil => trivial
  | cons action rest ih =>
      obtain ⟨_, hrest⟩ := hall
      by_cases hguard : guard state action
      · exact ⟨hguard, fun next hnext =>
          ih (hstep state action next hstate hguard hnext) (hrest next hnext)⟩
      · obtain ⟨next, hnext, hbad⟩ := hbreak state action hstate hguard
        have hgood : property next := by
          cases rest with
          | nil => exact hrest next hnext
          | cons _ _ => exact (hrest next hnext).1
        exact absurd hgood hbad

end System

end Transition
