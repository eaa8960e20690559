import Serrano.Foundation.Transition

/-! # Infinite runs of a transition system

A run from the initial state that goes on for ever visits reachable states only.
What every step keeps is kept from any moment on, and what is lost between two
moments is lost in one step between them.
-/

namespace Transition

universe uState uAction

variable {State : Type uState} {Action : Type uAction}

/-- A run that performs one action at every moment. -/
structure InfiniteRun (sys : System State Action) (init : State) where
  state : Nat → State
  action : Nat → Action
  start : state 0 = init
  next : ∀ i, sys.step (state i) (action i) = some (state (i + 1))

namespace InfiniteRun

variable {sys : System State Action} {init : State}

theorem reachable (run : InfiniteRun sys sys.init) (i : Nat) : sys.Reachable (run.state i) := by
  induction i with
  | zero => exact ⟨[], congrArg some run.start.symm⟩
  | succ i ih => exact ih.step (run.next i)

/-- What every step keeps is kept from any moment on. -/
theorem stable (run : InfiniteRun sys init) (property : State → Prop)
    (hstep : ∀ state action next, property state →
      sys.step state action = some next → property next)
    {i j : Nat} (hij : i ≤ j) (hi : property (run.state i)) : property (run.state j) := by
  induction hij with
  | refl => exact hi
  | step _ ih => exact hstep _ _ _ ih (run.next _)

/-- What holds at one moment and no longer at a later one ends with a step. -/
theorem exists_last (run : InfiniteRun sys init) {property : State → Prop} {i j : Nat}
    (hij : i ≤ j) (hi : property (run.state i)) (hj : ¬ property (run.state j)) :
    ∃ k, i ≤ k ∧ k < j ∧ property (run.state k) ∧ ¬ property (run.state (k + 1)) := by
  induction hij with
  | refl => exact absurd hi hj
  | @step j hle ih =>
      by_cases hprop : property (run.state j)
      · exact ⟨j, hle, Nat.lt_succ_self j, hprop, hj⟩
      · obtain ⟨k, hik, hkj, hk⟩ := ih hprop
        exact ⟨k, hik, Nat.lt_succ_of_lt hkj, hk⟩

/-- A step before an infinite run. -/
def cons {state : State} {action : Action} (hstep : sys.step state action = some init)
    (run : InfiniteRun sys init) : InfiniteRun sys state where
  state
    | 0 => state
    | i + 1 => run.state i
  action
    | 0 => action
    | i + 1 => run.action i
  start := rfl
  next
    | 0 => hstep.trans (congrArg some run.start.symm)
    | i + 1 => run.next i

/-- After a finite run, every infinite run from its last state goes on. -/
theorem exists_append {state : State} {actions : List Action}
    (hrun : sys.runFrom state actions = some init) (run : InfiniteRun sys init) :
    ∃ whole : InfiniteRun sys state, ∀ i, whole.state (actions.length + i) = run.state i := by
  induction actions generalizing state with
  | nil =>
      obtain rfl := Option.some.inj hrun
      exact ⟨run, fun i => congrArg run.state (Nat.zero_add i)⟩
  | cons action rest ih =>
      rw [System.runFrom_cons, Option.bind_eq_some_iff] at hrun
      obtain ⟨next, hstep, hrest⟩ := hrun
      obtain ⟨whole, hwhole⟩ := ih hrest
      refine ⟨whole.cons hstep, fun i => ?_⟩
      rw [List.length_cons, Nat.succ_add_eq_add_succ, Nat.add_succ]
      exact hwhole i

end InfiniteRun

end Transition
