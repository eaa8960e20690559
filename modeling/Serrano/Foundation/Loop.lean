import Mathlib.Data.Nat.Init

/-! # Loops

The body of a loop either goes on with another state or leaves the loop with a result.
A loop whose body keeps an invariant and makes a variant smaller is left, and what the
invariant says when it is left holds of the result.
-/

universe uState uResult

namespace Loop

variable {State : Type uState} {Result : Type uResult}

inductive Next (State : Type uState) (Result : Type uResult)
  | again (state : State)
  | leave (result : Result)

/-- The result, if the loop is left within so many iterations. -/
def run (body : State → Next State Result) : Nat → State → Option Result
  | 0, _ => none
  | fuel + 1, state =>
      match body state with
      | .again state' => run body fuel state'
      | .leave result => some result

/-- What has to be shown of one iteration. -/
structure Rule (body : State → Next State Result) (Invariant : State → Prop)
    (variant : State → Nat) (Post : Result → Prop) : Prop where
  again : ∀ {state state'}, Invariant state → body state = .again state' →
    Invariant state' ∧ variant state' < variant state
  leave : ∀ {state result}, Invariant state → body state = .leave result → Post result

variable {body : State → Next State Result} {Invariant : State → Prop}
variable {variant : State → Nat} {Post : Result → Prop} {state : State}

/-- The variant bounds the number of iterations that go on. -/
theorem Rule.run (h : Rule body Invariant variant Post) {fuel : Nat} (hstate : Invariant state)
    (hfuel : variant state < fuel) : ∃ result, run body fuel state = some result ∧ Post result := by
  induction fuel generalizing state with
  | zero => exact absurd hfuel (Nat.not_lt_zero _)
  | succ fuel ih =>
      rw [Loop.run]
      cases hbody : body state with
      | leave result => exact ⟨result, rfl, h.leave hstate hbody⟩
      | again state' =>
          obtain ⟨hstate', hvariant⟩ := h.again hstate hbody
          exact ih hstate' (Nat.lt_of_lt_of_le hvariant (Nat.le_of_lt_succ hfuel))

/-- The result of a loop when it can only be one. -/
theorem Rule.run_eq {result : Result} (h : Rule body Invariant variant (· = result)) {fuel : Nat}
    (hstate : Invariant state) (hfuel : variant state < fuel) :
    Loop.run body fuel state = some result := by
  obtain ⟨_, hrun, rfl⟩ := h.run hstate hfuel
  exact hrun

end Loop
