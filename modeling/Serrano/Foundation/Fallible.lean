/-! # Computations that may end early

A computation over a state either returns a value or ends early, and leaves a state
in both cases. It is decided when a condition on the state it starts in says which
of the two happens. Decided computations compose, whatever value is passed on.
-/

universe uState

/-- A computation over a state; `none` ends it early. -/
def Fallible (State : Type uState) (α : Type) : Type uState := State → Option α × State

namespace Fallible

variable {State : Type uState} {α β : Type}

instance : Monad (Fallible State) where
  pure a := fun s => (some a, s)
  bind x f := fun s =>
    match x s with
    | (none, s) => (none, s)
    | (some a, s) => f a s

/-- End early. -/
def stop : Fallible State α := fun s => (none, s)

/-- Look at the state. -/
def read (f : State → α) : Fallible State α := fun s => (some (f s), s)

/-- Change the state. -/
def change (f : State → State) : Fallible State Unit := fun s => (some (), f s)

@[simp] theorem pure_apply (a : α) (s : State) : (pure a : Fallible State α) s = (some a, s) := rfl

theorem bind_apply (x : Fallible State α) (f : α → Fallible State β) (s : State) :
    (x >>= f) s = match x s with
      | (none, s) => (none, s)
      | (some a, s) => f a s := rfl

theorem bind_of_some {x : Fallible State α} {f : α → Fallible State β} {s s' : State} {a : α}
    (hx : x s = (some a, s')) : (x >>= f) s = f a s' := by
  rw [bind_apply, hx]

theorem bind_of_none {x : Fallible State α} {f : α → Fallible State β} {s s' : State}
    (hx : x s = (none, s')) : (x >>= f) s = (none, s') := by
  rw [bind_apply, hx]

/-- The computation returns a value exactly when the condition holds, in the state
`done` gives, and leaves the state and the `failed` one related otherwise. -/
structure Decided (failed : State → State → Prop) (good : State → Prop) (done : State → State)
    (x : Fallible State α) : Prop where
  returns : ∀ s, good s → ∃ a, x s = (some a, done s)
  ends : ∀ s, ¬ good s → ∃ s', x s = (none, s') ∧ failed s s'

namespace Decided

variable {failed : State → State → Prop} {good good' : State → Prop} {done done' : State → State}

theorem pure (a : α) : Decided failed (fun _ => True) id (pure a : Fallible State α) where
  returns _ _ := ⟨a, rfl⟩
  ends _ hnot := absurd trivial hnot

theorem change (f : State → State) : Decided failed (fun _ => True) f (change f) where
  returns _ _ := ⟨(), rfl⟩
  ends _ hnot := absurd trivial hnot

/-- One computation after the other: failing after the first is failing. -/
theorem bind {x : Fallible State α} {f : α → Fallible State β}
    (hx : Decided failed good done x) (hf : ∀ a, Decided failed good' done' (f a))
    (hfailed : ∀ s s', good s → failed (done s) s' → failed s s') :
    Decided failed (fun s => good s ∧ good' (done s)) (done' ∘ done) (x >>= f) where
  returns s hs := by
    obtain ⟨a, hreturn⟩ := hx.returns s hs.1
    obtain ⟨b, hrest⟩ := (hf a).returns (done s) hs.2
    exact ⟨b, (bind_of_some hreturn).trans hrest⟩
  ends s hnot := by
    by_cases hgood : good s
    · obtain ⟨a, hreturn⟩ := hx.returns s hgood
      obtain ⟨s', hrest, hrelated⟩ := (hf a).ends (done s) fun h => hnot ⟨hgood, h⟩
      exact ⟨s', (bind_of_some hreturn).trans hrest, hfailed s s' hgood hrelated⟩
    · obtain ⟨s', hend, hrelated⟩ := hx.ends s hgood
      exact ⟨s', bind_of_none hend, hrelated⟩

theorem congr {x : Fallible State α} (hx : Decided failed good done x)
    (hgood : ∀ s, good s ↔ good' s) (hdone : ∀ s, good s → done s = done' s) :
    Decided failed good' done' x where
  returns s hs := by
    obtain ⟨a, hreturn⟩ := hx.returns s ((hgood s).mpr hs)
    exact ⟨a, hdone s ((hgood s).mpr hs) ▸ hreturn⟩
  ends s hnot := hx.ends s fun h => hnot ((hgood s).mp h)

end Decided

end Fallible
