import Mathlib.Data.List.ReduceOption
import Serrano.Foundation.Fallible

/-! # Blocks of memory and who owns them

A computation allocates blocks, hands them out and frees them beside what it does to
another state. It holds a list of blocks when these are all that it has to free: a
rule for each operation says what it holds afterwards, and the computation leaks
nothing when it holds nothing in the end, also when it ends early. Without its blocks
it is a computation over the other state.
-/

namespace OwnedBlocks

universe u

/-- The blocks that are allocated and not freed. Names are not given out twice. The
heap is sound as long as nothing is freed or used that is not allocated. -/
structure Heap where
  live : List Nat
  next : Nat
  sound : Bool

namespace Heap

def alloc (h : Heap) : Heap := { h with live := h.next :: h.live, next := h.next + 1 }

/-- A null pointer may be freed. -/
def free (h : Heap) : Option Nat → Heap
  | none => h
  | some block =>
      { h with live := h.live.erase block, sound := h.sound && decide (block ∈ h.live) }

def freeAll (pointers : List (Option Nat)) (h : Heap) : Heap := pointers.foldl free h

/-- Somebody else reads the blocks. -/
def use (pointers : List (Option Nat)) (h : Heap) : Heap :=
  { h with sound := h.sound && pointers.reduceOption.all fun block => decide (block ∈ h.live) }

/-- Beside the base, what the pointers point to is allocated. -/
structure Owns (base : List Nat) (pointers : List (Option Nat)) (h : Heap) : Prop where
  sound : h.sound = true
  live : h.live.Perm (pointers.reduceOption ++ base)

variable {base : List Nat} {pointers others : List (Option Nat)} {h : Heap}

theorem Owns.perm (hown : Owns base pointers h) (hperm : pointers.Perm others) :
    Owns base others h :=
  ⟨hown.sound, hown.live.trans ((hperm.filterMap id).append_right base)⟩

theorem Owns.null (hown : Owns base pointers h) : Owns base (none :: pointers) h :=
  ⟨hown.sound, hown.live⟩

theorem Owns.alloc (hown : Owns base pointers h) : Owns base (some h.next :: pointers) h.alloc :=
  ⟨hown.sound, hown.live.cons h.next⟩

theorem Owns.free {pointer : Option Nat} (hown : Owns base (pointer :: pointers) h) :
    Owns base pointers (h.free pointer) := by
  cases pointer with
  | none => exact ⟨hown.sound, hown.live⟩
  | some block =>
      have hlive : h.live.Perm (block :: (pointers.reduceOption ++ base)) := hown.live
      have hmem : block ∈ h.live := hlive.mem_iff.mpr List.mem_cons_self
      have herase := hlive.erase block
      rw [List.erase_cons_head] at herase
      exact ⟨by simp [Heap.free, hown.sound, hmem], herase⟩

theorem Owns.freeAll (hown : Owns base (pointers ++ others) h) :
    Owns base others (h.freeAll pointers) := by
  induction pointers generalizing h with
  | nil => exact hown
  | cons pointer rest ih => exact ih hown.free

theorem Owns.use (hown : Owns base pointers h) (hmem : ∀ pointer ∈ others, pointer ∈ pointers) :
    Owns base pointers (h.use others) where
  sound := by
    simp only [Heap.use, hown.sound, Bool.true_and, List.all_eq_true, decide_eq_true_eq]
    intro block hblock
    rw [List.reduceOption_mem_iff] at hblock
    exact hown.live.mem_iff.mpr
      (List.mem_append_left base (List.reduceOption_mem_iff.mpr (hmem _ hblock)))
  live := hown.live

end Heap

variable {State : Type u} {α β : Type}

/-- What the computation does to the other state. -/
def lift (x : Fallible State α) : Fallible (State × Heap) α := fun s =>
  ((x s.1).1, ((x s.1).2, s.2))

def alloc : Fallible (State × Heap) Nat := fun s => (some s.2.next, (s.1, s.2.alloc))

def freeAll (pointers : List (Option Nat)) : Fallible (State × Heap) Unit :=
  .change fun s => (s.1, s.2.freeAll pointers)

def use (pointers : List (Option Nat)) : Fallible (State × Heap) Unit :=
  .change fun s => (s.1, s.2.use pointers)

/-! ## Holding blocks -/

/-- Started with the first pointers, the computation returns with those that go with
its value, or ends early with none. -/
def Holds (before : List (Option Nat)) (after : α → List (Option Nat))
    (x : Fallible (State × Heap) α) : Prop :=
  ∀ base s, s.2.Owns base before →
    (∀ a, (x s).1 = some a → (x s).2.2.Owns base (after a)) ∧
      ((x s).1 = none → (x s).2.2.Owns base [])

section Holds

variable {before middle : List (Option Nat)} {after : α → List (Option Nat)}
  {finish : β → List (Option Nat)}
  {x : Fallible (State × Heap) α} {f : α → Fallible (State × Heap) β}

theorem Holds.returned (hx : Holds before after x) {base : List Nat} {s s' : State × Heap} {a : α}
    (hown : s.2.Owns base before) (hreturn : x s = (some a, s')) : s'.2.Owns base (after a) := by
  have howns := (hx base s hown).1 a
  rw [hreturn] at howns
  exact howns rfl

theorem Holds.ended (hx : Holds before after x) {base : List Nat} {s s' : State × Heap}
    (hown : s.2.Owns base before) (hend : x s = (none, s')) : s'.2.Owns base [] := by
  have howns := (hx base s hown).2
  rw [hend] at howns
  exact howns rfl

theorem holds_pure {a : α} (hperm : before.Perm (after a)) :
    Holds before after (pure a : Fallible (State × Heap) α) := by
  intro base s hown
  refine ⟨?_, fun hnone => by cases hnone⟩
  rintro _ ⟨⟩
  exact hown.perm hperm

theorem holds_pure_null {pointers : α → List (Option Nat)} {a : α}
    (hperm : (none :: before).Perm (pointers a)) :
    Holds before pointers (pure a : Fallible (State × Heap) α) := by
  intro base s hown
  refine ⟨?_, fun hnone => by cases hnone⟩
  rintro _ ⟨⟩
  exact hown.null.perm hperm

theorem Holds.bind (hx : Holds before after x) (hf : ∀ a, Holds (after a) finish (f a)) :
    Holds before finish (x >>= f) := by
  intro base s hown
  obtain ⟨hreturn, hend⟩ := hx base s hown
  rw [Fallible.bind_apply]
  rcases hxs : x s with ⟨_ | a, s'⟩
  · rw [hxs] at hend
    exact ⟨fun _ hsome => (by cases hsome), fun _ => hend rfl⟩
  · rw [hxs] at hreturn
    exact hf a base s' (hreturn a rfl)

theorem Holds.ite {condition : Prop} [Decidable condition] {y : Fallible (State × Heap) α}
    (hx : Holds before after x) (hy : Holds before after y) :
    Holds before after (if condition then x else y) := by
  split
  · exact hx
  · exact hy

theorem holds_alloc :
    Holds before (fun block => some block :: before) (alloc : Fallible (State × Heap) Nat) := by
  intro base s hown
  refine ⟨?_, fun hnone => by cases hnone⟩
  rintro _ ⟨⟩
  exact hown.alloc

theorem holds_freeAll {pointers : List (Option Nat)}
    (hperm : before.Perm (pointers ++ middle)) :
    Holds before (fun _ => middle) (freeAll pointers : Fallible (State × Heap) Unit) := by
  intro base s hown
  exact ⟨fun _ _ => (hown.perm hperm).freeAll, fun hnone => by cases hnone⟩

theorem holds_use {pointers : List (Option Nat)}
    (hmem : ∀ pointer ∈ pointers, pointer ∈ before) :
    Holds before (fun _ => before) (use pointers : Fallible (State × Heap) Unit) := by
  intro base s hown
  exact ⟨fun _ _ => hown.use hmem, fun hnone => by cases hnone⟩

/-- Ending early is fine with nothing to free. -/
theorem holds_stop : Holds [] after (Fallible.stop : Fallible (State × Heap) α) := by
  intro base s hown
  exact ⟨fun _ hsome => (by cases hsome), fun _ => hown⟩

theorem holds_lift (y : Fallible State α) : Holds [] (fun _ => []) (lift y) :=
  fun _ _ hown => ⟨fun _ _ => hown, fun _ => hown⟩

/-- What never ends early may be called with any blocks. -/
theorem holds_lift_of_returns {y : Fallible State α} (hy : ∀ s, (y s).1 ≠ none) :
    Holds before (fun _ => before) (lift y) :=
  fun _ s hown => ⟨fun _ _ => hown, fun hnone => absurd hnone (hy s.1)⟩

end Holds

/-! ## Without the blocks -/

/-- The computation does to the other state what the second one does. -/
def Erases (related : α → β → Prop) (x : Fallible (State × Heap) α) (y : Fallible State β) :
    Prop :=
  ∀ s, (x s).2.1 = (y s.1).2 ∧ Option.Rel related (x s).1 (y s.1).1

section Erases

variable {γ δ : Type} {related : α → β → Prop} {later : γ → δ → Prop}
  {x : Fallible (State × Heap) α} {y : Fallible State β}
  {f : α → Fallible (State × Heap) γ} {g : β → Fallible State δ}

theorem erases_lift (y : Fallible State α) : Erases Eq (lift y) y := by
  intro s
  refine ⟨rfl, ?_⟩
  show Option.Rel Eq (y s.1).1 (y s.1).1
  cases (y s.1).1 with
  | none => exact .none
  | some a => exact .some rfl

theorem erases_pure {a : α} {b : β} (hab : related a b) :
    Erases related (pure a : Fallible (State × Heap) α) (pure b : Fallible State β) :=
  fun _ => ⟨rfl, .some hab⟩

theorem Erases.bind (hx : Erases related x y)
    (hf : ∀ a b, related a b → Erases later (f a) (g b)) :
    Erases later (x >>= f) (y >>= g) := by
  intro s
  obtain ⟨hstate, hvalue⟩ := hx s
  rw [Fallible.bind_apply, Fallible.bind_apply]
  rcases hxs : x s with ⟨_ | a, s'⟩ <;> rcases hys : y s.1 with ⟨_ | b, d⟩ <;>
    rw [hxs, hys] at hstate hvalue
  · exact ⟨hstate, .none⟩
  · cases hvalue
  · cases hvalue
  · cases hvalue with
    | some hab =>
        obtain rfl : s'.1 = d := hstate
        exact hf a b hab s'

theorem Erases.ite {condition : Prop} [Decidable condition] {x' : Fallible (State × Heap) α}
    {y' : Fallible State β} (hx : Erases related x y) (hx' : Erases related x' y') :
    Erases related (if condition then x else x') (if condition then y else y') := by
  split
  · exact hx
  · exact hx'

theorem Erases.isSome_eq (hx : Erases related x y) (s : State × Heap) :
    (x s).1.isSome = (y s.1).1.isSome := by
  have hvalue := (hx s).2
  generalize (x s).1 = value, (y s.1).1 = result at hvalue ⊢
  cases hvalue <;> rfl

theorem lift_of_eq {y : Fallible State α} {s : State} {value : Option α} {s' : State}
    (hy : y s = (value, s')) (h : Heap) : lift y (s, h) = (value, (s', h)) := by
  rw [lift, hy]

theorem Erases.mono {other : α → β → Prop} (hx : Erases related x y)
    (himp : ∀ a b, related a b → other a b) : Erases other x y := by
  intro s
  obtain ⟨hstate, hvalue⟩ := hx s
  refine ⟨hstate, ?_⟩
  generalize (x s).1 = value, (y s.1).1 = result at hvalue ⊢
  cases hvalue with
  | none => exact .none
  | some hab => exact .some (himp _ _ hab)

theorem erases_stop : Erases related (Fallible.stop : Fallible (State × Heap) α)
    (Fallible.stop : Fallible State β) := fun _ => ⟨rfl, .none⟩

/-- What only concerns the blocks is not seen. -/
theorem Erases.alloc_bind {f : Nat → Fallible (State × Heap) γ} {z : Fallible State δ}
    (hf : ∀ block, Erases later (f block) z) : Erases later (alloc >>= f) z :=
  fun s => hf _ (s.1, s.2.alloc)

theorem Erases.freeAll_bind {x : Fallible (State × Heap) γ} {z : Fallible State δ}
    (pointers : List (Option Nat)) (hx : Erases later x z) :
    Erases later (freeAll pointers >>= fun _ => x) z :=
  fun s => hx (s.1, s.2.freeAll pointers)

end Erases

end OwnedBlocks
