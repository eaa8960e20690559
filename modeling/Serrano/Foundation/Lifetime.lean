import Mathlib.Data.List.Basic

/-! # Allocated objects and their lifetimes

A sequence of operations on named objects, each of which is allocated once at most.
The sequence is looked at through one object at a time. Two sequences that run side
by side are merged by a schedule that says whose turn it is.
-/

namespace Lifetime

universe u v

/-- Allocating an object, reading or writing it, or freeing it; or something else that
is to be seen. -/
inductive Op (Obj : Type u) (Event : Type v)
  | alloc (object : Obj)
  | use (object : Obj)
  | free (object : Obj)
  | event (shown : Event)
  deriving DecidableEq

inductive Status
  | absent
  | live
  | freed
  deriving DecidableEq

variable {Obj : Type u} {Event : Type v}

def Op.object : Op Obj Event → Option Obj
  | .alloc object | .use object | .free object => some object
  | .event _ => none

def Op.seen : Op Obj Event → Option Event
  | .alloc _ | .use _ | .free _ => none
  | .event shown => some shown

/-- What an operation makes of an object it is about; misuse has no result. -/
def Op.apply : Op Obj Event → Status → Option Status
  | .alloc _, .absent => some .live
  | .use _, .live => some .live
  | .free _, .live => some .freed
  | .alloc _, .live | .alloc _, .freed | .use _, .absent | .use _, .freed
  | .free _, .absent | .free _, .freed => none
  | .event _, status => some status

variable [DecidableEq Obj]

/-- What becomes of an object. -/
def statusAfter (object : Obj) : List (Op Obj Event) → Status → Option Status
  | [], status => some status
  | op :: rest, status =>
      if op.object = some object then (op.apply status).bind (statusAfter object rest)
      else statusAfter object rest status

/-- Nothing is used before it is allocated or after it is freed, nor freed twice. -/
def WellUsed (ops : List (Op Obj Event)) : Prop :=
  ∀ object, statusAfter object ops .absent ≠ none

/-- The object is not left allocated. -/
def Released (ops : List (Op Obj Event)) (object : Obj) : Prop :=
  statusAfter object ops .absent ≠ some .live

/-- What is to be seen. -/
def events (ops : List (Op Obj Event)) : List Event := ops.filterMap Op.seen

/-- Whoever's turn it is goes on, and the other one does when it has finished; after the
schedule the first one finishes and then the second. -/
def interleave {α : Type u} : List Bool → List α → List α → List α
  | _, [], second => second
  | _, first, [] => first
  | [], first, second => first ++ second
  | true :: turns, x :: first, second => x :: interleave turns first second
  | false :: turns, first, y :: second => y :: interleave turns first second

/-- How far the second one gets before the first one begins. -/
def lead (turns : List Bool) : Nat := (turns.takeWhile fun turn => turn = false).length

variable {object : Obj} {ops first second : List (Op Obj Event)} {status : Status}

theorem statusAfter_append :
    statusAfter object (first ++ second) status =
      (statusAfter object first status).bind (statusAfter object second) := by
  induction first generalizing status with
  | nil => rfl
  | cons op rest ih =>
      simp only [List.cons_append, statusAfter]
      split_ifs
      · cases op.apply status with
        | none => rfl
        | some next => exact ih
      · exact ih

theorem statusAfter_cons {op : Op Obj Event} (hop : op.object = some object) :
    statusAfter object (op :: ops) status = (op.apply status).bind (statusAfter object ops) :=
  if_pos hop

/-- Operations on other objects. -/
theorem statusAfter_of_forall_ne (hother : ∀ op ∈ ops, op.object ≠ some object) :
    statusAfter object ops status = some status := by
  induction ops with
  | nil => rfl
  | cons op rest ih =>
      rw [statusAfter, if_neg (hother op List.mem_cons_self)]
      exact ih fun o ho => hother o (List.mem_cons_of_mem _ ho)

@[simp] theorem interleave_nil_left {α : Type u} (turns : List Bool) (second : List α) :
    interleave turns [] second = second := by
  cases turns <;> rfl

@[simp] theorem interleave_nil_right {α : Type u} (turns : List Bool) (first : List α) :
    interleave turns first [] = first := by
  cases first <;> cases turns <;> rfl

/-- The second side alone is about the object. -/
theorem statusAfter_interleave_right (turns : List Bool)
    (hother : ∀ op ∈ first, op.object ≠ some object) :
    statusAfter object (interleave turns first second) status =
      statusAfter object second status := by
  fun_induction interleave turns first second generalizing status with
  | case1 => rfl
  | case2 => exact statusAfter_of_forall_ne hother
  | case3 => rw [statusAfter_append, statusAfter_of_forall_ne hother, Option.bind_some]
  | case4 turns op rest second _ ih =>
      rw [statusAfter, if_neg (hother op List.mem_cons_self)]
      exact ih fun o ho => hother o (List.mem_cons_of_mem _ ho)
  | case5 turns first op rest _ ih =>
      simp only [statusAfter]
      split_ifs
      · cases op.apply status with
        | none => rfl
        | some next => exact ih hother
      · exact ih hother

/-- The first side alone is about the object. -/
theorem statusAfter_interleave_left (turns : List Bool)
    (hother : ∀ op ∈ second, op.object ≠ some object) :
    statusAfter object (interleave turns first second) status =
      statusAfter object first status := by
  fun_induction interleave turns first second generalizing status with
  | case1 => exact statusAfter_of_forall_ne hother
  | case2 => rfl
  | case3 first second =>
      rw [statusAfter_append]
      cases statusAfter object first status with
      | none => rfl
      | some next => exact statusAfter_of_forall_ne hother
  | case4 turns op rest second _ ih =>
      simp only [statusAfter]
      split_ifs
      · cases op.apply status with
        | none => rfl
        | some next => exact ih hother
      · exact ih hother
  | case5 turns first op rest _ ih =>
      rw [statusAfter, if_neg (hother op List.mem_cons_self)]
      exact ih fun o ho => hother o (List.mem_cons_of_mem _ ho)

/-- Before the first one begins, the second one has gone ahead. -/
theorem interleave_cons {α : Type u} (turns : List Bool) (x : α) (first second : List α) :
    ∃ rest, interleave turns (x :: first) second =
      second.take (lead turns) ++ x :: interleave rest first (second.drop (lead turns)) := by
  induction turns generalizing second with
  | nil =>
      refine ⟨[], ?_⟩
      cases second with
      | nil => simp
      | cons y rest => cases first <;> rfl
  | cons turn turns ih =>
      cases second with
      | nil => exact ⟨[], by simp⟩
      | cons y rest =>
          cases turn with
          | true => exact ⟨turns, rfl⟩
          | false =>
              obtain ⟨later, hlater⟩ := ih rest
              refine ⟨later, ?_⟩
              rw [interleave, hlater]
              · rfl
              · exact List.cons_ne_nil x first

/-- Using an object leaves it live. -/
theorem statusAfter_of_forall_use (huse : ∀ op ∈ ops, op.object = some object → op = .use object) :
    statusAfter object ops .live = some .live := by
  induction ops with
  | nil => rfl
  | cons op rest ih =>
      have hrest := ih fun o ho => huse o (List.mem_cons_of_mem _ ho)
      rw [statusAfter]
      split_ifs with hop
      · rw [huse op List.mem_cons_self hop]
        exact hrest
      · exact hrest

/-- Whatever is done with an object after it was freed. -/
theorem statusAfter_freed {op : Op Obj Event} (hmem : op ∈ ops) (hop : op.object = some object) :
    statusAfter object ops .freed = none := by
  induction ops with
  | nil => cases hmem
  | cons first rest ih =>
      rw [statusAfter]
      split_ifs with hfirst
      · cases first with
        | alloc | use | free => rfl
        | event => cases hfirst
      · rcases List.mem_cons.mp hmem with rfl | hrest
        · exact absurd hop hfirst
        · exact ih hrest

/-- One operation more. -/
theorem statusAfter_concat_self {op : Op Obj Event} (hop : op.object = some object) :
    statusAfter object (ops ++ [op]) status = (statusAfter object ops status).bind op.apply := by
  rw [statusAfter_append]
  congr 1
  funext reached
  rw [statusAfter_cons hop]
  exact Option.bind_fun_some (op.apply reached)

theorem statusAfter_concat_of_ne {op : Op Obj Event} (hop : op.object ≠ some object) :
    statusAfter object (ops ++ [op]) status = statusAfter object ops status := by
  rw [statusAfter_append]
  cases statusAfter object ops status with
  | none => rfl
  | some reached => exact if_neg hop

/-- Misuse stays misuse. -/
theorem statusAfter_append_eq_none (hfirst : statusAfter object first status = none) :
    statusAfter object (first ++ second) status = none := by
  rw [statusAfter_append, hfirst, Option.bind_none]

/-- Freeing several live objects. -/
theorem statusAfter_map_free {objects : List Obj} (hnodup : objects.Nodup)
    (hmem : object ∈ objects) :
    statusAfter object (objects.map (.free : Obj → Op Obj Event)) .live = some .freed := by
  induction objects with
  | nil => cases hmem
  | cons first rest ih =>
      obtain ⟨hfirst, hrest⟩ := List.nodup_cons.mp hnodup
      rw [List.map_cons]
      by_cases heq : first = object
      · subst heq
        have hother : ∀ op ∈ rest.map (.free : Obj → Op Obj Event), op.object ≠ some first := by
          intro op hop hobject
          obtain ⟨later, hlater, rfl⟩ := List.mem_map.mp hop
          exact hfirst (Option.some.inj hobject ▸ hlater)
        rw [statusAfter_cons rfl]
        exact statusAfter_of_forall_ne hother
      · have hother : (Op.free first : Op Obj Event).object ≠ some object :=
          fun hobject => heq (Option.some.inj hobject)
        rw [statusAfter, if_neg hother]
        exact ih hrest ((List.mem_cons.mp hmem).resolve_left (Ne.symm heq))

/-- The first side begins with a use of the object that the second side frees at last. -/
theorem statusAfter_interleave_use (turns : List Bool)
    (hother : ∀ op ∈ first, op.object ≠ some object)
    (huse : ∀ op ∈ second, op.object = some object → op = .use object) :
    statusAfter object (interleave turns (.use object :: first) (second ++ [.free object])) .live =
      if lead turns ≤ second.length then some .freed else none := by
  obtain ⟨rest, hrest⟩ := interleave_cons turns (.use object) first (second ++ [.free object])
  have hlast : statusAfter object [(.free object : Op Obj Event)] .live = some .freed := by
    simp [statusAfter, Op.object, Op.apply]
  rw [hrest, statusAfter_append]
  split_ifs with hlead
  · have htake : ∀ op ∈ second.take (lead turns), op.object = some object → op = .use object :=
      fun op hop => huse op (List.mem_of_mem_take hop)
    have hdrop : ∀ op ∈ second.drop (lead turns), op.object = some object → op = .use object :=
      fun op hop => huse op (List.mem_of_mem_drop hop)
    rw [List.take_append_of_le_length hlead, List.drop_append_of_le_length hlead,
      statusAfter_of_forall_use htake, Option.bind_some, statusAfter_cons rfl]
    change statusAfter object (interleave rest first _) .live = _
    rw [statusAfter_interleave_right rest hother, statusAfter_append,
      statusAfter_of_forall_use hdrop, Option.bind_some, hlast]
  · have hall : (second ++ [Op.free object]).length ≤ lead turns := by
      rw [List.length_append, List.length_singleton]
      omega
    rw [List.take_of_length_le hall, statusAfter_append, statusAfter_of_forall_use huse,
      Option.bind_some, hlast, Option.bind_some, statusAfter_cons rfl]
    rfl

omit [DecidableEq Obj] in
theorem events_append : events (first ++ second) = events first ++ events second :=
  List.filterMap_append

omit [DecidableEq Obj] in
/-- There is to be seen what the second side shows. -/
theorem events_interleave_right (turns : List Bool) (hfirst : events first = []) :
    events (interleave turns first second) = events second := by
  fun_induction interleave turns first second with
  | case1 => rfl
  | case2 first => rw [hfirst]; rfl
  | case3 first second =>
      rw [events_append, hfirst]
      rfl
  | case4 turns op rest second _ ih =>
      cases hop : op.seen with
      | none =>
          rw [events, List.filterMap_cons_none hop] at hfirst ⊢
          exact ih hfirst
      | some event =>
          rw [events, List.filterMap_cons_some hop] at hfirst
          cases hfirst
  | case5 turns first op rest _ ih =>
      have hrest := ih hfirst
      unfold events at hrest ⊢
      rw [List.filterMap_cons, List.filterMap_cons, hrest]

end Lifetime
