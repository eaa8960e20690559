import Mathlib.Logic.Function.Basic
import Mathlib.Logic.Nontrivial.Defs

/-! # Sequences of assignments

A store is changed by one assignment after the other. What a cell holds in the end
is what was last assigned to it, if anything was, and two sequences change every
store in the same way exactly when their last assignments are the same.
-/

universe uKey uValue

namespace Assignments

variable {Key : Type uKey} {Value : Type uValue} [DecidableEq Key]

def assign (store : Key → Value) (assignment : Key × Value) : Key → Value :=
  Function.update store assignment.1 assignment.2

def perform (assignments : List (Key × Value)) (store : Key → Value) : Key → Value :=
  assignments.foldl assign store

/-- The last value that is assigned to a cell. -/
def last : List (Key × Value) → Key → Option Value
  | [], _ => none
  | assignment :: rest, key =>
      (last rest key).or (if assignment.1 = key then some assignment.2 else none)

@[simp] theorem last_nil (key : Key) : last ([] : List (Key × Value)) key = none := rfl

theorem perform_apply (assignments : List (Key × Value)) (store : Key → Value) (key : Key) :
    perform assignments store key = (last assignments key).getD (store key) := by
  induction assignments generalizing store with
  | nil => rfl
  | cons assignment rest ih =>
      change perform rest (assign store assignment) key = _
      rw [ih, last]
      cases last rest key with
      | some value => rfl
      | none =>
          rw [Option.getD_none, Option.none_or, assign]
          split
          next heq => rw [← heq, Function.update_self, Option.getD_some]
          next hne => rw [Function.update_of_ne (Ne.symm hne), Option.getD_none]

/-- Sequences with the same last assignments cannot be told apart, and others can. -/
theorem perform_eq_iff [Nontrivial Value] (first second : List (Key × Value)) :
    (∀ store, perform first store = perform second store) ↔
      ∀ key, last first key = last second key := by
  constructor
  · intro h key
    have hvalue : ∀ value, (last first key).getD value = (last second key).getD value := by
      intro value
      have happly := congrFun (h fun _ => value) key
      rwa [perform_apply, perform_apply] at happly
    cases hfirst : last first key with
    | none =>
        cases hsecond : last second key with
        | none => rfl
        | some value =>
            obtain ⟨other, hother⟩ := exists_ne value
            have hsame := hvalue other
            rw [hfirst, hsecond] at hsame
            exact absurd hsame hother
    | some value =>
        cases hsecond : last second key with
        | none =>
            obtain ⟨other, hother⟩ := exists_ne value
            have hsame := hvalue other
            rw [hfirst, hsecond] at hsame
            exact absurd hsame.symm hother
        | some other =>
            have hsame := hvalue value
            rw [hfirst, hsecond] at hsame
            exact congrArg some hsame
  · intro h store
    funext key
    rw [perform_apply, perform_apply, h key]

theorem last_eq_none_iff {assignments : List (Key × Value)} {key : Key} :
    last assignments key = none ↔ key ∉ assignments.map Prod.fst := by
  induction assignments with
  | nil => exact iff_of_true rfl List.not_mem_nil
  | cons assignment rest ih =>
      rw [last, Option.or_eq_none_iff, ih, List.map_cons, List.mem_cons, not_or, and_comm]
      refine and_congr_left' ⟨fun h heq => ?_, fun h => if_neg (Ne.symm h)⟩
      rw [if_pos heq.symm] at h
      cases h

theorem mem_of_last {assignments : List (Key × Value)} {key : Key} {value : Value}
    (h : last assignments key = some value) : (key, value) ∈ assignments := by
  induction assignments with
  | nil => cases h
  | cons assignment rest ih =>
      rw [last, Option.or_eq_some_iff] at h
      obtain hrest | ⟨-, hfirst⟩ := h
      · exact List.mem_cons_of_mem assignment (ih hrest)
      · split at hfirst
        next heq =>
          cases hfirst
          rw [← heq]
          exact List.mem_cons_self
        next => cases hfirst

/-- When no cell is assigned to twice, every assignment is the last one of its cell. -/
theorem last_eq_some_iff {assignments : List (Key × Value)}
    (hdistinct : (assignments.map Prod.fst).Nodup) {key : Key} {value : Value} :
    last assignments key = some value ↔ (key, value) ∈ assignments := by
  induction assignments with
  | nil => exact iff_of_false (fun h => by cases h) List.not_mem_nil
  | cons assignment rest ih =>
      rw [List.map_cons, List.nodup_cons] at hdistinct
      rw [last, List.mem_cons]
      by_cases hkey : assignment.1 = key
      · subst hkey
        rw [if_pos rfl, last_eq_none_iff.mpr hdistinct.1, Option.none_or, Option.some.injEq]
        constructor
        · rintro rfl
          exact .inl rfl
        · rintro (heq | hmem)
          · exact (congrArg Prod.snd heq).symm
          · exact absurd (List.mem_map_of_mem hmem) hdistinct.1
      · rw [if_neg hkey, Option.or_none, ih hdistinct.2]
        refine ⟨.inr, fun h => h.resolve_left fun heq => ?_⟩
        exact hkey (congrArg Prod.fst heq).symm

end Assignments
