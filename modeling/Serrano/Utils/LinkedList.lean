import Mathlib.Data.List.Basic

/-! # Sequences of the linked list library

The subscriber lists are linked lists of the utility library, seen here as the
sequence of their data pointers from `p_head` to `p_tail`. The comparison
callback of a search may have effects, so it threads a state.
-/

namespace Serrano.LinkedList

universe u v

variable {α : Type u} {σ : Type v}

/-- `linked_list_search`: walk from the head and stop at the first element the
callback accepts. The answer is what `*data_p` is set to; the element is
unlinked when `rmIfFound` is set. -/
def linkedListSearch (equal : α → σ → Bool × σ) (rmIfFound : Bool) :
    List α → σ → Option α × List α × σ
  | [], state => (none, [], state)
  | data :: rest, state =>
      match equal data state with
      | (true, state) => (some data, if rmIfFound then rest else data :: rest, state)
      | (false, state) =>
          let (found, rest, state) := linkedListSearch equal rmIfFound rest state
          (found, data :: rest, state)

/-- Search with a callback that only looks: `rm_if_found` is false. -/
def linkedListFind (equal : α → Bool) (list : List α) : Option α :=
  (linkedListSearch (fun data (_ : Unit) => (equal data, ())) false list ()).1

@[simp] theorem linkedListFind_eq_find? (equal : α → Bool) (list : List α) :
    linkedListFind equal list = list.find? equal := by
  induction list with
  | nil => rfl
  | cons data rest ih =>
      unfold linkedListFind at ih ⊢
      rw [linkedListSearch, List.find?_cons]
      cases equal data with
      | true => rfl
      | false => exact ih

/-- Repeat a removing search until it finds nothing. `passes` bounds the number
of searches; one more than the length of the list is enough. -/
def removeAll (equal : α → σ → Bool × σ) : Nat → List α → σ → List α × σ
  | 0, list, state => (list, state)
  | passes + 1, list, state =>
      match linkedListSearch equal true list state with
      | (none, list, state) => (list, state)
      | (some _, list, state) => removeAll equal passes list state

section Accepting

variable {equal : α → σ → Bool × σ} {accepts : α → Bool}

/-- A search without removal whose callback always declines visits every
element in order. -/
theorem linkedListSearch_decline (visit : α → σ → σ)
    (hequal : ∀ data state, equal data state = (false, visit data state))
    (rmIfFound : Bool) (list : List α) (state : σ) :
    linkedListSearch equal rmIfFound list state =
      (none, list, list.foldl (fun state data => visit data state) state) := by
  induction list generalizing state with
  | nil => rfl
  | cons data rest ih => simp only [linkedListSearch, hequal, ih, List.foldl_cons]

/-- A removing search whose callback acts only on what it accepts acts on the
first accepted element and unlinks it. -/
theorem linkedListSearch_remove (visit : α → σ → σ)
    (hequal : ∀ data state, equal data state =
      (accepts data, if accepts data then visit data state else state))
    (list : List α) (state : σ) :
    linkedListSearch equal true list state =
      (list.find? accepts, list.eraseP accepts,
        (list.find? accepts).elim state fun data => visit data state) := by
  induction list with
  | nil => rfl
  | cons data rest ih =>
      cases haccept : accepts data with
      | true => simp [linkedListSearch, hequal, haccept]
      | false => simp [linkedListSearch, hequal, haccept, ih]

theorem filter_eraseP (accepts : α → Bool) (list : List α) :
    (list.eraseP accepts).filter accepts = (list.filter accepts).tail := by
  induction list with
  | nil => rfl
  | cons data rest ih =>
      cases haccept : accepts data with
      | true => simp [haccept]
      | false => simp [haccept, ih]

theorem filter_not_eraseP (accepts : α → Bool) (list : List α) :
    (list.eraseP accepts).filter (fun data => !accepts data) =
      list.filter (fun data => !accepts data) := by
  induction list with
  | nil => rfl
  | cons data rest ih =>
      cases haccept : accepts data with
      | true => simp [haccept]
      | false => simp [haccept, ih]

/-- The loop keeps what the callback declines and visits, in order, what it
accepts. The induction is on the number of accepted elements: every pass but
the last removes one of them. -/
theorem removeAll_eq (visit : α → σ → σ)
    (hequal : ∀ data state, equal data state =
      (accepts data, if accepts data then visit data state else state))
    (passes : Nat) (list : List α) (state : σ) (hpasses : list.length < passes) :
    removeAll equal passes list state =
      (list.filter (fun data => !accepts data),
        (list.filter accepts).foldl (fun state data => visit data state) state) := by
  induction passes generalizing list state with
  | zero => omega
  | succ passes ih =>
      rw [removeAll, linkedListSearch_remove visit hequal]
      cases hfind : list.find? accepts with
      | none =>
          have hnone : ∀ data ∈ list, accepts data = false := by
            simpa using hfind
          have hfilter : list.filter accepts = [] := by simpa using hnone
          have hkeep : list.filter (fun data => !accepts data) = list := by
            rw [List.filter_eq_self]
            intro data hdata
            simp [hnone data hdata]
          have herase : list.eraseP accepts = list :=
            List.eraseP_of_forall_not (by simpa using hnone)
          simp [hfilter, hkeep, herase]
      | some data =>
          have hmem : data ∈ list := List.mem_of_find?_eq_some hfind
          have haccept : accepts data = true := List.find?_some hfind
          have hhead : list.filter accepts = data :: (list.filter accepts).tail := by
            have hfirst : (list.filter accepts).head? = some data := by
              rw [List.head?_filter, hfind]
            cases hlist : list.filter accepts with
            | nil => simp [hlist] at hfirst
            | cons first rest => simp [hlist] at hfirst; simp [hfirst]
          have hlength : (list.eraseP accepts).length < passes := by
            rw [List.length_eraseP_of_mem hmem haccept]
            have := List.length_pos_of_mem hmem
            omega
          simp only [Option.elim_some]
          rw [ih _ _ hlength, filter_eraseP, filter_not_eraseP, hhead]
          rfl

end Accepting

end Serrano.LinkedList
