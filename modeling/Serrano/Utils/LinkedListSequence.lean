import Mathlib.Data.List.Count
import Mathlib.Data.List.Range
import Serrano.Utils.LinkedListRefinement

/-! # What a linked list is for

Abstractly a list is a sequence of elements, each with a number that says when it
was added. An element leaves the sequence once: taken out to a client, or
disposed of. Runs of the library refine runs of the sequence, whatever `malloc`
answers and whatever the clients ask for.
-/

namespace Serrano.LinkedList

open DoublyLinked

universe u

/-- An operation on a list. `elem` is what `malloc` answers. -/
inductive ListOp (α δ : Type u)
  | add (dataObj : Option α) (dealloc : Option δ) (elem : Option Nat)
  | remove (dataObj : Bool)
  | search (dataP : Bool) (equal : Option (α → Bool)) (rmIfFound : Bool)
  | empty
  | flush

/-- The element that `malloc` is asked for. -/
def ListOp.malloced {α δ : Type u} : ListOp α δ → Option Nat
  | .add (some _) _ elem => elem
  | _ => none

/-- What an operation returns, and what it writes to its output pointer. -/
inductive ListAnswer (α : Type u)
  | err (err : LinkedListErr) (output : Option (Option α))
  | empty (isEmpty : Bool)

/-! ## The sequence -/

/-- An element, and how many were added before it. -/
structure Entry (α δ : Type u) where
  serial : Nat
  data : α
  dealloc : Option δ

/-- What a client stored in the element. -/
def Entry.content {α δ : Type u} (entry : Entry α δ) : α × Option δ := (entry.data, entry.dealloc)

/-- The elements of a list from the front, and what became of the others. -/
structure Sequence (α δ : Type u) where
  listed : List (Entry α δ)
  taken : List (Entry α δ)
  disposed : List (Entry α δ)
  added : Nat
  answers : List (ListAnswer α)

namespace Sequence

variable {α δ : Type u} (q : Sequence α δ)

def init : Sequence α δ where
  listed := []
  taken := []
  disposed := []
  added := 0
  answers := []

def answer (err : LinkedListErr) (output : Option (Option α)) : Sequence α δ :=
  { q with answers := q.answers ++ [.err err output] }

/-- Insert at the front, take the last, search from the front, empty: and
nothing else. -/
def perform : ListOp α δ → Sequence α δ
  | .add none _ _ => q.answer .invalidParameter none
  | .add (some _) _ none => q.answer .failureGeneral none
  | .add (some data) dealloc (some _) =>
      { q.answer .success none with
        listed := { serial := q.added, data, dealloc } :: q.listed
        added := q.added + 1 }
  | .remove false => q.answer .invalidParameter none
  | .remove true =>
      match q.listed.getLast? with
      | none => q.answer .unavailableResource none
      | some entry =>
          { q.answer .success (some (some entry.data)) with
            listed := q.listed.dropLast
            taken := q.taken ++ [entry] }
  | .search _ none _ => q.answer .invalidHandle none
  | .search dataP (some equal) rmIfFound =>
      if q.listed = [] then q.answer .unavailableResource none else
      let found := q.listed.find? fun entry => equal entry.data
      let output := if dataP then some (found.map Entry.data) else none
      if rmIfFound then
        { q.answer .success output with
          listed := q.listed.eraseP fun entry => equal entry.data
          taken := if dataP then q.taken ++ found.toList else q.taken
          disposed := if dataP then q.disposed else q.disposed ++ found.toList }
      else q.answer .success output
  | .empty => { q with answers := q.answers ++ [.empty q.listed.isEmpty] }
  | .flush =>
      { q.answer .success none with listed := [], disposed := q.disposed ++ q.listed }

/-- The sequence after a run. -/
def after (ops : List (ListOp α δ)) : Sequence α δ := ops.foldl perform init

/-- Every element ever added is listed, taken or disposed of, and only once. -/
def Accounted : Prop :=
  ((q.listed ++ q.taken ++ q.disposed).map Entry.serial).Perm (List.range q.added)

/-- The calls that deallocate what was disposed of. -/
def deallocs : List (δ × α) := ListState.deallocCalls (q.disposed.map Entry.content)

variable {q}

@[simp] theorem deallocs_answer (err : LinkedListErr) (output : Option (Option α)) :
    (q.answer err output).deallocs = q.deallocs := rfl

/-- An operation accounts for every element when it moves elements around. -/
theorem Accounted.of_moved {q' : Sequence α δ} (hq : q.Accounted)
    (hmoved : (q'.listed ++ q'.taken ++ q'.disposed).Perm (q.listed ++ q.taken ++ q.disposed))
    (hadded : q'.added = q.added) :
    q'.Accounted := by
  unfold Accounted at hq ⊢
  rw [hadded]
  exact (hmoved.map _).trans hq

/-- The first accepted element is taken out of the rest. -/
theorem find?_append_eraseP_perm (accepts : Entry α δ → Bool) (entries : List (Entry α δ)) :
    ((entries.find? accepts).toList ++ entries.eraseP accepts).Perm entries := by
  induction entries with
  | nil => exact List.Perm.refl _
  | cons entry rest ih =>
      cases haccept : accepts entry with
      | true => simp [haccept]
      | false =>
          simp only [List.find?_cons, haccept, List.eraseP_cons]
          exact List.perm_middle.trans (ih.cons entry)

/-- No operation loses an element or duplicates one. -/
theorem Accounted.perform (hq : q.Accounted) (op : ListOp α δ) : (q.perform op).Accounted := by
  cases op with
  | add dataObj dealloc elem =>
      cases dataObj with
      | none => exact hq
      | some data =>
          cases elem with
          | none => exact hq
          | some elem =>
              -- The new element has the one number that was still missing.
              unfold Accounted at hq ⊢
              change ((_ :: q.listed ++ q.taken ++ q.disposed).map _).Perm
                (List.range (q.added + 1))
              rw [List.range_succ]
              exact (hq.cons q.added).trans (List.perm_append_singleton _ _).symm
  | remove dataObj =>
      cases dataObj with
      | false => exact hq
      | true =>
          obtain hnil | ⟨front, entry, hlisted⟩ := List.eq_nil_or_concat' q.listed
          · rw [Sequence.perform, hnil]
            exact hq
          · rw [Sequence.perform, hlisted, List.getLast?_concat]
            refine hq.of_moved ?_ rfl
            simp only [hlisted, List.dropLast_concat, List.append_assoc]
            exact (List.perm_append_comm_assoc q.taken [entry] q.disposed).append_left front
  | search dataP equal rmIfFound =>
      cases equal with
      | none => exact hq
      | some equal =>
          by_cases hnil : q.listed = []
          · rw [Sequence.perform, if_pos hnil]
            exact hq
          · rw [Sequence.perform, if_neg hnil]
            cases rmIfFound with
            | false => exact hq
            | true =>
                -- What was found comes out of the listed, and is taken or disposed of.
                refine hq.of_moved ?_ rfl
                have hfound := find?_append_eraseP_perm (fun entry => equal entry.data) q.listed
                generalize (q.listed.find? fun entry => equal entry.data) = found at hfound ⊢
                generalize (q.listed.eraseP fun entry => equal entry.data) = rest at hfound ⊢
                have hmoved : (rest ++ (found.toList ++ (q.taken ++ q.disposed))).Perm
                    (q.listed ++ (q.taken ++ q.disposed)) := by
                  refine (List.perm_append_comm_assoc _ _ _).trans ?_
                  rw [← List.append_assoc]
                  exact hfound.append_right _
                cases dataP with
                | true =>
                    simp only [if_true, List.append_assoc]
                    exact ((List.perm_append_comm_assoc q.taken found.toList
                      q.disposed).append_left rest).trans hmoved
                | false =>
                    simp only [if_true, List.append_assoc]
                    have hlast : (q.taken ++ (q.disposed ++ found.toList)).Perm
                        (found.toList ++ (q.taken ++ q.disposed)) := by
                      rw [← List.append_assoc]
                      exact List.perm_append_comm
                    exact (hlast.append_left rest).trans hmoved
  | empty => exact hq
  | flush =>
      refine hq.of_moved ?_ rfl
      simp only [Sequence.perform, List.nil_append, List.append_assoc]
      rw [← List.append_assoc]
      exact List.perm_append_comm

theorem accounted_after (ops : List (ListOp α δ)) : (after ops).Accounted := by
  apply List.foldlRecOn ops Sequence.perform (List.Perm.refl _)
  intro q hq op _
  exact hq.perform op

end Sequence

/-! ## Runs of the library -/

/-- A list and what the operations on it answered. -/
structure UsedList (α δ : Type u) where
  list : ListState α δ
  answers : List (ListAnswer α)

namespace UsedList

variable {α δ : Type u} (l : UsedList α δ)

/-- The list after `linked_list_init`. -/
def init : UsedList α δ where
  list := .init
  answers := []

def answer (list : ListState α δ) (answer : ListAnswer α) : UsedList α δ :=
  { list, answers := l.answers ++ [answer] }

/-- Perform an operation; `none` when it touches memory that is not in use, or
does not return. -/
def step : ListOp α δ → Option (UsedList α δ)
  | .add dataObj dealloc elem =>
      (l.list.linkedListAdd dataObj dealloc elem).map fun (list, err) =>
        l.answer list (.err err none)
  | .remove dataObj =>
      (l.list.linkedListRemove dataObj).map fun (list, err, output) =>
        l.answer list (.err err (output.map some))
  | .search dataP equal rmIfFound =>
      let equal := equal.map fun equal data (_ : PUnit) => (equal data, ⟨⟩)
      (l.list.linkedListSearch dataP equal rmIfFound ⟨⟩).map fun (list, err, output, _) =>
        l.answer list (.err err output)
  | .empty => some (l.answer l.list (.empty l.list.linkedListEmpty))
  | .flush => l.list.linkedListFlush.map fun list => l.answer list (.err .success none)

/-- The runs of a list from `linked_list_init` on. -/
def system (α δ : Type u) : Transition.System (UsedList α δ) (ListOp α δ) where
  init := init
  step := step

/-- What `malloc` answers is not in use. -/
def MallocFresh (op : ListOp α δ) : Prop :=
  ∀ elem ∈ op.malloced, (l.list.memory elem).isNone = true

instance (op : ListOp α δ) : Decidable (l.MallocFresh op) :=
  Option.decidableForallMem _

/-- The list holds the sequence, its clients were told the same, and the same
data was deallocated in the same order. -/
structure Refines (q : Sequence α δ) : Prop where
  list : ∃ cells, l.list.Represents cells (q.listed.map Entry.content)
  answers : l.answers = q.answers
  deallocs : l.list.deallocs = q.deallocs

variable {l} {q : Sequence α δ}

theorem refines_init : (init : UsedList α δ).Refines .init where
  list := ⟨[], ListState.represents_init⟩
  answers := rfl
  deallocs := rfl

/-- An operation that changes neither the list nor what was deallocated. -/
theorem Refines.answer (hl : l.Refines q) (err : LinkedListErr) (output : Option (Option α)) :
    (l.answer l.list (.err err output)).Refines (q.answer err output) where
  list := hl.list
  answers := by simp [UsedList.answer, Sequence.answer, hl.answers]
  deallocs := hl.deallocs

theorem refines_add (hl : l.Refines q) (dataObj : Option α) (dealloc : Option δ)
    (elem : Option Nat) (hfresh : l.MallocFresh (.add dataObj dealloc elem)) :
    ∃ l', l.step (.add dataObj dealloc elem) = some l' ∧
      l'.Refines (q.perform (.add dataObj dealloc elem)) := by
  obtain ⟨cells, hs⟩ := hl.list
  cases dataObj with
  | none => exact ⟨_, rfl, hl.answer _ _⟩
  | some data =>
      cases elem with
      | none => exact ⟨_, rfl, hl.answer _ _⟩
      | some elem =>
          have hnone : l.list.memory elem = none := by
            simpa using hfresh elem rfl
          obtain ⟨s', hadd, hs', hdeallocs⟩ := hs.linkedListAdd data dealloc hnone
          refine ⟨l.answer s' (.err .success none), ?_, ⟨⟨_, hs'⟩, ?_, ?_⟩⟩
          · rw [step, hadd]
            rfl
          · simp [answer, Sequence.perform, Sequence.answer, hl.answers]
          · exact hdeallocs.trans hl.deallocs

theorem refines_remove (hl : l.Refines q) (dataObj : Bool) :
    ∃ l', l.step (.remove dataObj) = some l' ∧ l'.Refines (q.perform (.remove dataObj)) := by
  obtain ⟨cells, hs⟩ := hl.list
  cases dataObj with
  | false => exact ⟨_, rfl, hl.answer _ _⟩
  | true =>
      obtain hnil | ⟨front, entry, hlisted⟩ := List.eq_nil_or_concat' q.listed
      · rw [hnil, List.map_nil] at hs
        refine ⟨_, by rw [step, hs.linkedListRemove_nil]; rfl, ?_⟩
        rw [Sequence.perform, hnil]
        exact hl.answer _ _
      · rw [hlisted, List.map_append] at hs
        obtain ⟨s', cells', hremove, hs', hdeallocs⟩ := hs.linkedListRemove
        refine ⟨l.answer s' (.err .success (some (some entry.data))), ?_, ?_⟩
        · rw [step, hremove]
          rfl
        · rw [Sequence.perform, hlisted, List.getLast?_concat]
          refine ⟨⟨cells', ?_⟩, ?_, hdeallocs.trans hl.deallocs⟩
          · rw [List.dropLast_concat]
            exact hs'
          · simp [answer, Sequence.answer, hl.answers]

theorem refines_flush (hl : l.Refines q) :
    ∃ l', l.step .flush = some l' ∧ l'.Refines (q.perform .flush) := by
  obtain ⟨cells, hs⟩ := hl.list
  obtain ⟨s', hflush, hs', hdeallocs⟩ := hs.linkedListFlush
  refine ⟨l.answer s' (.err .success none), ?_, ⟨⟨[], hs'⟩, ?_, ?_⟩⟩
  · rw [step, hflush]
    rfl
  · simp [answer, Sequence.perform, Sequence.answer, hl.answers]
  · refine hdeallocs.trans ?_
    simp [Sequence.perform, Sequence.deallocs, hl.deallocs, ListState.deallocCalls]

theorem refines_empty (hl : l.Refines q) :
    ∃ l', l.step .empty = some l' ∧ l'.Refines (q.perform .empty) := by
  obtain ⟨cells, hs⟩ := hl.list
  have hempty : l.list.linkedListEmpty = q.listed.isEmpty := by
    rw [ListState.linkedListEmpty, hs.head, Bool.eq_iff_iff]
    simpa using hs.nil_iff
  refine ⟨_, rfl, ⟨hl.list, ?_, hl.deallocs⟩⟩
  simp [answer, Sequence.perform, hl.answers, hempty]

/-- A callback that only looks finds the first element it accepts. -/
theorem searchEntries_pure (equal : α → Bool) (rmIfFound : Bool) (entries : List (Entry α δ)) :
    ListState.searchEntries (fun data (_ : PUnit) => (equal data, ⟨⟩)) rmIfFound
        (entries.map Entry.content) ⟨⟩ =
      ((entries.find? fun entry => equal entry.data).map Entry.content,
        (if rmIfFound then entries.eraseP fun entry => equal entry.data else entries).map
          Entry.content, ⟨⟩) := by
  induction entries with
  | nil => cases rmIfFound <;> rfl
  | cons entry rest ih =>
      cases haccept : equal entry.data with
      | true =>
          cases rmIfFound <;>
            simp [ListState.searchEntries, linkedListSearch, Entry.content, haccept]
      | false =>
          unfold ListState.searchEntries at ih ⊢
          cases rmIfFound <;> simp [linkedListSearch, Entry.content, haccept] at ih ⊢ <;> simp [ih]

theorem refines_search (hl : l.Refines q) (dataP : Bool) (equal : Option (α → Bool))
    (rmIfFound : Bool) :
    ∃ l', l.step (.search dataP equal rmIfFound) = some l' ∧
      l'.Refines (q.perform (.search dataP equal rmIfFound)) := by
  obtain ⟨cells, hs⟩ := hl.list
  cases equal with
  | none => exact ⟨_, rfl, hl.answer _ _⟩
  | some equal =>
      by_cases hnil : q.listed = []
      · have hcells : cells = [] := hs.nil_iff.mpr (by simp [hnil])
        refine ⟨l.answer l.list (.err .unavailableResource none), ?_, ?_⟩
        · simp only [step, Option.map_some, ListState.linkedListSearch, hs.tail, hcells,
            List.getLast?_nil]
        · rw [Sequence.perform, if_pos hnil]
          exact hl.answer _ _
      · obtain ⟨s', cells', hsearch, hs', hdeallocs⟩ :=
          hs.linkedListSearch (fun data (_ : PUnit) => (equal data, ⟨⟩)) dataP rmIfFound ⟨⟩
            (by simpa using hnil)
        rw [searchEntries_pure] at hsearch hs' hdeallocs
        refine ⟨l.answer s' (.err .success (if dataP then
          some ((q.listed.find? fun entry => equal entry.data).map Entry.data) else none)), ?_, ?_⟩
        · simp only [step, Option.map_some, hsearch, Option.map_map]
          rfl
        · rw [Sequence.perform, if_neg hnil]
          cases rmIfFound with
          | false =>
              refine ⟨⟨cells', hs'⟩, ?_, ?_⟩
              · simp [answer, Sequence.answer, hl.answers]
              · exact hdeallocs.trans (by simpa [ListState.searchDeallocs] using hl.deallocs)
          | true =>
              refine ⟨⟨cells', hs'⟩, ?_, hdeallocs.trans ?_⟩
              · simp [answer, Sequence.answer, hl.answers]
              · rw [hl.deallocs]
                cases dataP with
                | true => simp [ListState.searchDeallocs, Sequence.deallocs]
                | false =>
                    cases q.listed.find? fun entry => equal entry.data <;>
                      simp [ListState.searchDeallocs, Sequence.deallocs, ListState.deallocCalls]

theorem refines_step (hl : l.Refines q) (op : ListOp α δ) (hfresh : l.MallocFresh op) :
    ∃ l', l.step op = some l' ∧ l'.Refines (q.perform op) := by
  cases op with
  | add dataObj dealloc elem => exact refines_add hl dataObj dealloc elem hfresh
  | remove dataObj => exact refines_remove hl dataObj
  | search dataP equal rmIfFound => exact refines_search hl dataP equal rmIfFound
  | empty => exact refines_empty hl
  | flush => exact refines_flush hl

/-- A run of the library always goes on, and follows the run of the sequence. -/
theorem refines_runFrom (ops : List (ListOp α δ)) (hl : l.Refines q)
    (hfresh : (system α δ).Guarded MallocFresh l ops) :
    ∃ l', (system α δ).runFrom l ops = some l' ∧ l'.Refines (ops.foldl Sequence.perform q) := by
  induction ops generalizing l q with
  | nil => exact ⟨l, rfl, hl⟩
  | cons op rest ih =>
      obtain ⟨next, hstep, hnext⟩ := refines_step hl op hfresh.1
      obtain ⟨l', hrun, hl'⟩ := ih hnext (hfresh.2 next hstep)
      refine ⟨l', ?_, hl'⟩
      rw [Transition.System.runFrom_cons, show (system α δ).step l op = some next from hstep]
      exact hrun

end UsedList

/-- The cells are the elements in use; head and tail are their ends, the links
along them are inverse to each other, and either way they are met in order. -/
structure ListState.WellLinked {α δ : Type u} (s : ListState α δ) (cells : List Nat) : Prop where
  ends : s.pHead = cells.head? ∧ s.pTail = cells.getLast?
  inverse : ∀ p ∈ cells, ∀ p' ∈ cells, s.links.next p = some p' ↔ s.links.prev p' = some p
  forward : ∀ fuel, cells.length ≤ fuel → walk s.links.next fuel s.pHead = cells
  backward : ∀ fuel, cells.length ≤ fuel → walk s.links.prev fuel s.pTail = cells.reverse
  inUse : ∀ p, (s.memory p).isSome = true ↔ p ∈ cells

theorem ListState.Represents.wellLinked {α δ : Type u} {s : ListState α δ} {cells : List Nat}
    {entries : List (α × Option δ)} (hs : s.Represents cells entries) : s.WellLinked cells where
  ends := ⟨hs.head, hs.tail⟩
  inverse _ hp _ hp' := hs.chain.next_iff_prev hp hp'
  forward _ hfuel := hs.head ▸ hs.chain.walk_next hfuel
  backward _ hfuel := hs.tail ▸ hs.chain.walk_prev hfuel
  inUse := hs.memory

/-- The list in memory is well linked, holds the sequence, answered as it does
and deallocated what it disposed of; the sequence accounts for every element. -/
structure UsedList.Shows {α δ : Type u} (l : UsedList α δ) (cells : List Nat)
    (q : Sequence α δ) : Prop where
  linked : l.list.WellLinked cells
  contents : cells.map l.list.content = q.listed.map (some ∘ Entry.content)
  answers : l.answers = q.answers
  deallocs : l.list.deallocs = q.deallocs
  accounted : q.Accounted

/-- Whatever the operations and whatever `malloc` answers, no operation touches
memory that is not in use, and the list shows the sequence. -/
theorem linked_list_refines_sequence {α δ : Type u} (ops : List (ListOp α δ))
    (hmalloc : (UsedList.system α δ).Guarded UsedList.MallocFresh .init ops) :
    ∃ l cells, (UsedList.system α δ).run ops = some l ∧ l.Shows cells (Sequence.after ops) := by
  obtain ⟨l, hrun, hl⟩ := UsedList.refines_runFrom ops UsedList.refines_init hmalloc
  obtain ⟨cells, hs⟩ := hl.list
  refine ⟨l, cells, hrun, hs.wellLinked, ?_, hl.answers, hl.deallocs, Sequence.accounted_after ops⟩
  rw [hs.content, List.map_map]
  rfl

/-- Two elements are added, one is searched for and removed without an output
pointer, and `malloc` answers its memory for a third. -/
theorem linked_list_refines_sequence_reused :
    ∃ ops l cells, (UsedList.system Nat Nat).run ops = some l ∧
      l.Shows cells (Sequence.after ops) ∧ l.list.deallocs = [(0, 5)] := by
  obtain ⟨l, cells, hrun, hl⟩ := linked_list_refines_sequence
    [.add (some 5) (some 0) (some 1), .add (some 6) (some 0) (some 2),
      .search false (some (· == 5)) true, .add (some 7) none (some 1), .remove true] (by decide)
  exact ⟨_, l, cells, hrun, hl, hl.deallocs⟩

end Serrano.LinkedList
