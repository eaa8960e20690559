import Serrano.Foundation.DoublyLinked
import Serrano.Foundation.Transition
import Serrano.Utils.LinkedList

/-! # The linked list library in memory

A list is a pair of pointers to elements that `malloc` placed, linked in both
directions. Every access to an element that is not allocated ends the process,
and so does a walk that meets more elements than there are. What `malloc`
answers is chosen from outside. A `NULL` list handle is left out: every
operation refuses it without a list to touch.
-/

namespace Serrano.LinkedList

universe u

/-- `linked_list_err_type` -/
inductive LinkedListErr
  | success
  | failureGeneral
  | invalidParameter
  | invalidHandle
  | unavailableResource
  | insufficientBuffer
  deriving DecidableEq, Repr

/-- `list_element`; a `dealloc_func` is known by its name. -/
structure ListElement (α δ : Type u) where
  next : Option Nat
  prev : Option Nat
  dataPtr : α
  deallocFunc : Option δ

/-- `list_state` and the elements in use. `deallocs` records the calls of
deallocation functions. -/
structure ListState (α δ : Type u) where
  pHead : Option Nat
  pTail : Option Nat
  memory : Nat → Option (ListElement α δ)
  inUse : Nat
  deallocs : List (δ × α)

namespace ListState

variable {α δ σ : Type u} (s : ListState α δ)

/-- `linked_list_init` -/
def init : ListState α δ where
  pHead := none
  pTail := none
  memory _ := none
  inUse := 0
  deallocs := []

/-- Change an element, if it is one. -/
def withElement (p : Nat) (change : ListElement α δ → ListElement α δ) : ListState α δ :=
  { s with memory := Function.update s.memory p ((s.memory p).map change) }

def setNext (p : Nat) (next : Option Nat) : Option (ListState α δ) :=
  if (s.memory p).isSome then some (s.withElement p fun elem => { elem with next := next })
  else none

def setPrev (p : Nat) (prev : Option Nat) : Option (ListState α δ) :=
  if (s.memory p).isSome then some (s.withElement p fun elem => { elem with prev := prev })
  else none

/-- `p->next = next`, or `p_head = next` when `p` is `NULL`. -/
def setNextOrHead (p : Option Nat) (next : Option Nat) : Option (ListState α δ) :=
  match p with
  | none => some { s with pHead := next }
  | some p => s.setNext p next

/-- `p->prev = prev`, or `p_tail = prev` when `p` is `NULL`. -/
def setPrevOrTail (p : Option Nat) (prev : Option Nat) : Option (ListState α δ) :=
  match p with
  | none => some { s with pTail := prev }
  | some p => s.setPrev p prev

/-- What `malloc` answered, filled in. -/
def alloc (p : Nat) (elem : ListElement α δ) : ListState α δ :=
  { s with memory := Function.update s.memory p (some elem), inUse := s.inUse + 1 }

def free (p : Nat) : Option (ListState α δ) :=
  if (s.memory p).isSome then
    some { s with memory := Function.update s.memory p none, inUse := s.inUse - 1 }
  else none

/-- `dealloc_func(data_ptr)`, if there is such a function. -/
def dealloc (elem : ListElement α δ) : ListState α δ :=
  { s with deallocs := s.deallocs ++ (elem.deallocFunc.map fun f => (f, elem.dataPtr)).toList }

/-- `linked_list_add`; `elem` is what `malloc` answers. -/
def linkedListAdd (dataObj : Option α) (dealloc : Option δ) (elem : Option Nat) :
    Option (ListState α δ × LinkedListErr) :=
  match dataObj, elem with
  | none, _ => some (s, .invalidParameter)
  | some _, none => some (s, .failureGeneral)
  | some dataObj, some elem =>
      let s := s.alloc elem
        { next := none, prev := none, dataPtr := dataObj, deallocFunc := dealloc }
      let tmp := s.pHead
      let s := { s with pHead := some elem }
      (s.setNext elem tmp).bind fun s =>
        (s.setPrevOrTail tmp s.pHead).map fun s => (s, .success)

/-- `linked_list_remove`; `dataObj` says whether there is an output pointer.
What is written to it comes along. -/
def linkedListRemove (dataObj : Bool) :
    Option (ListState α δ × LinkedListErr × Option α) :=
  match dataObj, s.pTail with
  | false, _ => some (s, .invalidParameter, none)
  | true, none => some (s, .unavailableResource, none)
  | true, some tmp =>
      (s.memory tmp).bind fun elem =>
        let s := { s with pTail := elem.prev }
        (s.setNextOrHead s.pTail none).bind fun s =>
          (s.free tmp).map fun s => (s, .success, some elem.dataPtr)

/-- `linked_list_empty` -/
def linkedListEmpty : Bool := s.pHead.isNone

/-- The loop of `linked_list_flush`. -/
def flushLoop (fuel : Nat) (s : ListState α δ) : Option (ListState α δ) :=
  match fuel, s.pHead with
  | _, none => some s
  | 0, some _ => none
  | fuel + 1, some head =>
      (s.memory head).bind fun elem =>
        ((s.dealloc elem).free head).bind fun s => flushLoop fuel { s with pHead := elem.next }

/-- `linked_list_flush` -/
def linkedListFlush : Option (ListState α δ) :=
  (flushLoop s.inUse s).map fun s => { s with pTail := none }

/-- What `linked_list_search` does to an element it found and is to remove. The
data is deallocated when it is not copied out. -/
def removeFound (dataP : Bool) (tmp : Nat) : Option (ListState α δ) :=
  (s.memory tmp).bind fun elem =>
    (s.setNextOrHead elem.prev elem.next).bind fun s =>
      (s.setPrevOrTail elem.next elem.prev).bind fun s =>
        (s.setNext tmp none).bind fun s =>
          (s.setPrev tmp none).bind fun s =>
            (if dataP then s else s.dealloc elem).free tmp

/-- The loop of `linked_list_search`. -/
def searchLoop (equal : α → σ → Bool × σ) (dataP rmIfFound : Bool) :
    Nat → Option Nat → ListState α δ → σ → Option (Option α × ListState α δ × σ)
  | _, none, s, state => some (none, s, state)
  | 0, some _, _, _ => none
  | fuel + 1, some tmp, s, state =>
      (s.memory tmp).bind fun elem =>
        match equal elem.dataPtr state with
        | (true, state) =>
            (if rmIfFound then s.removeFound dataP tmp else some s).map fun s =>
              (some elem.dataPtr, s, state)
        | (false, state) => searchLoop equal dataP rmIfFound fuel elem.next s state

/-- `linked_list_search`; `dataP` says whether there is an output pointer, and
what is written to it comes along, `some none` for `NULL`. -/
def linkedListSearch (dataP : Bool) (equal : Option (α → σ → Bool × σ)) (rmIfFound : Bool)
    (state : σ) : Option (ListState α δ × LinkedListErr × Option (Option α) × σ) :=
  match equal, s.pTail with
  | none, _ => some (s, .invalidHandle, none, state)
  | some _, none => some (s, .unavailableResource, none, state)
  | some equal, some _ =>
      (searchLoop equal dataP rmIfFound s.inUse s.pHead s state).map fun (found, s, state) =>
        (s, .success, if dataP then some found else none, state)

end ListState

end Serrano.LinkedList
