import Mathlib.Data.Finset.Basic
import Mathlib.Data.Finset.Insert

/-! # Readers-writer locks

A lock is held by any number of readers or by one writer. Acquiring is partial: a
thread that would have to wait has no successor, and so has one that releases
what it does not hold. A thread holds a lock once at most.
-/

universe u

/-- Who holds the lock. -/
structure RwLock (Thread : Type u) where
  readers : Finset Thread
  writer : Option Thread
  exclusive : writer ≠ none → readers = ∅

namespace RwLock

variable {Thread : Type u}

/-- Nobody holds it. -/
def free : RwLock Thread where
  readers := ∅
  writer := none
  exclusive _ := rfl

def Reads (lock : RwLock Thread) (thread : Thread) : Prop := thread ∈ lock.readers

def Writes (lock : RwLock Thread) (thread : Thread) : Prop := lock.writer = some thread

/-- The thread keeps writers out. -/
def Holds (lock : RwLock Thread) (thread : Thread) : Prop := lock.Reads thread ∨ lock.Writes thread

variable {lock lock' : RwLock Thread} {thread other : Thread}

/-- Whoever writes is the only one to hold the lock. -/
theorem Writes.unique (hwrites : lock.Writes thread) (hholds : lock.Holds other) :
    other = thread := by
  rcases hholds with hreads | hother
  · have hempty := lock.exclusive (by rw [show lock.writer = some thread from hwrites]; simp)
    rw [Reads, hempty] at hreads
    exact absurd hreads (Finset.notMem_empty other)
  · exact Option.some.inj (hother.symm.trans hwrites)

variable [DecidableEq Thread]

def rdlock (lock : RwLock Thread) (thread : Thread) : Option (RwLock Thread) :=
  if lock.writer = none ∧ thread ∉ lock.readers then
    some ⟨insert thread lock.readers, none, fun hne => absurd rfl hne⟩
  else none

def wrlock (lock : RwLock Thread) (thread : Thread) : Option (RwLock Thread) :=
  if lock.writer = none ∧ lock.readers = ∅ then some ⟨∅, some thread, fun _ => rfl⟩ else none

def unlock (lock : RwLock Thread) (thread : Thread) : Option (RwLock Thread) :=
  if lock.writer = some thread then some free
  else if thread ∈ lock.readers then
    some ⟨lock.readers.erase thread, lock.writer, fun hne => by
      rw [lock.exclusive hne, Finset.erase_empty]⟩
  else none

theorem rdlock_spec (hlock : lock.rdlock thread = some lock') :
    (∀ other, lock'.Reads other ↔ other = thread ∨ lock.Reads other) ∧
      (∀ other, ¬ lock'.Writes other) ∧ ∀ other, ¬ lock.Writes other := by
  rw [rdlock] at hlock
  split_ifs at hlock with hfree
  obtain rfl := Option.some.inj hlock
  simp [Reads, Writes, hfree.1]

theorem wrlock_spec (hlock : lock.wrlock thread = some lock') :
    (∀ other, ¬ lock'.Reads other) ∧ (∀ other, lock'.Writes other ↔ other = thread) ∧
      ∀ other, ¬ lock.Holds other := by
  rw [wrlock] at hlock
  split_ifs at hlock with hfree
  obtain rfl := Option.some.inj hlock
  simp [Holds, Reads, Writes, hfree.1, hfree.2, eq_comm]

theorem unlock_spec (hlock : lock.unlock thread = some lock') :
    (∀ other, lock'.Reads other ↔ other ≠ thread ∧ lock.Reads other) ∧
      ∀ other, lock'.Writes other ↔ other ≠ thread ∧ lock.Writes other := by
  rw [unlock] at hlock
  split_ifs at hlock with hwrites hreads
  · have hempty : lock.readers = ∅ := lock.exclusive (by simp [hwrites])
    obtain rfl := Option.some.inj hlock
    simp [Reads, Writes, free, hwrites, hempty, eq_comm]
  · obtain rfl := Option.some.inj hlock
    refine ⟨fun other => by simp [Reads], fun other => ?_⟩
    simp only [Writes]
    refine ⟨fun hother => ⟨?_, hother⟩, fun hother => hother.2⟩
    rintro rfl
    exact hwrites hother

end RwLock
