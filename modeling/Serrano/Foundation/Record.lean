import Mathlib.Data.List.Basic

/-! # Arrays of records in memory

A record is stored in a fixed number of words, and an array of records is stored
as one after the other. What is loaded at an index of an array of the right kind
is the record at that index.
-/

universe u v w

/-- How records are stored. A load looks at the words from an address on, and fails
when it runs out of them. -/
structure Record (Word : Type u) (α : Type v) where
  words : Nat
  store : α → List Word
  load : List Word → Option α
  length_store : ∀ a, (store a).length = words
  load_store : ∀ a rest, load (store a ++ rest) = some a

namespace Record

variable {Word : Type u} {α : Type v} {β : Type w} (record : Record Word α)

/-- One more word behind a record. -/
def push (pack : α → Word → β) (unpack : β → α × Word)
    (hpack : ∀ b, pack (unpack b).1 (unpack b).2 = b) : Record Word β where
  words := record.words + 1
  store b := record.store (unpack b).1 ++ [(unpack b).2]
  load memory := (record.load memory).bind fun a => (memory[record.words]?).map (pack a)
  length_store b := by simp [record.length_store]
  load_store b rest := by
    have hlast : (record.store (unpack b).1 ++ ((unpack b).2 :: rest))[record.words]? =
        some (unpack b).2 := by
      rw [List.getElem?_append_right (Nat.le_of_eq (record.length_store _)), record.length_store,
        Nat.sub_self, List.getElem?_cons_zero]
    rw [List.append_assoc, List.singleton_append, record.load_store, Option.bind_some, hlast,
      Option.map_some, hpack]

/-- The array of so many records at the start of a memory. -/
def loadArray : List Word → Nat → Option (List α)
  | _, 0 => some []
  | memory, num + 1 =>
      (record.load memory).bind fun a =>
        (loadArray (memory.drop record.words) num).map (a :: ·)

def storeArray (entries : List α) : List Word := entries.flatMap record.store

theorem length_storeArray (entries : List α) :
    (record.storeArray entries).length = record.words * entries.length := by
  induction entries with
  | nil => rfl
  | cons a rest ih =>
      rw [storeArray, List.flatMap_cons, List.length_append, record.length_store, ← storeArray, ih,
        List.length_cons, Nat.mul_succ, Nat.add_comm]

theorem length_of_loadArray {memory : List Word} {num : Nat} {entries : List α}
    (h : record.loadArray memory num = some entries) : entries.length = num := by
  induction num generalizing memory entries with
  | zero =>
      obtain rfl := Option.some.inj h
      rfl
  | succ num ih =>
      rw [loadArray, Option.bind_eq_some_iff] at h
      obtain ⟨a, -, hrest⟩ := h
      obtain ⟨rest, hload, rfl⟩ := Option.map_eq_some_iff.mp hrest
      rw [List.length_cons, ih hload]

/-- Every record of an array is loaded back. -/
theorem loadArray_storeArray (entries : List α) :
    record.loadArray (record.storeArray entries) entries.length = some entries := by
  induction entries with
  | nil => rfl
  | cons a rest ih =>
      rw [List.length_cons, loadArray, storeArray, List.flatMap_cons, record.load_store,
        Option.bind_some, List.drop_left' (record.length_store a), ← storeArray, ih,
        Option.map_some]

end Record
