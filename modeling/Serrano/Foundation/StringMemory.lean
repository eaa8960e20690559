import Mathlib.Data.List.Basic
import Mathlib.Logic.Function.Basic

/-! # Strings in memory

A memory has a character at every address. A string takes up consecutive addresses and
ends before the first character NUL. Storing characters one after the other changes
their own addresses only.
-/

namespace StringMemory

variable {memory : Nat → Char} {address : Nat} {text : List Char}

def nul : Char := '\x00'

/-- The characters from an address on. -/
def Segment (memory : Nat → Char) (address : Nat) (text : List Char) : Prop :=
  ∀ i, ∀ h : i < text.length, memory (address + i) = text[i]

/-- A string and its terminator. -/
structure Holds (memory : Nat → Char) (address : Nat) (text : List Char) : Prop where
  segment : Segment memory address text
  terminator : memory (address + text.length) = nul
  ne_nul : ∀ c ∈ text, c ≠ nul

/-- A string that a memory holds. -/
structure HeldString where
  memory : Nat → Char
  address : Nat
  text : List Char
  holds : Holds memory address text

/-- Storing characters at consecutive addresses. -/
def store (memory : Nat → Char) (address : Nat) : List Char → Nat → Char
  | [] => memory
  | c :: rest => store (Function.update memory address c) (address + 1) rest

theorem Segment.cons_iff {c : Char} {rest : List Char} :
    Segment memory address (c :: rest) ↔
      memory address = c ∧ Segment memory (address + 1) rest := by
  constructor
  · intro h
    refine ⟨h 0 (Nat.zero_lt_succ _), fun i hi => ?_⟩
    rw [Nat.add_right_comm, Nat.add_assoc, h (i + 1) (Nat.succ_lt_succ hi),
      List.getElem_cons_succ]
  · rintro ⟨rfl, hrest⟩ i hi
    cases i with
    | zero => rfl
    | succ i =>
        rw [← Nat.add_assoc, Nat.add_right_comm, hrest i (Nat.lt_of_succ_lt_succ hi),
          List.getElem_cons_succ]

theorem Segment.append_iff {first second : List Char} :
    Segment memory address (first ++ second) ↔
      Segment memory address first ∧ Segment memory (address + first.length) second := by
  induction first generalizing address with
  | nil => exact ⟨fun h => ⟨fun _ hi => absurd hi (Nat.not_lt_zero _), h⟩, fun h => h.2⟩
  | cons c rest ih =>
      rw [List.cons_append, Segment.cons_iff, Segment.cons_iff, ih, List.length_cons,
        Nat.add_assoc, Nat.add_comm 1, and_assoc]

/-- A segment depends on its own addresses only. -/
theorem Segment.congr {other : Nat → Char} (h : Segment memory address text)
    (hother : ∀ a, address ≤ a → a < address + text.length → other a = memory a) :
    Segment other address text := by
  intro i hi
  rw [hother _ (Nat.le_add_right _ _) (Nat.add_lt_add_left hi _), h i hi]

theorem store_append (first second : List Char) :
    store memory address (first ++ second) =
      store (store memory address first) (address + first.length) second := by
  induction first generalizing memory address with
  | nil => rfl
  | cons c rest ih =>
      rw [List.cons_append, store, ih, store, List.length_cons, Nat.add_assoc, Nat.add_comm 1]

/-- Everything else is unchanged. -/
theorem store_of_outside {a : Nat} (h : a < address ∨ address + text.length ≤ a) :
    store memory address text a = memory a := by
  induction text generalizing memory address with
  | nil => rfl
  | cons c rest ih =>
      rw [List.length_cons] at h
      rw [store, ih (by omega), Function.update_of_ne (by omega)]

/-- What is stored elsewhere may be stored before. -/
theorem store_update {a : Nat} (c : Char) (h : a < address ∨ address + text.length ≤ a) :
    store (Function.update memory a c) address text =
      Function.update (store memory address text) a c := by
  induction text generalizing memory address with
  | nil => rfl
  | cons first rest ih =>
      rw [List.length_cons] at h
      rw [store, store, Function.update_comm (by omega), ih (by omega)]

theorem segment_store : Segment (store memory address text) address text := by
  induction text generalizing memory address with
  | nil => exact fun _ hi => absurd hi (Nat.not_lt_zero _)
  | cons c rest ih =>
      refine Segment.cons_iff.mpr ⟨?_, ih⟩
      rw [store, store_of_outside (.inl (Nat.lt_succ_self address)), Function.update_self]

/-- A string in a memory that holds nothing else. -/
def HeldString.alone (address : Nat) (text : List Char) (h : ∀ c ∈ text, c ≠ nul) :
    HeldString where
  memory := store (fun _ => nul) address text
  address := address
  text := text
  holds := ⟨segment_store, store_of_outside (.inr (Nat.le_refl _)), h⟩

/-- Storing what is there already. -/
theorem store_eq_self (h : Segment memory address text) : store memory address text = memory := by
  induction text generalizing address with
  | nil => rfl
  | cons c rest ih =>
      obtain ⟨rfl, hrest⟩ := Segment.cons_iff.mp h
      rw [store, Function.update_eq_self, ih hrest]

theorem Holds.eq_nil (h : Holds memory address text) (hnul : memory address = nul) : text = [] := by
  cases text with
  | nil => rfl
  | cons c rest =>
      rw [(Segment.cons_iff.mp h.segment).1] at hnul
      exact absurd hnul (h.ne_nul c List.mem_cons_self)

/-- The terminator is the first NUL. -/
theorem Holds.apply_eq_nul_iff {done rest : List Char}
    (h : Holds memory address (done ++ rest)) :
    memory (address + done.length) = nul ↔ rest = [] := by
  have hrest : Holds memory (address + done.length) rest := by
    refine ⟨(Segment.append_iff.mp h.segment).2, ?_,
      fun c hc => h.ne_nul c (List.mem_append_right done hc)⟩
    rw [← h.terminator, List.length_append, Nat.add_assoc]
  constructor
  · exact hrest.eq_nil
  · rintro rfl
    exact hrest.terminator

/-- What comes after a part of a string. -/
theorem Holds.apply_headD {done rest : List Char} (h : Holds memory address (done ++ rest)) :
    memory (address + done.length) = rest.headD nul := by
  cases rest with
  | nil => exact h.apply_eq_nul_iff.mpr rfl
  | cons c rest =>
      exact (Segment.cons_iff.mp (Segment.append_iff.mp h.segment).2).1

/-- The next character of a string. -/
theorem Holds.apply_append {done rest : List Char} {c : Char}
    (h : Holds memory address (done ++ c :: rest)) : memory (address + done.length) = c :=
  h.apply_headD

/-- A memory holds one string at an address. -/
theorem Holds.unique {first second : List Char} (hfirst : Holds memory address first)
    (hsecond : Holds memory address second) : first = second := by
  induction first generalizing address second with
  | nil =>
      exact (hsecond.eq_nil hfirst.terminator).symm
  | cons c rest ih =>
      cases second with
      | nil => exact absurd (hfirst.eq_nil hsecond.terminator) (List.cons_ne_nil c rest)
      | cons c' rest' =>
          obtain ⟨rfl, hrest⟩ := Segment.cons_iff.mp hfirst.segment
          obtain ⟨rfl, hrest'⟩ := Segment.cons_iff.mp hsecond.segment
          congr 1
          refine ih ⟨hrest, ?_, fun c hc => hfirst.ne_nul c (List.mem_cons_of_mem _ hc)⟩
            ⟨hrest', ?_, fun c hc => hsecond.ne_nul c (List.mem_cons_of_mem _ hc)⟩
          · rw [← hfirst.terminator, List.length_cons, Nat.add_assoc, Nat.add_comm 1]
          · rw [← hsecond.terminator, List.length_cons, Nat.add_assoc, Nat.add_comm 1]

/-- A terminator within a segment. -/
theorem Holds.of_terminate {first second : List Char}
    (h : Segment memory address (first ++ second)) (hnul : ∀ c ∈ first, c ≠ nul) :
    Holds (Function.update memory (address + first.length) nul) address first where
  segment := by
    refine (Segment.append_iff.mp h).1.congr fun a _ hlt => ?_
    exact Function.update_of_ne (Nat.ne_of_lt hlt) nul memory
  terminator := Function.update_self _ _ _
  ne_nul := hnul

end StringMemory
