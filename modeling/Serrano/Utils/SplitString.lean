import Mathlib.Algebra.Ring.Int.Defs
import Mathlib.Algebra.Ring.Nat
import Mathlib.Data.List.GetD
import Mathlib.Tactic.SplitIfs
import Serrano.Foundation.Loop
import Serrano.Foundation.StringMemory
import Serrano.Foundation.TextLines

/-! # Splitting a string in place

The fields of a string are separated by a delimiter. Each delimiter that is passed becomes
a terminator, and an array receives the addresses of the fields, up to a number of them.
Positions and lengths have type `int`.
-/

namespace Serrano.Utils

open StringMemory

namespace SplitString

/-- The variables of the loop. -/
structure Cursors where
  memory : Nat → Char
  split_strings_ptr : Nat → Nat
  raw_string_index : Nat
  num_split_strings : Nat
  end_string : Bool

/-- The number of fields, the memory, and the array. -/
structure Outcome where
  num_split_strings : Int
  memory : Nat → Char
  split_strings_ptr : Nat → Nat

def Cursors.outcome (s : Cursors) : Outcome where
  num_split_strings := s.num_split_strings
  memory := s.memory
  split_strings_ptr := s.split_strings_ptr

section

variable (raw_string : Nat) (raw_string_length max_num_substrings : Int) (delimiter : Char)

/-- The loop goes on with the next position. -/
def advance (s : Cursors) : Loop.Next Cursors Outcome :=
  if s.end_string then .leave s.outcome
  else .again { s with raw_string_index := s.raw_string_index + 1 }

/-- A field ends, and the next one begins if there is one and the array has room for it. -/
def endField (s : Cursors) : Loop.Next Cursors Outcome :=
  let ended : Cursors :=
    { s with
      memory := Function.update s.memory (raw_string + s.raw_string_index) nul
      num_split_strings := s.num_split_strings + 1 }
  if (s.raw_string_index : Int) + 1 < raw_string_length ∧
      (s.num_split_strings : Int) + 1 < max_num_substrings then
    advance
      { ended with
        split_strings_ptr :=
          Function.update s.split_strings_ptr (s.num_split_strings + 1)
            (raw_string + s.raw_string_index + 1) }
  else .leave ended.outcome

/-- The terminator is the end of the string. -/
def look (c : Char) (s : Cursors) : Cursors :=
  if c = nul then { s with end_string := true } else s

def inspect (c : Char) (s : Cursors) : Loop.Next Cursors Outcome :=
  if c = delimiter ∨ s.end_string = true then
    endField raw_string raw_string_length max_num_substrings s
  else advance s

def body (s : Cursors) : Loop.Next Cursors Outcome :=
  if (s.raw_string_index : Int) < raw_string_length then
    inspect raw_string raw_string_length max_num_substrings delimiter
      (s.memory (raw_string + s.raw_string_index))
      (look (s.memory (raw_string + s.raw_string_index)) s)
  else .leave s.outcome

end

def start (memory : Nat → Char) (split_strings_ptr : Nat → Nat) (raw_string : Nat) : Cursors where
  memory := memory
  split_strings_ptr := Function.update split_strings_ptr 0 raw_string
  raw_string_index := 0
  num_split_strings := 0
  end_string := false

/-- A length as an `int`. -/
def toInt (length : Nat) : Int := (length : Int).bmod (2 ^ 32)

end SplitString

/-- `loc_util_split_string` -/
def locUtilSplitString (fuel : Nat) (raw_string : Option HeldString)
    (split_strings_ptr : Option (Nat → Nat)) (max_num_substrings : Int) (delimiter : Char) :
    Option (Int ⊕ SplitString.Outcome) :=
  match raw_string, split_strings_ptr with
  | some raw_string, some split_strings_ptr =>
      (Loop.run
        (SplitString.body raw_string.address (SplitString.toInt (raw_string.text.length + 1))
          max_num_substrings delimiter) fuel
        (SplitString.start raw_string.memory split_strings_ptr raw_string.address)).map .inr
  | _, _ => some (.inl (-1))

namespace SplitString

/-- What fields take up in a string, each with the character that ends it. -/
def joined (ending : Char) (fields : List (List Char)) : List Char :=
  fields.flatMap (· ++ [ending])

@[simp] theorem joined_nil (ending : Char) : joined ending [] = [] := rfl

theorem joined_cons (ending : Char) (field : List Char) (fields : List (List Char)) :
    joined ending (field :: fields) = field ++ [ending] ++ joined ending fields := rfl

theorem joined_concat (ending : Char) (fields : List (List Char)) (field : List Char) :
    joined ending (fields ++ [field]) = joined ending fields ++ (field ++ [ending]) := by
  rw [joined, List.flatMap_append, List.flatMap_singleton]
  rfl

theorem length_joined (first second : Char) (fields : List (List Char)) :
    (joined first fields).length = (joined second fields).length := by
  induction fields with
  | nil => rfl
  | cons field rest ih =>
      rw [joined, joined, List.flatMap_cons, List.flatMap_cons, List.length_append,
        List.length_append, List.length_append, List.length_append]
      exact congrArg _ ih

/-- Finished fields are the first ones. -/
theorem splitOn_joined_append {delimiter : Char} {before : List (List Char)}
    (h : ∀ field ∈ before, delimiter ∉ field) (rest : List Char) :
    (joined delimiter before ++ rest).splitOn delimiter = before ++ rest.splitOn delimiter := by
  induction before with
  | nil => rfl
  | cons field before ih =>
      rw [joined, List.flatMap_cons, List.append_assoc, List.append_assoc, List.singleton_append,
        List.splitOn_append_cons_self_of_not_mem (h field List.mem_cons_self)]
      exact congrArg _ (ih fun other hother => h other (List.mem_cons_of_mem field hother))

theorem length_joined_eq (ending : Char) (fields : List (List Char)) :
    (joined ending fields).length = (fields.map (·.length + 1)).sum := by
  rw [joined, List.length_flatMap]
  refine congrArg List.sum (List.map_congr_left fun field _ => ?_)
  exact List.length_append

theorem joined_append (ending : Char) (first second : List (List Char)) :
    joined ending (first ++ second) = joined ending first ++ joined ending second :=
  List.flatMap_append

/-- The fields of a string make it up, with a delimiter at its end. -/
theorem joined_splitOn (delimiter : Char) (text : List Char) :
    joined delimiter (text.splitOn delimiter) = text ++ [delimiter] := by
  induction text with
  | nil => rfl
  | cons c rest ih =>
      rw [TextLines.splitOn_cons, List.cons_append, ← ih]
      split
      next hc =>
        subst hc
        rfl
      next =>
        cases hfields : rest.splitOn delimiter with
        | nil => exact absurd hfields (List.splitOn_ne_nil _ _)
        | cons field fields => rfl

theorem not_mem_of_mem_splitOn {delimiter : Char} {text field : List Char}
    (h : field ∈ text.splitOn delimiter) : delimiter ∉ field := by
  induction text generalizing field with
  | nil =>
      rw [List.mem_singleton.mp h]
      exact List.not_mem_nil
  | cons c rest ih =>
      rw [TextLines.splitOn_cons] at h
      split at h
      next =>
        obtain rfl | hrest := List.mem_cons.mp h
        · exact List.not_mem_nil
        · exact ih hrest
      next hc =>
        cases hfields : rest.splitOn delimiter with
        | nil => rw [hfields] at h; cases h
        | cons first fields =>
            rw [hfields] at h ih
            obtain rfl | hrest := List.mem_cons.mp h
            · rw [List.mem_cons, not_or]
              exact ⟨Ne.symm hc, ih List.mem_cons_self⟩
            · exact ih (List.mem_cons_of_mem first hrest)

/-- A delimiter becomes a terminator. -/
def cut (delimiter c : Char) : Char := if c = delimiter then nul else c

theorem joined_nul_eq_map {delimiter : Char} {fields : List (List Char)}
    (h : ∀ field ∈ fields, delimiter ∉ field) :
    joined nul fields = (joined delimiter fields).map (cut delimiter) := by
  induction fields with
  | nil => rfl
  | cons field rest ih =>
      have hfield : field.map (cut delimiter) = field := by
        refine (List.map_congr_left fun c hc => ?_).trans (List.map_id field)
        refine if_neg ?_
        rintro rfl
        exact h field List.mem_cons_self hc
      have hend : [delimiter].map (cut delimiter) = [nul] := congrArg (List.cons · []) (if_pos rfl)
      have hrest := ih fun other hother => h other (List.mem_cons_of_mem field hother)
      rw [joined, joined, List.flatMap_cons, List.flatMap_cons, List.map_append, List.map_append,
        hfield, hend]
      exact congrArg _ hrest

/-- The array once fields have begun. -/
def placed (split_strings_ptr : Nat → Nat) (raw_string : Nat) (fields : List (List Char)) :
    Nat → Nat := fun i =>
  if i < fields.length then raw_string + (joined nul (fields.take i)).length
  else split_strings_ptr i

theorem placed_concat (split_strings_ptr : Nat → Nat) (raw_string : Nat)
    (fields : List (List Char)) (field : List Char) :
    placed split_strings_ptr raw_string (fields ++ [field]) =
      Function.update (placed split_strings_ptr raw_string fields) fields.length
        (raw_string + (joined nul fields).length) := by
  funext i
  rw [placed, List.length_append, List.length_singleton]
  obtain hlt | rfl | hgt := Nat.lt_trichotomy i fields.length
  · rw [if_pos (Nat.lt_succ_of_lt hlt), Function.update_of_ne (Nat.ne_of_lt hlt), placed,
      if_pos hlt, List.take_append_of_le_length (Nat.le_of_lt hlt)]
  · rw [if_pos (Nat.lt_succ_self _), Function.update_self, List.take_left]
  · rw [if_neg (by omega), Function.update_of_ne (Nat.ne_of_gt hgt), placed, if_neg (by omega)]

/-- The outcome when so many fields have been found. -/
def finished (raw_string : HeldString) (split_strings_ptr : Nat → Nat)
    (fields : List (List Char)) : Outcome where
  num_split_strings := fields.length
  memory := store raw_string.memory raw_string.address (joined nul fields)
  split_strings_ptr := placed split_strings_ptr raw_string.address fields

variable {raw_string : HeldString} {split_strings_ptr : Nat → Nat} {max_num_substrings : Int}
variable {delimiter : Char} {before : List (List Char)} {part rest : List Char} {s : Cursors}

/-- The variables when fields are finished and a part of the next one has been scanned. -/
structure Scanned (raw_string : HeldString) (split_strings_ptr : Nat → Nat)
    (before : List (List Char)) (part : List Char) (s : Cursors) : Prop where
  memory_eq : s.memory = store raw_string.memory raw_string.address (joined nul before)
  split_strings_ptr : s.split_strings_ptr =
    placed split_strings_ptr raw_string.address (before ++ [part])
  raw_string_index : s.raw_string_index = (joined nul before).length + part.length
  num_split_strings : s.num_split_strings = before.length
  end_string : s.end_string = false

/-- What of the string is still to be scanned, where there is room for another field. -/
structure Remaining (raw_string : HeldString) (delimiter : Char) (max_num_substrings : Int)
    (before : List (List Char)) (part rest : List Char) : Prop where
  text_eq : raw_string.text = joined delimiter before ++ (part ++ rest)
  not_mem_before : ∀ field ∈ before, delimiter ∉ field
  not_mem_part : delimiter ∉ part
  room : (before.length : Int) < max_num_substrings

theorem scanned_start :
    Scanned raw_string split_strings_ptr [] []
      (start raw_string.memory split_strings_ptr raw_string.address) where
  memory_eq := rfl
  split_strings_ptr := (placed_concat split_strings_ptr raw_string.address [] []).symm
  raw_string_index := rfl
  num_split_strings := rfl
  end_string := rfl

theorem remaining_start (h : 1 ≤ max_num_substrings) :
    Remaining raw_string delimiter max_num_substrings [] [] raw_string.text where
  text_eq := rfl
  not_mem_before := fun _ hfield => absurd hfield List.not_mem_nil
  not_mem_part := List.not_mem_nil
  room := h

/-- The part that has been scanned is where it was. -/
theorem Remaining.segment
    (h : Remaining raw_string delimiter max_num_substrings before part rest) :
    Segment (store raw_string.memory raw_string.address (joined nul before))
      (raw_string.address + (joined nul before).length) part := by
  have hsegment := raw_string.holds.segment
  rw [h.text_eq, Segment.append_iff, length_joined delimiter nul, Segment.append_iff] at hsegment
  exact hsegment.2.1.congr fun a hle _ => store_of_outside (.inr hle)

theorem Scanned.apply_index (hs : Scanned raw_string split_strings_ptr before part s) :
    s.memory (raw_string.address + s.raw_string_index) =
      raw_string.memory (raw_string.address + ((joined nul before).length + part.length)) := by
  rw [hs.memory_eq, hs.raw_string_index, store_of_outside (.inr (by omega))]

/-- The terminator of a field that ends under the cursor. -/
theorem Scanned.ended (hs : Scanned raw_string split_strings_ptr before part s)
    (h : Remaining raw_string delimiter max_num_substrings before part rest) :
    Function.update s.memory (raw_string.address + s.raw_string_index) nul =
      store raw_string.memory raw_string.address (joined nul (before ++ [part])) := by
  rw [joined_concat, store_append, store_append, store_eq_self h.segment, ← hs.memory_eq,
    hs.raw_string_index, Nat.add_assoc]
  rfl

/-- The last field ends. -/
theorem Scanned.outcome_eq (hs : Scanned raw_string split_strings_ptr before part s)
    (h : Remaining raw_string delimiter max_num_substrings before part rest) (end_string : Bool) :
    Cursors.outcome
        { s with
          memory := Function.update s.memory (raw_string.address + s.raw_string_index) nul
          num_split_strings := s.num_split_strings + 1
          end_string := end_string } =
      finished raw_string split_strings_ptr (before ++ [part]) := by
  rw [Cursors.outcome, finished, hs.ended h, hs.split_strings_ptr, hs.num_split_strings,
    List.length_append]
  rfl

/-- Another character of a field. -/
theorem Scanned.extend {c : Char} (hs : Scanned raw_string split_strings_ptr before part s) :
    Scanned raw_string split_strings_ptr before (part ++ [c])
      { s with raw_string_index := s.raw_string_index + 1 } where
  memory_eq := hs.memory_eq
  split_strings_ptr := by
    rw [placed_concat, ← placed_concat split_strings_ptr raw_string.address before part]
    exact hs.split_strings_ptr
  raw_string_index := by
    rw [hs.raw_string_index, List.length_append, Nat.add_assoc]
    rfl
  num_split_strings := hs.num_split_strings
  end_string := hs.end_string

/-- Another field begins. -/
theorem Scanned.next (hs : Scanned raw_string split_strings_ptr before part s)
    (h : Remaining raw_string delimiter max_num_substrings before part rest) :
    Scanned raw_string split_strings_ptr (before ++ [part]) []
      { s with
        memory := Function.update s.memory (raw_string.address + s.raw_string_index) nul
        split_strings_ptr :=
          Function.update s.split_strings_ptr (s.num_split_strings + 1)
            (raw_string.address + s.raw_string_index + 1)
        raw_string_index := s.raw_string_index + 1
        num_split_strings := s.num_split_strings + 1 } where
  memory_eq := hs.ended h
  split_strings_ptr := by
    rw [placed_concat, ← hs.split_strings_ptr, joined_concat, List.length_append,
      List.length_append, List.length_append, hs.num_split_strings, hs.raw_string_index,
      ← Nat.add_assoc, ← Nat.add_assoc]
    rfl
  raw_string_index := by
    rw [hs.raw_string_index, joined_concat, List.length_append, List.length_append, Nat.add_assoc]
    rfl
  num_split_strings := by
    rw [hs.num_split_strings, List.length_append]
    rfl
  end_string := hs.end_string

theorem Remaining.length_text
    (h : Remaining raw_string delimiter max_num_substrings before part rest) :
    raw_string.text.length = (joined nul before).length + part.length + rest.length := by
  rw [h.text_eq, List.length_append, List.length_append, length_joined delimiter nul,
    Nat.add_assoc]

/-- The character under the cursor. -/
theorem Remaining.apply_index
    (h : Remaining raw_string delimiter max_num_substrings before part rest) :
    raw_string.memory (raw_string.address + ((joined nul before).length + part.length)) =
      rest.headD nul := by
  have hholds := raw_string.holds
  rw [h.text_eq, ← List.append_assoc] at hholds
  rw [length_joined nul delimiter, ← List.length_append]
  exact hholds.apply_headD

theorem Remaining.ne_nul {c : Char}
    (h : Remaining raw_string delimiter max_num_substrings before part (c :: rest)) : c ≠ nul := by
  refine raw_string.holds.ne_nul c ?_
  rw [h.text_eq]
  exact List.mem_append_right _ (List.mem_append_right _ List.mem_cons_self)

/-- The fields of the string, as far as they are known. -/
theorem Remaining.splitOn_eq
    (h : Remaining raw_string delimiter max_num_substrings before part rest) :
    raw_string.text.splitOn delimiter = before ++ (part ++ rest).splitOn delimiter := by
  rw [h.text_eq, splitOn_joined_append h.not_mem_before]

theorem Remaining.extend {c : Char}
    (h : Remaining raw_string delimiter max_num_substrings before part (c :: rest))
    (hc : c ≠ delimiter) :
    Remaining raw_string delimiter max_num_substrings before (part ++ [c]) rest where
  text_eq := by
    rw [h.text_eq, List.append_assoc part]
    rfl
  not_mem_before := h.not_mem_before
  not_mem_part := by
    rw [List.mem_append, List.mem_singleton]
    exact not_or.mpr ⟨h.not_mem_part, hc.symm⟩
  room := h.room

theorem Remaining.next
    (h : Remaining raw_string delimiter max_num_substrings before part (delimiter :: rest))
    (hroom : (before.length : Int) + 1 < max_num_substrings) :
    Remaining raw_string delimiter max_num_substrings (before ++ [part]) [] rest where
  text_eq := by
    rw [h.text_eq, joined_concat, List.append_assoc, List.append_assoc]
    rfl
  not_mem_before := by
    intro field hfield
    obtain hbefore | hpart := List.mem_append.mp hfield
    · exact h.not_mem_before field hbefore
    · rw [List.mem_singleton.mp hpart]
      exact h.not_mem_part
  not_mem_part := List.not_mem_nil
  room := by
    rw [List.length_append]
    exact hroom

/-- The fields that have been found when the string ends. -/
theorem Remaining.take_of_end
    (h : Remaining raw_string delimiter max_num_substrings before part []) :
    (raw_string.text.splitOn delimiter).take max_num_substrings.toNat = before ++ [part] := by
  have hroom := h.room
  rw [h.splitOn_eq, List.append_nil, List.splitOn_eq_singleton h.not_mem_part]
  refine List.take_of_length_le ?_
  rw [List.length_append, List.length_singleton]
  omega

/-- The fields that have been found when there is no room for another one. -/
theorem Remaining.take_of_full
    (h : Remaining raw_string delimiter max_num_substrings before part (delimiter :: rest))
    (hroom : ¬(before.length : Int) + 1 < max_num_substrings) :
    (raw_string.text.splitOn delimiter).take max_num_substrings.toNat = before ++ [part] := by
  have hlt := h.room
  have hlength : max_num_substrings.toNat = (before ++ [part]).length := by
    rw [List.length_append, List.length_singleton]
    omega
  rw [h.splitOn_eq, List.splitOn_append_cons_self_of_not_mem h.not_mem_part, hlength,
    List.append_cons before part (rest.splitOn delimiter), List.take_left]

/-- What one iteration does. -/
inductive Iteration (raw_string : HeldString) (split_strings_ptr : Nat → Nat)
    (max_num_substrings : Int) (delimiter : Char) (s : Cursors) :
    Loop.Next Cursors Outcome → Prop
  | again {before : List (List Char)} {part rest : List Char} {s' : Cursors}
      (hs : Scanned raw_string split_strings_ptr before part s')
      (h : Remaining raw_string delimiter max_num_substrings before part rest)
      (index : s'.raw_string_index = s.raw_string_index + 1) :
      Iteration raw_string split_strings_ptr max_num_substrings delimiter s (.again s')
  | leave :
      Iteration raw_string split_strings_ptr max_num_substrings delimiter s
        (.leave (finished raw_string split_strings_ptr
          ((raw_string.text.splitOn delimiter).take max_num_substrings.toNat)))

/-- The terminator ends the last field. -/
theorem Scanned.body_of_end (hs : Scanned raw_string split_strings_ptr before part s)
    (h : Remaining raw_string delimiter max_num_substrings before part []) :
    body raw_string.address (raw_string.text.length + 1) max_num_substrings delimiter s =
      .leave (finished raw_string split_strings_ptr (before ++ [part])) := by
  have hlength := h.length_text
  have hindex := hs.raw_string_index
  have hlook : look nul s = { s with end_string := true } := if_pos rfl
  rw [List.length_nil] at hlength
  rw [body, if_pos (by omega), hs.apply_index, h.apply_index, List.headD_nil, hlook,
    inspect, if_pos (.inr rfl), endField]
  dsimp only
  rw [if_neg fun hand => by have := hand.1; omega]
  exact congrArg Loop.Next.leave (hs.outcome_eq h true)

theorem Scanned.look_eq {c : Char}
    (h : Remaining raw_string delimiter max_num_substrings before part (c :: rest)) :
    look c s = s := if_neg h.ne_nul

/-- A field ends at a delimiter. -/
theorem Scanned.body_of_delimiter (hs : Scanned raw_string split_strings_ptr before part s)
    (h : Remaining raw_string delimiter max_num_substrings before part (delimiter :: rest)) :
    body raw_string.address (raw_string.text.length + 1) max_num_substrings delimiter s =
      endField raw_string.address (raw_string.text.length + 1) max_num_substrings s := by
  have hlength := h.length_text
  have hindex := hs.raw_string_index
  rw [body, if_pos (by omega), hs.apply_index, h.apply_index, List.headD_cons,
    Scanned.look_eq h, inspect, if_pos (.inl rfl)]

/-- An iteration looks at one character, or finds the terminator. -/
theorem Scanned.iteration (hs : Scanned raw_string split_strings_ptr before part s)
    (h : Remaining raw_string delimiter max_num_substrings before part rest) :
    Iteration raw_string split_strings_ptr max_num_substrings delimiter s
      (body raw_string.address (raw_string.text.length + 1) max_num_substrings delimiter s) := by
  have hlength := h.length_text
  have hindex := hs.raw_string_index
  have hend := ne_true_of_eq_false hs.end_string
  cases rest with
  | nil =>
      -- the terminator ends the last field
      rw [hs.body_of_end h, ← h.take_of_end]
      exact .leave
  | cons c rest =>
      rw [List.length_cons] at hlength
      by_cases hc : c = delimiter
      · subst hc
        rw [hs.body_of_delimiter h, endField]
        dsimp only
        rw [hs.num_split_strings]
        by_cases hroom : (before.length : Int) + 1 < max_num_substrings
        · rw [if_pos ⟨by omega, hroom⟩, advance, if_neg hend, ← hs.num_split_strings]
          exact .again (hs.next h) (h.next hroom) rfl
        · -- the array is full, and the loop leaves the rest of the string alone
          have houtcome := hs.outcome_eq h s.end_string
          rw [hs.num_split_strings] at houtcome
          rw [if_neg fun hand => hroom hand.2, houtcome, ← h.take_of_full hroom]
          exact .leave
      · rw [body, if_pos (by omega), hs.apply_index, h.apply_index, List.headD_cons,
          Scanned.look_eq h, inspect, if_neg (not_or.mpr ⟨hc, hend⟩), advance, if_neg hend]
        exact .again hs.extend (h.extend hc) rfl

def Scanning (raw_string : HeldString) (split_strings_ptr : Nat → Nat)
    (max_num_substrings : Int) (delimiter : Char) (s : Cursors) : Prop :=
  ∃ before part rest, Scanned raw_string split_strings_ptr before part s ∧
    Remaining raw_string delimiter max_num_substrings before part rest

theorem rule :
    Loop.Rule
      (body raw_string.address (raw_string.text.length + 1) max_num_substrings delimiter)
      (Scanning raw_string split_strings_ptr max_num_substrings delimiter)
      (fun s => raw_string.text.length - s.raw_string_index)
      (· = finished raw_string split_strings_ptr
        ((raw_string.text.splitOn delimiter).take max_num_substrings.toNat)) where
  again := by
    rintro s s' ⟨before, part, rest, hs, h⟩ hbody
    have hiteration := hs.iteration h
    rw [hbody] at hiteration
    cases hiteration with
    | again hs' h' hindex =>
        refine ⟨⟨_, _, _, hs', h'⟩, ?_⟩
        have hlength := h'.length_text
        rw [hs'.raw_string_index] at hindex ⊢
        omega
  leave := by
    rintro s outcome ⟨before, part, rest, hs, h⟩ hbody
    have hiteration := hs.iteration h
    rw [hbody] at hiteration
    cases hiteration
    rfl

/-- The length of a string that is not too long for an `int`. -/
theorem toInt_eq {length : Nat} (h : length < 2 ^ 31) : toInt length = length := by
  change (length : Int).bmod (2 ^ 32) = length
  rw [Int.bmod_eq_of_le (by omega) (by omega)]

theorem locUtilSplitString_eq {fuel : Nat} (hmax : 1 ≤ max_num_substrings)
    (hlength : raw_string.text.length + 1 < 2 ^ 31) (hfuel : raw_string.text.length < fuel) :
    locUtilSplitString fuel (some raw_string) (some split_strings_ptr) max_num_substrings
        delimiter =
      some (.inr (finished raw_string split_strings_ptr
        ((raw_string.text.splitOn delimiter).take max_num_substrings.toNat))) := by
  rw [locUtilSplitString, toInt_eq hlength]
  refine congrArg (Option.map Sum.inr) (rule.run_eq ?_ hfuel)
  exact ⟨[], [], raw_string.text, scanned_start, remaining_start hmax⟩

/-- A string whose length is a negative `int` has no fields. -/
theorem locUtilSplitString_of_long {fuel : Nat}
    (hlong : 2 ^ 31 ≤ raw_string.text.length + 1) (hlength : raw_string.text.length + 1 < 2 ^ 32)
    (hfuel : 0 < fuel) :
    locUtilSplitString fuel (some raw_string) (some split_strings_ptr) max_num_substrings
        delimiter =
      some (.inr (start raw_string.memory split_strings_ptr raw_string.address).outcome) := by
  obtain ⟨fuel, rfl⟩ := Nat.exists_eq_succ_of_ne_zero (Nat.ne_of_gt hfuel)
  have hnegative : ¬(0 : Int) < toInt (raw_string.text.length + 1) := by
    change ¬(0 : Int) < ((raw_string.text.length + 1 : Nat) : Int).bmod (2 ^ 32)
    rw [Int.bmod_def]
    split_ifs <;> omega
  have hbody :
      body raw_string.address (toInt (raw_string.text.length + 1)) max_num_substrings delimiter
          (start raw_string.memory split_strings_ptr raw_string.address) =
        .leave (start raw_string.memory split_strings_ptr raw_string.address).outcome :=
    if_neg hnegative
  rw [locUtilSplitString, Loop.run, hbody]
  rfl

end SplitString

/-- A call with a string and an array, and what it relies on. -/
structure SplitCall where
  raw_string : HeldString
  split_strings_ptr : Nat → Nat
  max_num_substrings : Int
  delimiter : Char
  nonnull : 0 < raw_string.address
  max_pos : 1 ≤ max_num_substrings
  delimiter_ne : delimiter ≠ nul

namespace SplitCall

variable (call : SplitCall)

def fields : List (List Char) := call.raw_string.text.splitOn call.delimiter

/-- The fields that there is room for. -/
def found : List (List Char) := call.fields.take call.max_num_substrings.toNat

/-- How much of the string has been passed when these have been found. -/
def passed : Nat := (call.found.map (·.length + 1)).sum

/-- The outcome of a call, by what it says about the fields. -/
structure Separates (outcome : SplitString.Outcome) : Prop where
  num_split_strings :
    outcome.num_split_strings = min call.max_num_substrings call.fields.length
  holds : ∀ i, ∀ h : i < call.found.length,
    Holds outcome.memory (outcome.split_strings_ptr i) call.found[i]
  in_place : ∀ i < call.found.length, outcome.split_strings_ptr i =
    call.raw_string.address + ((call.found.take i).map (·.length + 1)).sum
  pointers : ∀ i : Nat, call.max_num_substrings ≤ i →
    outcome.split_strings_ptr i = call.split_strings_ptr i
  string : ∀ i, ∀ h : i < call.raw_string.text.length,
    outcome.memory (call.raw_string.address + i) =
      if i < call.passed ∧ call.raw_string.text[i] = call.delimiter then nul
      else call.raw_string.text[i]
  memory : ∀ a, a < call.raw_string.address ∨
      call.raw_string.address + call.raw_string.text.length ≤ a →
    outcome.memory a = call.raw_string.memory a

/-- The call returns, and its outcome is as described. -/
def Splits : Prop :=
  ∃ outcome,
    (∀ fuel, call.raw_string.text.length < fuel →
      locUtilSplitString fuel (some call.raw_string) (some call.split_strings_ptr)
        call.max_num_substrings call.delimiter = some (.inr outcome)) ∧
    call.Separates outcome

theorem length_found :
    (call.found.length : Int) = min call.max_num_substrings call.fields.length := by
  have hpos := call.max_pos
  rw [found, List.length_take]
  omega

variable {call}

theorem not_mem_found : ∀ field ∈ call.found, call.delimiter ∉ field := fun _ hfield =>
  SplitString.not_mem_of_mem_splitOn (List.mem_of_mem_take hfield)

theorem length_joined_found (ending : Char) :
    (SplitString.joined ending call.found).length = call.passed :=
  SplitString.length_joined_eq ending call.found

/-- The part of the string that has been passed. -/
theorem joined_found_prefix_text :
    SplitString.joined call.delimiter call.found <+: call.raw_string.text ++ [call.delimiter] := by
  rw [← SplitString.joined_splitOn]
  change _ <+: SplitString.joined call.delimiter call.fields
  rw [← List.take_append_drop call.max_num_substrings.toNat call.fields,
    SplitString.joined_append]
  exact List.prefix_append _ _

theorem passed_le (call : SplitCall) : call.passed ≤ call.raw_string.text.length + 1 := by
  rw [← length_joined_found call.delimiter]
  exact Nat.le_trans joined_found_prefix_text.length_le (Nat.le_of_eq List.length_append)

/-- What has been passed keeps its characters, except for the delimiters. -/
theorem apply_of_lt_passed {i : Nat} (hi : i < call.passed) :
    store call.raw_string.memory call.raw_string.address (SplitString.joined nul call.found)
        (call.raw_string.address + i) =
      SplitString.cut call.delimiter ((call.raw_string.text ++ [call.delimiter]).getD i nul) := by
  have hlength := Nat.lt_of_lt_of_eq hi (length_joined_found nul).symm
  have hlength' := Nat.lt_of_lt_of_eq hi (length_joined_found call.delimiter).symm
  have hchar := joined_found_prefix_text.getElem hlength'
  have htext := Nat.lt_of_lt_of_le hlength' joined_found_prefix_text.length_le
  rw [segment_store i hlength, List.getD_eq_getElem _ _ htext, ← hchar]
  simp only [SplitString.joined_nul_eq_map not_mem_found, List.getElem_map]

/-- The address of a field that was found, and the field. -/
theorem holds_found {i : Nat} (h : i < call.found.length) :
    Holds
      (store call.raw_string.memory call.raw_string.address (SplitString.joined nul call.found))
      (call.raw_string.address + (SplitString.joined nul (call.found.take i)).length)
      call.found[i] := by
  have hsegment :
      Segment
        (store call.raw_string.memory call.raw_string.address (SplitString.joined nul call.found))
        call.raw_string.address (SplitString.joined nul call.found) := segment_store
  generalize store _ _ _ = memory at hsegment ⊢
  rw [← List.take_append_drop i call.found, List.drop_eq_getElem_cons h,
    SplitString.joined_append, Segment.append_iff] at hsegment
  obtain ⟨-, hfields⟩ := hsegment
  rw [SplitString.joined_cons, Segment.append_iff, Segment.append_iff] at hfields
  obtain ⟨⟨hfield, hend⟩, -⟩ := hfields
  refine ⟨hfield, (Segment.cons_iff.mp hend).1, fun c hc => ?_⟩
  have hjoined : c ∈ SplitString.joined call.delimiter call.found :=
    List.mem_flatMap.mpr ⟨_, List.getElem_mem h, List.mem_append_left _ hc⟩
  obtain htext | hdelimiter := List.mem_append.mp (joined_found_prefix_text.mem hjoined)
  · exact call.raw_string.holds.ne_nul c htext
  · rw [List.mem_singleton.mp hdelimiter]
    exact call.delimiter_ne

theorem separates_finished :
    call.Separates
      (SplitString.finished call.raw_string call.split_strings_ptr call.found) where
  num_split_strings := call.length_found
  holds := by
    intro i h
    have hplaced : SplitString.placed call.split_strings_ptr call.raw_string.address call.found i =
        call.raw_string.address + (SplitString.joined nul (call.found.take i)).length := if_pos h
    change Holds _ (SplitString.placed _ _ _ i) _
    rw [hplaced]
    exact holds_found h
  in_place := by
    intro i h
    rw [← SplitString.length_joined_eq nul]
    exact if_pos h
  pointers := by
    intro i h
    have hlength := call.length_found
    exact if_neg (by omega)
  string := by
    intro i h
    change store _ _ _ _ = _
    by_cases hi : i < call.passed
    · rw [apply_of_lt_passed hi, List.getD_append _ _ _ _ h, List.getD_eq_getElem _ _ h,
        SplitString.cut]
      simp only [hi, true_and]
    · rw [store_of_outside (.inr ?_), call.raw_string.holds.segment i h,
        if_neg fun hand => hi hand.1]
      rw [length_joined_found]
      omega
  memory := by
    intro a ha
    have hpassed := call.passed_le
    change store _ _ _ _ = _
    -- the terminator is written again when the last field ends there
    by_cases hend : a = call.raw_string.address + call.raw_string.text.length
    · subst hend
      by_cases hlt : call.raw_string.text.length < call.passed
      · rw [apply_of_lt_passed hlt, List.getD_append_right _ _ _ _ (Nat.le_refl _), Nat.sub_self,
          call.raw_string.holds.terminator]
        exact if_pos rfl
      · refine store_of_outside (.inr ?_)
        rw [length_joined_found]
        omega
    · refine store_of_outside ?_
      rw [length_joined_found]
      omega

/-- A string is split whose characters, the terminator included, an `int` can count. -/
theorem splits_of_length_lt (call : SplitCall) (h : call.raw_string.text.length + 1 < 2 ^ 31) :
    call.Splits :=
  ⟨_, fun _ => SplitString.locUtilSplitString_eq call.max_pos h, separates_finished⟩

/-- Two fields, and room for a pointer more. -/
def pairCall : SplitCall where
  raw_string := .alone 1 ['a', ',', 'b'] (by simp [nul])
  split_strings_ptr := fun _ => 0
  max_num_substrings := 3
  delimiter := ','
  nonnull := Nat.one_pos
  max_pos := by decide
  delimiter_ne := by decide

theorem splits_of_length_lt_pair : pairCall.Splits :=
  splits_of_length_lt pairCall (by decide : 3 + 1 < 2 ^ 31)

/-- No field is found in a string whose length is a negative `int`. -/
theorem not_splits_of_long {call : SplitCall} (hlong : 2 ^ 31 ≤ call.raw_string.text.length + 1)
    (hlt : call.raw_string.text.length + 1 < 2 ^ 32) : ¬call.Splits := by
  rintro ⟨outcome, hrun, hseparates⟩
  have hstart := (hrun _ (Nat.lt_succ_self _)).symm.trans
    (SplitString.locUtilSplitString_of_long hlong hlt (Nat.succ_pos _))
  injection hstart with hstart
  injection hstart with hstart
  have hcount := hseparates.num_split_strings
  have hfields : 0 < call.fields.length := List.length_pos_of_ne_nil (List.splitOn_ne_nil _ _)
  have hmax := call.max_pos
  rw [hstart] at hcount
  change (0 : Int) = _ at hcount
  omega

/-- The shortest string whose length and terminator are too many for an `int`. -/
def longCall : SplitCall where
  raw_string := .alone (2 ^ 16) (List.replicate (2 ^ 31 - 1) 'a') fun c hc => by
    rw [List.eq_of_mem_replicate hc]
    decide
  split_strings_ptr := fun _ => 0
  max_num_substrings := 1
  delimiter := ','
  nonnull := Nat.two_pow_pos 16
  max_pos := Int.le_refl 1
  delimiter_ne := by decide

theorem not_splits_longCall : ¬longCall.Splits := by
  have hlength : longCall.raw_string.text.length = 2 ^ 31 - 1 := List.length_replicate
  exact not_splits_of_long (by omega) (by omega)

end SplitCall

end Serrano.Utils
