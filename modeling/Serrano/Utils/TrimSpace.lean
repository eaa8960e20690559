import Mathlib.Data.List.DropRight
import Mathlib.Data.List.Induction
import Serrano.Foundation.Loop
import Serrano.Foundation.StringMemory
import Serrano.Utils.LocCfg

/-! # Trimming a string in place

The characters from the first non-space on are moved to the left, and the terminator is
put after the last non-space. A string that has no non-space has no such place, and is
left as it is.
-/

namespace Serrano.Utils

open StringMemory

/-- The string without its leading and trailing white space. -/
def trimmed (text : List Char) : List Char :=
  (text.dropWhile Strtol.isSpace).rdropWhile Strtol.isSpace

namespace TrimSpace

/-- The variables of the loop. -/
structure Cursors where
  memory : Nat → Char
  scan_ptr : Nat
  write_ptr : Nat
  first_nonspace : Option Nat
  last_nonspace : Option Nat

/-- The terminator after the last non-space. -/
def terminate (s : Cursors) : Nat → Char :=
  match s.last_nonspace with
  | some last_nonspace => Function.update s.memory last_nonspace nul
  -- no non-space was seen, and nothing is cut
  | none => s.memory

/-- The first non-space, once the character under `scan_ptr` has been looked at. -/
def firstNonspace (s : Cursors) : Option Nat :=
  if Strtol.isSpace (s.memory s.scan_ptr) = false ∧ s.first_nonspace = none then some s.scan_ptr
  else s.first_nonspace

def body (s : Cursors) : Loop.Next Cursors (Nat → Char) :=
  let c := s.memory s.scan_ptr
  if c = nul then .leave (terminate s)
  else if firstNonspace s ≠ none then
    -- the character is moved even when nothing stood in front of it
    .again
      { memory := Function.update s.memory s.write_ptr c
        scan_ptr := s.scan_ptr + 1
        write_ptr := s.write_ptr + 1
        first_nonspace := firstNonspace s
        last_nonspace :=
          if Strtol.isSpace c = false then some (s.write_ptr + 1) else s.last_nonspace }
  else .again { s with scan_ptr := s.scan_ptr + 1, first_nonspace := firstNonspace s }

def start (memory : Nat → Char) (org_string : Nat) : Cursors where
  memory := memory
  scan_ptr := org_string
  write_ptr := org_string
  first_nonspace := none
  last_nonspace := none

end TrimSpace

/-- `loc_util_trim_space` on a memory. -/
def locUtilTrimSpaceInPlace (fuel : Nat) (org_string : Option Nat) (memory : Nat → Char) :
    Option (Nat → Char) :=
  match org_string with
  | none => some memory
  | some org_string => Loop.run TrimSpace.body fuel (TrimSpace.start memory org_string)

namespace TrimSpace

variable {memory : Nat → Char} {org_string : Nat} {text : List Char}

/-- What has been moved once a part of the string has been scanned. -/
def moved (done : List Char) : List Char := done.dropWhile Strtol.isSpace

theorem moved_concat (done : List Char) (c : Char) :
    moved (done ++ [c]) =
      if moved done = [] ∧ Strtol.isSpace c = true then [] else moved done ++ [c] := by
  rw [moved, List.dropWhile_append]
  change (if (moved done).isEmpty = true then _ else moved done ++ [c]) = _
  cases hmoved : moved done with
  | cons first more => rw [if_neg (by simp), if_neg (by simp)]
  | nil =>
      cases hc : Strtol.isSpace c with
      | true => simp [hc]
      | false => simp [hc]

theorem length_moved_le (done : List Char) : (moved done).length ≤ done.length :=
  (List.dropWhile_sublist _).length_le

theorem moved_eq_nil_iff {done : List Char} :
    moved done = [] ↔ done.all Strtol.isSpace = true := by
  rw [moved, List.dropWhile_eq_nil_iff, List.all_eq_true]

/-- The cursors once a part of the string has been scanned. -/
structure Scanned (memory : Nat → Char) (org_string : Nat) (done : List Char) (s : Cursors) :
    Prop where
  memory_eq : s.memory = store memory org_string (moved done)
  scan_ptr : s.scan_ptr = org_string + done.length
  write_ptr : s.write_ptr = org_string + (moved done).length
  first_nonspace : s.first_nonspace = none ↔ moved done = []
  last_nonspace : s.last_nonspace =
    if moved done = [] then none
    else some (org_string + ((moved done).rdropWhile Strtol.isSpace).length)

theorem scanned_start : Scanned memory org_string [] (start memory org_string) where
  memory_eq := rfl
  scan_ptr := rfl
  write_ptr := rfl
  first_nonspace := iff_of_true rfl rfl
  last_nonspace := rfl

/-- The part of the string that is still to be scanned has not been touched. -/
theorem Scanned.apply_scan_ptr {done : List Char} {s : Cursors}
    (h : Scanned memory org_string done s) :
    s.memory s.scan_ptr = memory (org_string + done.length) := by
  have hle := length_moved_le done
  rw [h.memory_eq, h.scan_ptr, store_of_outside (.inr (Nat.add_le_add_left hle _))]

theorem Scanned.firstNonspace_eq_none_iff {done : List Char} {s : Cursors}
    (h : Scanned memory org_string done s) :
    firstNonspace s = none ↔
      moved done = [] ∧ Strtol.isSpace (memory (org_string + done.length)) = true := by
  rw [firstNonspace, h.apply_scan_ptr]
  split
  next hfirst =>
    refine iff_of_false (Option.some_ne_none _) fun hspace => ?_
    rw [hspace.2] at hfirst
    cases hfirst.1
  next hfirst =>
    rw [h.first_nonspace, iff_self_and]
    intro hmoved
    by_contra hc
    exact hfirst ⟨eq_false_of_ne_true hc, h.first_nonspace.mpr hmoved⟩

/-- White space in front of the string. -/
theorem Scanned.skip {done : List Char} {c : Char} {s : Cursors} {first_nonspace : Option Nat}
    (h : Scanned memory org_string done s) (hmoved : moved done = [])
    (hc : Strtol.isSpace c = true) (hfirst : first_nonspace = none) :
    Scanned memory org_string (done ++ [c])
      { s with scan_ptr := s.scan_ptr + 1, first_nonspace := first_nonspace } := by
  have hconcat : moved (done ++ [c]) = moved done := by
    rw [moved_concat, if_pos ⟨hmoved, hc⟩, hmoved]
  constructor
  case scan_ptr => rw [h.scan_ptr, List.length_append, Nat.add_assoc]; rfl
  case memory_eq => rw [hconcat]; exact h.memory_eq
  case write_ptr => rw [hconcat]; exact h.write_ptr
  case first_nonspace => rw [hconcat]; exact iff_of_true hfirst hmoved
  case last_nonspace => rw [hconcat]; exact h.last_nonspace

/-- A character that is moved. -/
theorem Scanned.move {done : List Char} {c : Char} {s : Cursors} {first_nonspace : Option Nat}
    (h : Scanned memory org_string done s) (hfirst : first_nonspace ≠ none)
    (hmove : ¬(moved done = [] ∧ Strtol.isSpace c = true)) :
    Scanned memory org_string (done ++ [c])
      { memory := Function.update s.memory s.write_ptr c
        scan_ptr := s.scan_ptr + 1
        write_ptr := s.write_ptr + 1
        first_nonspace := first_nonspace
        last_nonspace :=
          if Strtol.isSpace c = false then some (s.write_ptr + 1) else s.last_nonspace } := by
  have hconcat : moved (done ++ [c]) = moved done ++ [c] := by
    rw [moved_concat, if_neg hmove]
  have hne : moved done ++ [c] ≠ [] := List.append_ne_nil_of_right_ne_nil _ (List.cons_ne_nil c [])
  constructor
  case memory_eq => rw [hconcat, store_append, ← h.memory_eq, ← h.write_ptr]; rfl
  case scan_ptr => rw [h.scan_ptr, List.length_append, Nat.add_assoc]; rfl
  case write_ptr => rw [hconcat, h.write_ptr, List.length_append, Nat.add_assoc]; rfl
  case first_nonspace => rw [hconcat]; exact iff_of_false hfirst hne
  case last_nonspace =>
    rw [hconcat, if_neg hne, List.rdropWhile_concat]
    split
    next hc =>
      rw [hc, if_neg Bool.false_ne_true, h.write_ptr, List.length_append, Nat.add_assoc]
      rfl
    next hc =>
      have hspace := eq_true_of_ne_false hc
      rw [if_pos hspace, h.last_nonspace, if_neg fun hnil => hmove ⟨hnil, hspace⟩]

/-- What the loop leaves behind. -/
def result (memory : Nat → Char) (org_string : Nat) (text : List Char) : Nat → Char :=
  if moved text = [] then memory
  else
    Function.update (store memory org_string (moved text)) (org_string + (trimmed text).length) nul

theorem Scanned.terminate_eq {s : Cursors} (h : Scanned memory org_string text s) :
    terminate s = result memory org_string text := by
  rw [terminate, result, h.last_nonspace]
  by_cases hmoved : moved text = []
  · rw [if_pos hmoved, if_pos hmoved]
    exact h.memory_eq.trans (by rw [hmoved]; rfl)
  · rw [if_neg hmoved, if_neg hmoved, ← h.memory_eq]
    rfl

/-- The terminator ends the loop. -/
theorem Scanned.body_of_nul {done : List Char} {s : Cursors}
    (h : Scanned memory org_string done s) (hnul : memory (org_string + done.length) = nul) :
    body s = .leave (terminate s) := by
  rw [body, h.apply_scan_ptr, if_pos hnul]

/-- An iteration scans one character. -/
theorem Scanned.body_of_ne {done : List Char} {s : Cursors}
    (h : Scanned memory org_string done s) (hnul : memory (org_string + done.length) ≠ nul) :
    ∃ s', body s = .again s' ∧
      Scanned memory org_string (done ++ [memory (org_string + done.length)]) s' := by
  have hfirst := h.firstNonspace_eq_none_iff
  rw [body, h.apply_scan_ptr, if_neg hnul]
  split
  next hsome => exact ⟨_, rfl, h.move hsome (mt hfirst.mpr hsome)⟩
  next hnone =>
    obtain ⟨hmoved, hc⟩ := hfirst.mp (not_not.mp hnone)
    exact ⟨_, rfl, h.skip hmoved hc (not_not.mp hnone)⟩

/-- A part of the string has been scanned, and the rest is left. -/
def Scanning (memory : Nat → Char) (org_string : Nat) (text : List Char) (s : Cursors) : Prop :=
  ∃ done rest, text = done ++ rest ∧ Scanned memory org_string done s

theorem rule (h : Holds memory org_string text) :
    Loop.Rule body (Scanning memory org_string text)
      (fun s => org_string + text.length - s.scan_ptr)
      (· = result memory org_string text) where
  leave := by
    rintro s memory' ⟨done, rest, rfl, hs⟩ hbody
    by_cases hnul : memory (org_string + done.length) = nul
    · obtain rfl := h.apply_eq_nul_iff.mp hnul
      rw [hs.body_of_nul hnul] at hbody
      injection hbody with hmemory
      rw [List.append_nil, ← hmemory, hs.terminate_eq]
    · obtain ⟨s', hagain, -⟩ := hs.body_of_ne hnul
      rw [hagain] at hbody
      cases hbody
  again := by
    rintro s s' ⟨done, rest, rfl, hs⟩ hbody
    by_cases hnul : memory (org_string + done.length) = nul
    · rw [hs.body_of_nul hnul] at hbody
      cases hbody
    · obtain ⟨s'', hagain, hs''⟩ := hs.body_of_ne hnul
      rw [hagain] at hbody
      injection hbody with hs'
      subst hs'
      cases rest with
      | nil => exact absurd (h.apply_eq_nul_iff.mpr rfl) hnul
      | cons c rest =>
          rw [h.apply_append] at hs''
          refine ⟨⟨done ++ [c], rest, by rw [List.append_assoc]; rfl, hs''⟩, ?_⟩
          rw [hs.scan_ptr, hs''.scan_ptr, List.length_append, List.length_append, List.length_cons,
            List.length_singleton]
          omega

/-- The loop scans the string once. -/
theorem inPlace_eq (h : Holds memory org_string text) {fuel : Nat} (hfuel : text.length < fuel) :
    locUtilTrimSpaceInPlace fuel (some org_string) memory =
      some (result memory org_string text) := by
  refine (rule h).run_eq ⟨[], text, rfl, scanned_start⟩ ?_
  rw [start, Nat.add_sub_cancel_left]
  exact hfuel

theorem trimmed_prefix_moved (text : List Char) : trimmed text <+: moved text :=
  List.rdropWhile_prefix _ _

theorem trimmed_eq_nil_iff : trimmed text = [] ↔ moved text = [] := by
  constructor
  · intro h
    by_contra hne
    have hspace := List.rdropWhile_eq_nil_iff.mp h _ (List.head_mem hne)
    exact Bool.false_ne_true ((List.head_dropWhile_not Strtol.isSpace hne).symm.trans hspace)
  · intro h
    exact (congrArg (List.rdropWhile Strtol.isSpace) h).trans (List.rdropWhile_nil _)

theorem ne_nul_of_mem_trimmed (h : Holds memory org_string text) :
    ∀ c ∈ trimmed text, c ≠ nul := fun c hc =>
  h.ne_nul c ((List.dropWhile_sublist _).mem ((trimmed_prefix_moved text).mem hc))

/-- What is left in place, as the configuration takes it. -/
theorem holds_result (h : Holds memory org_string text) :
    Holds (result memory org_string text) org_string (locUtilTrimSpace text) := by
  rw [result, locUtilTrimSpace]
  by_cases hmoved : moved text = []
  · rw [if_pos hmoved, if_pos (moved_eq_nil_iff.mp hmoved)]
    exact h
  · rw [if_neg hmoved, if_neg (mt moved_eq_nil_iff.mpr hmoved)]
    obtain ⟨spaces, hspaces⟩ := trimmed_prefix_moved text
    have hsegment : Segment (store memory org_string (moved text)) org_string
        (trimmed text ++ spaces) := by
      rw [hspaces]
      exact segment_store
    exact Holds.of_terminate hsegment (ne_nul_of_mem_trimmed h)

/-- Nothing beyond the terminator is written. -/
theorem result_of_outside {a : Nat} (ha : a < org_string ∨ org_string + text.length < a) :
    result memory org_string text a = memory a := by
  have hmoved := length_moved_le text
  have htrimmed := (trimmed_prefix_moved text).length_le
  rw [result]
  split
  next => rfl
  next =>
    rw [Function.update_of_ne (by omega), store_of_outside (by omega)]

/-- A string without outer white space is left as it is. -/
theorem result_eq_self (h : Holds memory org_string text)
    (htext : text.all Strtol.isSpace = true ∨ trimmed text = text) :
    result memory org_string text = memory := by
  rw [result]
  split
  next => rfl
  next hne =>
    have htrimmed : trimmed text = text :=
      htext.resolve_left fun hspace => hne (moved_eq_nil_iff.mpr hspace)
    have hle : text.length ≤ (moved text).length :=
      (congrArg List.length htrimmed).symm.le.trans (trimmed_prefix_moved text).length_le
    have hmoved : moved text = text := (List.dropWhile_suffix _).eq_of_length_le hle
    rw [hmoved, htrimmed, store_eq_self h.segment, ← h.terminator, Function.update_eq_self]

theorem mem_dropWhile {c : Char} (hc : Strtol.isSpace c = false) (h : c ∈ text) :
    c ∈ text.dropWhile Strtol.isSpace := by
  induction text with
  | nil => cases h
  | cons first rest ih =>
      rw [List.dropWhile_cons]
      split
      next hfirst =>
        refine ih ((List.mem_cons.mp h).resolve_left ?_)
        rintro rfl
        exact Bool.false_ne_true (hc.symm.trans hfirst)
      next => exact h

/-- White space is all that is removed. -/
theorem mem_trimmed {c : Char} (hc : Strtol.isSpace c = false) (h : c ∈ text) :
    c ∈ trimmed text := by
  rw [trimmed, List.rdropWhile, List.mem_reverse]
  exact mem_dropWhile hc (List.mem_reverse.mpr (mem_dropWhile hc h))

/-- Nothing is removed on the left of a character that is no white space. -/
theorem rdropWhile_append_cons {c : Char} (hc : Strtol.isSpace c = false)
    (front rest : List Char) :
    ∃ rest', (front ++ c :: rest).rdropWhile Strtol.isSpace = front ++ c :: rest' := by
  induction rest using List.reverseRecOn with
  | nil => exact ⟨[], List.rdropWhile_concat_neg _ _ _ (by simp [hc])⟩
  | append_singleton rest last ih =>
      have hassoc : front ++ c :: (rest ++ [last]) = (front ++ c :: rest) ++ [last] := by
        rw [List.append_assoc, List.cons_append]
      rw [hassoc, List.rdropWhile_concat]
      split
      next => exact ih
      next => exact ⟨rest ++ [last], hassoc.symm⟩

theorem trimmed_append_cons {c : Char} (hc : Strtol.isSpace c = false)
    (front rest : List Char) :
    ∃ rest', trimmed (front ++ c :: rest) = moved front ++ c :: rest' := by
  have hmoved : (front ++ c :: rest).dropWhile Strtol.isSpace = moved front ++ c :: rest := by
    rw [List.dropWhile_append]
    split
    next hnil =>
      rw [moved, List.isEmpty_iff.mp hnil, List.dropWhile_cons_of_neg (by simp [hc])]
      rfl
    next => rfl
  rw [trimmed, hmoved]
  exact rdropWhile_append_cons hc (moved front) rest

theorem trimmed_trimmed (text : List Char) : trimmed (trimmed text) = trimmed text := by
  have hfirst : (trimmed text).dropWhile Strtol.isSpace = trimmed text := by
    refine List.dropWhile_eq_self_iff.mpr fun hpos hspace => ?_
    have hne : moved text ≠ [] :=
      fun hnil => List.ne_nil_of_length_pos hpos (trimmed_eq_nil_iff.mpr hnil)
    have hhead := List.head_dropWhile_not Strtol.isSpace hne
    rw [(trimmed_prefix_moved text).getElem hpos, ← List.head_eq_getElem_zero hne] at hspace
    exact Bool.false_ne_true (hhead.symm.trans hspace)
  rw [trimmed, hfirst]
  exact List.rdropWhile_idempotent _ _

/-- A string that was trimmed is not changed by trimming it again. -/
theorem result_result (h : Holds memory org_string text) :
    result (result memory org_string text) org_string (locUtilTrimSpace text) =
      result memory org_string text := by
  refine result_eq_self (holds_result h) ?_
  rw [locUtilTrimSpace]
  split
  next hspace => exact .inl hspace
  next => exact .inr (trimmed_trimmed text)

end TrimSpace

/-- The string is left without its outer white space, nothing beyond the terminator is written, and
trimming it once more does not change anything. -/
def TrimsInPlace (s : HeldString) : Prop :=
  ∃ memory,
    (∀ fuel, s.text.length < fuel →
      locUtilTrimSpaceInPlace fuel (some s.address) s.memory = some memory) ∧
    Holds memory s.address (trimmed s.text) ∧
    (∀ a, a < s.address ∨ s.address + s.text.length < a → memory a = s.memory a) ∧
    ∀ fuel, s.text.length < fuel →
      locUtilTrimSpaceInPlace fuel (some s.address) memory = some memory

theorem locUtilTrimSpace_eq_trimmed_iff {text : List Char} :
    locUtilTrimSpace text = trimmed text ↔
      text = [] ∨ ∃ c ∈ text, Strtol.isSpace c = false := by
  rw [locUtilTrimSpace]
  split
  next hspace =>
    rw [TrimSpace.trimmed_eq_nil_iff.mpr (TrimSpace.moved_eq_nil_iff.mpr hspace)]
    refine (or_iff_left ?_).symm
    rintro ⟨c, hc, hfalse⟩
    exact Bool.false_ne_true (hfalse.symm.trans (List.all_eq_true.mp hspace c hc))
  next hspace =>
    refine iff_of_true rfl (.inr ?_)
    obtain ⟨c, hc, hne⟩ := List.all_eq_false.mp (eq_false_of_ne_true hspace)
    exact ⟨c, hc, eq_false_of_ne_true hne⟩

/-- Only a string that consists of white space is not trimmed. -/
theorem trimsInPlace_iff (s : HeldString) :
    TrimsInPlace s ↔ s.text = [] ∨ ∃ c ∈ s.text, Strtol.isSpace c = false := by
  have hresult := TrimSpace.holds_result s.holds
  rw [← locUtilTrimSpace_eq_trimmed_iff]
  constructor
  · rintro ⟨memory, hrun, hholds, -⟩
    have hmemory := (hrun _ (Nat.lt_succ_self _)).symm.trans
      (TrimSpace.inPlace_eq s.holds (Nat.lt_succ_self _))
    injection hmemory with hmemory
    rw [← hmemory] at hresult
    exact hresult.unique hholds
  · intro htrimmed
    have hlength : (locUtilTrimSpace s.text).length ≤ s.text.length := by
      rw [htrimmed]
      have htrimmed := (TrimSpace.trimmed_prefix_moved s.text).length_le
      exact Nat.le_trans htrimmed (TrimSpace.length_moved_le s.text)
    refine ⟨_, fun _ => TrimSpace.inPlace_eq s.holds, htrimmed ▸ hresult,
      fun _ => TrimSpace.result_of_outside, fun fuel hfuel => ?_⟩
    rw [TrimSpace.inPlace_eq hresult (Nat.lt_of_le_of_lt hlength hfuel),
      TrimSpace.result_result s.holds]

/-- A single blank. -/
def blankString : HeldString where
  memory := Function.update (fun _ => nul) 1 ' '
  address := 1
  text := [' ']
  holds :=
    { segment := by
        intro i hi
        obtain rfl := Nat.lt_one_iff.mp hi
        rfl
      terminator := rfl
      ne_nul := by
        intro c hc
        rw [List.mem_singleton.mp hc]
        decide }

theorem not_trimsInPlace_blank : ¬TrimsInPlace blankString := by
  rintro ⟨memory, hrun, hholds, -⟩
  have hmemory := hrun 2 (Nat.lt_succ_self 1)
  have hleft : locUtilTrimSpaceInPlace 2 (some 1) blankString.memory = some blankString.memory :=
    rfl
  injection hmemory.symm.trans hleft with hmemory
  rw [hmemory] at hholds
  exact List.cons_ne_nil _ _ (blankString.holds.unique hholds)

end Serrano.Utils
