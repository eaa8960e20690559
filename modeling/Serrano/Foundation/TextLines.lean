import Mathlib.Data.List.TakeWhile

/-! # Lines and tokens of a text

A file is read line by line into a buffer, and a line keeps its newline. A string is
taken apart into tokens, which are the parts between delimiters that are not empty.
When the buffer has room for every line, the tokens of a text between its newlines
are the contents of its lines.
-/

namespace TextLines

/-- One more character in front of the first part. -/
def prepend (c : Char) : List (List Char) → List (List Char)
  | [] => [[c]]
  | part :: more => (c :: part) :: more

/-- The lines, each with the newline that ends it. -/
def lines : List Char → List (List Char)
  | [] => []
  | c :: rest => if c = '\n' then [c] :: lines rest else prepend c (lines rest)

/-- What successive calls of `fgets` store in a buffer for `size` characters and a terminator, when
there is room for so many more. -/
def fgets (size : Nat) : Nat → List Char → List (List Char)
  | _, [] => []
  | room, c :: rest =>
      if c = '\n' ∨ room ≤ 1 then [c] :: fgets size size rest
      else prepend c (fgets size (room - 1) rest)

/-- A line without its newline. -/
def content (line : List Char) : List Char := line.takeWhile (· ≠ '\n')

/-- What successive calls of `strtok_r` return. -/
def tokens (delimiter : Char) (text : List Char) : List (List Char) :=
  (text.splitOn delimiter).filter (· ≠ [])

theorem prepend_ne_nil (c : Char) (parts : List (List Char)) : prepend c parts ≠ [] := by
  cases parts with
  | nil => exact List.cons_ne_nil _ _
  | cons part more => exact List.cons_ne_nil _ _

theorem lines_eq_nil_iff {text : List Char} : lines text = [] ↔ text = [] := by
  cases text with
  | nil => exact iff_of_true rfl rfl
  | cons c rest =>
      refine iff_of_false ?_ (List.cons_ne_nil c rest)
      rw [lines]
      split
      next => exact List.cons_ne_nil _ _
      next => exact prepend_ne_nil c _

theorem ne_nil_of_mem_lines {text line : List Char} (h : line ∈ lines text) : line ≠ [] := by
  induction text generalizing line with
  | nil => cases h
  | cons c rest ih =>
      rw [lines] at h
      split at h
      next =>
        obtain rfl | hrest := List.mem_cons.mp h
        · exact List.cons_ne_nil c []
        · exact ih hrest
      next =>
        cases hlines : lines rest with
        | nil =>
            rw [hlines, prepend, List.mem_singleton] at h
            subst h
            exact List.cons_ne_nil c []
        | cons line' more =>
            rw [hlines, prepend] at h
            obtain rfl | hmore := List.mem_cons.mp h
            · exact List.cons_ne_nil c line'
            · exact ih (hlines ▸ List.mem_cons_of_mem line' hmore)

/-- The first line has room, and so has every other one. -/
def Fits (size room : Nat) : List (List Char) → Prop
  | [] => True
  | line :: more => line.length ≤ room ∧ ∀ other ∈ more, other.length ≤ size

/-- The calls of `fgets` end where the lines do. -/
theorem fgets_eq_lines {size room : Nat} {text : List Char} (h : Fits size room (lines text)) :
    fgets size room text = lines text := by
  induction text generalizing room with
  | nil => rfl
  | cons c rest ih =>
      rw [fgets, lines]
      rw [lines] at h
      by_cases hc : c = '\n'
      · rw [if_pos (.inl hc), if_pos hc]
        rw [if_pos hc] at h
        rw [ih]
        cases hrest : lines rest with
        | nil => trivial
        | cons line more =>
            rw [hrest] at h
            exact ⟨h.2 line List.mem_cons_self,
              fun other hother => h.2 other (List.mem_cons_of_mem line hother)⟩
      · rw [if_neg hc] at h ⊢
        cases hrest : lines rest with
        | nil =>
            have hnil := lines_eq_nil_iff.mp hrest
            subst hnil
            split
            next => rfl
            next => rfl
        | cons line more =>
            rw [hrest, prepend] at h
            obtain ⟨hline, hmore⟩ := h
            have hne : line ≠ [] :=
              ne_nil_of_mem_lines (hrest ▸ List.mem_cons_self : line ∈ lines rest)
            have hpos := List.length_pos_iff.mpr hne
            rw [List.length_cons] at hline
            rw [if_neg (not_or.mpr ⟨hc, by omega⟩), ih, hrest]
            rw [hrest]
            exact ⟨by omega, hmore⟩

theorem content_cons {c : Char} (h : c ≠ '\n') (line : List Char) :
    content (c :: line) = c :: content line := by
  rw [content, List.takeWhile_cons, if_pos (decide_eq_true h)]
  rfl

/-- A newline is at the end of a line only. -/
theorem length_le_of_mem_lines {text line : List Char} (h : line ∈ lines text) :
    line.length ≤ (content line).length + 1 := by
  induction text generalizing line with
  | nil => cases h
  | cons c rest ih =>
      rw [lines] at h
      split at h
      next =>
        obtain rfl | hrest := List.mem_cons.mp h
        · exact Nat.le_add_left 1 _
        · exact ih hrest
      next hc =>
        cases hlines : lines rest with
        | nil =>
            rw [hlines, prepend, List.mem_singleton] at h
            subst h
            exact Nat.le_add_left 1 _
        | cons line' more =>
            rw [hlines, prepend] at h
            obtain rfl | hmore := List.mem_cons.mp h
            · rw [content_cons hc, List.length_cons, List.length_cons]
              exact Nat.succ_le_succ (ih (hlines ▸ List.mem_cons_self))
            · exact ih (hlines ▸ List.mem_cons_of_mem line' hmore)

/-- The last line may lack its newline. -/
theorem eq_content_of_mem_lines {text line : List Char} (h : line ∈ lines text) :
    line = content line ∨ line = content line ++ ['\n'] := by
  induction text generalizing line with
  | nil => cases h
  | cons c rest ih =>
      rw [lines] at h
      split at h
      next hc =>
        subst hc
        obtain rfl | hrest := List.mem_cons.mp h
        · exact .inr rfl
        · exact ih hrest
      next hc =>
        cases hlines : lines rest with
        | nil =>
            rw [hlines, prepend, List.mem_singleton] at h
            subst h
            rw [content_cons hc]
            exact .inl rfl
        | cons line' more =>
            rw [hlines, prepend] at h
            obtain rfl | hmore := List.mem_cons.mp h
            · rw [content_cons hc, List.cons_append, List.cons.injEq, List.cons.injEq]
              obtain hline | hline := ih (hlines ▸ List.mem_cons_self : line' ∈ lines rest)
              · exact .inl ⟨rfl, hline⟩
              · exact .inr ⟨rfl, hline⟩
            · exact ih (hlines ▸ List.mem_cons_of_mem line' hmore)

theorem splitOn_cons (delimiter c : Char) (rest : List Char) :
    (c :: rest).splitOn delimiter =
      if c = delimiter then [] :: rest.splitOn delimiter
      else (rest.splitOn delimiter).modifyHead (c :: ·) := by
  rw [List.splitOn_cons_eq_if_modifyHead]
  simp only [beq_iff_eq]

/-- Text without a delimiter is appended to the last part. -/
theorem splitOn_append {delimiter : Char} {suffix : List Char} (h : delimiter ∉ suffix)
    (text : List Char) :
    ∃ parts part, text.splitOn delimiter = parts ++ [part] ∧
      (text ++ suffix).splitOn delimiter = parts ++ [part ++ suffix] := by
  induction text with
  | nil =>
      refine ⟨[], [], rfl, ?_⟩
      rw [List.nil_append, List.splitOn_eq_singleton h]
      rfl
  | cons c rest ih =>
      obtain ⟨parts, part, hrest, happend⟩ := ih
      rw [List.cons_append, splitOn_cons, splitOn_cons, hrest, happend]
      by_cases hc : c = delimiter
      · rw [if_pos hc, if_pos hc]
        exact ⟨[] :: parts, part, rfl, rfl⟩
      · rw [if_neg hc, if_neg hc]
        cases parts with
        | nil => exact ⟨[], c :: part, rfl, rfl⟩
        | cons first more => exact ⟨(c :: first) :: more, part, rfl, rfl⟩

/-- The first of two tokens does not change when something is appended. -/
theorem tokens_append {delimiter : Char} {suffix text name value : List Char}
    {more : List (List Char)} (h : delimiter ∉ suffix)
    (htokens : tokens delimiter text = name :: value :: more) :
    ∃ value' more', tokens delimiter (text ++ suffix) = name :: value' :: more' := by
  obtain ⟨parts, part, htext, happend⟩ := splitOn_append h text
  rw [tokens, htext, List.filter_append] at htokens
  rw [tokens, happend, List.filter_append]
  cases hfirst : parts.filter (· ≠ []) with
  | nil =>
      rw [hfirst, List.nil_append] at htokens
      have hlength := congrArg List.length htokens
      have hle := List.length_filter_le (fun part : List Char => decide (part ≠ [])) [part]
      rw [hlength] at hle
      exact absurd hle (by simp)
  | cons first others =>
      rw [hfirst, List.cons_append, List.cons.injEq] at htokens
      obtain ⟨rfl, htokens⟩ := htokens
      cases others with
      | cons second others => exact ⟨second, _, rfl⟩
      | nil =>
          rw [List.nil_append] at htokens
          have hpart : part ≠ [] := by
            rintro rfl
            cases htokens
          refine ⟨part ++ suffix, [], ?_⟩
          have happended : part ++ suffix ≠ [] :=
            fun hnil => hpart (List.append_eq_nil_iff.mp hnil).1
          rw [List.cons_append, List.nil_append, List.filter_cons,
            if_pos (decide_eq_true happended)]
          rfl

/-- The text up to the first delimiter is the first part. -/
theorem splitOn_takeWhile (delimiter : Char) (text : List Char) :
    ∃ parts, text.splitOn delimiter = text.takeWhile (· ≠ delimiter) :: parts := by
  induction text with
  | nil => exact ⟨[], rfl⟩
  | cons c rest ih =>
      obtain ⟨parts, hrest⟩ := ih
      rw [splitOn_cons, hrest, List.takeWhile_cons]
      by_cases hc : c = delimiter
      · rw [if_pos hc, if_neg (by simp [hc])]
        exact ⟨_, rfl⟩
      · rw [if_neg hc, if_pos (decide_eq_true hc)]
        exact ⟨parts, rfl⟩

/-- What the first call of `strtok_r` returns, if it is not empty. -/
def firstToken (delimiter : Char) (text : List Char) : List Char :=
  (text.dropWhile (· = delimiter)).takeWhile (· ≠ delimiter)

theorem delimiter_not_mem_firstToken (delimiter : Char) (text : List Char) :
    delimiter ∉ firstToken delimiter text := by
  intro h
  have hkept := List.all_eq_true.mp
    (List.all_takeWhile (l := text.dropWhile (· = delimiter))) delimiter h
  exact of_decide_eq_true hkept rfl

theorem firstToken_eq_takeWhile {delimiter c : Char} (h : c ≠ delimiter) (rest : List Char) :
    firstToken delimiter (c :: rest) = (c :: rest).takeWhile (· ≠ delimiter) := by
  rw [firstToken, List.dropWhile_cons_of_neg (by simp [h])]

theorem firstToken_of_not_mem {delimiter : Char} {text : List Char} (h : delimiter ∉ text) :
    firstToken delimiter text = text := by
  cases text with
  | nil => rfl
  | cons c rest =>
      have hc : c ≠ delimiter := fun heq => h (heq ▸ List.mem_cons_self)
      rw [firstToken_eq_takeWhile hc, List.takeWhile_eq_self_iff]
      exact fun other hother => decide_eq_true fun heq => h (heq ▸ hother)

/-- Delimiters in front are skipped, and nothing else. -/
theorem tokens_eq (delimiter : Char) (text : List Char) :
    ∃ more, tokens delimiter text =
      if firstToken delimiter text = [] then [] else firstToken delimiter text :: more := by
  induction text with
  | nil => exact ⟨[], rfl⟩
  | cons c rest ih =>
      by_cases hc : c = delimiter
      · have hsame : firstToken delimiter (c :: rest) = firstToken delimiter rest := by
          have hskip : decide (c = delimiter) = true := decide_eq_true hc
          rw [firstToken, List.dropWhile_cons, if_pos hskip]
          rfl
        rw [tokens, splitOn_cons, if_pos hc, hsame]
        exact ih
      · obtain ⟨parts, hrest⟩ := splitOn_takeWhile delimiter (c :: rest)
        have hne : (c :: rest).takeWhile (· ≠ delimiter) ≠ [] := by
          rw [List.takeWhile_cons, if_pos (decide_eq_true hc)]
          exact List.cons_ne_nil _ _
        rw [tokens, hrest, firstToken_eq_takeWhile hc, List.filter_cons,
          if_pos (decide_eq_true hne)]
        exact ⟨_, (if_neg hne).symm⟩

/-- A delimiter ends a token. -/
theorem tokens_append_cons {delimiter : Char} {part : List Char} (hne : part ≠ [])
    (h : delimiter ∉ part) (rest : List Char) :
    tokens delimiter (part ++ delimiter :: rest) = part :: tokens delimiter rest := by
  have hsplit : (part ++ delimiter :: rest).splitOn delimiter =
      part :: rest.splitOn delimiter := by
    induction part with
    | nil => rw [List.nil_append, splitOn_cons, if_pos rfl]
    | cons c more ih =>
        have hc : c ≠ delimiter := fun heq => h (heq ▸ List.mem_cons_self)
        rw [List.cons_append, splitOn_cons, if_neg hc]
        cases more with
        | nil =>
            rw [List.nil_append, splitOn_cons, if_pos rfl]
            rfl
        | cons second more =>
            rw [ih (List.cons_ne_nil _ _) fun hmem => h (List.mem_cons_of_mem c hmem)]
            rfl
  rw [tokens, hsplit, List.filter_cons, if_pos (decide_eq_true hne)]
  rfl

/-- Either there is no line, or the first part is the content of the first line, and the others
are those of the other lines. -/
theorem splitOn_newline (text : List Char) :
    (text.splitOn '\n' = [[]] ∧ lines text = []) ∨
      ∃ line more parts, lines text = line :: more ∧
        text.splitOn '\n' = content line :: parts ∧
        parts.filter (· ≠ []) = (more.map content).filter (· ≠ []) := by
  induction text with
  | nil => exact .inl ⟨rfl, rfl⟩
  | cons c rest ih =>
      refine .inr ?_
      rw [splitOn_cons, lines]
      by_cases hc : c = '\n'
      · subst hc
        rw [if_pos rfl, if_pos rfl]
        refine ⟨_, _, _, rfl, rfl, ?_⟩
        obtain ⟨hparts, hlines⟩ | ⟨line, more, parts, hlines, hparts, hmore⟩ := ih
        · rw [hparts, hlines]
          rfl
        · rw [hparts, hlines, List.map_cons, List.filter_cons, List.filter_cons, hmore]
      · rw [if_neg hc, if_neg hc]
        obtain ⟨hparts, hlines⟩ | ⟨line, more, parts, hlines, hparts, hmore⟩ := ih
        · rw [hparts, hlines]
          exact ⟨[c], [], [], rfl, by rw [content_cons hc]; rfl, rfl⟩
        · rw [hparts, hlines]
          exact ⟨c :: line, more, parts, rfl, by rw [content_cons hc]; rfl, hmore⟩

/-- The tokens between newlines are the lines with content. -/
theorem tokens_newline (text : List Char) :
    tokens '\n' text = ((lines text).map content).filter (· ≠ []) := by
  rw [tokens]
  obtain ⟨hparts, hlines⟩ | ⟨line, more, parts, hlines, hparts, hmore⟩ := splitOn_newline text
  · rw [hparts, hlines]
    rfl
  · rw [hparts, hlines, List.map_cons, List.filter_cons, List.filter_cons, hmore]

end TextLines
