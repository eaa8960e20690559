import Mathlib.Data.List.Nodup
import Mathlib.Data.List.TakeWhile
import Serrano.Utils.LocCfgRead

/-! # Updating parameters from a text

The same lines can come in a text instead of a file. They are taken apart by tokens
there, without their newlines, the counter starts one lower, and the lines are
counted instead of the parameters.
-/

namespace Serrano.Utils

/-- A table with an entry and a text without a terminator inside, no two lines of which assign the
same parameter. -/
structure ConfUpdate (atof : List Char → UInt64) where
  table : ConfTable
  text : ConfFile
  ne_nil : table.entries ≠ []
  no_terminator : '\x00' ∉ text.chars
  once : ((table.assignments atof text.chars).map Prod.fst).Nodup

section

variable (atof : List Char → UInt64)

/-- The number of entries that the loop of `locUpdateConf` fills. -/
def filledParams (config_table : List ConfEntry) :
    UInt32 → List (List Char) → ConfState → Nat
  | _, [], _ => 0
  | num_params, input_buf :: rest, s =>
      if num_params = 0 then 0
      else
        (locFillConfItem atof input_buf config_table s).1 +
          filledParams config_table
            (num_params - UInt32.ofNat (locFillConfItem atof input_buf config_table s).1) rest
            (locFillConfItem atof input_buf config_table s).2

/-- The number of records that `locUpdateConf` updates. -/
def recordsUpdated (conf_data : List Char) (config_table : List ConfEntry) (s : ConfState) :
    Nat :=
  if conf_data = [] ∨ config_table = [] then 0
  else
    filledParams atof config_table (UInt32.ofNat config_table.length - 1)
      (TextLines.tokens '\n' (cString conf_data)) s

end

namespace ConfUpdate

variable {atof : List Char → UInt64} (update : ConfUpdate atof)

/-- The text has the effect that it has as a file, and the number of updates is returned. -/
def Agrees : Prop :=
  ∀ s,
    (locUpdateConf atof update.text.chars update.table.entries s).2.param =
      (locReadConfR atof update.text.chars update.table.entries s).param ∧
    (locUpdateConf atof update.text.chars update.table.entries s).1 =
      recordsUpdated atof update.text.chars update.table.entries s

/-- There is a line, the lines that are counted are assignments, some parameter is not assigned, and
no line means something else without its newline. -/
structure Plain : Prop where
  ne_nil : update.text.chars ≠ []
  assigns : ∀ line ∈ (TextLines.tokens '\n' update.text.chars).take
    (update.table.entries.length - 1), update.table.assigned atof line ≠ none
  unassigned :
    (update.table.assignments atof update.text.chars).length < update.table.entries.length
  same : ∀ line ∈ TextLines.lines update.text.chars,
    update.table.assigned atof (TextLines.content line) = update.table.assigned atof line

end ConfUpdate

namespace ConfTable

variable {atof : List Char → UInt64} {table : ConfTable}

/-- The lines up to so many assignments. -/
def linesUntil (atof : List Char → UInt64) (table : ConfTable) : Nat → List (List Char) → Nat
  | 0, _ => 0
  | _ + 1, [] => 0
  | k + 1, line :: rest =>
      match table.assigned atof line with
      | some _ => linesUntil atof table k rest + 1
      | none => linesUntil atof table (k + 1) rest + 1

theorem updateParams_eq {k : Nat} (hk : k < 2 ^ 32) (ret : Int) (lines : List (List Char))
    (s : ConfState) :
    updateParams atof table.entries (UInt32.ofNat k) ret lines s =
      (ret + table.linesUntil atof k lines,
        table.perform ((lines.filterMap (table.assigned atof)).take k) s) := by
  induction lines generalizing k ret s with
  | nil =>
      rw [List.filterMap_nil, List.take_nil]
      cases k with
      | zero => rw [linesUntil, Int.natCast_zero, Int.add_zero]; rfl
      | succ k => rw [linesUntil, Int.natCast_zero, Int.add_zero]; rfl
  | cons line rest ih =>
      cases k with
      | zero => rw [linesUntil, Int.natCast_zero, Int.add_zero]; rfl
      | succ k =>
          have hstep : updateParams atof table.entries (UInt32.ofNat (k + 1)) ret
              (line :: rest) s =
              updateParams atof table.entries
                (UInt32.ofNat (k + 1) -
                  UInt32.ofNat (locFillConfItem atof line table.entries s).1)
                (ret + 1) rest (locFillConfItem atof line table.entries s).2 :=
            if_neg (ofNat_succ_ne_zero hk)
          cases hline : table.assigned atof line with
          | none =>
              rw [hstep, locFillConfItem_of_none hline, ofNat_sub_zero, ih hk,
                List.filterMap_cons_none hline, linesUntil, hline]
              congr 1
              push_cast
              omega
          | some assignment =>
              rw [hstep, locFillConfItem_of_some hline, ofNat_sub_one, ih (Nat.lt_of_succ_lt hk),
                List.filterMap_cons_some hline, List.take_succ_cons, linesUntil, hline]
              refine Prod.ext ?_ rfl
              push_cast
              omega

theorem filledParams_eq {k : Nat} (hk : k < 2 ^ 32) (lines : List (List Char)) (s : ConfState) :
    filledParams atof table.entries (UInt32.ofNat k) lines s =
      ((lines.filterMap (table.assigned atof)).take k).length := by
  induction lines generalizing k s with
  | nil =>
      rw [List.filterMap_nil, List.take_nil]
      rfl
  | cons line rest ih =>
      cases k with
      | zero => rfl
      | succ k =>
          have hstep : filledParams atof table.entries (UInt32.ofNat (k + 1)) (line :: rest) s =
              (locFillConfItem atof line table.entries s).1 +
                filledParams atof table.entries
                  (UInt32.ofNat (k + 1) -
                    UInt32.ofNat (locFillConfItem atof line table.entries s).1) rest
                  (locFillConfItem atof line table.entries s).2 :=
            if_neg (ofNat_succ_ne_zero hk)
          cases hline : table.assigned atof line with
          | none =>
              rw [hstep, locFillConfItem_of_none hline, ofNat_sub_zero, ih hk,
                List.filterMap_cons_none hline, Nat.zero_add]
          | some assignment =>
              rw [hstep, locFillConfItem_of_some hline, ofNat_sub_one, ih (Nat.lt_of_succ_lt hk),
                List.filterMap_cons_some hline, List.take_succ_cons, List.length_cons,
                Nat.add_comm]

theorem length_le_linesUntil (k : Nat) (lines : List (List Char)) :
    ((lines.filterMap (table.assigned atof)).take k).length ≤ table.linesUntil atof k lines := by
  induction lines generalizing k with
  | nil =>
      rw [List.filterMap_nil, List.take_nil]
      exact Nat.zero_le _
  | cons line rest ih =>
      cases k with
      | zero => exact Nat.zero_le _
      | succ k =>
          cases hline : table.assigned atof line with
          | none =>
              rw [List.filterMap_cons_none hline, linesUntil, hline]
              exact Nat.le_succ_of_le (ih (k + 1))
          | some assignment =>
              rw [List.filterMap_cons_some hline, List.take_succ_cons, List.length_cons,
                linesUntil, hline]
              exact Nat.succ_le_succ (ih k)

/-- The lines are as many as the assignments when each of them is one. -/
theorem linesUntil_eq_iff (k : Nat) (lines : List (List Char)) :
    table.linesUntil atof k lines =
        ((lines.filterMap (table.assigned atof)).take k).length ↔
      ∀ line ∈ lines.take k, table.assigned atof line ≠ none := by
  induction lines generalizing k with
  | nil =>
      rw [List.filterMap_nil, List.take_nil, List.take_nil]
      cases k with
      | zero => exact iff_of_true rfl fun line hline => by cases hline
      | succ k => exact iff_of_true rfl fun line hline => by cases hline
  | cons line rest ih =>
      cases k with
      | zero => exact iff_of_true rfl fun line hline => by cases hline
      | succ k =>
          rw [List.take_succ_cons, List.forall_mem_cons]
          cases hline : table.assigned atof line with
          | none =>
              rw [List.filterMap_cons_none hline, linesUntil, hline]
              refine iff_of_false (fun heq => ?_) fun h => h.1 rfl
              have hle : ((rest.filterMap (table.assigned atof)).take (k + 1)).length ≤
                  table.linesUntil atof (k + 1) rest := length_le_linesUntil (k + 1) rest
              change table.linesUntil atof (k + 1) rest + 1 = _ at heq
              omega
          | some assignment =>
              rw [List.filterMap_cons_some hline, List.take_succ_cons, List.length_cons,
                linesUntil, hline]
              change _ + 1 = _ + 1 ↔ _
              rw [Nat.succ_inj, ih]
              exact (and_iff_right fun h => by cases h).symm

theorem cString_append (buffer suffix : List Char) :
    cString (buffer ++ suffix) = cString buffer ∨
      cString (buffer ++ suffix) = cString buffer ++ cString suffix := by
  rw [cString, cString, cString, List.takeWhile_append]
  split
  next hall =>
    rw [(List.takeWhile_prefix _).eq_of_length hall]
    exact .inr rfl
  next => exact .inl rfl

/-- Whether an entry stores a value does not depend on the value. -/
theorem stored_eq_none_iff {config_entry : ConfEntry} {first second : ConfValue}
    (h : first.param_name = second.param_name) :
    config_entry.stored first = none ↔ config_entry.stored second = none := by
  rw [ConfEntry.stored, ConfEntry.stored, h]
  split
  next =>
    split
    next => exact iff_of_false (Option.some_ne_none _) (Option.some_ne_none _)
    next =>
      split
      next => exact iff_of_false (Option.some_ne_none _) (Option.some_ne_none _)
      next =>
        split
        next => exact iff_of_false (Option.some_ne_none _) (Option.some_ne_none _)
        next => exact Iff.rfl
  next => exact Iff.rfl

theorem findSome?_stored {first second : ConfValue} (h : first.param_name = second.param_name)
    {entries : List (ConfEntry × Nat)} {i : Nat} {value : ParamValue}
    (hfind : (entries.findSome? fun entry => (entry.1.stored first).map (entry.2, ·)) =
      some (i, value)) :
    ∃ value', (entries.findSome? fun entry => (entry.1.stored second).map (entry.2, ·)) =
      some (i, value') := by
  induction entries with
  | nil => cases hfind
  | cons entry rest ih =>
      rw [List.findSome?_cons] at hfind ⊢
      cases hfirst : entry.1.stored first with
      | none =>
          rw [hfirst] at hfind
          rw [(stored_eq_none_iff h).mp hfirst]
          exact ih hfind
      | some value' =>
          rw [hfirst] at hfind
          cases hfind
          cases hsecond : entry.1.stored second with
          | none =>
              rw [(stored_eq_none_iff h).mpr hsecond] at hfirst
              cases hfirst
          | some other => exact ⟨other, rfl⟩

/-- What a line assigns depends on its newline only in the value. -/
theorem assigned_line {text line : List Char} (h : line ∈ TextLines.lines text) {i : Nat}
    {value : ParamValue}
    (hcontent : table.assigned atof (TextLines.content line) = some (i, value)) :
    ∃ value', table.assigned atof line = some (i, value') := by
  obtain ⟨config_value, hparse, hfind⟩ := Option.bind_eq_some_iff.mp hcontent
  have hline : cString line = cString (TextLines.content line) ∨
      cString line = cString (TextLines.content line) ++ ['\n'] := by
    obtain hsame | hnewline := TextLines.eq_content_of_mem_lines h
    · exact .inl (congrArg cString hsame)
    · have happend := cString_append (TextLines.content line) ['\n']
      rw [← hnewline] at happend
      exact happend
  obtain hsame | hnewline := hline
  · refine ⟨value, ?_⟩
    have hparsed : parseLine atof line = parseLine atof (TextLines.content line) := by
      rw [parseLine, parseLine, hsame]
    rw [assigned, hparsed]
    exact hcontent
  · rw [parseLine] at hparse
    split at hparse
    next name first more htokens =>
      cases hparse
      have hnone : '=' ∉ ['\n'] := by decide
      obtain ⟨second, more', hmore⟩ := TextLines.tokens_append hnone htokens
      have hparsed : parseLine atof line = some
          (configValue atof (locUtilTrimSpace name) (locUtilTrimSpace second)) := by
        rw [parseLine, hnewline, hmore]
      rw [assigned, hparsed]
      have hname : (configValue atof (locUtilTrimSpace name) (locUtilTrimSpace first)).param_name =
          (configValue atof (locUtilTrimSpace name) (locUtilTrimSpace second)).param_name := rfl
      exact findSome?_stored hname hfind
    next => cases hparse

theorem assigned_nil : table.assigned atof [] = none := rfl

/-- The tokens assign what the contents of the lines do. -/
theorem filterMap_tokens (text : List Char) :
    (TextLines.tokens '\n' text).filterMap (table.assigned atof) =
      (TextLines.lines text).filterMap fun line =>
        table.assigned atof (TextLines.content line) := by
  rw [TextLines.tokens_newline, List.filterMap_filter, List.filterMap_map]
  congr 1
  funext line
  by_cases hnil : TextLines.content line = []
  · simp [hnil, assigned_nil]
  · simp [hnil]

/-- The assignments of a text that are performed. -/
def applied (table : ConfTable) (atof : List Char → UInt64) (conf_data : List Char) :
    List (Nat × ParamValue) :=
  ((TextLines.tokens '\n' (cString conf_data)).filterMap (table.assigned atof)).take
    (table.entries.length - 1)

theorem locUpdateConf_state (hentries : table.entries ≠ []) (conf_data : List Char)
    (s : ConfState) :
    (locUpdateConf atof conf_data table.entries s).2 =
      table.perform (table.applied atof conf_data) s := by
  rw [locUpdateConf]
  split
  next hempty =>
    have hnone : table.applied atof [] = [] := by
      rw [applied, cString, List.takeWhile_nil, TextLines.tokens, List.splitOn_nil]
      exact List.take_nil
    rw [hempty.resolve_right hentries, hnone]
    rfl
  next =>
    have hpos := List.length_pos_iff.mpr hentries
    have hcount : UInt32.ofNat table.entries.length - 1 =
        UInt32.ofNat (table.entries.length - 1) := (UInt32.ofNat_sub hpos).symm
    rw [hcount, updateParams_eq (Nat.lt_of_le_of_lt (Nat.sub_le _ 1) table.length_lt)]
    rfl

theorem stored_of_assigned {line : List Char} {i : Nat} {value : ParamValue}
    (h : table.assigned atof line = some (i, value)) :
    ∃ entry config_value, table.entries[i]? = some entry ∧
      entry.stored config_value = some value := by
  obtain ⟨config_value, -, hfind⟩ := Option.bind_eq_some_iff.mp h
  obtain ⟨⟨entry, j⟩, hmem, hstored⟩ := List.exists_of_findSome?_eq_some hfind
  obtain ⟨other, hother, heq⟩ := Option.map_eq_some_iff.mp hstored
  cases heq
  exact ⟨entry, config_value, List.mem_zipIdx_iff_getElem?.mp hmem, hother⟩

/-- What is assigned to an entry in the end is something that the entry stores. -/
theorem stored_of_last {conf_data : List Char} {i : Nat} {value : ParamValue}
    (h : Assignments.last (table.applied atof conf_data) i = some value) :
    ∃ entry config_value, table.entries[i]? = some entry ∧
      entry.stored config_value = some value := by
  obtain ⟨line, -, hline⟩ := List.mem_filterMap.mp
    (List.mem_of_mem_take (Assignments.mem_of_last h))
  exact stored_of_assigned hline

theorem number_of_stored {entry : ConfEntry} {config_value : ConfValue} {value : ParamValue}
    (htype : entry.param_type = 'n') (h : entry.stored config_value = some value) :
    ∃ number, value = .number number := by
  rw [ConfEntry.stored, htype] at h
  split at h
  next =>
    rw [if_neg (by decide), if_pos rfl] at h
    exact ⟨config_value.param_int_value, (Option.some.inj h).symm⟩
  next => cases h

theorem string_of_stored {entry : ConfEntry} {config_value : ConfValue} {value : ParamValue}
    (htype : entry.param_type = 's') (h : entry.stored config_value = some value) :
    ∃ chars, value = .string chars ∧ chars.length ≤ locMaxParamString := by
  rw [ConfEntry.stored, htype] at h
  split at h
  next =>
    rw [if_pos rfl] at h
    refine ⟨_, (Option.some.inj h).symm, ?_⟩
    split
    next => exact Nat.zero_le _
    next => exact List.length_take_le _ _
  next => cases h

end ConfTable

namespace ConfUpdate

variable {atof : List Char → UInt64} {update : ConfUpdate atof}

/-- The assignments that the text makes. -/
def updates (update : ConfUpdate atof) : List (Nat × ParamValue) :=
  ((TextLines.tokens '\n' update.text.chars).filterMap (update.table.assigned atof)).take
    (update.table.entries.length - 1)

theorem cString_chars (update : ConfUpdate atof) :
    cString update.text.chars = update.text.chars := by
  rw [cString, List.takeWhile_eq_self_iff]
  intro c hc
  refine decide_eq_true ?_
  rintro rfl
  exact update.no_terminator hc

theorem length_pos (update : ConfUpdate atof) : 0 < update.table.entries.length :=
  List.length_pos_iff.mpr update.ne_nil

theorem length_sub_one_lt (update : ConfUpdate atof) :
    update.table.entries.length - 1 < 2 ^ 32 :=
  Nat.lt_of_le_of_lt (Nat.sub_le _ 1) update.table.length_lt

theorem ofNat_length_sub_one (update : ConfUpdate atof) :
    UInt32.ofNat update.table.entries.length - 1 =
      UInt32.ofNat (update.table.entries.length - 1) :=
  (UInt32.ofNat_sub update.length_pos).symm

/-- There are no more parameters than entries. -/
theorem length_assignments_le (update : ConfUpdate atof) :
    (update.table.assignments atof update.text.chars).length ≤
      update.table.entries.length := by
  have hsubset : (update.table.assignments atof update.text.chars).map Prod.fst ⊆
      List.range update.table.entries.length := by
    intro i hi
    obtain ⟨assignment, hassignment, rfl⟩ := List.mem_map.mp hi
    obtain ⟨line, -, hline⟩ := List.mem_filterMap.mp hassignment
    obtain ⟨entry, hentry⟩ := ConfTable.entry_of_assigned hline
    exact List.mem_range.mpr (List.getElem?_eq_some_iff.mp hentry).1
  have hle := List.Nodup.length_le_of_subset update.once hsubset
  rwa [List.length_map, List.length_range] at hle

theorem locUpdateConf_eq (h : update.text.chars ≠ []) (s : ConfState) :
    locUpdateConf atof update.text.chars update.table.entries s =
      (Int.ofNat (update.table.linesUntil atof (update.table.entries.length - 1)
        (TextLines.tokens '\n' update.text.chars)), update.table.perform update.updates s) := by
  rw [locUpdateConf, if_neg (not_or.mpr ⟨h, update.ne_nil⟩), update.cString_chars,
    update.ofNat_length_sub_one, ConfTable.updateParams_eq update.length_sub_one_lt, Int.zero_add]
  rfl

theorem recordsUpdated_eq (h : update.text.chars ≠ []) (s : ConfState) :
    recordsUpdated atof update.text.chars update.table.entries s = update.updates.length := by
  rw [recordsUpdated, if_neg (not_or.mpr ⟨h, update.ne_nil⟩), update.cString_chars,
    update.ofNat_length_sub_one, ConfTable.filledParams_eq update.length_sub_one_lt]
  rfl

/-- The assignments of the file and of the text agree, and the lines that are counted are
assignments. -/
theorem agrees_iff_last (update : ConfUpdate atof) :
    update.Agrees ↔ update.text.chars ≠ [] ∧
      (∀ line ∈ (TextLines.tokens '\n' update.text.chars).take
        (update.table.entries.length - 1), update.table.assigned atof line ≠ none) ∧
      ∀ i, Assignments.last update.updates i =
        Assignments.last (update.table.assignments atof update.text.chars) i := by
  have hfile : ∀ s, (locReadConfR atof update.text.chars update.table.entries s).param =
      Assignments.perform (update.table.assignments atof update.text.chars) s.param := by
    intro s
    rw [ConfTable.locReadConfR_eq, ConfTable.perform_param,
      List.take_of_length_le update.length_assignments_le]
    rfl
  by_cases hnil : update.text.chars = []
  · refine iff_of_false (fun h => ?_) fun h => h.1 hnil
    have hret := (h ⟨fun _ => .number 0, fun _ => 0⟩).2
    rw [locUpdateConf, if_pos (.inl hnil), recordsUpdated, if_pos (.inl hnil)] at hret
    cases hret
  · rw [and_iff_right hnil, ← ConfTable.linesUntil_eq_iff,
      ← Assignments.perform_eq_iff update.updates]
    constructor
    · intro h
      refine ⟨?_, fun store => ?_⟩
      · have hret := (h ⟨fun _ => .number 0, fun _ => 0⟩).2
        rw [locUpdateConf_eq hnil, recordsUpdated_eq hnil] at hret
        exact Int.ofNat_inj.mp hret
      · have hparam := (h ⟨store, fun _ => 0⟩).1
        rw [locUpdateConf_eq hnil, ConfTable.perform_param, hfile] at hparam
        exact hparam
    · rintro ⟨hcount, hperform⟩ s
      rw [locUpdateConf_eq hnil, recordsUpdated_eq hnil, ConfTable.perform_param, hfile]
      exact ⟨hperform s.param, congrArg Int.ofNat hcount⟩

/-- No two lines assign the same parameter. -/
theorem pairwise_assigned (update : ConfUpdate atof) :
    (TextLines.lines update.text.chars).Pairwise fun first second =>
      ∀ a ∈ update.table.assigned atof first, ∀ b ∈ update.table.assigned atof second,
        a.1 ≠ b.1 := by
  have honce := update.once
  rw [ConfTable.assignments, List.Nodup, List.pairwise_map, List.pairwise_filterMap] at honce
  exact honce

theorem eq_of_assigned (update : ConfUpdate atof) {first second : List Char}
    (hfirst : first ∈ TextLines.lines update.text.chars)
    (hsecond : second ∈ TextLines.lines update.text.chars) {i : Nat} {value other : ParamValue}
    (h1 : update.table.assigned atof first = some (i, value))
    (h2 : update.table.assigned atof second = some (i, other)) : first = second := by
  by_contra hne
  obtain ⟨before, after, hlines⟩ := List.append_of_mem hfirst
  have hpairs := update.pairwise_assigned
  rw [hlines, List.pairwise_append, List.pairwise_cons] at hpairs
  rw [hlines] at hsecond
  obtain hbefore | hcons := List.mem_append.mp hsecond
  · exact hpairs.2.2 second hbefore first List.mem_cons_self _ h2 _ h1 rfl
  · obtain heq | hafter := List.mem_cons.mp hcons
    · exact hne heq.symm
    · exact hpairs.2.1.1 second hafter _ h1 _ h2 rfl

/-- Nor do two tokens. -/
theorem tokens_once (update : ConfUpdate atof) :
    (((TextLines.tokens '\n' update.text.chars).filterMap
      (update.table.assigned atof)).map Prod.fst).Nodup := by
  rw [ConfTable.filterMap_tokens, List.Nodup, List.pairwise_map, List.pairwise_filterMap]
  refine update.pairwise_assigned.imp_of_mem fun {first second} hfirst hsecond h a ha b hb => ?_
  obtain ⟨value, hvalue⟩ := ConfTable.assigned_line hfirst ha
  obtain ⟨other, hother⟩ := ConfTable.assigned_line hsecond hb
  exact h (a.1, value) hvalue (b.1, other) hother

theorem agrees_iff_plain (update : ConfUpdate atof) : update.Agrees ↔ update.Plain := by
  rw [agrees_iff_last]
  constructor
  · rintro ⟨hnil, hassigns, hlast⟩
    have hdistinct : (update.updates.map Prod.fst).Nodup :=
      update.tokens_once.sublist ((List.take_sublist _ _).map Prod.fst)
    have hmem : ∀ a, a ∈ update.updates ↔ a ∈ update.table.assignments atof update.text.chars := by
      rintro ⟨i, value⟩
      rw [← Assignments.last_eq_some_iff update.once, ← hlast,
        Assignments.last_eq_some_iff hdistinct]
    refine ⟨hnil, hassigns, ?_, fun line hline => ?_⟩
    · have hsubset : (update.table.assignments atof update.text.chars).map Prod.fst ⊆
          update.updates.map Prod.fst :=
        List.map_subset Prod.fst fun a ha => (hmem a).mpr ha
      have hle := List.Nodup.length_le_of_subset update.once hsubset
      have htake : update.updates.length ≤ update.table.entries.length - 1 :=
        List.length_take_le _ _
      have hpos := update.length_pos
      rw [List.length_map, List.length_map] at hle
      omega
    · have htoken : ∀ a, a ∈ update.updates →
          ∃ other ∈ TextLines.lines update.text.chars,
            update.table.assigned atof (TextLines.content other) = some a := by
        intro a ha
        have hall := List.mem_of_mem_take ha
        rw [ConfTable.filterMap_tokens] at hall
        exact List.mem_filterMap.mp hall
      cases hassigned : update.table.assigned atof line with
      | some a =>
          -- the parameter is assigned by a token, which can only be the one of this line
          have ha : a ∈ update.table.assignments atof update.text.chars :=
            List.mem_filterMap.mpr ⟨line, hline, hassigned⟩
          obtain ⟨other, hother, hcontent⟩ := htoken a ((hmem a).mpr ha)
          obtain ⟨value, hvalue⟩ := ConfTable.assigned_line hother hcontent
          rw [update.eq_of_assigned hline hother hassigned hvalue]
          exact hcontent
      | none =>
          cases hcontent : update.table.assigned atof (TextLines.content line) with
          | none => rfl
          | some a =>
              obtain ⟨value, hvalue⟩ := ConfTable.assigned_line hline hcontent
              rw [hassigned] at hvalue
              cases hvalue
  · rintro ⟨hnil, hassigns, hunassigned, hsame⟩
    refine ⟨hnil, hassigns, fun i => ?_⟩
    have hall : (TextLines.tokens '\n' update.text.chars).filterMap
        (update.table.assigned atof) = update.table.assignments atof update.text.chars := by
      rw [ConfTable.filterMap_tokens, ConfTable.assignments]
      exact List.filterMap_congr hsame
    rw [updates, hall, List.take_of_length_le (Nat.le_sub_one_of_lt hunassigned)]

/-- The only parameter of a table is not updated. -/
theorem not_agrees_single :
    ¬ (⟨⟨[⟨['A'], true, false, 'n'⟩], by decide, by decide⟩, ⟨"A=1\n".toList, by decide⟩,
      by decide, by decide, by decide⟩ : ConfUpdate fun _ => 0).Agrees := by
  intro h
  have hparam := congrFun (h ⟨fun _ => .number 0, fun _ => 0⟩).1 0
  revert hparam
  decide

end ConfUpdate

end Serrano.Utils
