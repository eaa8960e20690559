import Serrano.Foundation.Assignments
import Serrano.Utils.LocCfg

/-! # What a configuration file assigns

A line of a file assigns at most one parameter of a table with distinct names. The
reader performs the assignments of the lines in order, but no more of them than the
table has entries.
-/

namespace Serrano.Utils

/-- A file with lines that fit into the buffer. -/
structure ConfFile where
  chars : List Char
  short : ∀ line ∈ TextLines.lines chars,
    (TextLines.content line).length < locMaxParamLine - 1

instance : Nontrivial ParamValue := ⟨.number 0, .number 1, by decide⟩

namespace ConfTable

variable (atof : List Char → UInt64) (table : ConfTable)

/-- The parameter and the value of a line. -/
def assigned (line : List Char) : Option (Nat × ParamValue) :=
  (parseLine atof line).bind fun config_value =>
    table.entries.zipIdx.findSome? fun entry => (entry.1.stored config_value).map (entry.2, ·)

/-- The assignments of the lines of a file. -/
def assignments (file : List Char) : List (Nat × ParamValue) :=
  (TextLines.lines file).filterMap (table.assigned atof)

/-- Whether an entry has a flag. -/
def hasFlag (i : Nat) : Bool := (table.entries[i]?).any ConfEntry.param_set

def perform (assignments : List (Nat × ParamValue)) (s : ConfState) : ConfState :=
  assignments.foldl (fun s assignment =>
    s.store (table.hasFlag assignment.1) assignment.1 assignment.2) s

/-- Every parameter that the file assigns has the last value that it assigns, with its flag set, and
every other one is as it was, with its flag clear. -/
def ReadsFile (file : ConfFile) : Prop :=
  ∀ s logger i entry, table.entries[i]? = some entry →
    (∀ value, Assignments.last (table.assignments atof file.chars) i = some value →
      (locReadConf atof file.chars table.entries s logger).1.param i = value ∧
        (entry.param_set = true →
          (locReadConf atof file.chars table.entries s logger).1.param_set i = 1)) ∧
    (Assignments.last (table.assignments atof file.chars) i = none →
      (locReadConf atof file.chars table.entries s logger).1.param i = s.param i ∧
        (entry.param_set = true →
          (locReadConf atof file.chars table.entries s logger).1.param_set i = 0))

/-- The last value of every parameter is among as many assignments as the table has entries. -/
def InTime (file : ConfFile) : Prop :=
  ∀ i, Assignments.last (table.assignments atof file.chars) i =
    Assignments.last ((table.assignments atof file.chars).take table.entries.length) i

variable {atof table}

theorem param_name_of_stored {config_entry : ConfEntry} {config_value : ConfValue}
    {value : ParamValue} (h : config_entry.stored config_value = some value) :
    config_entry.param_name = config_value.param_name := by
  rw [ConfEntry.stored] at h
  split at h
  next hname => exact hname.1
  next => cases h

theorem setEntries_of_none {config_value : ConfValue} {entries : List (ConfEntry × Nat)}
    (h : ∀ entry ∈ entries, entry.1.stored config_value = none) (s : ConfState) :
    setEntries config_value entries s = (0, s) := by
  induction entries generalizing s with
  | nil => rfl
  | cons entry rest ih =>
      have hset : locSetConfigEntry entry.1 entry.2 config_value s = (false, s) := by
        rw [locSetConfigEntry, h entry List.mem_cons_self]
      rw [setEntries, hset, ih fun other hother => h other (List.mem_cons_of_mem entry hother)]
      rfl

/-- At most one entry of a table with distinct names stores a value. -/
theorem setEntries_of_some {config_value : ConfValue} {entries : List (ConfEntry × Nat)}
    (hdistinct : (entries.map fun entry => entry.1.param_name).Nodup) {i : Nat}
    {value : ParamValue}
    (h : (entries.findSome? fun entry => (entry.1.stored config_value).map (entry.2, ·)) =
      some (i, value)) (s : ConfState) :
    ∃ config_entry, (config_entry, i) ∈ entries ∧
      setEntries config_value entries s = (1, s.store config_entry.param_set i value) := by
  induction entries generalizing s with
  | nil => cases h
  | cons entry rest ih =>
      rw [List.map_cons, List.nodup_cons] at hdistinct
      rw [List.findSome?_cons] at h
      cases hstored : entry.1.stored config_value with
      | none =>
          rw [hstored] at h
          obtain ⟨config_entry, hmem, hset⟩ := ih hdistinct.2 h s
          refine ⟨config_entry, List.mem_cons_of_mem entry hmem, ?_⟩
          have hskip : locSetConfigEntry entry.1 entry.2 config_value s = (false, s) := by
            rw [locSetConfigEntry, hstored]
          rw [setEntries, hskip, hset]
          rfl
      | some value' =>
          rw [hstored] at h
          cases h
          refine ⟨entry.1, List.mem_cons_self, ?_⟩
          have hset : locSetConfigEntry entry.1 entry.2 config_value s =
              (true, s.store entry.1.param_set entry.2 value) := by
            rw [locSetConfigEntry, hstored]
          have hrest : ∀ other ∈ rest, other.1.stored config_value = none := by
            intro other hother
            cases hothers : other.1.stored config_value with
            | none => rfl
            | some again =>
                have hsame := (param_name_of_stored hothers).trans
                  (param_name_of_stored hstored).symm
                exact absurd (List.mem_map.mpr ⟨other, hother, hsame⟩) hdistinct.1
          rw [setEntries, hset, setEntries_of_none hrest]
          rfl

theorem locFillConfItem_of_none {line : List Char} (h : table.assigned atof line = none)
    (s : ConfState) : locFillConfItem atof line table.entries s = (0, s) := by
  rw [locFillConfItem]
  split
  next config_value hparse =>
    rw [assigned, hparse, Option.bind_some, List.findSome?_eq_none_iff] at h
    exact setEntries_of_none (fun entry hentry => Option.map_eq_none_iff.mp (h entry hentry)) s
  next => rfl

theorem locFillConfItem_of_some {line : List Char} {assignment : Nat × ParamValue}
    (h : table.assigned atof line = some assignment) (s : ConfState) :
    locFillConfItem atof line table.entries s =
      (1, s.store (table.hasFlag assignment.1) assignment.1 assignment.2) := by
  obtain ⟨config_value, hparse, hfind⟩ := Option.bind_eq_some_iff.mp h
  have hdistinct : (table.entries.zipIdx.map fun entry => entry.1.param_name).Nodup := by
    have hmap : (table.entries.zipIdx.map fun entry => entry.1.param_name) =
        table.entries.map ConfEntry.param_name := by
      rw [← List.zipIdx_map_fst 0 table.entries, List.map_map, List.zipIdx_map_fst]
      rfl
    rw [hmap]
    exact table.distinct
  obtain ⟨config_entry, hmem, hset⟩ := setEntries_of_some hdistinct hfind s
  have hentry : table.entries[assignment.1]? = some config_entry :=
    List.mem_zipIdx_iff_getElem?.mp hmem
  have hflag : table.hasFlag assignment.1 = config_entry.param_set := by
    rw [hasFlag, hentry, Option.any_some]
  rw [locFillConfItem, hparse, hflag]
  exact hset

theorem ofNat_sub_one (k : Nat) : UInt32.ofNat (k + 1) - UInt32.ofNat 1 = UInt32.ofNat k := by
  rw [← UInt32.ofNat_sub (Nat.le_add_left 1 k), Nat.add_sub_cancel]

theorem ofNat_sub_zero (num_params : UInt32) : num_params - UInt32.ofNat 0 = num_params :=
  UInt32.sub_zero num_params

theorem ofNat_succ_ne_zero {k : Nat} (h : k + 1 < 2 ^ 32) : UInt32.ofNat (k + 1) ≠ 0 := by
  intro hzero
  have hnat := congrArg UInt32.toNat hzero
  rw [UInt32.toNat_ofNat_of_lt' h] at hnat
  cases hnat

/-- The loop ends after so many assignments. -/
theorem readParams_eq {k : Nat} (hk : k < 2 ^ 32) (lines : List (List Char)) (s : ConfState) :
    readParams atof table.entries (UInt32.ofNat k) lines s =
      table.perform ((lines.filterMap (table.assigned atof)).take k) s := by
  induction lines generalizing k s with
  | nil =>
      rw [List.filterMap_nil, List.take_nil]
      rfl
  | cons line rest ih =>
      cases k with
      | zero => rfl
      | succ k =>
          have hstep : readParams atof table.entries (UInt32.ofNat (k + 1)) (line :: rest) s =
              readParams atof table.entries
                (UInt32.ofNat (k + 1) -
                  UInt32.ofNat (locFillConfItem atof line table.entries s).1)
                rest (locFillConfItem atof line table.entries s).2 :=
            if_neg (ofNat_succ_ne_zero hk)
          cases hline : table.assigned atof line with
          | none =>
              rw [hstep, locFillConfItem_of_none hline, ofNat_sub_zero, ih hk,
                List.filterMap_cons_none hline]
          | some assignment =>
              rw [hstep, locFillConfItem_of_some hline, ofNat_sub_one, ih (Nat.lt_of_succ_lt hk),
                List.filterMap_cons_some hline, List.take_succ_cons]
              rfl

theorem perform_param (assignments : List (Nat × ParamValue)) (s : ConfState) :
    (table.perform assignments s).param = Assignments.perform assignments s.param := by
  induction assignments generalizing s with
  | nil => rfl
  | cons assignment rest ih => exact ih _

theorem store_param_set (s : ConfState) (assignment : Nat × ParamValue) (i : Nat) :
    (s.store (table.hasFlag assignment.1) assignment.1 assignment.2).param_set i =
      if table.hasFlag i = true ∧ assignment.1 = i then 1 else s.param_set i := by
  change (if table.hasFlag assignment.1 = true then
    Function.update s.param_set assignment.1 1 else s.param_set) i = _
  by_cases hkey : assignment.1 = i
  · subst hkey
    by_cases hflag : table.hasFlag assignment.1 = true
    · rw [if_pos hflag, if_pos ⟨hflag, rfl⟩, Function.update_self]
    · rw [if_neg hflag, if_neg fun h => hflag h.1]
  · have hright : (if table.hasFlag i = true ∧ assignment.1 = i then (1 : UInt8)
        else s.param_set i) = s.param_set i := if_neg fun h => hkey h.2
    rw [hright]
    split
    next => exact Function.update_of_ne (Ne.symm hkey) _ _
    next => rfl

/-- The flags that are set are those of the parameters that are assigned. -/
theorem perform_param_set (assignments : List (Nat × ParamValue)) (s : ConfState) (i : Nat) :
    (table.perform assignments s).param_set i =
      if table.hasFlag i = true ∧ (Assignments.last assignments i).isSome = true then 1
      else s.param_set i := by
  induction assignments generalizing s with
  | nil => exact (if_neg fun h => Bool.false_ne_true h.2).symm
  | cons assignment rest ih =>
      change (table.perform rest
        (s.store (table.hasFlag assignment.1) assignment.1 assignment.2)).param_set i = _
      rw [ih, store_param_set, Assignments.last]
      cases Assignments.last rest i with
      | some value =>
          by_cases hflag : table.hasFlag i = true
          · rw [if_pos ⟨hflag, rfl⟩, if_pos ⟨hflag, rfl⟩]
          · rw [if_neg fun h => hflag h.1, if_neg fun h => hflag h.1, if_neg fun h => hflag h.1]
      | none =>
          rw [Option.isSome_none, if_neg fun h => Bool.false_ne_true h.2, Option.none_or]
          by_cases hkey : assignment.1 = i
          · rw [if_pos hkey, Option.isSome_some]
            simp only [hkey, and_true]
          · rw [if_neg hkey, Option.isSome_none, if_neg fun h => hkey h.2,
              if_neg fun h => Bool.false_ne_true h.2]

theorem fgets_eq_lines (file : ConfFile) :
    TextLines.fgets (locMaxParamLine - 1) (locMaxParamLine - 1) file.chars =
      TextLines.lines file.chars := by
  have hall : ∀ line ∈ TextLines.lines file.chars, line.length ≤ locMaxParamLine - 1 :=
    fun line hline => Nat.le_trans (TextLines.length_le_of_mem_lines hline) (file.short line hline)
  apply TextLines.fgets_eq_lines
  cases hlines : TextLines.lines file.chars with
  | nil => trivial
  | cons line more =>
      rw [hlines] at hall
      exact ⟨hall line List.mem_cons_self,
        fun other hother => hall other (List.mem_cons_of_mem line hother)⟩

/-- The reader performs the first assignments of the file. -/
theorem locReadConfR_eq (file : ConfFile) (s : ConfState) :
    locReadConfR atof file.chars table.entries s =
      table.perform ((table.assignments atof file.chars).take table.entries.length)
        (clearValidity table.entries s) := by
  rw [locReadConfR, fgets_eq_lines, readParams_eq table.length_lt, assignments]

theorem locReadConf_eq (file : ConfFile) (s logger : ConfState) {i : Nat} {entry : ConfEntry}
    (h : table.entries[i]? = some entry) :
    (locReadConf atof file.chars table.entries s logger).1 =
      table.perform ((table.assignments atof file.chars).take table.entries.length)
        (clearValidity table.entries s) := by
  have hne : table.entries ≠ [] := by
    intro hnil
    rw [hnil] at h
    cases h
  rw [← locReadConfR_eq, locReadConf, if_neg hne]

/-- The index of an assignment is that of an entry. -/
theorem entry_of_assigned {line : List Char} {assignment : Nat × ParamValue}
    (h : table.assigned atof line = some assignment) :
    ∃ entry, table.entries[assignment.1]? = some entry := by
  obtain ⟨config_value, -, hfind⟩ := Option.bind_eq_some_iff.mp h
  obtain ⟨⟨entry, i⟩, hmem, hstored⟩ := List.exists_of_findSome?_eq_some hfind
  obtain ⟨value, -, rfl⟩ := Option.map_eq_some_iff.mp hstored
  exact ⟨entry, List.mem_zipIdx_iff_getElem?.mp hmem⟩

theorem last_eq_none_of_absent {file : List Char} {i : Nat} (h : table.entries[i]? = none) :
    Assignments.last (table.assignments atof file) i = none := by
  rw [Assignments.last_eq_none_iff]
  intro hmem
  obtain ⟨assignment, hassignment, rfl⟩ := List.mem_map.mp hmem
  obtain ⟨line, -, hline⟩ := List.mem_filterMap.mp hassignment
  obtain ⟨entry, hentry⟩ := entry_of_assigned hline
  rw [hentry] at h
  cases h

theorem last_take_eq_none {assignments : List (Nat × ParamValue)} {i : Nat} (num : Nat)
    (h : Assignments.last assignments i = none) :
    Assignments.last (assignments.take num) i = none := by
  rw [Assignments.last_eq_none_iff] at h ⊢
  intro hmem
  obtain ⟨assignment, hassignment, heq⟩ := List.mem_map.mp hmem
  exact h (List.mem_map.mpr ⟨assignment, List.mem_of_mem_take hassignment, heq⟩)

/-- A file is read as it stands exactly when the last value of every parameter is in time. -/
theorem readsFile_iff (atof : List Char → UInt64) (table : ConfTable) (file : ConfFile) :
    table.ReadsFile atof file ↔ table.InTime atof file := by
  constructor
  · intro h i
    cases hlast : Assignments.last (table.assignments atof file.chars) i with
    | none => exact (last_take_eq_none _ hlast).symm
    | some value =>
        have hentry : ∃ entry, table.entries[i]? = some entry := by
          cases hentry : table.entries[i]? with
          | none =>
              rw [last_eq_none_of_absent hentry] at hlast
              cases hlast
          | some entry => exact ⟨entry, rfl⟩
        obtain ⟨entry, hentry⟩ := hentry
        obtain ⟨other, hother⟩ := exists_ne value
        have hread := ((h ⟨fun _ => other, fun _ => 0⟩ ⟨fun _ => other, fun _ => 0⟩ i entry
          hentry).1 value hlast).1
        rw [locReadConf_eq file _ _ hentry, perform_param, Assignments.perform_apply] at hread
        cases htake : Assignments.last
          ((table.assignments atof file.chars).take table.entries.length) i with
        | none =>
            rw [htake] at hread
            exact absurd hread hother
        | some taken =>
            rw [htake] at hread
            exact congrArg some hread.symm
  · intro h s logger i entry hentry
    have hflag : table.hasFlag i = entry.param_set := by
      rw [hasFlag, hentry, Option.any_some]
    rw [locReadConf_eq file s logger hentry, perform_param, Assignments.perform_apply,
      perform_param_set, ← h i, hflag]
    constructor
    · intro value hlast
      rw [hlast]
      exact ⟨rfl, fun hset => if_pos ⟨hset, rfl⟩⟩
    · intro hlast
      rw [hlast]
      refine ⟨rfl, fun hset => ?_⟩
      rw [if_neg fun hboth => Bool.false_ne_true hboth.2]
      exact if_pos (hflag.trans hset)

/-- A table with the one parameter "A", and a file that assigns it twice. -/
theorem not_readsFile_twice :
    ¬ ReadsFile (fun _ => 0) ⟨[⟨['A'], true, false, 'n'⟩], by decide, by decide⟩
      ⟨"A=1\nA=2\n".toList, by decide⟩ := by
  intro h
  have hread := ((h ⟨fun _ => .number 0, fun _ => 0⟩ ⟨fun _ => .number 0, fun _ => 0⟩ 0 _ rfl).1
    (.number 2) (by decide)).1
  revert hread
  decide

end ConfTable

end Serrano.Utils
