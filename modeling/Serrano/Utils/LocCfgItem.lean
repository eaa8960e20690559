import Mathlib.Data.List.DropRight
import Mathlib.Data.List.Sigma
import Mathlib.Data.List.TakeWhile
import Serrano.Foundation.NumberLiteral
import Serrano.Foundation.TextLines
import Serrano.Utils.LocCfg
import Serrano.Utils.TrimSpace

/-! # One line of a configuration

The value of a line is stored as text, as an integer or as a floating-point number,
which depends on the entry. All three are found before the table is looked at, and the
text is taken apart at every delimiter.
-/

namespace Serrano.Utils

/-- A line with a name and a value. A name has no delimiter and is not blank. -/
structure ConfLine where
  name : List Char
  value : List Char
  delimiter_not_mem : '=' ∉ name
  named : name.all Strtol.isSpace = false
  value_ne_nil : value ≠ []
  no_terminator : '\x00' ∉ name ++ value

namespace ConfLine

def chars (line : ConfLine) : List Char := line.name ++ '=' :: line.value

/-- The value without the white space around it. -/
def text (line : ConfLine) : List Char := trimmed line.value

end ConfLine

/-- A line, and an entry of a table that has its name and a place for its value. -/
structure ConfItem where
  line : ConfLine
  config_table : List ConfEntry
  i : Nat
  config_entry : ConfEntry
  getElem?_eq : config_table[i]? = some config_entry
  param_name : config_entry.param_name = trimmed line.name
  param_ptr : config_entry.param_ptr = true

/-- The value of a literal of 32 bits. -/
def numberLiteral (text : List Char) : Option Int32 :=
  match Strtol.hexLiteral text with
  | some digits =>
      if digits.length ≤ 8 then some (Int32.ofInt (Strtol.value 16 digits)) else none
  | none =>
      match Strtol.decimalInteger text with
      | some n => if -2 ^ 31 ≤ n ∧ n < 2 ^ 31 then some (Int32.ofInt n) else none
      | none => none

/-- What a string entry has room for, where `NULL` means that there is none. -/
def stringLiteral (text : List Char) : List Char :=
  if text = "NULL".toList then [] else text.take locMaxParamString

/-- What an entry should receive, where that is defined. -/
def paramLiteral (atof : List Char → UInt64) (param_type : Char) (text : List Char) :
    Option ParamValue :=
  if param_type = 's' then some (.string (stringLiteral text))
  else if param_type = 'n' then (numberLiteral text).map .number
  else if param_type = 'f' then
    if (Strtol.hexLiteral text).isSome ∨ Strtol.decimalLiteral text = true then
      some (.float (atof text))
    else none
  else none

namespace ConfItem

/-- Whatever was stored before, the entry receives its value. -/
def Receives (atof : List Char → UInt64) (item : ConfItem) : Prop :=
  ∀ value ∈ paramLiteral atof item.config_entry.param_type item.line.text, ∀ s,
    (locFillConfItem atof item.line.chars item.config_table s).2.param item.i = value

/-- An integer in base 16 is below the sign bit, a floating-point number in base 16 is zero, and a
string is not blank and has no delimiter, unless it is cut before that. -/
structure Plain (atof : List Char → UInt64) (item : ConfItem) : Prop where
  number : item.config_entry.param_type = 'n' →
    ∀ digits ∈ Strtol.hexLiteral item.line.text, digits.length ≤ 8 →
      Strtol.value 16 digits < 2 ^ 31
  float : item.config_entry.param_type = 'f' →
    Strtol.hexLiteral item.line.text ≠ none → atof item.line.text = 0
  string : item.config_entry.param_type = 's' →
    ('=' ∉ item.line.value ∧ item.line.value.all Strtol.isSpace = false) ∨
      locMaxParamString ≤ (trimmed (item.line.value.takeWhile (· ≠ '='))).length

end ConfItem

section

variable {atof : List Char → UInt64} {config_entry : ConfEntry} {config_value : ConfValue}
  {entries : List (ConfEntry × Nat)} {i : Nat} {text value : List Char}

theorem locSetConfigEntry_param_self (s : ConfState) :
    (locSetConfigEntry config_entry i config_value s).2.param i =
      (config_entry.stored config_value).getD (s.param i) := by
  rw [locSetConfigEntry]
  cases config_entry.stored config_value with
  | none => rfl
  | some value => exact Function.update_self i value s.param

theorem locSetConfigEntry_param_of_ne {j : Nat} (h : i ≠ j) (s : ConfState) :
    (locSetConfigEntry config_entry j config_value s).2.param i = s.param i := by
  rw [locSetConfigEntry]
  cases config_entry.stored config_value with
  | none => rfl
  | some value => exact Function.update_of_ne h value s.param

theorem setEntries_cons_state (s : ConfState) :
    (setEntries config_value ((config_entry, i) :: entries) s).2 =
      (setEntries config_value entries (locSetConfigEntry config_entry i config_value s).2).2 :=
  rfl

theorem setEntries_param_of_not_mem (h : i ∉ entries.map Prod.snd) (s : ConfState) :
    (setEntries config_value entries s).2.param i = s.param i := by
  induction entries generalizing s with
  | nil => rfl
  | cons entry rest ih =>
      rw [List.map_cons, List.mem_cons, not_or] at h
      rw [setEntries_cons_state, ih h.2, locSetConfigEntry_param_of_ne h.1]

/-- An entry is filled on its own, whatever the other entries of the table are. -/
theorem setEntries_param (hdistinct : (entries.map Prod.snd).Nodup)
    (h : (config_entry, i) ∈ entries) (s : ConfState) :
    (setEntries config_value entries s).2.param i =
      (config_entry.stored config_value).getD (s.param i) := by
  induction entries generalizing s with
  | nil => cases h
  | cons entry rest ih =>
      rw [List.map_cons, List.nodup_cons] at hdistinct
      rw [setEntries_cons_state]
      obtain rfl | hrest := List.mem_cons.mp h
      · rw [setEntries_param_of_not_mem hdistinct.1, locSetConfigEntry_param_self]
      · have hne : i ≠ entry.2 := by
          rintro rfl
          exact hdistinct.1 (List.mem_map.mpr ⟨_, hrest, rfl⟩)
        rw [ih hdistinct.2 hrest, locSetConfigEntry_param_of_ne hne]

theorem stored_of_eq (hname : config_entry.param_name = config_value.param_name)
    (hptr : config_entry.param_ptr = true) :
    config_entry.stored config_value =
      if config_entry.param_type = 's' then
        some (.string (if config_value.param_str_value = "NULL".toList then []
          else config_value.param_str_value.take locMaxParamString))
      else if config_entry.param_type = 'n' then some (.number config_value.param_int_value)
      else if config_entry.param_type = 'f' then some (.float config_value.param_double_value)
      else none :=
  if_pos ⟨hname, hptr⟩

theorem hexDigits_of_hexLiteral {digits : List Char}
    (h : Strtol.hexLiteral text = some digits) : hexDigits text = some digits := by
  rw [Strtol.hexLiteral.eq_def] at h
  split at h
  next zero x more =>
    split at h
    next hmore =>
      cases h
      obtain ⟨rfl, hx, hne, -⟩ := hmore
      obtain ⟨digit, rest, rfl⟩ := List.exists_cons_of_ne_nil hne
      refine if_pos ⟨rfl, ?_⟩
      rcases hx with rfl | rfl
      · rfl
      · rfl
    next => cases h
  next => cases h

theorem hexDigits_of_all_isDecimal (h : text.all Strtol.isDecimal = true) :
    hexDigits text = none := by
  rw [hexDigits.eq_def]
  split
  next zero x digit rest =>
    refine if_neg fun hx => ?_
    have hdecimal : Strtol.isDecimal x = true :=
      List.all_eq_true.mp h x (List.mem_cons_of_mem _ List.mem_cons_self)
    exact Strtol.toLower_ne_of_isDecimal hdecimal hx.2
  next => rfl

theorem locUtilTrimSpace_of_not_blank (h : text.all Strtol.isSpace = false) :
    locUtilTrimSpace text = trimmed text := by
  obtain ⟨c, hc, hspace⟩ := List.all_eq_false.mp h
  exact locUtilTrimSpace_eq_trimmed_iff.mpr (.inr ⟨c, hc, eq_false_of_ne_true hspace⟩)

theorem trimmed_eq_nil_iff_all : trimmed text = [] ↔ text.all Strtol.isSpace = true :=
  TrimSpace.trimmed_eq_nil_iff.trans TrimSpace.moved_eq_nil_iff

end

namespace ConfItem

variable {atof : List Char → UInt64} {item : ConfItem}

/-- The second token of the line. -/
def operand (item : ConfItem) : List Char := TextLines.firstToken '=' item.line.value

/-- What the entry stores. -/
def delivered (atof : List Char → UInt64) (item : ConfItem) : Option ParamValue :=
  if item.operand = [] then none
  else
    item.config_entry.stored
      (configValue atof (trimmed item.line.name) (locUtilTrimSpace item.operand))

theorem cString_chars (line : ConfLine) : cString line.chars = line.chars := by
  rw [cString, List.takeWhile_eq_self_iff]
  intro c hc
  refine decide_eq_true ?_
  rintro rfl
  refine line.no_terminator (List.mem_append.mpr ?_)
  obtain hname | hrest := List.mem_append.mp hc
  · exact .inl hname
  · exact .inr ((List.mem_cons.mp hrest).resolve_left (by decide))

theorem tokens_chars (line : ConfLine) :
    TextLines.tokens '=' line.chars = line.name :: TextLines.tokens '=' line.value := by
  refine TextLines.tokens_append_cons ?_ line.delimiter_not_mem line.value
  intro hnil
  have hnamed := line.named
  rw [hnil] at hnamed
  cases hnamed

theorem parseLine_chars (atof : List Char → UInt64) (item : ConfItem) :
    parseLine atof item.line.chars =
      if item.operand = [] then none
      else some (configValue atof (trimmed item.line.name) (locUtilTrimSpace item.operand)) := by
  obtain ⟨more, htokens⟩ := TextLines.tokens_eq '=' item.line.value
  rw [parseLine, cString_chars, tokens_chars, htokens, operand]
  by_cases hnil : TextLines.firstToken '=' item.line.value = []
  · rw [if_pos hnil, if_pos hnil]
  · rw [if_neg hnil, if_neg hnil, ← locUtilTrimSpace_of_not_blank item.line.named]

/-- Nothing is stored for a line without a second token. -/
theorem locFillConfItem_param (atof : List Char → UInt64) (item : ConfItem) (s : ConfState) :
    (locFillConfItem atof item.line.chars item.config_table s).2.param item.i =
      (item.delivered atof).getD (s.param item.i) := by
  rw [locFillConfItem, parseLine_chars, delivered]
  by_cases hnil : item.operand = []
  · rw [if_pos hnil, if_pos hnil]
    rfl
  · rw [if_neg hnil, if_neg hnil]
    exact setEntries_param (List.nodup_zipIdx_map_snd item.config_table)
      (List.mem_zipIdx_iff_getElem?.mpr item.getElem?_eq) s

/-- What is received must be stored, since anything may have been there before. -/
theorem receives_iff_delivered :
    item.Receives atof ↔
      ∀ value ∈ paramLiteral atof item.config_entry.param_type item.line.text,
        item.delivered atof = some value := by
  refine forall_congr' fun value => imp_congr_right fun _ => ?_
  simp only [locFillConfItem_param]
  cases hdelivered : item.delivered atof with
  | some other =>
      constructor
      · exact fun h => congrArg some (h ⟨fun _ => other, fun _ => 0⟩)
      · exact fun h _ => Option.some.inj h
  | none =>
      -- the entry keeps what it had, and that may have been either of two values
      refine iff_of_false (fun h => ?_) fun h => by cases h
      have hzero : ParamValue.number 0 = value := h ⟨fun _ => .number 0, fun _ => 0⟩
      have hone : ParamValue.number 1 = value := h ⟨fun _ => .number 1, fun _ => 0⟩
      exact absurd (hzero.trans hone.symm) (by decide)

/-- A value that is neither blank nor has a delimiter is taken as a whole. -/
theorem delivered_of_whole (hdelimiter : '=' ∉ item.line.value)
    (hblank : item.line.value.all Strtol.isSpace = false) :
    item.delivered atof =
      item.config_entry.stored (configValue atof (trimmed item.line.name) item.line.text) := by
  rw [delivered, operand, TextLines.firstToken_of_not_mem hdelimiter,
    if_neg item.line.value_ne_nil, locUtilTrimSpace_of_not_blank hblank]
  rfl

/-- A literal is taken as a whole. -/
theorem delivered_of_text (hdelimiter : '=' ∉ item.line.text) (hne : item.line.text ≠ []) :
    item.delivered atof =
      item.config_entry.stored (configValue atof (trimmed item.line.name) item.line.text) := by
  refine delivered_of_whole (fun h => hdelimiter (TrimSpace.mem_trimmed (by decide) h)) ?_
  exact eq_false_of_ne_true (mt trimmed_eq_nil_iff_all.mpr hne)

theorem delivered_of_hexLiteral {digits : List Char}
    (h : Strtol.hexLiteral item.line.text = some digits) :
    item.delivered atof =
      item.config_entry.stored (configValue atof (trimmed item.line.name) item.line.text) := by
  refine delivered_of_text
    (Strtol.not_mem_of_hexLiteral (by decide) (by decide) (by decide) h) ?_
  obtain ⟨x, -, htext, -⟩ := Strtol.hexLiteral_eq_some h
  rw [htext]
  exact List.cons_ne_nil _ _

theorem delivered_of_isDecimal (hne : item.line.text ≠ [])
    (h : item.line.text.all Strtol.isDecimal = true) :
    item.delivered atof =
      item.config_entry.stored (configValue atof (trimmed item.line.name) item.line.text) :=
  delivered_of_text (Strtol.not_mem_of_all_isDecimal (by decide) h) hne

section

variable {text digits : List Char} (name : List Char)

theorem param_int_value_of_hexLiteral (h : Strtol.hexLiteral text = some digits) :
    (configValue atof name text).param_int_value =
      Int32.ofInt (Strtol.clamp 32 (Strtol.value 16 digits)) := by
  rw [configValue, hexDigits_of_hexLiteral h, ← Strtol.strtol_hexLiteral h]

theorem param_double_value_of_hexLiteral (h : Strtol.hexLiteral text = some digits) :
    (configValue atof name text).param_double_value = 0 := by
  rw [configValue, hexDigits_of_hexLiteral h]

theorem param_int_value_of_decimalInteger {n : Int}
    (h : Strtol.decimalInteger text = some n) (hlower : -2 ^ 31 ≤ n) (hupper : n < 2 ^ 31) :
    (configValue atof name text).param_int_value = Int32.ofInt n := by
  have hdigits := hexDigits_of_all_isDecimal (Strtol.all_isDecimal_of_decimalInteger h)
  rw [configValue, hdigits]
  change Int32.ofInt (Strtol.strtol 32 10 text) = Int32.ofInt n
  rw [Strtol.strtol_decimalInteger h, Strtol.clamp_of_le hlower hupper]

theorem param_double_value_of_isDecimal (h : text.all Strtol.isDecimal = true) :
    (configValue atof name text).param_double_value = atof text := by
  rw [configValue, hexDigits_of_all_isDecimal h]

end

/-- Of the numbers that have 32 bits, those with the sign bit are cut to the largest `long`. -/
theorem ofInt_clamp_eq_iff {n : Nat} (h : n < 2 ^ 32) :
    Int32.ofInt (Strtol.clamp 32 n) = Int32.ofInt n ↔ n < 2 ^ 31 := by
  by_cases hn : n < 2 ^ 31
  · refine iff_of_true ?_ hn
    have hlower : (-2 ^ (32 - 1) : Int) ≤ n := by omega
    have hupper : (n : Int) < 2 ^ (32 - 1) := by omega
    rw [Strtol.clamp_of_le hlower hupper]
  · refine iff_of_false (fun heq => ?_) hn
    have hclamp : Strtol.clamp 32 n = 2147483647 := by
      rw [Strtol.clamp, if_neg (by omega), if_pos (by omega)]
      rfl
    have htoInt := congrArg Int32.toInt heq
    rw [hclamp, Int32.toInt_ofInt_of_le (by decide) (by decide), Int32.toInt_ofInt,
      Int.bmod_def] at htoInt
    have hsize : Int32.size = 4294967296 := rfl
    rw [hsize] at htoInt
    split at htoInt
    next => omega
    next => omega

theorem stored_number (htype : item.config_entry.param_type = 'n') (text : List Char) :
    item.config_entry.stored (configValue atof (trimmed item.line.name) text) =
      some (.number (configValue atof (trimmed item.line.name) text).param_int_value) := by
  rw [stored_of_eq item.param_name item.param_ptr, htype, if_neg (by decide), if_pos rfl]

theorem stored_float (htype : item.config_entry.param_type = 'f') (text : List Char) :
    item.config_entry.stored (configValue atof (trimmed item.line.name) text) =
      some (.float (configValue atof (trimmed item.line.name) text).param_double_value) := by
  rw [stored_of_eq item.param_name item.param_ptr, htype, if_neg (by decide),
    if_neg (by decide), if_pos rfl]

theorem stored_string (htype : item.config_entry.param_type = 's') (text : List Char) :
    item.config_entry.stored (configValue atof (trimmed item.line.name) text) =
      some (.string (stringLiteral text)) := by
  rw [stored_of_eq item.param_name item.param_ptr, htype, if_pos rfl]
  rfl

theorem receives_iff_of_number (htype : item.config_entry.param_type = 'n') :
    item.Receives atof ↔
      ∀ digits ∈ Strtol.hexLiteral item.line.text, digits.length ≤ 8 →
        Strtol.value 16 digits < 2 ^ 31 := by
  rw [receives_iff_delivered, paramLiteral, htype, if_neg (by decide), if_pos rfl,
    numberLiteral]
  cases hhex : Strtol.hexLiteral item.line.text with
  | some digits =>
      -- the digits are converted to a signed `long`, whatever they are meant for
      rw [delivered_of_hexLiteral hhex, stored_number htype,
        param_int_value_of_hexLiteral _ hhex]
      dsimp only
      split
      next hlength =>
        have hlt := Nat.lt_of_lt_of_le (Strtol.value_hexLiteral_lt hhex)
          (Nat.pow_le_pow_right (by decide) hlength)
        have hclamp := ofInt_clamp_eq_iff hlt
        constructor
        · rintro h _ ⟨⟩ -
          have hreceived := h _ rfl
          injection hreceived with hreceived
          injection hreceived with hnumber
          exact hclamp.mp hnumber
        · rintro h _ ⟨⟩
          rw [hclamp.mpr (h digits rfl hlength)]
      next hlength =>
        refine iff_of_true (fun value hvalue => by cases hvalue) ?_
        rintro _ ⟨⟩ hle
        exact absurd hle hlength
  | none =>
      refine iff_of_true ?_ fun digits hdigits => by cases hdigits
      dsimp only
      cases hdecimal : Strtol.decimalInteger item.line.text with
      | none => exact fun value hvalue => by cases hvalue
      | some n =>
          dsimp only
          split
          next hrange =>
            rintro _ ⟨⟩
            rw [delivered_of_isDecimal (Strtol.decimalInteger_ne_nil hdecimal)
              (Strtol.all_isDecimal_of_decimalInteger hdecimal), stored_number htype,
              param_int_value_of_decimalInteger _ hdecimal hrange.1 hrange.2]
          next => exact fun value hvalue => by cases hvalue

theorem receives_iff_of_float (htype : item.config_entry.param_type = 'f') :
    item.Receives atof ↔
      (Strtol.hexLiteral item.line.text ≠ none → atof item.line.text = 0) := by
  rw [receives_iff_delivered, paramLiteral, htype, if_neg (by decide), if_neg (by decide),
    if_pos rfl]
  cases hhex : Strtol.hexLiteral item.line.text with
  | some digits =>
      -- the branch for base 16 leaves the `double` as it was initialised
      rw [delivered_of_hexLiteral hhex, stored_float htype,
        param_double_value_of_hexLiteral _ hhex, if_pos (.inl rfl)]
      constructor
      · intro h _
        have hreceived := h _ rfl
        injection hreceived with hreceived
        injection hreceived with hreceived
        exact hreceived.symm
      · rintro h _ ⟨⟩
        rw [h (Option.some_ne_none digits)]
  | none =>
      refine iff_of_true ?_ fun h => absurd rfl h
      split
      next hliteral =>
        have hdecimal := hliteral.resolve_left Bool.false_ne_true
        rw [Strtol.decimalLiteral, Bool.and_eq_true] at hdecimal
        rintro _ ⟨⟩
        rw [delivered_of_isDecimal (of_decide_eq_true hdecimal.1) hdecimal.2, stored_float htype,
          param_double_value_of_isDecimal _ hdecimal.2]
      next => exact fun value hvalue => by cases hvalue

theorem receives_iff_of_string (htype : item.config_entry.param_type = 's') :
    item.Receives atof ↔
      item.operand ≠ [] ∧
        stringLiteral (locUtilTrimSpace item.operand) = stringLiteral item.line.text := by
  rw [receives_iff_delivered, paramLiteral, htype, if_pos rfl, delivered]
  split
  next hnil =>
    refine iff_of_false (fun h => ?_) fun h => h.1 hnil
    cases h _ rfl
  next hne =>
    rw [stored_string htype, and_iff_right hne]
    constructor
    · intro h
      have hreceived := h _ rfl
      injection hreceived with hreceived
      injection hreceived
    · rintro h _ ⟨⟩
      rw [h]

theorem mem_of_mem_stringLiteral {text : List Char} {c : Char} (h : c ∈ stringLiteral text) :
    c ∈ text := by
  rw [stringLiteral] at h
  split at h
  next => cases h
  next => exact List.mem_of_mem_take h

theorem mem_of_mem_locUtilTrimSpace {text : List Char} {c : Char}
    (h : c ∈ locUtilTrimSpace text) : c ∈ text := by
  rw [locUtilTrimSpace] at h
  split at h
  next => exact h
  next => exact (List.dropWhile_sublist _).mem ((TrimSpace.trimmed_prefix_moved text).mem h)

/-- The string that is stored has no delimiter. -/
theorem delimiter_not_mem_stored (item : ConfItem) :
    '=' ∉ stringLiteral (locUtilTrimSpace item.operand) := fun h =>
  TextLines.delimiter_not_mem_firstToken '=' item.line.value
    (mem_of_mem_locUtilTrimSpace (mem_of_mem_stringLiteral h))

/-- What is cut from a string of some length is not `NULL`. -/
theorem length_stringLiteral {text : List Char} :
    (stringLiteral text).length = locMaxParamString ↔ locMaxParamString ≤ text.length := by
  rw [stringLiteral]
  split
  next hnull =>
    rw [hnull]
    exact iff_of_false (by decide) (by decide)
  next =>
    rw [List.length_take]
    omega

theorem stringLiteral_of_le {text : List Char} (h : locMaxParamString ≤ text.length) :
    stringLiteral text = text.take locMaxParamString := by
  rw [stringLiteral, if_neg]
  rintro rfl
  exact absurd h (by decide)

theorem takeWhile_append_cons {head : List Char} (h : '=' ∉ head) (rest : List Char) :
    (head ++ '=' :: rest).takeWhile (· ≠ '=') = head := by
  rw [List.takeWhile_append_of_pos, List.takeWhile_cons, if_neg (by decide), List.append_nil]
  exact fun c hc => decide_eq_true fun heq => h (heq ▸ hc)

/-- When the value has a delimiter, the text in front of it is all that can be stored. -/
theorem stringLiteral_eq_iff_of_mem {head rest : List Char}
    (hvalue : item.line.value = head ++ '=' :: rest) (hhead : '=' ∉ head) :
    (item.operand ≠ [] ∧
        stringLiteral (locUtilTrimSpace item.operand) = stringLiteral item.line.text) ↔
      locMaxParamString ≤ (trimmed head).length := by
  obtain ⟨rest', htext⟩ : ∃ rest', item.line.text = TrimSpace.moved head ++ '=' :: rest' := by
    rw [ConfLine.text, hvalue]
    exact TrimSpace.trimmed_append_cons (by decide) head rest
  have hprefix := TrimSpace.trimmed_prefix_moved head
  have hnull : item.line.text ≠ "NULL".toList := by
    intro hnull
    have hmem : '=' ∈ "NULL".toList := by
      rw [← hnull, htext]
      exact List.mem_append_right _ List.mem_cons_self
    exact absurd hmem (by decide)
  have hreceived : stringLiteral item.line.text =
      (TrimSpace.moved head ++ '=' :: rest').take locMaxParamString := by
    rw [stringLiteral, if_neg hnull, htext]
  by_cases hlength : (TrimSpace.moved head).length < locMaxParamString
  · -- the delimiter is among the characters that should be stored
    refine iff_of_false (fun h => item.delimiter_not_mem_stored ?_) ?_
    · rw [h.2, hreceived, List.take_append, List.mem_append]
      obtain ⟨room, hroom⟩ := Nat.exists_eq_add_of_lt hlength
      have hpos : locMaxParamString - (TrimSpace.moved head).length = room + 1 := by omega
      rw [hpos]
      exact .inr List.mem_cons_self
    · exact Nat.not_le.mpr (Nat.lt_of_le_of_lt hprefix.length_le hlength)
  · -- the cut comes before the delimiter, and only white space in front of it can be missing
    have hle := Nat.le_of_not_lt hlength
    have hmoved : TrimSpace.moved head ≠ [] := by
      intro hnil
      rw [hnil] at hle
      exact absurd hle (by decide)
    have hblank : head.all Strtol.isSpace = false :=
      eq_false_of_ne_true (mt TrimSpace.moved_eq_nil_iff.mpr hmoved)
    have hoperand : item.operand = head := by
      obtain ⟨c, more, rfl⟩ := List.exists_cons_of_ne_nil
        (show head ≠ [] by rintro rfl; exact hmoved rfl)
      have hc : c ≠ '=' := fun heq => hhead (heq ▸ List.mem_cons_self)
      rw [operand, hvalue, List.cons_append, TextLines.firstToken_eq_takeWhile hc,
        ← List.cons_append, takeWhile_append_cons hhead]
    rw [hoperand, locUtilTrimSpace_of_not_blank hblank, hreceived,
      List.take_append_of_le_length hle]
    constructor
    · rintro ⟨-, heq⟩
      rw [← length_stringLiteral, heq, List.length_take, Nat.min_eq_left hle]
    · intro htrimmed
      refine ⟨by rintro rfl; exact hmoved rfl, ?_⟩
      obtain ⟨spaces, hspaces⟩ := hprefix
      rw [stringLiteral_of_le htrimmed, ← hspaces, List.take_append_of_le_length htrimmed]

/-- A value without a delimiter is stored, unless it is blank. -/
theorem stringLiteral_eq_iff_of_not_mem (h : '=' ∉ item.line.value) :
    (item.operand ≠ [] ∧
        stringLiteral (locUtilTrimSpace item.operand) = stringLiteral item.line.text) ↔
      item.line.value.all Strtol.isSpace = false := by
  have hne := item.line.value_ne_nil
  rw [operand, TextLines.firstToken_of_not_mem h, and_iff_right hne, ConfLine.text]
  cases hblank : item.line.value.all Strtol.isSpace with
  | false => exact iff_of_true (by rw [locUtilTrimSpace_of_not_blank hblank]) rfl
  | true =>
      -- a blank value is stored as it is, and should be stored as nothing
      refine iff_of_false (fun heq => ?_) (by decide)
      have hnull : item.line.value ≠ "NULL".toList := by
        intro hnull
        rw [hnull] at hblank
        cases hblank
      rw [locUtilTrimSpace, if_pos hblank, trimmed_eq_nil_iff_all.mpr hblank, stringLiteral,
        if_neg hnull, stringLiteral, if_neg (by decide), List.take_nil, List.take_eq_nil_iff] at heq
      exact hne (heq.resolve_left (by decide))

theorem receives_string_iff (htype : item.config_entry.param_type = 's') :
    item.Receives atof ↔
      ('=' ∉ item.line.value ∧ item.line.value.all Strtol.isSpace = false) ∨
        locMaxParamString ≤ (trimmed (item.line.value.takeWhile (· ≠ '='))).length := by
  rw [receives_iff_of_string htype]
  by_cases hmem : '=' ∈ item.line.value
  · obtain ⟨head, rest, hvalue, hhead⟩ := List.eq_append_cons_of_mem hmem
    have htake : item.line.value.takeWhile (· ≠ '=') = head := by
      rw [hvalue, takeWhile_append_cons hhead]
    rw [stringLiteral_eq_iff_of_mem hvalue hhead, htake]
    exact (or_iff_right fun h => h.1 hmem).symm
  · rw [stringLiteral_eq_iff_of_not_mem hmem]
    constructor
    · exact fun h => .inl ⟨hmem, h⟩
    · rintro (⟨-, h⟩ | h)
      · exact h
      · have htake : item.line.value.takeWhile (· ≠ '=') = item.line.value :=
          List.takeWhile_eq_self_iff.mpr fun c hc => decide_eq_true fun heq => hmem (heq ▸ hc)
        rw [htake] at h
        refine eq_false_of_ne_true fun hblank => ?_
        rw [trimmed_eq_nil_iff_all.mpr hblank] at h
        exact absurd h (by decide)

/-- Exactly the plain values are received. -/
theorem receives_iff_plain (item : ConfItem) : item.Receives atof ↔ item.Plain atof := by
  by_cases hstring : item.config_entry.param_type = 's'
  · rw [receives_string_iff hstring]
    refine ⟨fun h => ⟨fun htype => ?_, fun htype => ?_, fun _ => h⟩, fun h => h.string hstring⟩
    · exact absurd (hstring.symm.trans htype) (by decide)
    · exact absurd (hstring.symm.trans htype) (by decide)
  · by_cases hnumber : item.config_entry.param_type = 'n'
    · rw [receives_iff_of_number hnumber]
      refine ⟨fun h => ⟨fun _ => h, fun htype => ?_, fun htype => ?_⟩,
        fun h => h.number hnumber⟩
      · exact absurd (hnumber.symm.trans htype) (by decide)
      · exact absurd htype hstring
    · by_cases hfloat : item.config_entry.param_type = 'f'
      · rw [receives_iff_of_float hfloat]
        refine ⟨fun h => ⟨fun htype => ?_, fun _ => h, fun htype => ?_⟩,
          fun h => h.float hfloat⟩
        · exact absurd htype hnumber
        · exact absurd htype hstring
      · refine iff_of_true (fun value hvalue => ?_) ⟨fun htype => absurd htype hnumber,
          fun htype => absurd htype hfloat, fun htype => absurd htype hstring⟩
        rw [paramLiteral, if_neg hstring, if_neg hnumber, if_neg hfloat] at hvalue
        cases hvalue

/-- The entry of a line is the only one of its table. -/
def single (line : ConfLine) (param_type : Char) : ConfItem where
  line := line
  config_table := [⟨trimmed line.name, true, false, param_type⟩]
  i := 0
  config_entry := ⟨trimmed line.name, true, false, param_type⟩
  getElem?_eq := rfl
  param_name := rfl
  param_ptr := rfl

end ConfItem

namespace ConfLine

/-- A mask with the top bit. -/
def certMask : ConfLine where
  name := "AGPS_CERT_WRITABLE_MASK".toList
  value := "0x80000000".toList
  delimiter_not_mem := by decide
  named := by decide
  value_ne_nil := by decide
  no_terminator := by decide

/-- An address with a query. -/
def xtraServer : ConfLine where
  name := "XTRA_SERVER_1".toList
  value := "http://x/?v=2".toList
  delimiter_not_mem := by decide
  named := by decide
  value_ne_nil := by decide
  no_terminator := by decide

theorem not_received_certMask_xtraServer :
    ¬(ConfItem.single certMask 'n').Receives (fun _ => 0) ∧
      ¬(ConfItem.single xtraServer 's').Receives fun _ => 0 := by
  constructor
  · intro h
    have hparam := h _ rfl ⟨fun _ => .number 0, fun _ => 0⟩
    revert hparam
    decide
  · intro h
    have hparam := h _ rfl ⟨fun _ => .number 0, fun _ => 0⟩
    revert hparam
    decide

end ConfLine

end Serrano.Utils
