import Mathlib.Logic.Function.Basic
import Serrano.Foundation.Strtol
import Serrano.Foundation.TextLines

/-! # Configuration files

A table says which parameters are known and where they are stored. Each line of a
configuration that has a name and a value is compared with every entry of the table.
A `long` has 32 bits. A `double` is its representation, in which zero has no bit
set, and `atof` is a parameter.
-/

namespace Serrano.Utils

/-- What is stored for a parameter. -/
inductive ParamValue
  | string (value : List Char)
  | number (value : Int32)
  | float (value : UInt64)
  deriving DecidableEq

/-- `loc_param_s_type`. Of the two pointers it matters whether they are `NULL`; what they point
to is looked up by the index of the entry. -/
structure ConfEntry where
  param_name : List Char
  param_ptr : Bool
  param_set : Bool
  param_type : Char

/-- The memory that the entries of a table point to. -/
structure ConfState where
  param : Nat → ParamValue
  param_set : Nat → UInt8

/-- A table whose names are distinct. Its length is a `uint32_t`. -/
structure ConfTable where
  entries : List ConfEntry
  distinct : (entries.map ConfEntry.param_name).Nodup
  length_lt : entries.length < 2 ^ 32

/-- `loc_param_v_type` -/
structure ConfValue where
  param_name : List Char
  param_str_value : List Char
  param_int_value : Int32
  param_double_value : UInt64

def locMaxParamName : Nat := 80

def locMaxParamString : Nat := 80

def locMaxParamLine : Nat := locMaxParamName + locMaxParamString

/-- A string that consists of white space is left as it is. -/
def locUtilTrimSpace (org_string : List Char) : List Char :=
  if org_string.all Strtol.isSpace then org_string
  else ((org_string.dropWhile Strtol.isSpace).reverse.dropWhile Strtol.isSpace).reverse

/-- A buffer up to its terminator. -/
def cString (buffer : List Char) : List Char := buffer.takeWhile (· ≠ '\x00')

/-- The digits of a number with the prefix of base 16. -/
def hexDigits : List Char → Option (List Char)
  | zero :: x :: digit :: rest =>
      if zero = '0' ∧ x.toLower = 'x' then some (digit :: rest) else none
  | _ => none

section

variable (atof : List Char → UInt64)

/-- The numbers are zero before, and text in base 16 is not converted to a `double`. -/
def configValue (name value : List Char) : ConfValue where
  param_name := name
  param_str_value := value
  param_int_value :=
    match hexDigits value with
    | some digits => Int32.ofInt (Strtol.strtol 32 16 digits)
    | none => Strtol.atoi 32 value
  param_double_value :=
    match hexDigits value with
    | some _ => 0
    | none => atof value

/-- The name and the value of a line, which are its first two tokens. -/
def parseLine (input_buf : List Char) : Option ConfValue :=
  match TextLines.tokens '=' (cString input_buf) with
  | name :: value :: _ => some (configValue atof (locUtilTrimSpace name) (locUtilTrimSpace value))
  | _ => none

/-- What an entry stores, if the name is its own. -/
def ConfEntry.stored (config_entry : ConfEntry) (config_value : ConfValue) : Option ParamValue :=
  if config_entry.param_name = config_value.param_name ∧ config_entry.param_ptr = true then
    if config_entry.param_type = 's' then
      some (.string (if config_value.param_str_value = "NULL".toList then []
        else config_value.param_str_value.take locMaxParamString))
    else if config_entry.param_type = 'n' then some (.number config_value.param_int_value)
    else if config_entry.param_type = 'f' then some (.float config_value.param_double_value)
    else none
  else none

/-- The storage of an entry, and its flag if it has one. -/
def ConfState.store (s : ConfState) (param_set : Bool) (i : Nat) (value : ParamValue) :
    ConfState where
  param := Function.update s.param i value
  param_set := if param_set then Function.update s.param_set i 1 else s.param_set

/-- Whether the entry with an index stored the value, and the memory. -/
def locSetConfigEntry (config_entry : ConfEntry) (i : Nat) (config_value : ConfValue)
    (s : ConfState) : Bool × ConfState :=
  match config_entry.stored config_value with
  | some value => (true, s.store config_entry.param_set i value)
  | none => (false, s)

/-- The loop over the entries of a table, with their indices. -/
def setEntries (config_value : ConfValue) : List (ConfEntry × Nat) → ConfState → Nat × ConfState
  | [], s => (0, s)
  | (config_entry, i) :: rest, s =>
      let set := locSetConfigEntry config_entry i config_value s
      let others := setEntries config_value rest set.2
      (if set.1 then others.1 + 1 else others.1, others.2)

/-- The number of entries that were filled, and the memory. -/
def locFillConfItem (input_buf : List Char) (config_table : List ConfEntry) (s : ConfState) :
    Nat × ConfState :=
  match parseLine atof input_buf with
  | some config_value => setEntries config_value config_table.zipIdx s
  | none => (0, s)

/-- The flags of the entries that have one. -/
def clearValidity (config_table : List ConfEntry) (s : ConfState) : ConfState :=
  { s with
    param_set := fun i =>
      if (config_table[i]?).any ConfEntry.param_set then 0 else s.param_set i }

/-- The loop over the lines of a file, which ends with the file or with the counter. -/
def readParams (config_table : List ConfEntry) :
    UInt32 → List (List Char) → ConfState → ConfState
  | _, [], s => s
  | num_params, input_buf :: rest, s =>
      if num_params = 0 then s
      else
        let filled := locFillConfItem atof input_buf config_table s
        readParams config_table (num_params - UInt32.ofNat filled.1) rest filled.2

/-- A file is read through a buffer of `locMaxParamLine` characters. -/
def locReadConfR (conf_fp : List Char) (config_table : List ConfEntry) (s : ConfState) :
    ConfState :=
  readParams atof config_table (UInt32.ofNat config_table.length)
    (TextLines.fgets (locMaxParamLine - 1) (locMaxParamLine - 1) conf_fp)
    (clearValidity config_table s)

/-- The loop over the lines of a text, with the number of lines so far. -/
def updateParams (config_table : List ConfEntry) :
    UInt32 → Int → List (List Char) → ConfState → Int × ConfState
  | _, ret, [], s => (ret, s)
  | num_params, ret, input_buf :: rest, s =>
      if num_params = 0 then (ret, s)
      else
        let filled := locFillConfItem atof input_buf config_table s
        updateParams config_table (num_params - UInt32.ofNat filled.1) (ret + 1) rest filled.2

/-- The text comes with its length, and the copy that is taken apart ends at a terminator. -/
def locUpdateConf (conf_data : List Char) (config_table : List ConfEntry) (s : ConfState) :
    Int × ConfState :=
  if conf_data = [] ∨ config_table = [] then (-1, s)
  else
    updateParams atof config_table (UInt32.ofNat config_table.length - 1) 0
      (TextLines.tokens '\n' (cString conf_data)) s

/-- `loc_param_table` -/
def locParamTable : List ConfEntry :=
  [⟨"DEBUG_LEVEL".toList, true, false, 'n'⟩, ⟨"TIMESTAMP".toList, true, false, 'n'⟩]

/-- The memory of a table and that of `loc_param_table`, for a file that can be opened. -/
def locReadConf (conf_file : List Char) (config_table : List ConfEntry) (s logger : ConfState) :
    ConfState × ConfState :=
  (if config_table = [] then s else locReadConfR atof conf_file config_table s,
    locReadConfR atof conf_file locParamTable logger)

end

end Serrano.Utils
