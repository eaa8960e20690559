import Mathlib.Data.List.DropRight
import Serrano.Foundation.PrintedNumber
import Serrano.LocEng.XtraUserAgent
import Serrano.Utils.SplitString

/-! # The text of the user agent

Five properties of the device, which are encoded in place, its identifier and the serial
number of its chipset are put into one text with slashes between the fields. The buffer has
room for all of it, and a reader that splits the text gets the fields back, unless the serial
number, which is not encoded, has a slash itself. Spaces are shown as hash signs.
-/

namespace Serrano.LocEng.XtraUserAgent

open FittingPrefix StringMemory Strtol

/-- What `setXtraUserAgent` reads: what `property_get` answers for five properties, which may be
anything, and the file of the serial number, if it is there. -/
structure Device where
  release : List Char
  manufacturer : List Char
  model : List Char
  board : List Char
  brand : List Char
  izatDevId : UInt32
  serialNumberFile : Option (List Char)

def defVal : List Char := ['-']

/-- The string that `encodeInPlace` leaves in a buffer of a size. -/
def encodedIn (size : Nat) (value : List Char) : List Char :=
  encode code (fitting code (size - 1) value)

/-- `encodeInPlace` leaves that string, in the memory of the value. -/
theorem segment_encodeInPlace (value : Value) (buffer : Nat → Char) {fuel : Nat}
    (hfuel : value.string.text.length < fuel) :
    ∃ memory, encodeInPlace fuel buffer value.string.address value.size value.string.memory =
        some memory ∧
      Segment memory value.string.address (encodedIn value.size value.string.text) ∧
      memory (value.string.address + (encodedIn value.size value.string.text).length) = nul := by
  refine ⟨_, encodeInPlace_eq value buffer hfuel, segment_store, ?_⟩
  rw [encodedIn]
  exact (store_of_outside (.inr (Nat.le_refl _))).trans (Function.update_self _ _ _)

def chipsetSerialNumberMaxLen : Nat := 16

def userAgentMaxLen : Nat := 512

/-- `getChipsetSerialNo` with the default value and a buffer of 16 characters. -/
def getChipsetSerialNo (serialNumberFile : Option (List Char)) : List Char :=
  match serialNumberFile with
  | none => defVal
  | some content =>
      let buf := content.take (chipsetSerialNumberMaxLen - 1)
      let buf := if buf = [] then defVal else buf.takeWhile (· ≠ nul)
      buf.rdropWhile isSpace

/-- The format string with its arguments. -/
def format (release manufacture model board izatDevId chipsetsn brand : List Char) : List Char :=
  "A/".toList ++ release ++ "/".toList ++ manufacture ++ "/".toList ++ model ++ "/".toList ++
    board ++ "/-/QCX3/s".toList ++ izatDevId ++ "/-/".toList ++ chipsetsn ++ "/-/".toList ++
    brand ++ "/-/-/-".toList

/-- The fields that the slashes of the format separate. -/
def formatFields (release manufacture model board izatDevId chipsetsn brand : List Char) :
    List (List Char) :=
  [['A'], release, manufacture, model, board, ['-'], "QCX3".toList, 's' :: izatDevId, ['-'],
    chipsetsn, ['-'], brand, ['-'], ['-'], ['-']]

/-- A space becomes a hash sign. -/
def hash (c : Char) : Char := if c = ' ' then '#' else c

section

variable (propertyValueMax : Nat) (device : Device)

/-- A property, as it is put into the text. -/
def property (value : List Char) : List Char := encodedIn propertyValueMax value

/-- The text before it is cut. -/
def formatted : List Char :=
  format (property propertyValueMax device.release)
    (property propertyValueMax device.manufacturer) (property propertyValueMax device.model)
    (property propertyValueMax device.board) (Nat.toDigits 10 device.izatDevId.toNat)
    (getChipsetSerialNo device.serialNumberFile) (property propertyValueMax device.brand)

/-- The user agent that is saved. -/
def userAgent : List Char :=
  ((formatted propertyValueMax device).take (userAgentMaxLen - 1)).map hash

/-- The fields that a reader expects. -/
def fields : List (List Char) :=
  (formatFields (property propertyValueMax device.release)
    (property propertyValueMax device.manufacturer) (property propertyValueMax device.model)
    (property propertyValueMax device.board) (Nat.toDigits 10 device.izatDevId.toNat)
    (getChipsetSerialNo device.serialNumberFile)
    (property propertyValueMax device.brand)).map (List.map hash)

end

theorem format_eq (release manufacture model board izatDevId chipsetsn brand : List Char) :
    format release manufacture model board izatDevId chipsetsn brand =
      ['/'].intercalate
        (formatFields release manufacture model board izatDevId chipsetsn brand) := by
  have hfirst : "A/".toList = ['A', '/'] := rfl
  have hslash : "/".toList = ['/'] := rfl
  have hmiddle : "/-/QCX3/s".toList = '/' :: '-' :: '/' :: ("QCX3".toList ++ ['/', 's']) := rfl
  have hdash : "/-/".toList = ['/', '-', '/'] := rfl
  have hlast : "/-/-/-".toList = ['/', '-', '/', '-', '/', '-'] := rfl
  unfold format formatFields
  rw [hfirst, hslash, hmiddle, hdash, hlast]
  simp only [List.intercalate_cons_cons, List.append_assoc, List.cons_append, List.nil_append,
    List.intercalate_singleton]

/-- A character that is the same for the reader separates the same fields. -/
theorem map_intercalate {f : Char → Char} {separator : Char} (hf : f separator = separator)
    (fields : List (List Char)) :
    ([separator].intercalate fields).map f = [separator].intercalate (fields.map (List.map f)) := by
  induction fields with
  | nil => rfl
  | cons field rest ih =>
      cases rest with
      | nil => simp
      | cons next rest =>
          rw [List.intercalate_cons_cons, List.map_append, List.map_append, ih]
          simp only [List.map_cons, List.map_nil, hf, List.intercalate_cons_cons]

/-! ## The buffer has room for the text -/

theorem length_encodedIn_le (size : Nat) (value : List Char) :
    (encodedIn size value).length ≤ size - 1 :=
  length_encode_fitting_le code _ _

theorem length_getChipsetSerialNo_le (serialNumberFile : Option (List Char)) :
    (getChipsetSerialNo serialNumberFile).length ≤ chipsetSerialNumberMaxLen - 1 := by
  cases serialNumberFile with
  | none => decide
  | some content =>
      refine (List.rdropWhile_prefix isSpace _).length_le.trans ?_
      split
      next => decide
      next =>
        exact ((List.takeWhile_prefix _).length_le).trans (List.length_take_le _ _)

theorem length_toDigits_le (izatDevId : UInt32) : (Nat.toDigits 10 izatDevId.toNat).length ≤ 10 := by
  have hlt := izatDevId.toNat_lt
  exact (Nat.length_toDigits_le_iff (by decide) (by decide)).mpr (by omega)

variable {propertyValueMax : Nat} {device : Device}

/-- The text is shorter than the buffer, for properties of at most 91 characters. -/
theorem length_formatted_le (hmax : propertyValueMax ≤ 92) :
    (formatted propertyValueMax device).length ≤ 506 := by
  have hproperty : ∀ value, (property propertyValueMax value).length ≤ 91 := fun value =>
    (length_encodedIn_le _ _).trans (by omega)
  have hrelease := hproperty device.release
  have hmanufacturer := hproperty device.manufacturer
  have hmodel := hproperty device.model
  have hboard := hproperty device.board
  have hbrand := hproperty device.brand
  have hserial := length_getChipsetSerialNo_le device.serialNumberFile
  have hid := length_toDigits_le device.izatDevId
  rw [chipsetSerialNumberMaxLen] at hserial
  rw [formatted, format_eq, formatFields]
  simp only [List.intercalate_cons_cons, List.intercalate_singleton, List.length_append,
    List.length_cons, List.length_nil]
  have hchipset : "QCX3".toList.length = 4 := rfl
  omega

/-! ## What a reader finds -/

theorem hash_eq_slash_iff {c : Char} : hash c = '/' ↔ c = '/' := by
  rw [hash]
  split
  next hspace =>
    subst hspace
    decide
  next => rfl

theorem slash_mem_map_hash_iff {text : List Char} : '/' ∈ text.map hash ↔ '/' ∈ text := by
  rw [List.mem_map]
  constructor
  · rintro ⟨c, hc, hslash⟩
    exact hash_eq_slash_iff.mp hslash ▸ hc
  · exact fun h => ⟨'/', h, hash_eq_slash_iff.mpr rfl⟩

theorem slash_not_mem_property (value : List Char) : '/' ∉ property propertyValueMax value := by
  intro hslash
  obtain ⟨c, -, hc⟩ := List.mem_flatMap.mp hslash
  exact (coded c).not_isSeparator '/' hc (.inl rfl)

theorem slash_not_mem_toDigits (n : Nat) : '/' ∉ Nat.toDigits 10 n := by
  intro hslash
  exact absurd (Nat.isDigit_of_mem_toDigits (by decide) (by decide) hslash) (by decide)

theorem slash_not_mem_formatFields
    {release manufacture model board izatDevId chipsetsn brand : List Char}
    (hrelease : '/' ∉ release) (hmanufacture : '/' ∉ manufacture) (hmodel : '/' ∉ model)
    (hboard : '/' ∉ board) (hid : '/' ∉ 's' :: izatDevId) (hserial : '/' ∉ chipsetsn)
    (hbrand : '/' ∉ brand) :
    ∀ field ∈ formatFields release manufacture model board izatDevId chipsetsn brand,
      '/' ∉ field := by
  have hdash : '/' ∉ ['-'] := by decide
  have hchipset : '/' ∉ "QCX3".toList := by
    rw [show "QCX3".toList = ['Q', 'C', 'X', '3'] from rfl]
    decide
  unfold formatFields
  simp only [List.forall_mem_cons]
  exact ⟨by decide, hrelease, hmanufacture, hmodel, hboard, hdash, hchipset, hid, hdash, hserial,
    hdash, hbrand, hdash, hdash, hdash, by simp⟩

/-- Only the serial number may have a slash. -/
theorem slash_not_mem_fields (hserial : '/' ∉ getChipsetSerialNo device.serialNumberFile) :
    ∀ field ∈ fields propertyValueMax device, '/' ∉ field := by
  intro field hfield hslash
  obtain ⟨raw, hraw, rfl⟩ := List.mem_map.mp hfield
  refine slash_not_mem_formatFields (slash_not_mem_property _) (slash_not_mem_property _)
    (slash_not_mem_property _) (slash_not_mem_property _) ?_ hserial (slash_not_mem_property _)
    raw hraw (slash_mem_map_hash_iff.mp hslash)
  intro hid
  rcases List.mem_cons.mp hid with heq | hmem
  · exact absurd heq (by decide)
  · exact slash_not_mem_toDigits _ hmem

/-- The replacement of spaces does not touch a code. -/
theorem code_hash (c : Char) : code (hash c) = (code c).map hash := by
  by_cases hspace : c = ' '
  · subst hspace
    decide
  · have hc : hash c = c := if_neg hspace
    have hcoded := coded c
    rw [hc]
    generalize code c = out at hcoded ⊢
    cases hcoded with
    | slash => decide
    | plus => decide
    | bar => decide
    | percent => decide
    | plain => rw [List.map_singleton, hc]

/-- A property comes back with hash signs for its spaces, as much of it as fits. -/
theorem decode_property (value : List Char) :
    decode ((property propertyValueMax value).map hash) =
      (fitting code (propertyValueMax - 1) value).map hash := by
  have hencode : ∀ text, (encode code text).map hash = encode code (text.map hash) := by
    intro text
    induction text with
    | nil => rfl
    | cons c rest ih => rw [encode_cons, List.map_append, ih, List.map_cons, encode_cons, code_hash]
  rw [property, encodedIn, hencode, decode_encode]

/-- Nothing of the text is lost, and a reader that splits it at the slashes gets the fields,
from which the properties can be decoded, exactly when the serial number has no slash. -/
theorem userAgent_fields (hmax : propertyValueMax ≤ 92) (device : Device) :
    userAgent propertyValueMax device = (formatted propertyValueMax device).map hash ∧
      ((userAgent propertyValueMax device).splitOn '/' = fields propertyValueMax device ↔
        '/' ∉ getChipsetSerialNo device.serialNumberFile) ∧
      ∀ value, decode ((property propertyValueMax value).map hash) =
        (fitting code (propertyValueMax - 1) value).map hash := by
  have hlength : (formatted propertyValueMax device).length ≤ 506 := length_formatted_le hmax
  have hwhole : userAgent propertyValueMax device = (formatted propertyValueMax device).map hash := by
    rw [userAgent, userAgentMaxLen, List.take_of_length_le (by omega)]
  refine ⟨hwhole, ?_, decode_property⟩
  rw [hwhole, formatted, format_eq, map_intercalate (hash_eq_slash_iff.mpr rfl)]
  change (['/'].intercalate (fields propertyValueMax device)).splitOn '/' = _ ↔ _
  constructor
  · intro hsplit hserial
    have hfield : (getChipsetSerialNo device.serialNumberFile).map hash ∈
        (['/'].intercalate (fields propertyValueMax device)).splitOn '/' := by
      rw [hsplit]
      refine List.mem_map_of_mem ?_
      unfold formatFields
      simp
    exact Utils.SplitString.not_mem_of_mem_splitOn hfield (slash_mem_map_hash_iff.mpr hserial)
  · intro hserial
    exact List.splitOn_intercalate '/' (slash_not_mem_fields hserial) (List.cons_ne_nil _ _)

/-- A device whose serial number ends its line, with spaces and separators in properties. -/
def sampleDevice : Device where
  release := "7.1.2".toList
  manufacturer := "samsung".toList
  model := "GT-I9192 a/b".toList
  board := defVal
  brand := "100%".toList
  izatDevId := 4294967295
  serialNumberFile := some ['1', '7', '\n']

theorem userAgent_fields_sampleDevice :
    (userAgent 92 sampleDevice).splitOn '/' = fields 92 sampleDevice := by
  have hserial : '/' ∉ getChipsetSerialNo (some ['1', '7', '\n']) := by decide
  exact (userAgent_fields (by decide) sampleDevice).2.1.mpr hserial

end Serrano.LocEng.XtraUserAgent
