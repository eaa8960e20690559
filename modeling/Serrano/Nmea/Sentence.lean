import Serrano.Foundation.DecimalText
import Mathlib.Data.List.Basic
import Mathlib.Data.List.TakeWhile

/-! # Sentences and their checksums

A sentence is formatted piece by piece into a buffer. A piece that is checked and has no room
gives the sentence up, and one that is not checked is cut. The checksum is put behind what the
buffer holds then, and the text goes to the callback of the framework and to the position layer.
-/

namespace Serrano.Nmea

abbrev Text := List Char

def nmeaSentenceMaxLength : ℕ := 200

/-- What `snprintf` stores of a text in so many bytes, without the terminator. -/
def stored (size : ℕ) (text : Text) : Text := text.take (size - 1)

/-- Formatting at the end of the buffer, with the check of the length that `snprintf` returns. -/
def append (sentence piece : Text) : Option Text :=
  let lengthRemaining := nmeaSentenceMaxLength - sentence.length
  if lengthRemaining ≤ piece.length then none else some (sentence ++ piece)

/-- Formatting at the end of the buffer, where the returned length is not looked at. -/
def appendUnchecked (sentence piece : Text) : Text :=
  sentence ++ stored (nmeaSentenceMaxLength - sentence.length) piece

/-! ## Checksum -/

def checksum (body : Text) : UInt8 := body.foldl (fun sum c => sum ^^^ c.toUInt8) 0

/-- The two upper-case hexadecimal digits of a byte. -/
def hex (byte : UInt8) : Text :=
  [(byte.toNat / 16).digitChar.toUpper, (byte.toNat % 16).digitChar.toUpper]

/-- What `"*%02X\r\n"` makes of the checksum of a body. -/
def trailer (body : Text) : Text := '*' :: hex (checksum body) ++ ['\r', '\n']

/-- A text that is handed out with the length that is passed along. -/
structure Sent where
  text : Text
  length : ℕ
  deriving DecidableEq

/-- The length is the one that `snprintf` returns, whether or not the checksum has been cut. -/
def putChecksum (pNmea : Text) (maxSize : ℕ) : Sent :=
  -- the `$` is skipped
  let body := pNmea.tail
  let length := body.length
  { text := pNmea ++ stored (maxSize - length - 1) (trailer body)
    length := length + (trailer body).length + 1 }

/-- What `loc_eng_nmea_send` calls. -/
inductive Call
  | nmeaCb (sent : Sent)
  | reportNmea (sent : Sent)
  deriving DecidableEq

def Call.sent : Call → Sent
  | .nmeaCb sent => sent
  | .reportNmea sent => sent

def send (nmeaCb : Bool) (sent : Sent) : List Call :=
  if nmeaCb then [.nmeaCb sent, .reportNmea sent] else [.reportNmea sent]

/-- The checksum of what a buffer holds, in the rest of that buffer. -/
def finish (sentence : Text) : Sent := putChecksum sentence nmeaSentenceMaxLength

/-- The pieces of a sentence, of which all but the last are checked. -/
structure Sentence where
  checked : List Text
  last : Text

/-- The buffer when all pieces have been formatted. -/
def Sentence.format (s : Sentence) : Option Text :=
  (s.checked.foldlM append []).map (appendUnchecked · s.last)

/-- The pieces as they are without a buffer. -/
def Sentence.full (s : Sentence) : Text := s.checked.flatten ++ s.last

/-! ## Form -/

/-- The exclusive or of all bytes. -/
def xorAll (bytes : List UInt8) : UInt8 := bytes.foldr (· ^^^ ·) 0

/-- `$`, a body without `*`, `*`, the checksum of the body and the end of the line, with the
length of the whole, which is below that of the buffer. -/
def Sent.Framed (s : Sent) : Prop :=
  ∃ body : Text, '*' ∉ body ∧
    s.text = '$' :: body ++ '*' :: hex (xorAll (body.map Char.toUInt8)) ++ ['\r', '\n'] ∧
    s.length = s.text.length ∧ s.length < nmeaSentenceMaxLength

/-- The text of a whole sentence with its checksum. -/
def complete (sentence : Text) : Text := sentence ++ trailer sentence.tail

/-- A `$` and nothing that ends the body. -/
def Opened (sentence : Text) : Prop := ∃ body : Text, sentence = '$' :: body ∧ '*' ∉ body

theorem foldl_xor (body : Text) (sum : UInt8) :
    body.foldl (fun sum c => sum ^^^ c.toUInt8) sum =
      sum ^^^ xorAll (body.map Char.toUInt8) := by
  induction body generalizing sum with
  | nil => exact UInt8.xor_zero.symm
  | cons c body ih =>
      rw [List.foldl_cons, ih, List.map_cons, xorAll, xorAll, List.foldr_cons, UInt8.xor_assoc]

theorem checksum_eq_xorAll (body : Text) : checksum body = xorAll (body.map Char.toUInt8) := by
  rw [checksum, foldl_xor, UInt8.zero_xor]

@[simp] theorem length_trailer (body : Text) : (trailer body).length = 5 := rfl

theorem length_finish {sentence : Text} (h : sentence ≠ []) :
    (finish sentence).length = sentence.length + 5 := by
  have hpos := List.length_pos_iff.mpr h
  simp only [finish, putChecksum, length_trailer, List.length_tail]
  omega

/-- With room for the checksum nothing is cut. -/
theorem text_finish {sentence : Text} (hne : sentence ≠ [])
    (h : sentence.length + 5 < nmeaSentenceMaxLength) :
    (finish sentence).text = complete sentence := by
  have hpos := List.length_pos_iff.mpr hne
  have hroom : (trailer sentence.tail).length ≤
      nmeaSentenceMaxLength - sentence.tail.length - 1 - 1 := by
    rw [length_trailer, List.length_tail]
    omega
  rw [finish, putChecksum, complete, stored, List.take_of_length_le hroom]

theorem framed_finish_iff {sentence : Text} (hopened : Opened sentence) :
    (finish sentence).Framed ↔ sentence.length + 5 < nmeaSentenceMaxLength := by
  obtain ⟨body, rfl, hstar⟩ := hopened
  have hne : '$' :: body ≠ [] := List.cons_ne_nil '$' body
  constructor
  · rintro ⟨_, -, -, -, hlt⟩
    rwa [length_finish hne] at hlt
  · intro hlt
    have htext := text_finish hne hlt
    refine ⟨body, hstar, ?_, ?_, ?_⟩
    · rw [htext, complete, trailer, List.tail_cons, checksum_eq_xorAll, ← List.append_assoc]
    · rw [length_finish hne, htext, complete, List.length_append, length_trailer]
    · rwa [length_finish hne]

/-! ## Formatting -/

theorem append_of_lt {sentence piece : Text}
    (h : sentence.length + piece.length < nmeaSentenceMaxLength) :
    append sentence piece = some (sentence ++ piece) := by
  have hroom : ¬ nmeaSentenceMaxLength - sentence.length ≤ piece.length := by omega
  exact if_neg hroom

theorem foldlM_append {pieces : List Text} {sentence : Text}
    (h : sentence.length + pieces.flatten.length < nmeaSentenceMaxLength) :
    pieces.foldlM append sentence = some (sentence ++ pieces.flatten) := by
  induction pieces generalizing sentence with
  | nil => exact congrArg some (List.append_nil sentence).symm
  | cons piece pieces ih =>
      rw [List.flatten_cons, List.length_append] at h
      have hrest : (sentence ++ piece).length + pieces.flatten.length <
          nmeaSentenceMaxLength := by
        rw [List.length_append]
        omega
      rw [List.foldlM_cons, append_of_lt (by omega), Option.bind_eq_bind, Option.bind_some,
        ih hrest, List.flatten_cons, List.append_assoc]

/-- The pieces that are not checked are cut where the buffer ends. -/
theorem Sentence.format_of_lt {s : Sentence}
    (h : s.checked.flatten.length < nmeaSentenceMaxLength) :
    s.format = some (s.full.take (nmeaSentenceMaxLength - 1)) := by
  have hle : s.checked.flatten.length ≤ nmeaSentenceMaxLength - 1 := by omega
  have hchecked : ([] : Text).length + s.checked.flatten.length < nmeaSentenceMaxLength := by
    rwa [List.length_nil, Nat.zero_add]
  -- what the last piece gets is what is left of the buffer
  rw [format, foldlM_append hchecked, Option.map_some, List.nil_append, appendUnchecked, stored,
    full, List.take_append, List.take_of_length_le hle, Nat.sub_right_comm]

theorem length_flatten_le {pieces : List Text} {n : ℕ} (h : ∀ piece ∈ pieces, piece.length ≤ n) :
    pieces.flatten.length ≤ n * pieces.length := by
  induction pieces with
  | nil => exact le_rfl
  | cons piece pieces ih =>
      have hpiece := h piece List.mem_cons_self
      have hpieces := ih fun other hother => h other (List.mem_cons_of_mem piece hother)
      rw [List.flatten_cons, List.length_append, List.length_cons, Nat.mul_succ]
      omega

theorem Opened.take {sentence : Text} (h : Opened sentence) (n : ℕ) :
    Opened (sentence.take (n + 1)) := by
  obtain ⟨body, rfl, hstar⟩ := h
  exact ⟨body.take n, List.take_succ_cons, fun hmem => hstar (List.mem_of_mem_take hmem)⟩

theorem opened_of_head {sentence : Text} (hhead : sentence.head? = some '$')
    (hstar : '*' ∉ sentence) : Opened sentence := by
  obtain ⟨body, rfl⟩ := List.head?_eq_some_iff.mp hhead
  exact ⟨body, rfl, fun hmem => hstar (List.mem_cons_of_mem _ hmem)⟩

theorem Opened.ne_nil {sentence : Text} (h : Opened sentence) : sentence ≠ [] := by
  obtain ⟨body, rfl, -⟩ := h
  exact List.cons_ne_nil '$' body

/-! ## Fields -/

/-- The fields of a text up to the checksum. -/
def fieldsOf (text : Text) : List Text := (text.takeWhile (· ≠ '*')).splitOn ','

/-- The fields of a sentence behind the `$`. -/
def fields (sentence : Text) : List Text := fieldsOf sentence.tail

/-- Neither a comma nor the star ends the field early. -/
def Solid (text : Text) : Prop := ∀ c ∈ text, c ≠ ',' ∧ c ≠ '*'

instance (text : Text) : Decidable (Solid text) :=
  List.decidableBAll (fun c => c ≠ ',' ∧ c ≠ '*') text

theorem takeWhile_append_of_solid {text : Text} (h : Solid text) (rest : Text) :
    (text ++ rest).takeWhile (· ≠ '*') = text ++ rest.takeWhile (· ≠ '*') :=
  List.takeWhile_append_of_pos fun c hc => decide_eq_true (h c hc).2

/-- A field ends at its comma. -/
theorem fieldsOf_append {text : Text} (h : Solid text) (rest : Text) :
    fieldsOf (text ++ ',' :: rest) = text :: fieldsOf rest := by
  have hcomma : ',' ∉ text := fun hmem => (h ',' hmem).1 rfl
  rw [fieldsOf, takeWhile_append_of_solid h, List.takeWhile_cons_of_pos (by decide),
    List.splitOn_append_cons_self_of_not_mem hcomma, fieldsOf]

/-- The last field ends at the star. -/
theorem fieldsOf_append_star {text : Text} (h : Solid text) (rest : Text) :
    fieldsOf (text ++ '*' :: rest) = [text] := by
  have hcomma : ',' ∉ text := fun hmem => (h ',' hmem).1 rfl
  rw [fieldsOf, takeWhile_append_of_solid h, List.takeWhile_cons_of_neg (by decide),
    List.append_nil, List.splitOn_eq_singleton hcomma]

@[simp] theorem star_not_mem_integer (width : ℕ) (n : ℤ) : '*' ∉ DecimalText.integer width n :=
  fun h => absurd (DecimalText.numeral_of_mem_integer h) (by decide)

@[simp] theorem star_not_mem_precise (places : ℕ) (n : ℤ) : '*' ∉ DecimalText.precise places n :=
  fun h => absurd (DecimalText.numeral_of_mem_precise h) (by decide)

@[simp] theorem star_not_mem_fixed (width places : ℕ) (q : ℚ) :
    '*' ∉ DecimalText.fixed width places q :=
  fun h => absurd (DecimalText.numeral_of_mem_fixed h) (by decide)

theorem solid_of_numeral {text : Text} (h : ∀ c ∈ text, DecimalText.Numeral c) : Solid text := by
  intro c hc
  constructor
  · rintro rfl
    exact absurd (h ',' hc) (by decide)
  · rintro rfl
    exact absurd (h '*' hc) (by decide)

theorem solid_integer (width : ℕ) (n : ℤ) : Solid (DecimalText.integer width n) :=
  solid_of_numeral fun _ => DecimalText.numeral_of_mem_integer

theorem solid_precise (places : ℕ) (n : ℤ) : Solid (DecimalText.precise places n) :=
  solid_of_numeral fun _ => DecimalText.numeral_of_mem_precise

theorem solid_fixed (width places : ℕ) (q : ℚ) : Solid (DecimalText.fixed width places q) :=
  solid_of_numeral fun _ => DecimalText.numeral_of_mem_fixed

theorem solid_nil : Solid [] := fun _ h => by cases h

theorem Solid.append {text more : Text} (h : Solid text) (hmore : Solid more) :
    Solid (text ++ more) := by
  intro c hc
  obtain hc | hc := List.mem_append.mp hc
  · exact h c hc
  · exact hmore c hc

end Serrano.Nmea
