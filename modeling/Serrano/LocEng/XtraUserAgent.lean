import Mathlib.Data.List.Induction
import Serrano.Foundation.FittingPrefix
import Serrano.Foundation.Loop
import Serrano.Foundation.StringMemory

/-! # The user agent of the XTRA client

The fields of the user agent are separated by characters that are encoded in the fields
themselves. A field is encoded into a buffer on the stack, for as long as the result fits
in the buffer of the field, and is then copied back.
-/

namespace Serrano.LocEng.XtraUserAgent

open FittingPrefix StringMemory

/-- `ENCODE` -/
structure Encoding where
  ch : Char
  code : List Char
  deriving DecidableEq

def encodings : List Encoding :=
  [⟨'/', "%2F".toList⟩, ⟨'+', "%2B".toList⟩, ⟨'|', "%7C".toList⟩, ⟨'%', "%25".toList⟩]

/-- The search for an escaped character. -/
def escapedBy (c : Char) : Option Encoding := encodings.find? fun encoding => encoding.ch = c

def numCharsInCode : Nat := 3

/-- The variables of the loop. -/
structure Positions where
  buffer : Nat → Char
  inpos : Nat
  outpos : Nat

/-- One character of the output. -/
def Positions.put (s : Positions) (c : Char) : Positions where
  buffer := Function.update s.buffer s.outpos c
  inpos := s.inpos
  outpos := s.outpos + 1

/-- The loop over the characters of a code. -/
def putCode (size : Int) : List Char → Positions → Positions
  | [], s => s
  | c :: rest, s => if (s.outpos : Int) < size - 1 then putCode size rest (s.put c) else s

/-- The loop over the characters of the value. -/
def body (memory : Nat → Char) (value : Nat) (size : Int) (s : Positions) :
    Loop.Next Positions Positions :=
  if memory (value + s.inpos) ≠ nul ∧ (s.outpos : Int) < size - 1 then
    match escapedBy (memory (value + s.inpos)) with
    | none => .again { s.put (memory (value + s.inpos)) with inpos := s.inpos + 1 }
    | some encoding =>
        if size ≤ (s.outpos : Int) + numCharsInCode then .leave s
        else .again { putCode size encoding.code s with inpos := s.inpos + 1 }
  else .leave s

/-- The loop that copies so many characters from the buffer, the last one first. -/
def copyToOutput (buffer : Nat → Char) (value : Nat) : Nat → (Nat → Char) → Nat → Char
  | 0, memory => memory
  | outpos + 1, memory =>
      copyToOutput buffer value outpos (Function.update memory (value + outpos) (buffer outpos))

/-- `encodeInPlace`, where the buffer is not initialized. -/
def encodeInPlace (fuel : Nat) (buffer : Nat → Char) (value : Nat) (size : Int)
    (memory : Nat → Char) : Option (Nat → Char) :=
  (Loop.run (body memory value size) fuel ⟨buffer, 0, 0⟩).map fun s =>
    copyToOutput s.buffer value s.outpos (Function.update memory (value + s.outpos) nul)

/-- What a character becomes. -/
def code (c : Char) : List Char :=
  match escapedBy c with
  | some encoding => encoding.code
  | none => [c]

/-- The codes are replaced by the characters they stand for. -/
def decode : List Char → List Char
  | '%' :: '2' :: 'F' :: rest => '/' :: decode rest
  | '%' :: '2' :: 'B' :: rest => '+' :: decode rest
  | '%' :: '7' :: 'C' :: rest => '|' :: decode rest
  | '%' :: '2' :: '5' :: rest => '%' :: decode rest
  | c :: rest => c :: decode rest
  | [] => []

theorem escapedBy_eq_none_iff {c : Char} :
    escapedBy c = none ↔ c ≠ '/' ∧ c ≠ '+' ∧ c ≠ '|' ∧ c ≠ '%' := by
  rw [escapedBy, List.find?_eq_none]
  simp [encodings, eq_comm]

/-- A character and its code. -/
inductive Coded : Char → List Char → Prop
  | slash : Coded '/' ['%', '2', 'F']
  | plus : Coded '+' ['%', '2', 'B']
  | bar : Coded '|' ['%', '7', 'C']
  | percent : Coded '%' ['%', '2', '5']
  | plain {c : Char} (h : escapedBy c = none) : Coded c [c]

theorem coded (c : Char) : Coded c (code c) := by
  by_cases h : escapedBy c = none
  · rw [code, h]
    exact .plain h
  · have hc := mt escapedBy_eq_none_iff.mpr h
    by_cases hslash : c = '/'
    · subst hslash; exact .slash
    by_cases hplus : c = '+'
    · subst hplus; exact .plus
    by_cases hbar : c = '|'
    · subst hbar; exact .bar
    by_cases hpercent : c = '%'
    · subst hpercent; exact .percent
    exact absurd ⟨hslash, hplus, hbar, hpercent⟩ hc

theorem decode_plain {c : Char} (h : escapedBy c = none) (rest : List Char) :
    decode (c :: rest) = c :: decode rest := by
  obtain ⟨-, -, -, hpercent⟩ := escapedBy_eq_none_iff.mp h
  rw [decode] <;> rintro _ rfl <;> exact absurd rfl hpercent

/-- Decoding is the inverse of encoding. -/
theorem decode_encode (text : List Char) : decode (encode code text) = text := by
  induction text with
  | nil => rfl
  | cons c rest ih =>
      have hcoded := coded c
      rw [encode_cons]
      generalize code c = out at hcoded ⊢
      cases hcoded with
      | slash => exact congrArg _ ih
      | plus => exact congrArg _ ih
      | bar => exact congrArg _ ih
      | percent => exact congrArg _ ih
      | plain h => exact (decode_plain h _).trans (congrArg _ ih)

/-- A separator. -/
def IsSeparator (c : Char) : Prop := c = '/' ∨ c = '+' ∨ c = '|'

instance (c : Char) : Decidable (IsSeparator c) := inferInstanceAs (Decidable (_ ∨ _))

/-- Every percent sign starts a code. -/
def Escaped (out : List Char) : Prop :=
  ∀ before after, out = before ++ '%' :: after →
    ∃ encoding ∈ encodings, encoding.code <+: '%' :: after

theorem forall_mem_three {P : Char → Prop} {first second third : Char} (hfirst : P first)
    (hsecond : P second) (hthird : P third) : ∀ c ∈ [first, second, third], P c :=
  List.forall_mem_cons.mpr ⟨hfirst, List.forall_mem_cons.mpr
    ⟨hsecond, List.forall_mem_singleton.mpr hthird⟩⟩

theorem Coded.not_isSeparator {c : Char} {out : List Char} (h : Coded c out) :
    ∀ c' ∈ out, ¬IsSeparator c' := by
  cases h with
  | slash => exact forall_mem_three (by decide) (by decide) (by decide)
  | plus => exact forall_mem_three (by decide) (by decide) (by decide)
  | bar => exact forall_mem_three (by decide) (by decide) (by decide)
  | percent => exact forall_mem_three (by decide) (by decide) (by decide)
  | plain hc =>
      intro c' hc'
      obtain ⟨hslash, hplus, hbar, -⟩ := escapedBy_eq_none_iff.mp hc
      rw [List.mem_singleton.mp hc']
      exact not_or.mpr ⟨hslash, not_or.mpr ⟨hplus, hbar⟩⟩

theorem Coded.ne_nul {c : Char} {out : List Char} (h : Coded c out) (hc : c ≠ nul) :
    ∀ c' ∈ out, c' ≠ nul := by
  cases h with
  | slash => exact forall_mem_three (by decide) (by decide) (by decide)
  | plus => exact forall_mem_three (by decide) (by decide) (by decide)
  | bar => exact forall_mem_three (by decide) (by decide) (by decide)
  | percent => exact forall_mem_three (by decide) (by decide) (by decide)
  | plain =>
      intro c' hc'
      rw [List.mem_singleton.mp hc']
      exact hc

/-- A code in front. -/
theorem Escaped.append_code {rest : List Char} (hrest : Escaped rest) {encoding : Encoding}
    {first second : Char} (hmem : encoding ∈ encodings)
    (hcode : encoding.code = ['%', first, second]) (hfirst : first ≠ '%') (hsecond : second ≠ '%') :
    Escaped (encoding.code ++ rest) := by
  intro before after h
  rw [hcode] at h
  -- the `%` is that of the code, or it comes after the three characters of the code
  obtain _ | ⟨_, _ | ⟨_, _ | ⟨_, before⟩⟩⟩ := before
  · refine ⟨encoding, hmem, ?_⟩
    rw [List.nil_append] at h
    rw [← h, hcode]
    exact List.prefix_append _ _
  · injection h with _ h
    injection h with hpercent
    exact absurd hpercent hfirst
  · injection h with _ h
    injection h with _ h
    injection h with hpercent
    exact absurd hpercent hsecond
  · injection h with _ h
    injection h with _ h
    injection h with _ h
    exact hrest before after h

theorem Escaped.cons {c : Char} {rest : List Char} (hrest : Escaped rest) (hc : c ≠ '%') :
    Escaped (c :: rest) := by
  intro before after h
  cases before with
  | nil =>
      injection h with hpercent
      exact absurd hpercent hc
  | cons first before =>
      injection h with _ h
      exact hrest before after h

theorem escaped_encode (text : List Char) : Escaped (encode code text) := by
  induction text with
  | nil =>
      intro before after h
      exact absurd h.symm (List.append_ne_nil_of_right_ne_nil before (List.cons_ne_nil '%' after))
  | cons c rest ih =>
      have hslash : (⟨'/', ['%', '2', 'F']⟩ : Encoding) ∈ encodings := by decide
      have hplus : (⟨'+', ['%', '2', 'B']⟩ : Encoding) ∈ encodings := by decide
      have hbar : (⟨'|', ['%', '7', 'C']⟩ : Encoding) ∈ encodings := by decide
      have hpercent : (⟨'%', ['%', '2', '5']⟩ : Encoding) ∈ encodings := by decide
      have hcoded := coded c
      rw [encode_cons]
      generalize code c = out at hcoded ⊢
      cases hcoded with
      | slash => exact ih.append_code hslash rfl (by decide) (by decide)
      | plus => exact ih.append_code hplus rfl (by decide) (by decide)
      | bar => exact ih.append_code hbar rfl (by decide) (by decide)
      | percent => exact ih.append_code hpercent rfl (by decide) (by decide)
      | plain h => exact ih.cons (escapedBy_eq_none_iff.mp h).2.2.2

/-- Room for all of a code. -/
theorem putCode_eq {size : Int} {chars : List Char} {s : Positions}
    (h : (s.outpos : Int) + chars.length ≤ size - 1) :
    putCode size chars s =
      { buffer := store s.buffer s.outpos chars
        inpos := s.inpos
        outpos := s.outpos + chars.length } := by
  induction chars generalizing s with
  | nil => rfl
  | cons c rest ih =>
      rw [List.length_cons] at h
      rw [putCode, if_pos (by omega), ih (by rw [Positions.put]; push_cast at h ⊢; omega),
        Positions.put, store, List.length_cons, Nat.add_assoc, Nat.add_comm 1]

/-- Copying is storing what the buffer holds. -/
theorem copyToOutput_eq {buffer : Nat → Char} {out : List Char} (h : Segment buffer 0 out)
    (value : Nat) (memory : Nat → Char) :
    copyToOutput buffer value out.length memory = store memory value out := by
  -- by the characters from the last one, since the loop runs up to a length
  induction out using List.reverseRecOn generalizing memory with
  | nil => rfl
  | append_singleton out c ih =>
      obtain ⟨hout, hlast⟩ := Segment.append_iff.mp h
      have hc : buffer out.length = c := by
        rw [← (Segment.cons_iff.mp hlast).1, Nat.zero_add]
      rw [List.length_append, List.length_singleton, copyToOutput, hc, ih hout, store_append,
        store_update c (.inr (Nat.le_refl _))]
      rfl

/-- The variables once a part of the value has been encoded. -/
structure Encoded (buffer : Nat → Char) (done : List Char) (s : Positions) : Prop where
  buffer_eq : s.buffer = store buffer 0 (encode code done)
  inpos : s.inpos = done.length
  outpos : s.outpos = (encode code done).length

/-- A string in a buffer that has room for it. -/
structure Value where
  string : HeldString
  size : Nat
  length_lt : string.text.length < size

variable {value : Value} {buffer : Nat → Char} {done rest : List Char} {s : Positions}

theorem encoded_start : Encoded buffer [] ⟨buffer, 0, 0⟩ := ⟨rfl, rfl, rfl⟩

/-- A plain character or a code is appended to the output. -/
theorem Encoded.append {c : Char} {s' : Positions} (h : Encoded buffer done s)
    (hbuffer : s'.buffer = store s.buffer s.outpos (code c)) (hinpos : s'.inpos = s.inpos + 1)
    (houtpos : s'.outpos = s.outpos + (code c).length) : Encoded buffer (done ++ [c]) s' := by
  have hencode : encode code (done ++ [c]) = encode code done ++ code c := by
    rw [encode_append, encode_cons, encode_nil, List.append_nil]
  constructor
  · rw [hbuffer, h.buffer_eq, h.outpos, hencode, store_append, Nat.zero_add]
  · rw [hinpos, h.inpos, List.length_append]
    rfl
  · rw [houtpos, h.outpos, hencode, List.length_append]

/-- What one iteration does, when a part of the value has been encoded. -/
inductive Iteration (value : Value) (buffer : Nat → Char) (done rest : List Char)
    (s : Positions) : Loop.Next Positions Positions → Prop
  | again {c : Char} {rest' : List Char} {s' : Positions} (hrest : rest = c :: rest')
      (hfits : (encode code done).length + (code c).length ≤ value.size - 1)
      (h : Encoded buffer (done ++ [c]) s') : Iteration value buffer done rest s (.again s')
  | full {c : Char} {rest' : List Char} (hrest : rest = c :: rest')
      (hfull : value.size - 1 < (encode code done).length + (code c).length) :
      Iteration value buffer done rest s (.leave s)
  | finished (hrest : rest = []) : Iteration value buffer done rest s (.leave s)

theorem code_of_none {c : Char} (h : escapedBy c = none) : code c = [c] := by
  rw [code, h]

theorem code_of_some {c : Char} {encoding : Encoding} (h : escapedBy c = some encoding) :
    code c = encoding.code ∧ encoding.code.length = numCharsInCode := by
  refine ⟨by rw [code, h], ?_⟩
  have hlength : ∀ encoding ∈ encodings, encoding.code.length = numCharsInCode := by decide
  exact hlength encoding (List.mem_of_find?_eq_some h)

theorem length_code_pos (c : Char) : 0 < (code c).length := by
  have hcoded := coded c
  generalize code c = out at hcoded ⊢
  cases hcoded <;> exact Nat.succ_pos _

/-- A character that is not escaped. -/
theorem Encoded.iteration_plain {c : Char} (h : Encoded buffer done s)
    (hroom : (s.outpos : Int) < value.size - 1) (hc : escapedBy c = none) :
    Iteration value buffer done (c :: rest) s
      (.again { s.put c with inpos := s.inpos + 1 }) := by
  have hcode := code_of_none hc
  have houtpos := h.outpos
  refine .again rfl ?_ (h.append ?_ rfl ?_)
  · rw [hcode, List.length_singleton]
    omega
  · rw [hcode]
    rfl
  · rw [hcode]
    rfl

/-- A character that is escaped. -/
theorem Encoded.iteration_escaped {c : Char} {encoding : Encoding} (h : Encoded buffer done s)
    (hc : escapedBy c = some encoding) :
    Iteration value buffer done (c :: rest) s
      (if (value.size : Int) ≤ (s.outpos : Int) + numCharsInCode then .leave s
        else .again { putCode value.size encoding.code s with inpos := s.inpos + 1 }) := by
  obtain ⟨hcode, hlength⟩ := code_of_some hc
  have houtpos := h.outpos
  have hsize := value.length_lt
  split
  next hfull =>
    refine .full rfl ?_
    rw [hcode, hlength]
    omega
  next hfull =>
    have hput := putCode_eq (show (s.outpos : Int) + encoding.code.length ≤ value.size - 1 by omega)
    refine .again rfl ?_ (h.append ?_ rfl ?_)
    · rw [hcode, hlength]
      omega
    · rw [hput, hcode]
    · rw [hput, hcode]

/-- An iteration encodes one character, or finds the end of the value or of the room. -/
theorem Encoded.iteration (h : Encoded buffer done s)
    (htext : value.string.text = done ++ rest) :
    Iteration value buffer done rest s
      (body value.string.memory value.string.address value.size s) := by
  have hholds := value.string.holds
  rw [htext] at hholds
  rw [body, h.inpos, hholds.apply_headD, ← h.inpos]
  cases rest with
  | nil =>
      rw [if_neg fun hand => hand.1 rfl]
      exact .finished rfl
  | cons c rest =>
      have hc : c ≠ nul := hholds.ne_nul c (List.mem_append_right done List.mem_cons_self)
      rw [List.headD_cons]
      by_cases hroom : (s.outpos : Int) < value.size - 1
      · rw [if_pos ⟨hc, hroom⟩]
        cases hescaped : escapedBy c with
        | none => exact h.iteration_plain hroom hescaped
        | some encoding => exact h.iteration_escaped hescaped
      · rw [if_neg fun hand => hroom hand.2]
        have hpos := length_code_pos c
        have houtpos := h.outpos
        exact .full rfl (by omega)

/-- The part of a value whose encoding fits. -/
def Value.kept (value : Value) : List Char := fitting code (value.size - 1) value.string.text

/-- A part of the value has been encoded, and the rest is left. -/
def Encodes (value : Value) (buffer : Nat → Char) (s : Positions) : Prop :=
  ∃ done rest, value.string.text = done ++ rest ∧ Encoded buffer done s ∧
    (encode code done).length ≤ value.size - 1

theorem rule :
    Loop.Rule (body value.string.memory value.string.address value.size) (Encodes value buffer)
      (fun s => value.string.text.length - s.inpos) (Encoded buffer value.kept) where
  again := by
    rintro s s' ⟨done, rest, htext, h, hfits⟩ hbody
    have hiteration := h.iteration htext
    rw [hbody] at hiteration
    cases hiteration with
    | again hrest hfits' h' =>
        subst hrest
        refine ⟨⟨_, _, by rw [htext, List.append_assoc]; rfl, h', ?_⟩, ?_⟩
        · rw [encode_append, List.length_append, encode_cons, encode_nil, List.append_nil]
          exact hfits'
        · rw [h.inpos, h'.inpos, htext, List.length_append, List.length_append, List.length_cons,
            List.length_singleton]
          omega
  leave := by
    rintro s s' ⟨done, rest, htext, h, hfits⟩ hbody
    have hiteration := h.iteration htext
    rw [hbody] at hiteration
    rw [Value.kept, htext]
    cases hiteration with
    | full hrest hfull =>
        rw [hrest, fitting_append_cons code hfits hfull]
        exact h
    | finished hrest =>
        rw [hrest, List.append_nil, (fitting_eq_self_iff code).mpr hfits]
        exact h

/-- The memory that is left is that of the encoded part with its terminator. -/
theorem encodeInPlace_eq (value : Value) (buffer : Nat → Char) {fuel : Nat}
    (hfuel : value.string.text.length < fuel) :
    encodeInPlace fuel buffer value.string.address value.size value.string.memory =
      some
        (store
          (Function.update value.string.memory
            (value.string.address + (encode code value.kept).length) nul)
          value.string.address (encode code value.kept)) := by
  have hstart : Encodes value buffer ⟨buffer, 0, 0⟩ :=
    ⟨[], value.string.text, rfl, encoded_start, Nat.zero_le _⟩
  obtain ⟨s, hrun, h⟩ := rule.run hstart hfuel
  rw [encodeInPlace, hrun, Option.map_some, h.outpos, copyToOutput_eq]
  rw [h.buffer_eq]
  exact segment_store

/-- The value is left encoded, as much of it as fits, and nothing beyond its buffer is written. -/
structure EncodedInPlace (value : Value) (memory : Nat → Char) (out : List Char) : Prop where
  holds : Holds memory value.string.address out
  length_le : out.length ≤ value.size - 1
  not_isSeparator : ∀ c ∈ out, ¬IsSeparator c
  escaped : Escaped out
  decoded : decode out <+: value.string.text
  longest : ∀ start, start <+: value.string.text →
    (encode code start).length ≤ value.size - 1 → start <+: decode out
  fits : (encode code (decode out)).length ≤ value.size - 1
  whole : decode out = value.string.text ↔
    (encode code value.string.text).length ≤ value.size - 1
  outside : ∀ a, a < value.string.address ∨ value.string.address + value.size ≤ a →
    memory a = value.string.memory a

theorem encodedInPlace (value : Value) (buffer : Nat → Char) :
    ∃ memory out,
      (∀ fuel, value.string.text.length < fuel →
        encodeInPlace fuel buffer value.string.address value.size value.string.memory =
          some memory) ∧
      EncodedInPlace value memory out := by
  have hle : (encode code value.kept).length ≤ value.size - 1 :=
    length_encode_fitting_le code _ _
  have hlt := value.length_lt
  refine ⟨_, encode code value.kept, fun _ => encodeInPlace_eq value buffer, ?_⟩
  constructor
  case holds =>
    refine ⟨segment_store, ?_, ?_⟩
    · rw [store_of_outside (.inr (Nat.le_refl _)), Function.update_self]
    · intro c hc
      obtain ⟨c', hc', hcode⟩ := List.mem_flatMap.mp hc
      have hmem := (fitting_prefix_text code _ _).mem hc'
      exact (coded c').ne_nul (value.string.holds.ne_nul c' hmem) c hcode
  case length_le => exact hle
  case not_isSeparator =>
    intro c hc
    obtain ⟨c', -, hcode⟩ := List.mem_flatMap.mp hc
    exact (coded c').not_isSeparator c hcode
  case escaped => exact escaped_encode _
  case decoded =>
    rw [decode_encode]
    exact fitting_prefix_text code _ _
  case longest =>
    intro start hstart hfits
    rw [decode_encode]
    exact prefix_fitting code hstart hfits
  case fits =>
    rw [decode_encode]
    exact hle
  case whole =>
    rw [decode_encode]
    exact fitting_eq_self_iff code
  case outside =>
    intro a ha
    rw [store_of_outside (by omega), Function.update_of_ne (by omega)]

/-- Two separators, and room for the code of the first one only. -/
def twoSeparators : Value where
  string := .alone 1 ['a', '/', 'b', '%'] (by simp [nul])
  size := 6
  length_lt := by decide

theorem encodedInPlace_twoSeparators :
    ∃ memory out,
      (∀ fuel, 4 < fuel →
        encodeInPlace fuel (fun _ => nul) 1 6 twoSeparators.string.memory = some memory) ∧
      EncodedInPlace twoSeparators memory out :=
  encodedInPlace twoSeparators fun _ => nul

end Serrano.LocEng.XtraUserAgent
