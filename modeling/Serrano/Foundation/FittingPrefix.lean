import Mathlib.Data.List.Basic

/-! # The longest prefix whose encoding fits

Every symbol has an encoding of its own. A text is encoded symbol by symbol for as long
as there is room, which is the longest prefix of the text whose encoding fits.
-/

universe uSymbol uCode

namespace FittingPrefix

variable {Symbol : Type uSymbol} {Code : Type uCode} (code : Symbol → List Code)

def encode (text : List Symbol) : List Code := text.flatMap code

/-- The symbols that are encoded before one does not fit. -/
def fitting : Nat → List Symbol → List Symbol
  | _, [] => []
  | room, symbol :: rest =>
      if (code symbol).length ≤ room then
        symbol :: fitting (room - (code symbol).length) rest
      else []

@[simp] theorem encode_nil : encode code [] = [] := rfl

theorem encode_cons (symbol : Symbol) (rest : List Symbol) :
    encode code (symbol :: rest) = code symbol ++ encode code rest := List.flatMap_cons

theorem encode_append (first second : List Symbol) :
    encode code (first ++ second) = encode code first ++ encode code second :=
  List.flatMap_append

theorem length_encode_cons (symbol : Symbol) (rest : List Symbol) :
    (encode code (symbol :: rest)).length =
      (code symbol).length + (encode code rest).length := by
  rw [encode_cons, List.length_append]

theorem fitting_prefix_text (room : Nat) (text : List Symbol) :
    fitting code room text <+: text := by
  induction text generalizing room with
  | nil => exact List.nil_prefix
  | cons symbol rest ih =>
      rw [fitting]
      split
      · exact (List.prefix_cons_inj symbol).mpr (ih _)
      · exact List.nil_prefix

theorem length_encode_fitting_le (room : Nat) (text : List Symbol) :
    (encode code (fitting code room text)).length ≤ room := by
  induction text generalizing room with
  | nil => exact Nat.zero_le room
  | cons symbol rest ih =>
      rw [fitting]
      split
      next hfits =>
        have hrest := ih (room - (code symbol).length)
        rw [length_encode_cons]
        omega
      next => exact Nat.zero_le room

/-- No longer prefix fits. -/
theorem prefix_fitting {room : Nat} {start text : List Symbol} (hstart : start <+: text)
    (hfits : (encode code start).length ≤ room) : start <+: fitting code room text := by
  induction text generalizing room start with
  | nil =>
      rw [List.prefix_nil.mp hstart]
      exact List.nil_prefix
  | cons symbol rest ih =>
      cases start with
      | nil => exact List.nil_prefix
      | cons first more =>
          -- the first symbol has room, since it has room together with the others
          obtain ⟨rfl, hmore⟩ := List.cons_prefix_cons.mp hstart
          rw [length_encode_cons] at hfits
          rw [fitting, if_pos (by omega)]
          exact (List.prefix_cons_inj first).mpr (ih hmore (by omega))

/-- A part that fits is followed by what fits after it. -/
theorem fitting_append {room : Nat} {first : List Symbol}
    (hfits : (encode code first).length ≤ room) (second : List Symbol) :
    fitting code room (first ++ second) =
      first ++ fitting code (room - (encode code first).length) second := by
  induction first generalizing room with
  | nil => rfl
  | cons symbol rest ih =>
      rw [length_encode_cons] at hfits ⊢
      rw [List.cons_append, fitting, if_pos (by omega), ih (by omega), Nat.sub_sub,
        List.cons_append]

/-- Nothing follows when the next symbol does not fit. -/
theorem fitting_append_cons {room : Nat} {first : List Symbol} {symbol : Symbol}
    (hfits : (encode code first).length ≤ room)
    (hnot : room < (encode code first).length + (code symbol).length) (second : List Symbol) :
    fitting code room (first ++ symbol :: second) = first := by
  rw [fitting_append code hfits, fitting, if_neg (by omega), List.append_nil]

theorem fitting_eq_self_iff {room : Nat} {text : List Symbol} :
    fitting code room text = text ↔ (encode code text).length ≤ room := by
  constructor
  · intro h
    rw [← h]
    exact length_encode_fitting_le code room text
  · intro h
    exact (fitting_prefix_text code room text).eq_of_length_le
      (prefix_fitting code List.prefix_rfl h).length_le

end FittingPrefix
