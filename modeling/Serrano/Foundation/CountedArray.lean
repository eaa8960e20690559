import Mathlib.Algebra.Ring.Int.Defs
import Mathlib.Algebra.Ring.Nat
import Mathlib.Data.List.Basic
import Mathlib.Tactic.SplitIfs

/-! # Sequences in counted arrays

A sequence is put into an array of a fixed size together with its length, which is
stored in a field of some integer type. The field keeps every length that the
array has room for; a longer sequence loses its end, and its length may be stored
as some other number. Both the copy and its reversal stop at the size of the array.
-/

/-- An array and the field that says how much of it is in use. -/
structure CountField where
  max : Nat
  stored : Nat → Int
  stored_le : ∀ size, stored size ≤ size
  stored_of_le : ∀ size, size ≤ max → stored size = size

/-- A field of type `unsigned char`. -/
def CountField.unsignedChar (max : Nat) (h : max < 2 ^ 8) : CountField where
  max := max
  stored size := (size % 2 ^ 8 : Nat)
  stored_le size := Int.ofNat_le.mpr (Nat.mod_le size (2 ^ 8))
  stored_of_le size hsize := by rw [Nat.mod_eq_of_lt (Nat.lt_of_le_of_lt hsize h)]

/-- A field of type `int`. -/
def CountField.int (max : Nat) (h : max < 2 ^ 31) : CountField where
  max := max
  stored size := (size : Int).bmod (2 ^ 32)
  stored_le size := by
    rw [Int.bmod_def]
    split_ifs <;> omega
  stored_of_le size hsize := by
    rw [Int.bmod_eq_of_le (by omega) (by omega)]

structure CountedArray (α : Type) where
  stated : Int
  elements : List α

namespace CountField

variable {α : Type} (field : CountField) (blank : α) (sequence : List α)

/-- The size is stored first, and the copy is limited by what was stored. -/
def fill : CountedArray α :=
  let stated := field.stored sequence.length
  let limit := (min stated field.max).toNat
  { stated := stated
    elements := sequence.take limit ++ List.replicate (field.max - limit) blank }

/-- A negative number of elements cannot be referred to. -/
def refer (array : CountedArray α) : Option (List α) :=
  let limit := min array.stated field.max
  if limit < 0 then none else some (array.elements.take limit.toNat)

/-- The field keeps the length, or cuts it to the size of the array. -/
def Keeps (size : Nat) : Prop := size ≤ field.max ∨ field.stored size = field.max

instance (size : Nat) : Decidable (field.Keeps size) := inferInstanceAs (Decidable (_ ∨ _))

variable {sequence}

theorem refer_fill_of_nonneg (h : 0 ≤ field.stored sequence.length) :
    field.refer (field.fill blank sequence) =
      some (sequence.take (min (field.stored sequence.length) field.max).toNat) := by
  have hle := field.stored_le sequence.length
  have hlength :
      (sequence.take (min (field.stored sequence.length) field.max).toNat).length =
        (min (field.stored sequence.length) field.max).toNat := by
    rw [List.length_take]
    omega
  rw [refer, if_neg (by simp only [fill]; omega)]
  exact congrArg some (List.take_left' hlength)

/-- The length that is stated fits the array and what can be referred to is the sequence up to the
size of the array, exactly for the sizes that the field keeps. -/
theorem fill_iff_keeps :
    ((field.fill blank sequence).stated ≤ field.max ∧
        field.refer (field.fill blank sequence) = some (sequence.take field.max)) ↔
      field.Keeps sequence.length := by
  have hle := field.stored_le sequence.length
  constructor
  · rintro ⟨hstated, hrefer⟩
    change field.stored sequence.length ≤ field.max at hstated
    by_cases hneg : field.stored sequence.length < 0
    · rw [refer, if_pos (by simp only [fill]; omega)] at hrefer
      cases hrefer
    · rw [refer_fill_of_nonneg field blank (Int.not_lt.mp hneg)] at hrefer
      have hlength := congrArg List.length (Option.some.inj hrefer)
      rw [List.length_take, List.length_take] at hlength
      unfold Keeps
      omega
  · intro h
    have hstored : field.stored sequence.length = min sequence.length field.max := by
      obtain hsize | hcut := h
      · rw [field.stored_of_le _ hsize]
        omega
      · omega
    refine ⟨by change field.stored sequence.length ≤ field.max; omega, ?_⟩
    rw [refer_fill_of_nonneg field blank (by omega), hstored]
    congr 1
    rw [List.take_eq_take_iff]
    omega

end CountField
