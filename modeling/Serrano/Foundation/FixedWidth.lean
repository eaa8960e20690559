import Mathlib.Algebra.Ring.Int.Defs
import Mathlib.Algebra.Ring.Nat

/-! # Integers of fixed width

A signed or unsigned type holds a range of integers. A conversion to a type that
does not hold the value keeps it modulo a power of two; so does an operation in
an unsigned type, while in a signed one it has no result. A computation can also
be carried out exactly, where nothing that a type does not hold has a result.
-/

namespace FixedWidth

/-- An integer type. -/
structure IntType where
  signed : Bool
  bits : Nat
  positive : 0 < bits
  deriving DecidableEq

namespace IntType

/-- The least value of a type. -/
def least (type : IntType) : Int := if type.signed then -2 ^ (type.bits - 1) else 0

/-- The first value above a type. -/
def bound (type : IntType) : Int := type.least + 2 ^ type.bits

/-- A value is one of a type. -/
def Has (type : IntType) (value : Int) : Prop := type.least ≤ value ∧ value < type.bound

instance (type : IntType) (value : Int) : Decidable (type.Has value) :=
  inferInstanceAs (Decidable (_ ∧ _))

/-- The value of a type that equals a value modulo the size of the type. -/
def wrap (type : IntType) (value : Int) : Int :=
  type.least + (value - type.least) % 2 ^ type.bits

theorem wrap_eq_self {type : IntType} {value : Int} (h : type.Has value) :
    type.wrap value = value := by
  obtain ⟨hleast, hbound⟩ := h
  rw [bound] at hbound
  rw [wrap, Int.emod_eq_of_lt (by omega) (by omega)]
  omega

/-- Types of one width wrap to values that differ by a multiple of their size. -/
theorem wrap_wrap_add {first second : IntType} (hbits : first.bits = second.bits)
    (value increment : Int) :
    second.wrap (first.wrap (first.wrap value + increment)) = second.wrap (value + increment) := by
  unfold wrap
  rw [hbits]
  generalize (2 : Int) ^ second.bits = size
  have hinner : first.least + (value - first.least) % size + increment - first.least =
      (value - first.least) % size + increment := by omega
  have houter : value - first.least + increment = value + increment - first.least := by omega
  rw [hinner, Int.emod_add_emod, houter]
  have hsecond : first.least + (value + increment - first.least) % size - second.least =
      (value + increment - first.least) % size + (first.least - second.least) := by omega
  have hsum : value + increment - first.least + (first.least - second.least) =
      value + increment - second.least := by omega
  rw [hsecond, Int.emod_add_emod, hsum]

end IntType

/-- What becomes of a value that an operation computes in a type, and of one that
is converted to a type. What the type holds is kept. -/
structure Arithmetic where
  operation : IntType → Int → Option Int
  conversion : IntType → Int → Option Int
  operation_eq : ∀ {type : IntType} {value : Int}, type.Has value →
    operation type value = some value
  conversion_eq : ∀ {type : IntType} {value : Int}, type.Has value →
    conversion type value = some value

namespace Arithmetic

/-- The arithmetic of C: only an operation in a signed type can fail. -/
def language : Arithmetic where
  operation type value :=
    if type.signed ∧ ¬ type.Has value then none else some (type.wrap value)
  conversion type value := some (type.wrap value)
  operation_eq h := by
    rw [if_neg fun hfails => hfails.2 h, IntType.wrap_eq_self h]
  conversion_eq h := by rw [IntType.wrap_eq_self h]

/-- Arithmetic in which no value overflows, signed or not. -/
def exact : Arithmetic where
  operation type value := if type.Has value then some value else none
  conversion type value := if type.Has value then some value else none
  operation_eq h := if_pos h
  conversion_eq h := if_pos h

variable {arith : Arithmetic} {common type : IntType} {value increment : Int}

/-- Compound assignment of a sum that is computed in another type. -/
def addAssign (arith : Arithmetic) (common type : IntType) (value increment : Int) :
    Option Int := do
  let operand ← arith.conversion common value
  let sum ← arith.operation common (operand + increment)
  arith.conversion type sum

theorem addAssign_eq (hoperand : common.Has value) (hsum : common.Has (value + increment))
    (hresult : type.Has (value + increment)) :
    arith.addAssign common type value increment = some (value + increment) := by
  simp only [addAssign, arith.conversion_eq hoperand, arith.operation_eq hsum,
    arith.conversion_eq hresult, Option.bind_eq_bind, Option.bind_some]

/-- In C, computing in an unsigned type of the same width does no harm. -/
theorem addAssign_language (hunsigned : common.signed = false) (hbits : common.bits = type.bits)
    (hresult : type.Has (value + increment)) :
    language.addAssign common type value increment = some (value + increment) := by
  have hoperation : ∀ result : Int,
      language.operation common result = some (common.wrap result) := by
    intro result
    exact if_neg fun hfails => by rw [hunsigned] at hfails; cases hfails.1
  have hconversion : ∀ (target : IntType) (result : Int),
      language.conversion target result = some (target.wrap result) := fun _ _ => rfl
  simp only [addAssign, hoperation, hconversion, Option.bind_eq_bind, Option.bind_some]
  rw [IntType.wrap_wrap_add hbits, IntType.wrap_eq_self hresult]

end Arithmetic

end FixedWidth
