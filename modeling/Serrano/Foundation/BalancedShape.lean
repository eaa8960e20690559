import Mathlib.Data.Nat.Log
import Mathlib.Logic.Function.Iterate

/-! # Balanced binary trees

The shape of a binary tree grows by a node in the smaller subtree, and in the left one
if both are of one size. Grown from nothing, no node has fewer nodes on its left than
on its right or more than one more, and the height is logarithmic.
-/

/-- A binary tree without its contents. -/
inductive Shape
  | empty
  | node (left right : Shape)
  deriving DecidableEq

namespace Shape

def count : Shape → Nat
  | .empty => 0
  | .node left right => left.count + right.count + 1

def height : Shape → Nat
  | .empty => 0
  | .node left right => max left.height right.height + 1

/-- As many nodes on the left as on the right, or one more, at every node. -/
def Balanced : Shape → Prop
  | .empty => True
  | .node left right =>
      (left.count = right.count ∨ left.count = right.count + 1) ∧ left.Balanced ∧ right.Balanced

/-- Another node, in the smaller subtree. -/
def grow : Shape → Shape
  | .empty => .node .empty .empty
  | .node left right =>
      if left.count ≤ right.count then .node left.grow right else .node left right.grow

/-- The number of nodes that are passed on the way to the new one. -/
def depth : Shape → Nat
  | .empty => 0
  | .node left right => (if left.count ≤ right.count then left.depth else right.depth) + 1

theorem count_grow (shape : Shape) : shape.grow.count = shape.count + 1 := by
  induction shape with
  | empty => rfl
  | node left right ihLeft ihRight =>
      rw [grow]
      split
      · rw [count, count, ihLeft]
        omega
      · rw [count, count, ihRight]
        omega

theorem Balanced.grow {shape : Shape} (h : shape.Balanced) : shape.grow.Balanced := by
  induction shape with
  | empty => exact ⟨.inl rfl, trivial, trivial⟩
  | node left right ihLeft ihRight =>
      obtain ⟨hcount, hleft, hright⟩ := h
      rw [Shape.grow]
      split
      · refine ⟨?_, ihLeft hleft, hright⟩
        rw [count_grow]
        omega
      · refine ⟨?_, hleft, ihRight hright⟩
        rw [count_grow]
        omega

theorem depth_le_height (shape : Shape) : shape.depth ≤ shape.height := by
  induction shape with
  | empty => exact Nat.le_refl 0
  | node left right ihLeft ihRight =>
      rw [depth, height]
      refine Nat.succ_le_succ ?_
      split
      · exact Nat.le_trans ihLeft (Nat.le_max_left _ _)
      · exact Nat.le_trans ihRight (Nat.le_max_right _ _)

/-- The halves of a balanced shape. -/
theorem Balanced.counts {left right : Shape} (h : (node left right).Balanced) :
    left.count = (node left right).count / 2 ∧ right.count ≤ (node left right).count / 2 := by
  obtain ⟨hcount, -, -⟩ := h
  rw [count]
  omega

/-- A shape of half the size is lower by one. -/
theorem height_le_log {half : Shape} {n : Nat} (hle : half.count ≤ n / 2)
    (hheight : 0 < half.count → half.height ≤ Nat.log 2 half.count + 1) :
    half.height ≤ Nat.log 2 n := by
  cases half with
  | empty => exact Nat.zero_le _
  | node left right =>
      have hpos : 0 < (node left right).count := Nat.succ_pos _
      calc
        (node left right).height ≤ Nat.log 2 (node left right).count + 1 := hheight hpos
        _ ≤ Nat.log 2 (n / 2) + 1 := Nat.succ_le_succ (Nat.log_mono_right hle)
        _ = Nat.log 2 n := (Nat.log_of_one_lt_of_le Nat.one_lt_two (by omega)).symm

theorem Balanced.height_le {shape : Shape} (h : shape.Balanced) (hpos : 0 < shape.count) :
    shape.height ≤ Nat.log 2 shape.count + 1 := by
  induction shape with
  | empty => exact absurd hpos (Nat.lt_irrefl 0)
  | node left right ihLeft ihRight =>
      obtain ⟨hleftCount, hrightCount⟩ := h.counts
      obtain ⟨-, hleft, hright⟩ := h
      -- each side has at most half of the other nodes
      rw [height]
      refine Nat.succ_le_succ (max_le ?_ ?_)
      · exact height_le_log hleftCount.le (ihLeft hleft)
      · exact height_le_log hrightCount (ihRight hright)

/-- The shape after so many nodes. -/
def grown (n : Nat) : Shape := grow^[n] .empty

theorem count_grown (n : Nat) : (grown n).count = n := by
  induction n with
  | zero => rfl
  | succ n ih => rw [grown, Function.iterate_succ_apply', count_grow, ← grown, ih]

theorem balanced_grown (n : Nat) : (grown n).Balanced := by
  induction n with
  | zero => trivial
  | succ n ih =>
      rw [grown, Function.iterate_succ_apply']
      exact ih.grow

theorem height_grown_le (n : Nat) : (grown n).height ≤ Nat.log 2 n + 1 := by
  cases n with
  | zero => exact Nat.zero_le _
  | succ n =>
      have hheight := (balanced_grown (n + 1)).height_le
      rw [count_grown] at hheight
      exact hheight (Nat.succ_pos n)

end Shape
