import Mathlib.Data.List.Induction
import Serrano.Foundation.BalancedShape
import Serrano.Utils.LocHeap

/-! # The balance of a heap

A push takes the new node to the smaller subtree, which it finds by the sizes that the
nodes store. Where the data goes on the way depends on the ranks, and the shape of the
tree does not. The ranks are any integers here.
-/

namespace Serrano

open Priority

universe u

namespace LocHeapNode

variable {α : Type u}

/-- `push` when the objects are ranked in any way. -/
def pushRanked (ranks : α → α → Int) : LocHeapNode α → α → LocHeapNode α
  | .null, data => .new data
  | .node mSize mData mLeft mRight, data =>
      let higher := if 0 < ranks data mData then data else mData
      let lower := if 0 < ranks data mData then mData else data
      match mLeft, mRight with
      | .null, _ => .node (mSize + 1) higher (.new lower) mRight
      | .node .., .null => .node (mSize + 1) higher mLeft (.new lower)
      | .node leftSize .., .node rightSize .. =>
          if leftSize ≤ rightSize then
            .node (mSize + 1) higher (mLeft.pushRanked ranks lower) mRight
          else
            .node (mSize + 1) higher mLeft (mRight.pushRanked ranks lower)

/-- How often `push` calls itself, the first call included. -/
def pushDepth : LocHeapNode α → Nat
  | .null => 0
  | .node _ _ mLeft mRight =>
      match mLeft, mRight with
      | .null, _ => 1
      | .node .., .null => 1
      | .node leftSize .., .node rightSize .. =>
          if leftSize ≤ rightSize then mLeft.pushDepth + 1 else mRight.pushDepth + 1

def shape : LocHeapNode α → Shape
  | .null => .empty
  | .node _ _ mLeft mRight => .node mLeft.shape mRight.shape

/-- Every node stores the number of the nodes of its subtree. -/
def Sized : LocHeapNode α → Prop
  | .null => True
  | .node mSize _ mLeft mRight =>
      mSize = mLeft.shape.count + mRight.shape.count + 1 ∧ mLeft.Sized ∧ mRight.Sized

/-- Pushes into an empty tree. -/
def pushes (ranks : α → α → Int) (data : List α) : LocHeapNode α :=
  data.foldl (pushRanked ranks) .null

theorem pushRanked_eq_push (ranking : Ranking α) (tree : LocHeapNode α) (data : α) :
    tree.pushRanked ranking.ranks data = tree.push ranking data := by
  induction tree generalizing data with
  | null => rfl
  | node mSize mData mLeft mRight ihLeft ihRight =>
      cases mLeft with
      | null => rfl
      | node leftSize leftData leftLeft leftRight =>
          cases mRight with
          | null => rfl
          | node rightSize rightData rightLeft rightRight =>
              rw [pushRanked, push]
              simp only [ihLeft, ihRight]
              rfl

theorem Sized.getSize_eq {tree : LocHeapNode α} (h : tree.Sized) :
    tree.getSize = tree.shape.count := by
  cases tree with
  | null => rfl
  | node mSize mData mLeft mRight => exact h.1.trans (by rw [shape, Shape.count]; rfl)

/-- The smaller subtree, by the sizes that are stored. -/
theorem Sized.getSize_le_iff {first second : LocHeapNode α} (hfirst : first.Sized)
    (hsecond : second.Sized) :
    first.getSize ≤ second.getSize ↔ first.shape.count ≤ second.shape.count := by
  rw [hfirst.getSize_eq, hsecond.getSize_eq]
  exact Int.ofNat_le

/-- A push as the choice of a subtree, where a new node is a push into `NULL`. -/
theorem pushRanked_node (ranks : α → α → Int) {mSize : Int} {mData data : α}
    {mLeft mRight : LocHeapNode α} (hleft : mLeft.Sized) (hright : mRight.Sized) :
    ∃ higher lower, (node mSize mData mLeft mRight).pushRanked ranks data =
      if mLeft.shape.count ≤ mRight.shape.count then
        .node (mSize + 1) higher (mLeft.pushRanked ranks lower) mRight
      else .node (mSize + 1) higher mLeft (mRight.pushRanked ranks lower) := by
  refine ⟨if 0 < ranks data mData then data else mData,
    if 0 < ranks data mData then mData else data, ?_⟩
  cases mLeft with
  | null => exact (if_pos (Nat.zero_le _)).symm
  | node leftSize leftData leftLeft leftRight =>
      cases mRight with
      | null => exact (if_neg (Nat.not_succ_le_zero _)).symm
      | node rightSize rightData rightLeft rightRight =>
          rw [pushRanked]
          exact if_congr (hleft.getSize_le_iff hright) rfl rfl

theorem pushDepth_node {mSize : Int} {mData : α} {mLeft mRight : LocHeapNode α}
    (hleft : mLeft.Sized) (hright : mRight.Sized) :
    (node mSize mData mLeft mRight).pushDepth =
      (if mLeft.shape.count ≤ mRight.shape.count then mLeft.pushDepth
        else mRight.pushDepth) + 1 := by
  cases mLeft with
  | null => exact congrArg (· + 1) (if_pos (Nat.zero_le _)).symm
  | node leftSize leftData leftLeft leftRight =>
      cases mRight with
      | null => exact congrArg (· + 1) (if_neg (Nat.not_succ_le_zero _)).symm
      | node rightSize rightData rightLeft rightRight =>
          rw [pushDepth, ← apply_ite (· + 1)]
          exact congrArg (· + 1) (if_congr (hleft.getSize_le_iff hright) rfl rfl)

/-- Whatever the ranks, the shape grows by one node. -/
theorem Sized.pushRanked {tree : LocHeapNode α} (h : tree.Sized) (ranks : α → α → Int)
    (data : α) :
    (tree.pushRanked ranks data).shape = tree.shape.grow ∧ (tree.pushRanked ranks data).Sized := by
  induction tree generalizing data with
  | null => exact ⟨rfl, rfl, trivial, trivial⟩
  | node mSize mData mLeft mRight ihLeft ihRight =>
      obtain ⟨hsize, hleft, hright⟩ := h
      -- which of the two goes down matters to the ranks only
      obtain ⟨higher, lower, hpush⟩ := pushRanked_node ranks hleft hright
      rw [hpush, shape, Shape.grow]
      split
      · obtain ⟨hshape, hsized⟩ := ihLeft hleft lower
        refine ⟨by rw [shape, hshape], ?_, hsized, hright⟩
        rw [hshape, Shape.count_grow, hsize]
        omega
      · obtain ⟨hshape, hsized⟩ := ihRight hright lower
        refine ⟨by rw [shape, hshape], ?_, hleft, hsized⟩
        rw [hshape, Shape.count_grow, hsize]
        omega

theorem Sized.pushDepth_eq {tree : LocHeapNode α} (h : tree.Sized) :
    tree.pushDepth = tree.shape.depth := by
  induction tree with
  | null => rfl
  | node mSize mData mLeft mRight ihLeft ihRight =>
      obtain ⟨-, hleft, hright⟩ := h
      rw [pushDepth_node hleft hright, ihLeft hleft, ihRight hright, shape, Shape.depth]

/-- The shape after pushes depends on their number only. -/
theorem shape_pushes (ranks : α → α → Int) (data : List α) :
    (pushes ranks data).shape = Shape.grown data.length ∧ (pushes ranks data).Sized := by
  induction data using List.reverseRecOn with
  | nil => exact ⟨rfl, trivial⟩
  | append_singleton data node ih =>
      obtain ⟨hshape, hsized⟩ := ih
      obtain ⟨hgrow, hpush⟩ := hsized.pushRanked ranks node
      rw [pushes, List.foldl_append, List.length_append]
      refine ⟨hgrow.trans ?_, hpush⟩
      rw [hshape]
      exact (Function.iterate_succ_apply' Shape.grow data.length .empty).symm

/-- A heap that is only pushed to is balanced at every node, and its height and the depth of the
next push are logarithmic. -/
theorem pushes_balanced (ranks : α → α → Int) (data : List α) :
    (pushes ranks data).shape.count = data.length ∧
      (pushes ranks data).shape.Balanced ∧
      (pushes ranks data).shape.height ≤ Nat.log 2 data.length + 1 ∧
      (pushes ranks data).pushDepth ≤ Nat.log 2 data.length + 1 := by
  obtain ⟨hshape, hsized⟩ := shape_pushes ranks data
  have hheight := Shape.height_grown_le data.length
  rw [hsized.pushDepth_eq, hshape]
  exact ⟨Shape.count_grown _, Shape.balanced_grown _, hheight,
    Nat.le_trans (Shape.depth_le_height _) hheight⟩

end LocHeapNode

namespace LocHeap

/-- The pushes of a heap whose ranks are a ranking. -/
theorem mTree_pushes {α : Type u} (ranking : Ranking α) (data : List α) :
    (data.foldl (fun heap node => heap.push ranking node) new).mTree =
      LocHeapNode.pushes ranking.ranks data := by
  induction data using List.reverseRecOn with
  | nil => rfl
  | append_singleton data node ih =>
      rw [List.foldl_append, LocHeapNode.pushes, List.foldl_append]
      change LocHeapNode.push ranking (data.foldl _ new).mTree node = _
      rw [ih, ← LocHeapNode.pushRanked_eq_push]
      rfl

end LocHeap

end Serrano
