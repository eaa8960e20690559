import Serrano.Foundation.Ranking

/-! # The heap of rankable objects

A binary tree whose nodes store the size of their subtree. Its links are never
rearranged: the objects move between the nodes instead, and a removed object is
moved down to a leaf that is then detached. The stored pointers are the
elements here, and identity is equality.
-/

namespace Serrano

open Priority

universe u

/-- A pointer to a node: `NULL`, or a node with its four members. -/
inductive LocHeapNode (α : Type u)
  | null
  | node (mSize : Int) (mData : α) (mLeft mRight : LocHeapNode α)
  deriving DecidableEq, Repr

namespace LocHeapNode

variable {α : Type u} (ranking : Ranking α)

/-- The constructor: a single node for the data. -/
def new (data : α) : LocHeapNode α := .node 1 data .null .null

/-- `mSize`, and 0 for `NULL`. -/
def getSize : LocHeapNode α → Int
  | .null => 0
  | .node mSize _ _ _ => mSize

/-- `outRanks` of a child against the data of its parent; `NULL` never does. -/
def outRanks : LocHeapNode α → α → Bool
  | .null, _ => false
  | .node _ mData _ _, data => decide (ranking.outRanks mData data)

/-- `push`: the lower ranking of the two objects goes on into the smaller
subtree. -/
def push : LocHeapNode α → α → LocHeapNode α
  | .null, data => .new data
  | .node mSize mData mLeft mRight, data =>
      let higher := if ranking.outRanks data mData then data else mData
      let lower := if ranking.outRanks data mData then mData else data
      match mLeft, mRight with
      | .null, _ => .node (mSize + 1) higher (.new lower) mRight
      | .node .., .null => .node (mSize + 1) higher mLeft (.new lower)
      | .node leftSize .., .node rightSize .. =>
          if leftSize ≤ rightSize then
            .node (mSize + 1) higher (mLeft.push lower) mRight
          else
            .node (mSize + 1) higher mLeft (mRight.push lower)

/-- `pop` of a node into which `data` was just swapped: the data of the higher
ranking child moves up and `data` goes down in its place. The answer is the
pointer left at the node, and the data of the node that was detached. -/
def popHolding : LocHeapNode α → α → LocHeapNode α × α
  | .null, data => (.null, data)
  | .node mSize _ mLeft mRight, data =>
      match mLeft, mRight with
      | .null, .null => (.null, data)
      | .null, .node _ subData _ _ =>
          let (subTop, popped) := mRight.popHolding data
          (.node (mSize - 1) subData mLeft subTop, popped)
      | .node _ subData _ _, .null =>
          let (subTop, popped) := mLeft.popHolding data
          (.node (mSize - 1) subData subTop mRight, popped)
      | .node _ leftData _ _, .node _ rightData _ _ =>
          if ranking.outRanks leftData rightData then
            let (subTop, popped) := mLeft.popHolding data
            (.node (mSize - 1) leftData subTop mRight, popped)
          else
            let (subTop, popped) := mRight.popHolding data
            (.node (mSize - 1) rightData mLeft subTop, popped)

/-- `pop`: the top already holds the data that goes down. -/
def pop : LocHeapNode α → LocHeapNode α × Option α
  | .null => (.null, none)
  | .node mSize mData mLeft mRight =>
      let (top, popped) := (node mSize mData mLeft mRight).popHolding ranking mData
      (top, some popped)

/-- `remove`: find the node by identity, the left subtree first, and pop it.
A subtree whose top the data outranks is not searched. -/
def remove [DecidableEq α] : LocHeapNode α → α → LocHeapNode α × Option α
  | .null, _ => (.null, none)
  | .node mSize mData mLeft mRight, data =>
      if data = mData then
        (node mSize mData mLeft mRight).pop ranking
      else if ranking.outRanks data mData then
        (.node mSize mData mLeft mRight, none)
      else
        match mLeft.remove data with
        | (left, some removed) => (.node (mSize - 1) mData left mRight, some removed)
        | (left, none) =>
            match mRight.remove data with
            | (right, some removed) => (.node (mSize - 1) mData left right, some removed)
            | (right, none) => (.node mSize mData left right, none)

/-- `checkNodes`: no child outranks its parent, and the stored sizes add up. -/
def checkNodes : LocHeapNode α → Bool
  | .null => true
  | .node mSize mData mLeft mRight =>
      !mLeft.outRanks ranking mData && mLeft.checkNodes &&
        (!mRight.outRanks ranking mData && mRight.checkNodes) &&
        mSize - mLeft.getSize - mRight.getSize == 1

end LocHeapNode

/-- `LocHeap`: the pointer to the top of the tree. -/
structure LocHeap (α : Type u) where
  mTree : LocHeapNode α
  deriving DecidableEq, Repr

namespace LocHeap

variable {α : Type u} (ranking : Ranking α) (heap : LocHeap α)

/-- The constructor. -/
def new : LocHeap α where
  mTree := .null

def push (node : α) : LocHeap α where
  mTree := heap.mTree.push ranking node

def peek : Option α :=
  match heap.mTree with
  | .null => none
  | .node _ mData _ _ => some mData

def pop : LocHeap α × Option α :=
  let (mTree, popped) := heap.mTree.pop ranking
  ({ mTree }, popped)

def remove [DecidableEq α] (rankable : α) : LocHeap α × Option α :=
  let (mTree, removed) := heap.mTree.remove ranking rankable
  ({ mTree }, removed)

def checkTree : Bool := heap.mTree.checkNodes ranking

def getTreeSize : Int := heap.mTree.getSize

/-- One call from outside: the heap it leaves and what it returns. -/
def perform [DecidableEq α] : Operation α → LocHeap α × Option α
  | .push node => (heap.push ranking node, none)
  | .peek => (heap, heap.peek)
  | .pop => heap.pop ranking
  | .remove rankable => heap.remove ranking rankable

/-- The heap after a sequence of calls on a new one. -/
def afterOperations [DecidableEq α] (operations : List (Operation α)) : LocHeap α :=
  operations.foldl (fun heap operation => (heap.perform ranking operation).1) new

end LocHeap

end Serrano
