import Mathlib.Data.List.Nodup
import Mathlib.Logic.Function.Basic

/-! # Doubly linked chains

Cells are linked forwards and backwards. A segment is a list of cells whose
links agree with their order; its outer links leave it at the given ends. All
edits of a chain, at either end or in the middle, bridge two segments.
-/

namespace DoublyLinked

universe u

variable {Cell : Type u}

/-- The two links of every cell. -/
structure Links (Cell : Type u) where
  next : Cell → Option Cell
  prev : Cell → Option Cell

/-- The cells are linked in their order, from `before` to `after`. -/
def Segment (links : Links Cell) : Option Cell → List Cell → Option Cell → Prop
  | _, [], _ => True
  | before, cell :: rest, after =>
      links.prev cell = before ∧ links.next cell = rest.head?.or after ∧
        Segment links (some cell) rest after

/-- The cells met on the way along one of the links, `fuel` at most. -/
def walk (link : Cell → Option Cell) : Nat → Option Cell → List Cell
  | _, none => []
  | 0, some _ => []
  | fuel + 1, some cell => cell :: walk link fuel (link cell)

section Segments

variable {links links' : Links Cell} {before after : Option Cell} {cells : List Cell}

@[simp] theorem segment_nil : Segment links before [] after := trivial

@[simp] theorem segment_cons {cell : Cell} {rest : List Cell} :
    Segment links before (cell :: rest) after ↔
      links.prev cell = before ∧ links.next cell = rest.head?.or after ∧
        Segment links (some cell) rest after := Iff.rfl

/-- A concatenation is two segments, each the end of the other. -/
theorem segment_append {first second : List Cell} :
    Segment links before (first ++ second) after ↔
      Segment links before first (second.head?.or after) ∧
        Segment links (first.getLast?.or before) second after := by
  induction first generalizing before with
  | nil => simp
  | cons cell rest ih =>
      have hlast : (cell :: rest).getLast?.or before = rest.getLast?.or (some cell) := by
        rw [List.getLast?_cons, Option.some_or]
        cases rest.getLast? with
        | none => rfl
        | some last => rfl
      rw [List.cons_append, segment_cons, segment_cons, ih, List.head?_append, Option.or_assoc,
        hlast, and_assoc, and_assoc]

/-- Only the links of its own cells make a segment. -/
theorem Segment.congr (hsegment : Segment links before cells after)
    (hnext : ∀ cell ∈ cells, links'.next cell = links.next cell)
    (hprev : ∀ cell ∈ cells, links'.prev cell = links.prev cell) :
    Segment links' before cells after := by
  induction cells generalizing before with
  | nil => trivial
  | cons cell rest ih =>
      obtain ⟨hbefore, hafter, hrest⟩ := hsegment
      refine ⟨?_, ?_, ih hrest ?_ ?_⟩
      · rw [hprev cell List.mem_cons_self, hbefore]
      · rw [hnext cell List.mem_cons_self, hafter]
      · exact fun c hc => hnext c (List.mem_cons_of_mem _ hc)
      · exact fun c hc => hprev c (List.mem_cons_of_mem _ hc)

/-- Walking forwards from its first cell meets the segment. -/
theorem Segment.walk_next (hsegment : Segment links before cells none) {fuel : Nat}
    (hfuel : cells.length ≤ fuel) : walk links.next fuel cells.head? = cells := by
  induction cells generalizing before fuel with
  | nil => simp [walk]
  | cons cell rest ih =>
      obtain ⟨-, hafter, hrest⟩ := hsegment
      cases fuel with
      | zero => simp at hfuel
      | succ fuel =>
          rw [List.head?_cons, walk, hafter, Option.or_none, ih hrest (by simpa using hfuel)]

/-- Seen from its last cell, a segment is a segment of the reversed links. -/
theorem Segment.reverse (hsegment : Segment links before cells after) :
    Segment ⟨links.prev, links.next⟩ after cells.reverse before := by
  induction cells generalizing before with
  | nil => trivial
  | cons cell rest ih =>
      obtain ⟨hbefore, hafter, hrest⟩ := hsegment
      rw [List.reverse_cons, segment_append]
      refine ⟨by simpa using ih hrest, ?_, ?_, trivial⟩
      · simpa using hafter
      · simpa using hbefore

theorem Segment.walk_prev (hsegment : Segment links none cells after) {fuel : Nat}
    (hfuel : cells.length ≤ fuel) : walk links.prev fuel cells.getLast? = cells.reverse := by
  have hwalk := hsegment.reverse.walk_next
    (show cells.reverse.length ≤ fuel by simpa using hfuel)
  rwa [List.head?_reverse] at hwalk

/-- A segment that ends meets no cell twice: behind two occurrences of a cell
the same way would be left to go. -/
theorem Segment.nodup (hsegment : Segment links before cells none) : cells.Nodup := by
  induction cells generalizing before with
  | nil => exact List.nodup_nil
  | cons cell rest ih =>
      have hrest := hsegment.2.2
      refine List.nodup_cons.mpr ⟨fun hmem => ?_, ih hrest⟩
      obtain ⟨first, second, rfl⟩ := List.append_of_mem hmem
      have hsecond : Segment links (first.getLast?.or (some cell)) (cell :: second) none :=
        (segment_append.mp hrest).2
      -- Both walks start at the cell, and the second one is shorter.
      have hlong := hsegment.walk_next (Nat.le_refl _)
      have hle : (cell :: second).length ≤ (cell :: (first ++ cell :: second)).length := by
        simp only [List.length_cons, List.length_append]
        omega
      have hshort := hsecond.walk_next hle
      rw [List.head?_cons] at hlong hshort
      have hlength := congrArg List.length (hlong.symm.trans hshort)
      simp at hlength
      omega

/-- A link that stays in the segment has its link back. -/
theorem Segment.prev_of_next (hsegment : Segment links before cells none) {cell cell' : Cell}
    (hcell : cell ∈ cells) (hnext : links.next cell = some cell') :
    links.prev cell' = some cell := by
  obtain ⟨first, second, rfl⟩ := List.append_of_mem hcell
  obtain ⟨-, -, hafter, hsecond⟩ := segment_append.mp hsegment
  rw [hnext, Option.or_none] at hafter
  cases second with
  | nil => cases hafter
  | cons head rest =>
      rw [List.head?_cons, Option.some.injEq] at hafter
      exact hafter ▸ hsecond.1

/-- Inside a chain the two links are inverse to each other. -/
theorem Segment.next_iff_prev (hsegment : Segment links none cells none) {cell cell' : Cell}
    (hcell : cell ∈ cells) (hcell' : cell' ∈ cells) :
    links.next cell = some cell' ↔ links.prev cell' = some cell :=
  ⟨hsegment.prev_of_next hcell,
    hsegment.reverse.prev_of_next (List.mem_reverse.mpr hcell')⟩

end Segments

/-! ## Bridging -/

namespace Links

variable [DecidableEq Cell]

def setNext (links : Links Cell) (cell : Cell) (next : Option Cell) : Links Cell :=
  { links with next := Function.update links.next cell next }

def setPrev (links : Links Cell) (cell : Cell) (prev : Option Cell) : Links Cell :=
  { links with prev := Function.update links.prev cell prev }

/-- Make two ends each other's neighbours; a missing end has no links. -/
def bridge (links : Links Cell) (left right : Option Cell) : Links Cell :=
  let links := left.elim links fun cell => links.setNext cell right
  right.elim links fun cell => links.setPrev cell left

@[simp] theorem bridge_next (links : Links Cell) (left right : Option Cell) (cell : Cell) :
    (links.bridge left right).next cell =
      if some cell = left then right else links.next cell := by
  cases left with
  | none => cases right <;> rfl
  | some first => cases right <;> simp [bridge, setNext, setPrev, Function.update_apply]

@[simp] theorem bridge_prev (links : Links Cell) (left right : Option Cell) (cell : Cell) :
    (links.bridge left right).prev cell =
      if some cell = right then left else links.prev cell := by
  cases right with
  | none => cases left <;> rfl
  | some last => cases left <;> simp [bridge, setNext, setPrev, Function.update_apply]

end Links

section Bridges

variable [DecidableEq Cell] {links : Links Cell} {before after : Option Cell}

/-- A segment whose last cell is given a new neighbour. -/
theorem Segment.bridge_left {cells : List Cell} (hsegment : Segment links before cells after)
    (hnodup : cells.Nodup) {right : Option Cell} (hright : ∀ cell ∈ right, cell ∉ cells) :
    Segment (links.bridge cells.getLast? right) before cells right := by
  cases hlast : cells.getLast? with
  | none =>
      rw [List.getLast?_eq_none_iff] at hlast
      subst hlast
      trivial
  | some last =>
      -- Only the last cell is touched: the front keeps its links.
      obtain ⟨front, rfl⟩ := List.getLast?_eq_some_iff.mp hlast
      obtain ⟨hfront, hbefore, -, -⟩ := segment_append.mp hsegment
      have hlastfront : last ∉ front := by
        intro hmem
        exact (List.nodup_append.mp hnodup).2.2 last hmem last (by simp) rfl
      have hprev : ∀ cell ∈ front ++ [last],
          (links.bridge (some last) right).prev cell = links.prev cell := by
        intro cell hcell
        rw [Links.bridge_prev, if_neg]
        exact fun heq => hright cell heq.symm hcell
      rw [segment_append]
      refine ⟨hfront.congr (fun cell hcell => ?_) (fun cell hcell => ?_), ?_, ?_, trivial⟩
      · rw [Links.bridge_next, if_neg]
        rintro ⟨⟩
        exact hlastfront hcell
      · exact hprev cell (List.mem_append_left _ hcell)
      · rw [hprev last (by simp), hbefore]
      · rw [Links.bridge_next, if_pos rfl]
        rfl

/-- A segment whose first cell is given a new neighbour. -/
theorem Segment.bridge_right {cells : List Cell} (hsegment : Segment links before cells after)
    (hnodup : cells.Nodup) {left : Option Cell} (hleft : ∀ cell ∈ left, cell ∉ cells) :
    Segment (links.bridge left cells.head?) left cells after := by
  cases cells with
  | nil => trivial
  | cons cell rest =>
      obtain ⟨-, hnext, hrest⟩ := hsegment
      have hcell : cell ∉ rest := (List.nodup_cons.mp hnodup).1
      have hkept : ∀ c ∈ cell :: rest,
          (links.bridge left (some cell)).next c = links.next c := by
        intro c hc
        rw [Links.bridge_next, if_neg]
        exact fun heq => hleft c heq.symm hc
      refine ⟨?_, ?_, hrest.congr (fun c hc => ?_) (fun c hc => ?_)⟩
      · rw [List.head?_cons, Links.bridge_prev, if_pos rfl]
      · rw [List.head?_cons, hkept cell List.mem_cons_self, hnext]
      · exact hkept c (List.mem_cons_of_mem _ hc)
      · rw [List.head?_cons, Links.bridge_prev, if_neg]
        rintro ⟨⟩
        exact hcell hc

/-- Two segments become one chain when their ends are bridged. -/
theorem Segment.bridge {first second : List Cell} {x y : Option Cell}
    (hfirst : Segment links none first x) (hsecond : Segment links y second none)
    (hnodup : (first ++ second).Nodup) :
    Segment (links.bridge first.getLast? second.head?) none (first ++ second) none := by
  obtain ⟨hnodupFirst, hnodupSecond, hdisjoint⟩ := List.nodup_append.mp hnodup
  rw [segment_append, Option.or_none, Option.or_none]
  constructor
  · apply hfirst.bridge_left hnodupFirst
    intro cell hhead hcell
    exact hdisjoint cell hcell cell (List.mem_of_mem_head? hhead) rfl
  · apply hsecond.bridge_right hnodupSecond
    intro cell hlast hcell
    exact hdisjoint cell (List.mem_of_mem_getLast? hlast) cell hcell rfl

end Bridges

end DoublyLinked
