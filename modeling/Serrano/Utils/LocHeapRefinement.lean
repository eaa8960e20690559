import Serrano.Utils.LocHeap

/-! # The heap refines a pool

The objects in a tree form a pool. A tree is consistent when every node is
unbeaten in its subtree and stores its size; each operation keeps that and does
to the pool what a priority queue does.
-/

namespace Serrano

open Priority

universe u

namespace LocHeapNode

variable {α : Type u} {ranking : Ranking α}

/-- The objects of a subtree. -/
def elements : LocHeapNode α → Multiset α
  | .null => 0
  | .node _ mData mLeft mRight => mData ::ₘ (mLeft.elements + mRight.elements)

/-- Every node is unbeaten in its subtree and stores the number of its nodes. -/
inductive Consistent (ranking : Ranking α) : LocHeapNode α → Prop
  | null : Consistent ranking .null
  | node {mSize : Int} {mData : α} {mLeft mRight : LocHeapNode α}
      (hleft : Consistent ranking mLeft) (hright : Consistent ranking mRight)
      (hleftTop : ranking.Unbeaten mLeft.elements mData)
      (hrightTop : ranking.Unbeaten mRight.elements mData)
      (hsize : mSize = mLeft.elements.card + mRight.elements.card + 1) :
      Consistent ranking (.node mSize mData mLeft mRight)

@[simp] theorem elements_null : (null : LocHeapNode α).elements = 0 := rfl

@[simp] theorem elements_node (mSize : Int) (mData : α) (mLeft mRight : LocHeapNode α) :
    (node mSize mData mLeft mRight).elements =
      mData ::ₘ (mLeft.elements + mRight.elements) := rfl

@[simp] theorem elements_new (data : α) : (new data).elements = {data} := rfl

theorem consistent_new (data : α) : (new data).Consistent ranking :=
  .node .null .null (by simp) (by simp) rfl

theorem Consistent.getSize_eq {tree : LocHeapNode α} (htree : tree.Consistent ranking) :
    tree.getSize = tree.elements.card := by
  cases htree with
  | null => rfl
  | node hleft hright hleftTop hrightTop hsize =>
      rw [getSize, hsize]
      simp

/-- The top is all that has to be compared with. -/
theorem Consistent.unbeaten_iff {tree : LocHeapNode α} (htree : tree.Consistent ranking)
    (data : α) : ranking.Unbeaten tree.elements data ↔ tree.outRanks ranking data = false := by
  cases htree with
  | null => simp [outRanks]
  | @node mSize mData mLeft mRight hleft hright hleftTop hrightTop hsize =>
      simp only [elements_node, Ranking.unbeaten_cons, Ranking.unbeaten_add, outRanks,
        decide_eq_false_iff_not]
      constructor
      · exact fun htop => htop.1
      · intro hdata
        exact ⟨hdata, hleftTop.of_not_outRanks hdata, hrightTop.of_not_outRanks hdata⟩

/-- The unit test's check decides consistency. -/
theorem checkNodes_iff (tree : LocHeapNode α) :
    tree.checkNodes ranking = true ↔ tree.Consistent ranking := by
  induction tree with
  | null => simp [checkNodes, Consistent.null]
  | node mSize mData mLeft mRight ihLeft ihRight =>
      simp only [checkNodes, Bool.and_eq_true, Bool.not_eq_true', beq_iff_eq, ihLeft, ihRight]
      constructor
      · rintro ⟨⟨⟨hleftTop, hleft⟩, hrightTop, hright⟩, hsize⟩
        refine .node hleft hright ((hleft.unbeaten_iff _).mpr hleftTop)
          ((hright.unbeaten_iff _).mpr hrightTop) ?_
        rw [hleft.getSize_eq, hright.getSize_eq] at hsize
        omega
      · intro htree
        cases htree with
        | node hleft hright hleftTop hrightTop hsize =>
            refine ⟨⟨⟨(hleft.unbeaten_iff _).mp hleftTop, hleft⟩,
              (hright.unbeaten_iff _).mp hrightTop, hright⟩, ?_⟩
            rw [hleft.getSize_eq, hright.getSize_eq, hsize]
            omega

variable (ranking) in
/-- Whichever subtree takes the lower ranking object, it is pushed there; a new
node is what a push into `NULL` makes. -/
theorem push_node (mSize : Int) (mData : α) (mLeft mRight : LocHeapNode α) (data : α) :
    ∃ higher lower, higher ::ₘ {lower} = data ::ₘ {mData} ∧ ¬ ranking.outRanks lower higher ∧
      ¬ ranking.outRanks mData higher ∧
      ((node mSize mData mLeft mRight).push ranking data =
          node (mSize + 1) higher (mLeft.push ranking lower) mRight ∨
        (node mSize mData mLeft mRight).push ranking data =
          node (mSize + 1) higher mLeft (mRight.push ranking lower)) := by
  by_cases hbeats : ranking.outRanks data mData
  · -- The pushed object takes the place of the top, which goes down instead.
    have hnot := ranking.outRanks_asymm hbeats
    refine ⟨data, mData, rfl, hnot, hnot, ?_⟩
    cases mLeft with
    | null => simp [push, hbeats]
    | node =>
        cases mRight with
        | null => simp [push, hbeats]
        | node =>
            simp only [push, hbeats, if_true]
            split <;> simp
  · refine ⟨mData, data, Multiset.pair_comm _ _, hbeats, ranking.not_outRanks_self mData, ?_⟩
    cases mLeft with
    | null => simp [push, hbeats]
    | node =>
        cases mRight with
        | null => simp [push, hbeats]
        | node =>
            simp only [push, hbeats, if_false]
            split <;> simp

theorem elements_push (tree : LocHeapNode α) (data : α) :
    (tree.push ranking data).elements = data ::ₘ tree.elements := by
  induction tree generalizing data with
  | null => rfl
  | node mSize mData mLeft mRight ihLeft ihRight =>
      obtain ⟨higher, lower, hpair, -, -, hleft | hright⟩ :=
        push_node ranking mSize mData mLeft mRight data
      · rw [hleft, elements_node, elements_node, ihLeft, Multiset.cons_add]
        calc higher ::ₘ lower ::ₘ (mLeft.elements + mRight.elements)
            = higher ::ₘ {lower} + (mLeft.elements + mRight.elements) := by simp
          _ = data ::ₘ mData ::ₘ (mLeft.elements + mRight.elements) := by rw [hpair]; simp
      · rw [hright, elements_node, elements_node, ihRight, Multiset.add_cons]
        calc higher ::ₘ lower ::ₘ (mLeft.elements + mRight.elements)
            = higher ::ₘ {lower} + (mLeft.elements + mRight.elements) := by simp
          _ = data ::ₘ mData ::ₘ (mLeft.elements + mRight.elements) := by rw [hpair]; simp

theorem Consistent.push {tree : LocHeapNode α} (htree : tree.Consistent ranking) (data : α) :
    (tree.push ranking data).Consistent ranking := by
  induction htree generalizing data with
  | null => exact consistent_new data
  | @node mSize mData mLeft mRight hleft hright hleftTop hrightTop hsize ihLeft ihRight =>
      obtain ⟨higher, lower, -, hlower, hmData, hpush | hpush⟩ :=
        push_node ranking mSize mData mLeft mRight data
      · rw [hpush]
        refine .node (ihLeft lower) hright ?_ (hrightTop.of_not_outRanks hmData) ?_
        · rw [elements_push, Ranking.unbeaten_cons]
          exact ⟨hlower, hleftTop.of_not_outRanks hmData⟩
        · rw [elements_push, Multiset.card_cons]
          omega
      · rw [hpush]
        refine .node hleft (ihRight lower) (hleftTop.of_not_outRanks hmData) ?_ ?_
        · rw [elements_push, Ranking.unbeaten_cons]
          exact ⟨hlower, hrightTop.of_not_outRanks hmData⟩
        · rw [elements_push, Multiset.card_cons]
          omega

/-- The object at the top. -/
def top : LocHeapNode α → Option α
  | .null => none
  | .node _ mData _ _ => some mData

/-- A pushed object is the new top exactly when it outranks the old one. -/
theorem top_push (tree : LocHeapNode α) (data : α) :
    (tree.push ranking data).top =
      match tree.top with
      | none => some data
      | some mData => some (if ranking.outRanks data mData then data else mData) := by
  fun_cases push ranking tree data <;> rfl

/-- The objects under the top. -/
def underTop : LocHeapNode α → Multiset α
  | .null => 0
  | .node _ _ mLeft mRight => mLeft.elements + mRight.elements

theorem elements_of_top {tree : LocHeapNode α} {data : α} (htop : tree.top = some data) :
    tree.elements = data ::ₘ tree.underTop := by
  cases tree with
  | null => cases htop
  | node mSize mData mLeft mRight => cases htop; rfl

theorem elements_of_top_none {tree : LocHeapNode α} (htop : tree.top = none) : tree = .null := by
  cases tree with
  | null => rfl
  | node mSize mData mLeft mRight => cases htop

theorem Consistent.unbeaten_underTop {tree : LocHeapNode α} (htree : tree.Consistent ranking)
    {data : α} (htop : tree.top = some data) : ranking.Unbeaten tree.underTop data := by
  cases htree with
  | null => cases htop
  | node hleft hright hleftTop hrightTop hsize =>
      cases htop
      exact Ranking.unbeaten_add.mpr ⟨hleftTop, hrightTop⟩

variable (ranking) in
/-- The three ways down: a leaf is detached, or the data of a child that the
other child does not outrank moves up. -/
theorem popHolding_node (mSize : Int) (mData : α) (mLeft mRight : LocHeapNode α) (data : α) :
    (mLeft = .null ∧ mRight = .null ∧
        (node mSize mData mLeft mRight).popHolding ranking data = (.null, data)) ∨
      (∃ subData, mLeft.top = some subData ∧ mRight.outRanks ranking subData = false ∧
        (node mSize mData mLeft mRight).popHolding ranking data =
          (node (mSize - 1) subData (mLeft.popHolding ranking data).1 mRight,
            (mLeft.popHolding ranking data).2)) ∨
      ∃ subData, mRight.top = some subData ∧ mLeft.outRanks ranking subData = false ∧
        (node mSize mData mLeft mRight).popHolding ranking data =
          (node (mSize - 1) subData mLeft (mRight.popHolding ranking data).1,
            (mRight.popHolding ranking data).2) := by
  cases mLeft with
  | null =>
      cases mRight with
      | null => exact .inl ⟨rfl, rfl, rfl⟩
      | node rightSize rightData => exact .inr (.inr ⟨rightData, rfl, rfl, rfl⟩)
  | node leftSize leftData =>
      cases mRight with
      | null => exact .inr (.inl ⟨leftData, rfl, rfl, rfl⟩)
      | node rightSize rightData =>
          by_cases hbeats : ranking.outRanks leftData rightData
          · refine .inr (.inl ⟨leftData, rfl, ?_, ?_⟩)
            · simp [outRanks, ranking.outRanks_asymm hbeats]
            · simp [popHolding, hbeats]
          · refine .inr (.inr ⟨rightData, rfl, ?_, ?_⟩)
            · simp [outRanks, hbeats]
            · simp [popHolding, hbeats]

variable (ranking) in
/-- Moving data down a tree costs the tree the data of its top. -/
theorem popHolding_elements (tree : LocHeapNode α) (data : α) :
    (tree.popHolding ranking data).1.elements = tree.underTop ∧
      (tree.popHolding ranking data).2 = data := by
  induction tree with
  | null => exact ⟨rfl, rfl⟩
  | node mSize mData mLeft mRight ihLeft ihRight =>
      obtain ⟨rfl, rfl, hpop⟩ | ⟨subData, hsub, -, hpop⟩ | ⟨subData, hsub, -, hpop⟩ :=
        popHolding_node ranking mSize mData mLeft mRight data
      · rw [hpop]
        exact ⟨rfl, rfl⟩
      · rw [hpop, elements_node, ihLeft.1, underTop, elements_of_top hsub, Multiset.cons_add]
        exact ⟨rfl, ihLeft.2⟩
      · rw [hpop, elements_node, ihRight.1, underTop, elements_of_top hsub, Multiset.add_cons]
        exact ⟨rfl, ihRight.2⟩

theorem Consistent.popHolding {tree : LocHeapNode α} (htree : tree.Consistent ranking)
    (data : α) : (tree.popHolding ranking data).1.Consistent ranking := by
  induction htree with
  | null => exact .null
  | @node mSize mData mLeft mRight hleft hright hleftTop hrightTop hsize ihLeft ihRight =>
      obtain ⟨rfl, rfl, hpop⟩ | ⟨subData, hsub, hnot, hpop⟩ | ⟨subData, hsub, hnot, hpop⟩ :=
        popHolding_node ranking mSize mData mLeft mRight data
      · rw [hpop]
        exact .null
      · rw [hpop]
        refine .node ihLeft hright ?_ ((hright.unbeaten_iff _).mpr hnot) ?_
        · rw [(popHolding_elements ranking mLeft data).1]
          exact hleft.unbeaten_underTop hsub
        · rw [(popHolding_elements ranking mLeft data).1]
          rw [elements_of_top hsub, Multiset.card_cons] at hsize
          omega
      · rw [hpop]
        refine .node hleft ihRight ((hleft.unbeaten_iff _).mpr hnot) ?_ ?_
        · rw [(popHolding_elements ranking mRight data).1]
          exact hright.unbeaten_underTop hsub
        · rw [(popHolding_elements ranking mRight data).1]
          rw [elements_of_top hsub, Multiset.card_cons] at hsize
          omega

variable (ranking) in
theorem pop_eq {tree : LocHeapNode α} {data : α} (htop : tree.top = some data) :
    tree.pop ranking = ((tree.popHolding ranking data).1, some data) := by
  cases tree with
  | null => cases htop
  | node mSize mData mLeft mRight =>
      cases htop
      have hpopped := (popHolding_elements ranking (node mSize data mLeft mRight) data).2
      calc (node mSize data mLeft mRight).pop ranking
          = (((node mSize data mLeft mRight).popHolding ranking data).1,
              some ((node mSize data mLeft mRight).popHolding ranking data).2) := rfl
        _ = _ := by rw [hpopped]

theorem Consistent.pop {tree : LocHeapNode α} (htree : tree.Consistent ranking) :
    (tree.pop ranking).1.Consistent ranking := by
  cases htop : tree.top with
  | none =>
      rw [elements_of_top_none htop]
      exact .null
  | some data =>
      rw [pop_eq ranking htop]
      exact htree.popHolding data

section Identity

variable [DecidableEq α]

/-- A failed search changes nothing. -/
theorem remove_of_none {tree : LocHeapNode α} {data : α}
    (hnone : (tree.remove ranking data).2 = none) :
    (tree.remove ranking data).1 = tree := by
  induction tree with
  | null => rfl
  | node mSize mData mLeft mRight ihLeft ihRight =>
      rw [remove] at hnone ⊢
      split_ifs at hnone ⊢ with hdata hbeats
      · cases hnone
      · rfl
      · split at hnone
        · cases hnone
        · split at hnone
          · cases hnone
          · simp_all

variable (ranking) in
/-- Where a search ends: at this node, in one of the subtrees, or nowhere. -/
theorem remove_node (mSize : Int) (mData : α) (mLeft mRight : LocHeapNode α) (data : α) :
    (data = mData ∧ (node mSize mData mLeft mRight).remove ranking data =
        (((node mSize mData mLeft mRight).popHolding ranking data).1, some data)) ∨
      (∃ removed, (mLeft.remove ranking data).2 = some removed ∧
        (node mSize mData mLeft mRight).remove ranking data =
          (node (mSize - 1) mData (mLeft.remove ranking data).1 mRight, some removed)) ∨
      (∃ removed, (mRight.remove ranking data).2 = some removed ∧
        (node mSize mData mLeft mRight).remove ranking data =
          (node (mSize - 1) mData mLeft (mRight.remove ranking data).1, some removed)) ∨
      (data ≠ mData ∧ (ranking.outRanks data mData ∨
          (mLeft.remove ranking data).2 = none ∧ (mRight.remove ranking data).2 = none) ∧
        (node mSize mData mLeft mRight).remove ranking data =
          (node mSize mData mLeft mRight, none)) := by
  by_cases hdata : data = mData
  · refine .inl ⟨hdata, ?_⟩
    rw [remove, if_pos hdata, pop_eq ranking rfl, hdata]
  by_cases hbeats : ranking.outRanks data mData
  · -- The subtrees are not searched.
    refine .inr (.inr (.inr ⟨hdata, .inl hbeats, ?_⟩))
    rw [remove, if_neg hdata, if_pos hbeats]
  rw [remove, if_neg hdata, if_neg hbeats]
  cases hleft : mLeft.remove ranking data with
  | mk left leftRemoved =>
      cases leftRemoved with
      | some removed => exact .inr (.inl ⟨removed, rfl, rfl⟩)
      | none =>
          -- The left subtree has been searched in vain and is what it was.
          have hsame : left = mLeft := by
            have hnone : (mLeft.remove ranking data).2 = none := by rw [hleft]
            rw [← remove_of_none hnone, hleft]
          cases hright : mRight.remove ranking data with
          | mk right rightRemoved =>
              cases rightRemoved with
              | some removed => exact .inr (.inr (.inl ⟨removed, rfl, by rw [hsame]⟩))
              | none =>
                  have hsameRight : right = mRight := by
                    have hnone : (mRight.remove ranking data).2 = none := by rw [hright]
                    rw [← remove_of_none hnone, hright]
                  refine .inr (.inr (.inr ⟨hdata, .inr ⟨rfl, rfl⟩, ?_⟩))
                  rw [hsame, hsameRight]

/-- A successful search costs the tree one occurrence of its object. -/
theorem elements_of_remove {tree : LocHeapNode α} {data removed : α}
    (hsome : (tree.remove ranking data).2 = some removed) :
    removed = data ∧ tree.elements = data ::ₘ (tree.remove ranking data).1.elements := by
  induction tree with
  | null => cases hsome
  | node mSize mData mLeft mRight ihLeft ihRight =>
      obtain ⟨rfl, hremove⟩ | ⟨found, hfound, hremove⟩ | ⟨found, hfound, hremove⟩ | ⟨-, -, hremove⟩ :=
        remove_node ranking mSize mData mLeft mRight data
      · rw [hremove] at hsome ⊢
        cases hsome
        rw [(popHolding_elements ranking _ _).1]
        exact ⟨rfl, rfl⟩
      · rw [hremove] at hsome ⊢
        cases hsome
        obtain ⟨hdata, helements⟩ := ihLeft hfound
        refine ⟨hdata, ?_⟩
        rw [elements_node, elements_node, helements, Multiset.cons_add, Multiset.cons_swap]
      · rw [hremove] at hsome ⊢
        cases hsome
        obtain ⟨hdata, helements⟩ := ihRight hfound
        refine ⟨hdata, ?_⟩
        rw [elements_node, elements_node, helements, Multiset.add_cons, Multiset.cons_swap]
      · rw [hremove] at hsome
        cases hsome

theorem top_remove (tree : LocHeapNode α) (data : α)
    (hne : (tree.remove ranking data).2 ≠ tree.top) :
    (tree.remove ranking data).1.top = tree.top := by
  cases tree with
  | null => rfl
  | node mSize mData mLeft mRight =>
      obtain ⟨rfl, hremove⟩ | ⟨found, -, hremove⟩ | ⟨found, -, hremove⟩ | ⟨-, -, hremove⟩ :=
        remove_node ranking mSize mData mLeft mRight data
      · rw [hremove] at hne
        exact absurd rfl hne
      · rw [hremove]
        rfl
      · rw [hremove]
        rfl
      · rw [hremove]

/-- The search misses no occurrence: it passes over a subtree only when the
object outranks all of it. -/
theorem Consistent.not_mem_of_remove {tree : LocHeapNode α} (htree : tree.Consistent ranking)
    {data : α} (hnone : (tree.remove ranking data).2 = none) : data ∉ tree.elements := by
  induction htree with
  | null => simp
  | @node mSize mData mLeft mRight hleft hright hleftTop hrightTop hsize ihLeft ihRight =>
      have hnode : ranking.Unbeaten (mLeft.elements + mRight.elements) mData :=
        Ranking.unbeaten_add.mpr ⟨hleftTop, hrightTop⟩
      obtain ⟨-, hremove⟩ | ⟨found, -, hremove⟩ | ⟨found, -, hremove⟩ |
          ⟨hdata, hbeats | ⟨hnotLeft, hnotRight⟩, hremove⟩ :=
        remove_node ranking mSize mData mLeft mRight data
      · rw [hremove] at hnone
        cases hnone
      · rw [hremove] at hnone
        cases hnone
      · rw [hremove] at hnone
        cases hnone
      · rw [elements_node, Multiset.mem_cons, not_or]
        exact ⟨hdata, hnode.not_mem_of_outRanks hbeats⟩
      · rw [elements_node, Multiset.mem_cons, Multiset.mem_add, not_or, not_or]
        exact ⟨hdata, ihLeft hnotLeft, ihRight hnotRight⟩

theorem Consistent.remove {tree : LocHeapNode α} (htree : tree.Consistent ranking)
    (data : α) : (tree.remove ranking data).1.Consistent ranking := by
  induction htree with
  | null => exact .null
  | @node mSize mData mLeft mRight hleft hright hleftTop hrightTop hsize ihLeft ihRight =>
      have htree := Consistent.node hleft hright hleftTop hrightTop hsize
      obtain ⟨-, hremove⟩ | ⟨found, hfound, hremove⟩ | ⟨found, hfound, hremove⟩ |
          ⟨-, -, hremove⟩ := remove_node ranking mSize mData mLeft mRight data
      · rw [hremove]
        exact htree.popHolding data
      · rw [hremove]
        have helements := (elements_of_remove hfound).2
        rw [helements, Multiset.card_cons] at hsize
        rw [helements, Ranking.unbeaten_cons] at hleftTop
        exact .node ihLeft hright hleftTop.2 hrightTop (by omega)
      · rw [hremove]
        have helements := (elements_of_remove hfound).2
        rw [helements, Multiset.card_cons] at hsize
        rw [helements, Ranking.unbeaten_cons] at hrightTop
        exact .node hleft ihRight hleftTop hrightTop.2 (by omega)
      · rw [hremove]
        exact htree

end Identity

end LocHeapNode

namespace LocHeap

variable {α : Type u}

/-- The pool a heap stands for. -/
def elements (heap : LocHeap α) : Multiset α := heap.mTree.elements

/-- The tree is sorted by rank and its sizes are right. -/
def Consistent (ranking : Ranking α) (heap : LocHeap α) : Prop :=
  heap.mTree.Consistent ranking

@[simp] theorem elements_new : (new : LocHeap α).elements = 0 := rfl

variable {ranking : Ranking α} {heap : LocHeap α}

theorem consistent_new : (new : LocHeap α).Consistent ranking := .null

theorem peek_eq_top (heap : LocHeap α) : heap.peek = heap.mTree.top := by
  unfold peek
  cases heap.mTree with
  | null => rfl
  | node mSize mData mLeft mRight => rfl

theorem checkTree_iff : heap.checkTree ranking = true ↔ heap.Consistent ranking :=
  heap.mTree.checkNodes_iff

theorem Consistent.getTreeSize_eq (hheap : heap.Consistent ranking) :
    heap.getTreeSize = heap.elements.card := hheap.getSize_eq

theorem elements_push (heap : LocHeap α) (node : α) :
    (heap.push ranking node).elements = node ::ₘ heap.elements :=
  LocHeapNode.elements_push heap.mTree node

theorem peek_eq_none_iff (heap : LocHeap α) : heap.peek = none ↔ heap.elements = 0 := by
  rw [peek_eq_top, elements]
  cases heap.mTree with
  | null => simp [LocHeapNode.top]
  | node mSize mData mLeft mRight => simp [LocHeapNode.top]

/-- What `peek` answers is the unbeaten object that `pop` takes out. -/
theorem Consistent.peek_some (hheap : heap.Consistent ranking) {top : α}
    (hpeek : heap.peek = some top) :
    ranking.Unbeaten heap.elements top ∧ (heap.pop ranking).2 = some top ∧
      heap.elements = top ::ₘ (heap.pop ranking).1.elements := by
  rw [peek_eq_top] at hpeek
  have hpop := LocHeapNode.pop_eq ranking hpeek
  have helements : heap.elements = top ::ₘ (heap.pop ranking).1.elements := by
    rw [elements, LocHeapNode.elements_of_top hpeek, elements, pop, hpop,
      (LocHeapNode.popHolding_elements ranking heap.mTree top).1]
  refine ⟨?_, by rw [pop, hpop], helements⟩
  rw [elements, LocHeapNode.elements_of_top hpeek, Ranking.unbeaten_cons]
  exact ⟨ranking.not_outRanks_self top, LocHeapNode.Consistent.unbeaten_underTop hheap hpeek⟩

variable (ranking) in
theorem pop_of_peek_none (hpeek : heap.peek = none) : heap.pop ranking = (heap, none) := by
  rw [peek_eq_top] at hpeek
  have hnull := LocHeapNode.elements_of_top_none hpeek
  cases heap
  rw [pop, hnull]
  cases hnull
  rfl

variable [DecidableEq α]

theorem consistent_perform (hheap : heap.Consistent ranking) (operation : Operation α) :
    (heap.perform ranking operation).1.Consistent ranking := by
  cases operation with
  | push node => exact LocHeapNode.Consistent.push hheap node
  | peek => exact hheap
  | pop => exact LocHeapNode.Consistent.pop hheap
  | remove rankable => exact LocHeapNode.Consistent.remove hheap rankable

/-- `remove` looks for the object itself. -/
theorem Consistent.remove_cases (hheap : heap.Consistent ranking) (rankable : α) :
    (rankable ∉ heap.elements ∧ heap.remove ranking rankable = (heap, none)) ∨
      ((heap.remove ranking rankable).2 = some rankable ∧
        heap.elements = rankable ::ₘ (heap.remove ranking rankable).1.elements) := by
  cases hfound : (heap.mTree.remove ranking rankable).2 with
  | none =>
      refine .inl ⟨LocHeapNode.Consistent.not_mem_of_remove hheap hfound, ?_⟩
      calc heap.remove ranking rankable
          = (⟨(heap.mTree.remove ranking rankable).1⟩,
              (heap.mTree.remove ranking rankable).2) := rfl
        _ = (heap, none) := by rw [LocHeapNode.remove_of_none hfound, hfound]
  | some removed =>
      obtain ⟨rfl, helements⟩ := LocHeapNode.elements_of_remove hfound
      exact .inr ⟨hfound, helements⟩

theorem Consistent.serves (hheap : heap.Consistent ranking) (operation : Operation α) :
    ranking.Serves heap.elements operation (heap.perform ranking operation).2
      (heap.perform ranking operation).1.elements := by
  cases operation with
  | push node =>
      rw [perform, elements_push]
      exact .push _ node
  | peek =>
      cases hpeek : heap.peek with
      | none =>
          rw [perform, hpeek, (peek_eq_none_iff heap).mp hpeek]
          exact .peekEmpty
      | some top =>
          obtain ⟨htop, -, helements⟩ := hheap.peek_some hpeek
          rw [perform, hpeek]
          refine .peek ?_ htop
          rw [helements]
          exact Multiset.mem_cons_self top _
  | pop =>
      cases hpeek : heap.peek with
      | none =>
          rw [perform, pop_of_peek_none ranking hpeek, (peek_eq_none_iff heap).mp hpeek]
          exact .popEmpty
      | some top =>
          obtain ⟨htop, hpop, helements⟩ := hheap.peek_some hpeek
          rw [perform, hpop, helements]
          rw [helements] at htop
          exact .pop htop
  | remove rankable =>
      obtain ⟨habsent, hremove⟩ | ⟨hremove, helements⟩ := hheap.remove_cases rankable
      · rw [perform, hremove]
        exact .removeAbsent habsent
      · rw [perform, hremove, helements]
        exact .remove _ rankable

theorem consistent_afterOperations (operations : List (Operation α)) :
    (afterOperations ranking operations).Consistent ranking := by
  unfold afterOperations
  refine List.foldlRecOn operations _ consistent_new ?_
  intro heap hheap operation _
  exact consistent_perform hheap operation

/-- A call that takes nothing out leaves the tree as it was. -/
theorem Consistent.perform_none (hheap : heap.Consistent ranking) {operation : Operation α}
    (hanswer : (heap.perform ranking operation).2 = none)
    (hpush : ∀ node, operation ≠ .push node) : (heap.perform ranking operation).1 = heap := by
  cases operation with
  | push node => exact absurd rfl (hpush node)
  | peek => rfl
  | pop =>
      cases hpeek : heap.peek with
      | none => exact congrArg Prod.fst (pop_of_peek_none ranking hpeek)
      | some top =>
          have hpop := (hheap.peek_some hpeek).2.1
          rw [perform, hpop] at hanswer
          cases hanswer
  | remove rankable =>
      obtain ⟨-, hremove⟩ | ⟨hremove, -⟩ := hheap.remove_cases rankable
      · exact congrArg Prod.fst hremove
      · rw [perform, hremove] at hanswer
        cases hanswer

/-- After any sequence of calls on a new heap, one more call leaves a sorted
tree with the right sizes, does to the pool what it should, and when it finds
nothing to answer it leaves the tree as it was. -/
theorem heap_refines_pool (ranking : Ranking α) (operations : List (Operation α))
    (operation : Operation α) :
    let heap := afterOperations ranking operations
    let (next, answer) := heap.perform ranking operation
    (next.Consistent ranking ∧ next.checkTree ranking = true ∧
        next.getTreeSize = next.elements.card) ∧
      ranking.Serves heap.elements operation answer next.elements ∧
      (answer = none → (∀ node, operation ≠ .push node) → next = heap) := by
  have hheap : (afterOperations ranking operations).Consistent ranking :=
    consistent_afterOperations operations
  have hnext := consistent_perform hheap operation
  refine ⟨⟨hnext, checkTree_iff.mpr hnext, hnext.getTreeSize_eq⟩, hheap.serves operation, ?_⟩
  intro hanswer hpush
  exact hheap.perform_none hanswer hpush

end LocHeap

/-- A heap together with the proof that its tree is sorted. -/
structure SortedHeap {α : Type u} (ranking : Ranking α) extends LocHeap α where
  consistent : toLocHeap.Consistent ranking

namespace SortedHeap

variable {α : Type u} {ranking : Ranking α}

def new : SortedHeap ranking where
  toLocHeap := .new
  consistent := LocHeap.consistent_new

def push (heap : SortedHeap ranking) (node : α) : SortedHeap ranking where
  toLocHeap := heap.toLocHeap.push ranking node
  consistent := LocHeapNode.Consistent.push heap.consistent node

def pop (heap : SortedHeap ranking) : SortedHeap ranking × Option α :=
  (⟨(heap.toLocHeap.pop ranking).1, LocHeapNode.Consistent.pop heap.consistent⟩,
    (heap.toLocHeap.pop ranking).2)

def remove [DecidableEq α] (heap : SortedHeap ranking) (rankable : α) :
    SortedHeap ranking × Option α :=
  (⟨(heap.toLocHeap.remove ranking rankable).1,
      LocHeapNode.Consistent.remove heap.consistent rankable⟩,
    (heap.toLocHeap.remove ranking rankable).2)

variable (heap : SortedHeap ranking)

theorem pop_answer : heap.pop.2 = heap.peek := by
  cases hpeek : heap.peek with
  | none => exact congrArg Prod.snd (LocHeap.pop_of_peek_none ranking hpeek)
  | some top => exact (heap.consistent.peek_some hpeek).2.1

theorem pop_of_peek_none (hpeek : heap.peek = none) : heap.pop.1 = heap := by
  have hsame := LocHeap.pop_of_peek_none ranking hpeek
  cases heap with
  | mk toLocHeap consistent => simp only [pop, hsame]

/-- A push changes the top only to what it pushed, and only if that outranks
the top before. -/
theorem peek_push (node : α) :
    (heap.push node).peek =
      match heap.peek with
      | none => some node
      | some top => some (if ranking.outRanks node top then node else top) := by
  have hpush : (heap.push node).peek = (heap.mTree.push ranking node).top :=
    LocHeap.peek_eq_top _
  rw [hpush, LocHeap.peek_eq_top, LocHeapNode.top_push]

/-- Removing another object, or none at all, leaves the top in its place. -/
theorem peek_remove [DecidableEq α] {node : α} (hne : (heap.remove node).2 ≠ heap.peek) :
    (heap.remove node).1.peek = heap.peek := by
  have htop : (heap.remove node).1.peek = (heap.mTree.remove ranking node).1.top :=
    LocHeap.peek_eq_top _
  rw [LocHeap.peek_eq_top] at hne
  rw [htop, LocHeap.peek_eq_top]
  exact LocHeapNode.top_remove heap.mTree node hne

/-- Nothing in the heap outranks the top. -/
theorem unbeaten_of_peek {top : α} (hpeek : heap.peek = some top) :
    ranking.Unbeaten heap.elements top := (heap.consistent.peek_some hpeek).1

end SortedHeap

end Serrano
