import Serrano.Utils.LinkedListMemory

/-! # The linked list library keeps a sequence

The elements in use form one doubly linked chain from `p_head` to `p_tail`. Each
operation does to the sequence of their contents what its name says, and never
touches memory that is not in use.
-/

namespace Serrano.LinkedList

open DoublyLinked

universe u

namespace ListState

variable {α δ σ : Type u} {s : ListState α δ}

/-- The links of the elements in use. -/
def links (s : ListState α δ) : Links Nat where
  next p := (s.memory p).bind ListElement.next
  prev p := (s.memory p).bind ListElement.prev

/-- What a client stored in an element. -/
def content (s : ListState α δ) (p : Nat) : Option (α × Option δ) :=
  (s.memory p).map fun elem => (elem.dataPtr, elem.deallocFunc)

/-! ## Single accesses -/

theorem setNext_of_inUse {p : Nat} (hp : (s.memory p).isSome = true) (next : Option Nat) :
    s.setNext p next = some (s.withElement p fun elem => { elem with next := next }) :=
  if_pos hp

theorem setPrev_of_inUse {p : Nat} (hp : (s.memory p).isSome = true) (prev : Option Nat) :
    s.setPrev p prev = some (s.withElement p fun elem => { elem with prev := prev }) :=
  if_pos hp

/-- Memory given back. -/
def freed (s : ListState α δ) (p : Nat) : ListState α δ :=
  { s with memory := Function.update s.memory p none, inUse := s.inUse - 1 }

theorem free_of_inUse {p : Nat} (hp : (s.memory p).isSome = true) : s.free p = some (s.freed p) :=
  if_pos hp

theorem links_withNext {p : Nat} (hp : (s.memory p).isSome = true) (next : Option Nat) :
    (s.withElement p fun elem => { elem with next := next }).links = s.links.setNext p next := by
  obtain ⟨elem, helem⟩ := Option.isSome_iff_exists.mp hp
  simp only [links, Links.setNext, withElement, helem, Links.mk.injEq]
  constructor <;> funext q <;> by_cases hq : q = p
  · subst hq; simp
  · simp [hq]
  · subst hq; simp [helem]
  · simp [hq]

theorem links_withPrev {p : Nat} (hp : (s.memory p).isSome = true) (prev : Option Nat) :
    (s.withElement p fun elem => { elem with prev := prev }).links = s.links.setPrev p prev := by
  obtain ⟨elem, helem⟩ := Option.isSome_iff_exists.mp hp
  simp only [links, Links.setPrev, withElement, helem, Links.mk.injEq]
  constructor <;> funext q <;> by_cases hq : q = p
  · subst hq; simp [helem]
  · simp [hq]
  · subst hq; simp
  · simp [hq]

@[simp] theorem isSome_withElement (p q : Nat) (change : ListElement α δ → ListElement α δ) :
    ((s.withElement p change).memory q).isSome = (s.memory q).isSome := by
  by_cases hq : q = p
  · subst hq
    simp [withElement]
  · simp [withElement, hq]

/-- Changing links changes no content. -/
theorem content_withElement (p : Nat) {change : ListElement α δ → ListElement α δ}
    (hchange : ∀ elem, (change elem).dataPtr = elem.dataPtr ∧
      (change elem).deallocFunc = elem.deallocFunc) :
    (s.withElement p change).content = s.content := by
  funext q
  by_cases hq : q = p
  · subst hq
    cases helem : s.memory q with
    | none => simp [content, withElement, helem]
    | some elem => simp [content, withElement, helem, hchange]
  · simp [content, withElement, hq]

/-- Make two elements each other's neighbours; the head or the tail takes the
place of a missing one. -/
def joined (s : ListState α δ) (left right : Option Nat) : ListState α δ :=
  let s := left.elim { s with pHead := right } fun p =>
    s.withElement p fun elem => { elem with next := right }
  right.elim { s with pTail := left } fun p =>
    s.withElement p fun elem => { elem with prev := left }

@[simp] theorem pHead_joined (left right : Option Nat) :
    (s.joined left right).pHead = left.elim right fun _ => s.pHead := by
  cases left <;> cases right <;> rfl

@[simp] theorem pTail_joined (left right : Option Nat) :
    (s.joined left right).pTail = right.elim left fun _ => s.pTail := by
  cases left <;> cases right <;> rfl

@[simp] theorem inUse_joined (left right : Option Nat) :
    (s.joined left right).inUse = s.inUse := by
  cases left <;> cases right <;> rfl

@[simp] theorem deallocs_joined (left right : Option Nat) :
    (s.joined left right).deallocs = s.deallocs := by
  cases left <;> cases right <;> rfl

@[simp] theorem isSome_joined (left right : Option Nat) (p : Nat) :
    ((s.joined left right).memory p).isSome = (s.memory p).isSome := by
  cases left <;> cases right <;> simp [joined]

theorem content_joined (left right : Option Nat) : (s.joined left right).content = s.content := by
  cases left with
  | none =>
      cases right with
      | none => rfl
      | some last => exact content_withElement last fun _ => ⟨rfl, rfl⟩
  | some first =>
      have hfirst : (s.withElement first fun elem => { elem with next := right }).content =
          s.content := content_withElement first fun _ => ⟨rfl, rfl⟩
      cases right with
      | none => exact hfirst
      | some last =>
          rw [← hfirst]
          exact content_withElement last fun _ => ⟨rfl, rfl⟩

section Joined

variable {left right : Option Nat} (hleft : ∀ p ∈ left, (s.memory p).isSome = true)
  (hright : ∀ p ∈ right, (s.memory p).isSome = true)

include hleft hright

theorem links_joined : (s.joined left right).links = s.links.bridge left right := by
  cases left with
  | none =>
      cases right with
      | none => rfl
      | some last => exact links_withPrev (hright last rfl) none
  | some first =>
      have hfirst := links_withNext (hleft first rfl) right
      cases right with
      | none => exact hfirst
      | some last =>
          have hlast : ((s.withElement first fun elem =>
              { elem with next := some last }).memory last).isSome = true := by
            simpa using hright last rfl
          change (withElement _ last _).links = (s.links.setNext first (some last)).setPrev last _
          rw [← hfirst]
          exact links_withPrev hlast (some first)

omit hright in
theorem setNextOrHead_eq : s.setNextOrHead left right = some (left.elim { s with pHead := right }
    fun p => s.withElement p fun elem => { elem with next := right }) := by
  cases left with
  | none => rfl
  | some first => exact setNext_of_inUse (hleft first rfl) right

/-- The two assignments that the operations join neighbours with. -/
theorem join_eq : ((s.setNextOrHead left right).bind fun s => s.setPrevOrTail right left) =
    some (s.joined left right) := by
  rw [setNextOrHead_eq hleft, Option.bind_some]
  cases right with
  | none => rfl
  | some last =>
      apply setPrev_of_inUse
      cases left with
      | none => exact hright last rfl
      | some first => simpa using hright last rfl

end Joined

theorem links_congr {s' : ListState α δ} {p : Nat} (hp : s'.memory p = s.memory p) :
    s'.links.next p = s.links.next p ∧ s'.links.prev p = s.links.prev p := by
  simp only [links, hp, and_self]

theorem content_congr {s' : ListState α δ} {p : Nat} (hp : s'.memory p = s.memory p) :
    s'.content p = s.content p := by
  simp only [content, hp]

/-! ## Representation -/

/-- The calls that deallocate some entries. -/
def deallocCalls (entries : List (α × Option δ)) : List (δ × α) :=
  entries.filterMap fun entry => entry.2.map fun f => (f, entry.1)

/-- The search of the sequence, which knows the entries and not only their data. -/
def searchEntries (equal : α → σ → Bool × σ) (rmIfFound : Bool)
    (entries : List (α × Option δ)) (state : σ) :
    Option (α × Option δ) × List (α × Option δ) × σ :=
  LinkedList.linkedListSearch (fun entry => equal entry.1) rmIfFound entries state

/-- The calls that a search makes for what it found. -/
def searchDeallocs (dataP rmIfFound : Bool) (found : Option (α × Option δ)) : List (δ × α) :=
  if rmIfFound && !dataP then deallocCalls found.toList else []

/-- The elements in use are the cells, chained from head to tail, and hold the
entries. -/
structure Represents (s : ListState α δ) (cells : List Nat) (entries : List (α × Option δ)) :
    Prop where
  head : s.pHead = cells.head?
  tail : s.pTail = cells.getLast?
  chain : Segment s.links none cells none
  memory : ∀ p, (s.memory p).isSome = true ↔ p ∈ cells
  content : cells.map s.content = entries.map some
  inUse : s.inUse = cells.length

theorem represents_init : (init : ListState α δ).Represents [] [] where
  head := rfl
  tail := rfl
  chain := trivial
  memory p := by simp [init]
  content := rfl
  inUse := rfl

namespace Represents

variable {cells : List Nat} {entries : List (α × Option δ)}

theorem length_eq (hs : s.Represents cells entries) : cells.length = entries.length := by
  simpa using congrArg List.length hs.content

/-- An empty list is one without a head, and one without a tail. -/
theorem nil_iff (hs : s.Represents cells entries) : cells = [] ↔ entries = [] := by
  rw [← List.length_eq_zero_iff, hs.length_eq, List.length_eq_zero_iff]

theorem linkedListAdd (hs : s.Represents cells entries) (data : α) (dealloc : Option δ)
    {elem : Nat} (hfresh : s.memory elem = none) :
    ∃ s', s.linkedListAdd (some data) dealloc (some elem) = some (s', .success) ∧
      s'.Represents (elem :: cells) ((data, dealloc) :: entries) ∧
      s'.deallocs = s.deallocs := by
  let base : ListState α δ :=
    { s.alloc elem { next := none, prev := none, dataPtr := data, deallocFunc := dealloc } with
      pHead := some elem }
  have helem : elem ∉ cells := by
    rw [← hs.memory, hfresh]
    simp
  have hbase : ∀ p ∈ some elem, (base.memory p).isSome = true := by
    rintro p ⟨⟩
    simp [base, alloc]
  have hhead : ∀ p ∈ s.pHead, (base.memory p).isSome = true := by
    intro p hp
    have hmem : p ∈ cells := List.mem_of_mem_head? (hs.head ▸ hp)
    have hne : p ≠ elem := fun heq => helem (heq ▸ hmem)
    simpa [base, alloc, hne] using (hs.memory p).mpr hmem
  have hadd : s.linkedListAdd (some data) dealloc (some elem) =
      some (base.joined (some elem) s.pHead, .success) := by
    have hjoin := join_eq hbase hhead
    rw [setNextOrHead_eq hbase, Option.bind_some] at hjoin
    change ((base.setNextOrHead (some elem) s.pHead).bind fun s' =>
      (s'.setPrevOrTail s.pHead s'.pHead).map fun s' => (s', LinkedListErr.success)) = _
    rw [setNextOrHead_eq hbase, Option.bind_some]
    exact congrArg (Option.map fun s' => (s', LinkedListErr.success)) hjoin
  have hkept : ∀ p ∈ cells, base.memory p = s.memory p := by
    intro p hp
    have hne : p ≠ elem := fun heq => helem (heq ▸ hp)
    simp [base, alloc, hne]
  refine ⟨_, hadd, ⟨?_, ?_, ?_, fun p => ?_, ?_, ?_⟩, ?_⟩
  · simp [base]
  · rw [pTail_joined, hs.head]
    cases cells with
    | nil => rfl
    | cons first rest => simpa [base, alloc] using hs.tail
  · -- The new cell is a segment of its own, bridged with the old chain.
    rw [links_joined hbase hhead, hs.head]
    have hfirst : Segment base.links none [elem] none := by
      simp [links, base, alloc]
    have hsecond : Segment base.links none cells none :=
      hs.chain.congr (fun p hp => (links_congr (hkept p hp)).1)
        (fun p hp => (links_congr (hkept p hp)).2)
    exact hfirst.bridge hsecond (List.nodup_cons.mpr ⟨helem, hs.chain.nodup⟩)
  · rw [isSome_joined, List.mem_cons, ← hs.memory]
    by_cases hp : p = elem
    · simp [hp, base, alloc]
    · simp [hp, base, alloc]
  · rw [content_joined, List.map_cons, List.map_cons, ← hs.content]
    congr 1
    · simp [ListState.content, base, alloc]
    · exact List.map_congr_left fun p hp => content_congr (hkept p hp)
  · rw [inUse_joined]
    simp [base, alloc, hs.inUse]
  · simp [base, alloc]

section Unlinking

variable {first second : List Nat} {tmp : Nat} {front back : List (α × Option δ)}
  {entry : α × Option δ}

/-- What is stored at, before and behind a cell. -/
theorem contents (hs : s.Represents (first ++ tmp :: second) (front ++ entry :: back))
    (hlength : first.length = front.length) :
    first.map s.content = front.map some ∧ s.content tmp = some entry ∧
      second.map s.content = back.map some := by
  have hcontent := hs.content
  rw [List.map_append, List.map_append, List.map_cons, List.map_cons] at hcontent
  obtain ⟨hfront, hback⟩ := List.append_inj hcontent (by simpa using hlength)
  rw [List.cons.injEq] at hback
  exact ⟨hfront, hback⟩

/-- The neighbours of a cell are its links. -/
theorem neighbours (hs : s.Represents (first ++ tmp :: second) entries) :
    ∃ elem, s.memory tmp = some elem ∧ elem.prev = first.getLast? ∧
      elem.next = second.head? := by
  obtain ⟨elem, helem⟩ := Option.isSome_iff_exists.mp ((hs.memory tmp).mpr (by simp))
  obtain ⟨-, hprev, hnext, -⟩ := segment_append.mp hs.chain
  simp only [links, helem, Option.bind_some, Option.or_none] at hprev hnext
  exact ⟨elem, helem, hprev, hnext⟩

theorem entry_eq (hs : s.Represents (first ++ tmp :: second) (front ++ entry :: back))
    (hlength : first.length = front.length) {elem : ListElement α δ}
    (helem : s.memory tmp = some elem) : (elem.dataPtr, elem.deallocFunc) = entry := by
  have hcontent := (hs.contents hlength).2.1
  rwa [ListState.content, helem, Option.map_some, Option.some.injEq] at hcontent

theorem left_inUse (hs : s.Represents (first ++ tmp :: second) entries) :
    ∀ p ∈ first.getLast?, (s.memory p).isSome = true := by
  intro p hp
  rw [hs.memory]
  exact List.mem_append_left _ (List.mem_of_mem_getLast? hp)

theorem right_inUse (hs : s.Represents (first ++ tmp :: second) entries) :
    ∀ p ∈ second.head?, (s.memory p).isSome = true := by
  intro p hp
  rw [hs.memory]
  exact List.mem_append_right _ (List.mem_cons_of_mem _ (List.mem_of_mem_head? hp))

/-- Joining the neighbours of a cell and giving its memory back unlinks it. -/
theorem unlink (hs : s.Represents (first ++ tmp :: second) (front ++ entry :: back))
    (hlength : first.length = front.length) {s' : ListState α δ}
    (hhead : s'.pHead = (s.joined first.getLast? second.head?).pHead)
    (htail : s'.pTail = (s.joined first.getLast? second.head?).pTail)
    (hmemory : ∀ p, p ≠ tmp →
      s'.memory p = (s.joined first.getLast? second.head?).memory p)
    (htmp : s'.memory tmp = none) (hinUse : s'.inUse = s.inUse - 1) :
    s'.Represents (first ++ second) (front ++ back) := by
  obtain ⟨hfront, -, hback⟩ := hs.contents hlength
  obtain ⟨hfirst, -, -, hsecond⟩ := segment_append.mp hs.chain
  obtain ⟨hnotmem, hnodup⟩ := List.nodup_middle.mp hs.chain.nodup |> List.nodup_cons.mp
  have hne : ∀ p ∈ first ++ second, p ≠ tmp := fun p hp heq => hnotmem (heq ▸ hp)
  refine ⟨?_, ?_, ?_, fun p => ?_, ?_, ?_⟩
  · rw [hhead, pHead_joined, hs.head]
    cases first with
    | nil => rfl
    | cons cell rest => simp [List.getLast?_cons]
  · rw [htail, pTail_joined, hs.tail]
    cases second with
    | nil => simp
    | cons cell rest => simp [List.getLast?_append]
  · have hchain := hfirst.bridge hsecond hnodup
    rw [← links_joined hs.left_inUse hs.right_inUse] at hchain
    exact hchain.congr (fun p hp => (links_congr (hmemory p (hne p hp))).1)
      (fun p hp => (links_congr (hmemory p (hne p hp))).2)
  · by_cases hp : p = tmp
    · subst hp
      simp [htmp, hnotmem]
    · rw [hmemory p hp, isSome_joined, hs.memory]
      simp [hp]
  · rw [List.map_append, List.map_append, ← hfront, ← hback, ← List.map_append, ← List.map_append]
    refine List.map_congr_left fun p hp => ?_
    rw [content_congr (hmemory p (hne p hp)), content_joined]
  · rw [hinUse, hs.inUse]
    simp

theorem linkedListRemove_nil (hs : s.Represents cells []) :
    s.linkedListRemove true = some (s, .unavailableResource, none) := by
  have hcells : cells = [] := hs.nil_iff.mpr rfl
  simp only [ListState.linkedListRemove, hs.tail, hcells, List.getLast?_nil]

theorem linkedListRemove (hs : s.Represents cells (front ++ [entry])) :
    ∃ s' cells', s.linkedListRemove true = some (s', .success, some entry.1) ∧
      s'.Represents cells' front ∧ s'.deallocs = s.deallocs := by
  obtain rfl | ⟨first, tmp, rfl⟩ := List.eq_nil_or_concat' cells
  · simpa using hs.length_eq
  have hlength : first.length = front.length := by
    simpa using hs.length_eq
  obtain ⟨elem, helem, hprev, -⟩ := hs.neighbours
  have hinUse : ∀ p ∈ elem.prev, (s.memory p).isSome = true := hprev ▸ hs.left_inUse
  have hdata : elem.dataPtr = entry.1 := congrArg Prod.fst (hs.entry_eq hlength helem)
  have hjoined : ({ s with pTail := elem.prev }.setNextOrHead elem.prev none) =
      some (s.joined elem.prev none) := by
    rw [setNextOrHead_eq (s := { s with pTail := elem.prev }) hinUse]
    cases elem.prev with
    | none => rfl
    | some tail => rfl
  have htmp : ((s.joined elem.prev none).memory tmp).isSome = true := by
    rw [isSome_joined, helem]
    rfl
  have hremove : s.linkedListRemove true =
      (((s.joined elem.prev none).free tmp).map fun s' =>
        (s', LinkedListErr.success, some elem.dataPtr)) := by
    unfold ListState.linkedListRemove
    rw [hs.tail, List.getLast?_concat]
    simp only [helem, hjoined, Option.bind_some]
  rw [free_of_inUse htmp, Option.map_some, hdata] at hremove
  -- The last cell has nothing behind it to be joined with.
  refine ⟨_, first ++ [], hremove, ?_, deallocs_joined _ _⟩
  rw [← List.append_nil front]
  apply hs.unlink hlength
  · rw [hprev]
    rfl
  · rw [hprev]
    rfl
  · intro p hp
    rw [hprev]
    exact Function.update_of_ne hp _ _
  · exact Function.update_self _ _ _
  · rw [freed, inUse_joined]

theorem removeFound (hs : s.Represents (first ++ tmp :: second) (front ++ entry :: back))
    (hlength : first.length = front.length) (dataP : Bool) :
    ∃ s', s.removeFound dataP tmp = some s' ∧
      s'.Represents (first ++ second) (front ++ back) ∧
      s'.deallocs = s.deallocs ++ if dataP then [] else deallocCalls [entry] := by
  obtain ⟨elem, helem, hprev, hnext⟩ := hs.neighbours
  have hjoin : ((s.setNextOrHead elem.prev elem.next).bind fun s' =>
      s'.setPrevOrTail elem.next elem.prev) = some (s.joined elem.prev elem.next) :=
    join_eq (hprev ▸ hs.left_inUse) (hnext ▸ hs.right_inUse)
  -- The element as it is given back: joined out, its own links cleared, and
  -- deallocated when nobody takes its data.
  let joined := s.joined elem.prev elem.next
  let cleared := (joined.withElement tmp fun elem => { elem with next := none }).withElement tmp
    fun elem => { elem with prev := none }
  let last := if dataP then cleared else cleared.dealloc elem
  have htmp : (joined.memory tmp).isSome = true := by
    rw [isSome_joined, helem]
    rfl
  have hmemory : last.memory = cleared.memory := by
    cases dataP with
    | true => rfl
    | false => rfl
  have hlast : (last.memory tmp).isSome = true := by
    rw [hmemory]
    simpa [cleared] using htmp
  have hremove : s.removeFound dataP tmp = some (last.freed tmp) := by
    unfold ListState.removeFound
    rw [helem, Option.bind_some, ← Option.bind_assoc, hjoin, Option.bind_some,
      setNext_of_inUse htmp, Option.bind_some, setPrev_of_inUse (by simpa using htmp),
      Option.bind_some]
    exact free_of_inUse hlast
  refine ⟨_, hremove, ?_, ?_⟩
  · have hfield : last.pHead = joined.pHead ∧ last.pTail = joined.pTail ∧
        last.inUse = joined.inUse := by
      cases dataP with
      | true => exact ⟨rfl, rfl, rfl⟩
      | false => exact ⟨rfl, rfl, rfl⟩
    apply hs.unlink hlength
    · rw [← hprev, ← hnext]
      exact hfield.1
    · rw [← hprev, ← hnext]
      exact hfield.2.1
    · intro p hp
      rw [← hprev, ← hnext]
      simp [freed, hp, hmemory, cleared, withElement, joined]
    · exact Function.update_self _ _ _
    · rw [freed, hfield.2.2, inUse_joined]
  · obtain rfl := hs.entry_eq hlength helem
    have hjoined : joined.deallocs = s.deallocs := deallocs_joined _ _
    cases dataP with
    | true =>
        change joined.deallocs = s.deallocs ++ []
        simpa using hjoined
    | false =>
        change joined.deallocs ++ _ = _
        rw [hjoined]
        cases elem.deallocFunc with
        | none => simp [deallocCalls]
        | some f => simp [deallocCalls]

end Unlinking

/-- The loop does to the rest of the list what the search of the sequence does.
The induction is on the entries that are still to be compared. -/
theorem searchLoop (equal : α → σ → Bool × σ) (dataP rmIfFound : Bool)
    {back : List (α × Option δ)} {first rest : List Nat} {front : List (α × Option δ)}
    {fuel : Nat} (state : σ) (hs : s.Represents (first ++ rest) (front ++ back))
    (hlength : first.length = front.length) (hfuel : rest.length ≤ fuel) :
    ∃ s' cells',
      ListState.searchLoop equal dataP rmIfFound fuel rest.head? s state =
        some ((searchEntries equal rmIfFound back state).1.map Prod.fst, s',
          (searchEntries equal rmIfFound back state).2.2) ∧
      s'.Represents cells' (front ++ (searchEntries equal rmIfFound back state).2.1) ∧
      s'.deallocs = s.deallocs ++
        searchDeallocs dataP rmIfFound (searchEntries equal rmIfFound back state).1 := by
  have hrest : rest.length = back.length := by
    have := hs.length_eq
    simp only [List.length_append] at this
    omega
  induction back generalizing first rest front fuel state with
  | nil =>
      rw [List.length_nil, List.length_eq_zero_iff] at hrest
      subst hrest
      refine ⟨s, first, ?_, ?_, ?_⟩
      · simp [ListState.searchLoop, searchEntries, LinkedList.linkedListSearch]
      · simpa [searchEntries, LinkedList.linkedListSearch] using hs
      · simp [searchDeallocs, searchEntries, LinkedList.linkedListSearch, deallocCalls]
  | cons entry back ih =>
      cases rest with
      | nil => cases hrest
      | cons tmp second =>
          cases fuel with
          | zero => simp at hfuel
          | succ fuel =>
              obtain ⟨elem, helem, -, hnext⟩ := hs.neighbours
              have hdata : elem.dataPtr = entry.1 := congrArg Prod.fst (hs.entry_eq hlength helem)
              rw [List.head?_cons, ListState.searchLoop, helem, Option.bind_some, hdata]
              rcases hequal : equal entry.1 state with ⟨accepted, state'⟩
              cases accepted with
              | true =>
                  cases rmIfFound with
                  | true =>
                      obtain ⟨s', hremove, hs', hdeallocs⟩ := hs.removeFound hlength dataP
                      refine ⟨s', first ++ second, ?_, ?_, ?_⟩
                      · simp [searchEntries, LinkedList.linkedListSearch, hequal, hremove]
                      · simpa [searchEntries, LinkedList.linkedListSearch, hequal] using hs'
                      · rw [hdeallocs]
                        cases dataP <;>
                          simp [searchEntries, LinkedList.linkedListSearch, hequal, searchDeallocs]
                  | false =>
                      refine ⟨s, first ++ tmp :: second, ?_, ?_, ?_⟩
                      · simp [searchEntries, LinkedList.linkedListSearch, hequal]
                      · simpa [searchEntries, LinkedList.linkedListSearch, hequal] using hs
                      · simp [searchDeallocs]
              | false =>
                  -- What was compared joins the front, and the loop goes on behind it.
                  have hs' : s.Represents ((first ++ [tmp]) ++ second)
                      ((front ++ [entry]) ++ back) := by
                    simpa using hs
                  have hloop := ih state' hs' (by simpa using hlength)
                    (by simpa using hfuel) (by simpa using hrest)
                  rw [hnext]
                  simpa [searchEntries, LinkedList.linkedListSearch, hequal] using hloop

theorem linkedListSearch (hs : s.Represents cells entries) (equal : α → σ → Bool × σ)
    (dataP rmIfFound : Bool) (state : σ) (hentries : entries ≠ []) :
    ∃ s' cells',
      s.linkedListSearch dataP (some equal) rmIfFound state = some (s', .success,
        if dataP then some ((searchEntries equal rmIfFound entries state).1.map Prod.fst) else none,
        (searchEntries equal rmIfFound entries state).2.2) ∧
      s'.Represents cells' (searchEntries equal rmIfFound entries state).2.1 ∧
      s'.deallocs = s.deallocs ++
        searchDeallocs dataP rmIfFound (searchEntries equal rmIfFound entries state).1 := by
  have hsplit : s.Represents ([] ++ cells) ([] ++ entries) := hs
  obtain ⟨s', cells', hloop, hs', hdeallocs⟩ :=
    hsplit.searchLoop equal dataP rmIfFound state rfl (Nat.le_refl _)
  refine ⟨s', cells', ?_, hs', hdeallocs⟩
  have hcells : cells ≠ [] := fun heq => hentries (hs.nil_iff.mp heq)
  unfold ListState.linkedListSearch
  rw [hs.tail, List.getLast?_eq_some_getLast hcells, hs.head, hs.inUse]
  simp only [hloop, Option.map_some]

/-- The loop of a flush frees the cells from the head on. The links of those
that are left are not maintained, but still read in their order. -/
theorem flushLoop {fuel : Nat} (hhead : s.pHead = cells.head?)
    (hchain : ∃ before, Segment s.links before cells none)
    (hmemory : ∀ p, (s.memory p).isSome = true ↔ p ∈ cells)
    (hcontent : cells.map s.content = entries.map some) (hfuel : cells.length ≤ fuel)
    (hinUse : s.inUse = cells.length) :
    ∃ s', ListState.flushLoop fuel s = some s' ∧ s'.pHead = none ∧ s'.inUse = 0 ∧
      (∀ p, s'.memory p = none) ∧ s'.deallocs = s.deallocs ++ deallocCalls entries := by
  induction cells generalizing s entries fuel with
  | nil =>
      have hentries : entries = [] := by simpa using hcontent.symm
      refine ⟨s, ?_, hhead, hinUse, fun p => ?_, ?_⟩
      · rw [ListState.flushLoop.eq_def, hhead]
        rfl
      · simpa using hmemory p
      · simp [hentries, deallocCalls]
  | cons head rest ih =>
      cases entries with
      | nil => simp at hcontent
      | cons entry entries =>
          cases fuel with
          | zero => simp at hfuel
          | succ fuel =>
              obtain ⟨elem, helem⟩ := Option.isSome_iff_exists.mp ((hmemory head).mpr (by simp))
              obtain ⟨before, hsegment⟩ := hchain
              have hnotmem : head ∉ rest := (List.nodup_cons.mp hsegment.nodup).1
              have hnext : elem.next = rest.head? := by
                simpa [links, helem] using hsegment.2.1
              rw [List.map_cons, List.map_cons, List.cons.injEq, ListState.content, helem,
                Option.map_some, Option.some.injEq] at hcontent
              obtain ⟨hentry, hcontent⟩ := hcontent
              -- The state in which the next pass of the loop begins.
              let next : ListState α δ := { (s.dealloc elem).freed head with pHead := elem.next }
              have hkept : ∀ p ∈ rest, next.memory p = s.memory p := by
                intro p hp
                have hne : p ≠ head := fun heq => hnotmem (heq ▸ hp)
                exact Function.update_of_ne hne _ _
              have hloop : ListState.flushLoop (fuel + 1) s = ListState.flushLoop fuel next := by
                have hinUse : ((s.dealloc elem).memory head).isSome = true := by
                  rw [show (s.dealloc elem).memory = s.memory from rfl, helem]
                  rfl
                rw [ListState.flushLoop.eq_def, hhead, List.head?_cons]
                simp only [helem, Option.bind_some, free_of_inUse hinUse]
                rfl
              have hmemory' : ∀ p, (next.memory p).isSome = true ↔ p ∈ rest := by
                intro p
                by_cases hp : p = head
                · subst hp
                  simp [next, freed, hnotmem]
                · rw [show next.memory p = s.memory p from Function.update_of_ne hp _ _, hmemory]
                  simp [hp]
              have hcontent' : rest.map next.content = entries.map some := by
                rw [← hcontent]
                exact List.map_congr_left fun p hp => content_congr (hkept p hp)
              have hinUse' : next.inUse = rest.length := by
                change s.inUse - 1 = _
                rw [hinUse, List.length_cons, Nat.add_sub_cancel]
              have hrest : Segment next.links (some head) rest none :=
                hsegment.2.2.congr (fun p hp => (links_congr (hkept p hp)).1)
                  (fun p hp => (links_congr (hkept p hp)).2)
              obtain ⟨s', hflush, hempty, hzero, hnone, hdeallocs⟩ :=
                ih hnext ⟨some head, hrest⟩ hmemory' hcontent'
                  (show rest.length ≤ fuel by simpa using hfuel) hinUse'
              refine ⟨s', hloop.trans hflush, hempty, hzero, hnone, ?_⟩
              rw [hdeallocs, ← hentry]
              cases hf : elem.deallocFunc with
              | none => simp [deallocCalls, next, freed, ListState.dealloc, hf]
              | some f => simp [deallocCalls, next, freed, ListState.dealloc, hf]

theorem linkedListFlush (hs : s.Represents cells entries) :
    ∃ s', s.linkedListFlush = some s' ∧ s'.Represents [] [] ∧
      s'.deallocs = s.deallocs ++ deallocCalls entries := by
  obtain ⟨s', hflush, hempty, hzero, hnone, hdeallocs⟩ :=
    flushLoop hs.head ⟨none, hs.chain⟩ hs.memory hs.content (Nat.le_of_eq hs.inUse.symm) hs.inUse
  refine ⟨{ s' with pTail := none }, ?_, ⟨hempty, rfl, trivial, fun p => ?_, rfl, hzero⟩, hdeallocs⟩
  · rw [ListState.linkedListFlush, hflush, Option.map_some]
  · simp [hnone p]

end Represents

end ListState

end Serrano.LinkedList
