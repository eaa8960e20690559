import Mathlib.Data.List.Induction
import Mathlib.Data.List.Nodup
import Mathlib.Logic.Function.Basic

/-! # Singly linked paths

Cells are linked forwards only. A path is a list of cells that are met in this
order, from a pointer to its first cell up to the pointer that leaves it.
-/

namespace SinglyLinked

universe u

variable {Cell : Type u}

/-- The cells are met in their order, from `start` to `stop`. -/
def Path (next : Cell → Option Cell) : Option Cell → List Cell → Option Cell → Prop
  | start, [], stop => start = stop
  | start, cell :: rest, stop => start = some cell ∧ Path next (next cell) rest stop

/-- The cells met on the way, `fuel` at most. -/
def walk (next : Cell → Option Cell) : Nat → Option Cell → List Cell
  | _, none => []
  | 0, some _ => []
  | fuel + 1, some cell => cell :: walk next fuel (next cell)

variable {next next' : Cell → Option Cell} {start stop : Option Cell} {cells : List Cell}

@[simp] theorem path_nil : Path next start [] stop ↔ start = stop := Iff.rfl

@[simp] theorem path_cons {cell : Cell} {rest : List Cell} :
    Path next start (cell :: rest) stop ↔ start = some cell ∧ Path next (next cell) rest stop :=
  Iff.rfl

theorem path_append {first second : List Cell} :
    Path next start (first ++ second) stop ↔
      ∃ middle, Path next start first middle ∧ Path next middle second stop := by
  induction first generalizing start with
  | nil => simp
  | cons cell rest ih => simp only [List.cons_append, path_cons, ih, and_assoc, exists_and_left]

/-- Only the pointers of its own cells make a path. -/
theorem Path.congr (hpath : Path next start cells stop)
    (hnext : ∀ cell ∈ cells, next' cell = next cell) : Path next' start cells stop := by
  induction cells generalizing start with
  | nil => exact hpath
  | cons cell rest ih =>
      refine ⟨hpath.1, ?_⟩
      rw [hnext cell List.mem_cons_self]
      exact ih hpath.2 fun c hc => hnext c (List.mem_cons_of_mem _ hc)

theorem Path.walk_eq (hpath : Path next start cells none) {fuel : Nat}
    (hfuel : cells.length ≤ fuel) : walk next fuel start = cells := by
  induction cells generalizing start fuel with
  | nil =>
      obtain rfl : start = none := hpath
      cases fuel <;> rfl
  | cons cell rest ih =>
      obtain ⟨rfl, hrest⟩ := hpath
      cases fuel with
      | zero => simp at hfuel
      | succ fuel => rw [walk, ih hrest (by simpa using hfuel)]

/-- Taking a cell out behind another one: its predecessor takes over its pointer. -/
theorem Path.bypass [DecidableEq Cell] {first second : List Cell} {before cell : Cell}
    (hpath : Path next start (first ++ before :: cell :: second) stop)
    (hnodup : (first ++ before :: cell :: second).Nodup) :
    Path (Function.update next before (next cell)) start (first ++ before :: second) stop := by
  obtain ⟨middle, hfirst, hmiddle, hbefore, hsecond⟩ := path_append.mp hpath
  have hne : ∀ other ∈ first ++ second, other ≠ before := by
    rintro other hother rfl
    have hperm : (other :: (first ++ cell :: second)).Nodup :=
      List.perm_middle.nodup_iff.mp hnodup
    refine (List.nodup_cons.mp hperm).1 ?_
    rcases List.mem_append.mp hother with hmem | hmem
    · exact List.mem_append_left _ hmem
    · exact List.mem_append_right _ (List.mem_cons_of_mem _ hmem)
  refine path_append.mpr ⟨middle, hfirst.congr fun c hc => ?_, hmiddle, ?_⟩
  · exact Function.update_of_ne (hne c (List.mem_append_left _ hc)) _ _
  · rw [Function.update_self]
    refine hsecond.congr fun c hc => ?_
    exact Function.update_of_ne (hne c (List.mem_append_right _ hc)) _ _

/-- Taking a cell out, wherever it is. -/
theorem Path.unlink [DecidableEq Cell] {first second : List Cell} {cell : Cell}
    (hpath : Path next start (first ++ cell :: second) stop)
    (hnodup : (first ++ cell :: second).Nodup) :
    Path (match first.getLast? with
        | none => next
        | some before => Function.update next before (next cell))
      (if first = [] then next cell else start) (first ++ second) stop := by
  induction first using List.reverseRecOn with
  | nil => exact hpath.2
  | append_singleton first before _ =>
      rw [List.append_assoc, List.singleton_append] at hpath hnodup
      rw [List.getLast?_append, List.getLast?_singleton, Option.some_or, if_neg (by simp),
        List.append_assoc, List.singleton_append]
      exact hpath.bypass hnodup

/-- The search for the first cell that passes a test, with the cell before it. The
test itself may fail, and so does a search that takes too long. -/
def search (next : Cell → Option Cell) (test : Cell → Option Bool) :
    Nat → Option Cell → Option Cell → Option (Option (Option Cell × Cell))
  | _, _, none => some none
  | 0, _, some _ => none
  | fuel + 1, before, some cell =>
      (test cell).bind fun found =>
        if found then some (some (before, cell))
        else search next test fuel (some cell) (next cell)

theorem search_eq {test : Cell → Option Bool} {first second : List Cell} {cell : Cell}
    (hpath : Path next start (first ++ cell :: second) stop)
    (hfirst : ∀ c ∈ first, test c = some false) (hcell : test cell = some true)
    {fuel : Nat} (hfuel : first.length < fuel) (before : Option Cell) :
    search next test fuel before start = some (some (first.getLast?.or before, cell)) := by
  induction first generalizing start fuel before with
  | nil =>
      obtain ⟨rfl, -⟩ := hpath
      cases fuel with
      | zero => simp at hfuel
      | succ fuel =>
          rw [search, hcell]
          rfl
  | cons c rest ih =>
      obtain ⟨rfl, hrest⟩ := hpath
      cases fuel with
      | zero => simp at hfuel
      | succ fuel =>
          have hnext := ih hrest (fun d hd => hfirst d (List.mem_cons_of_mem _ hd))
            (by simpa using hfuel) (some c)
          rw [search, hfirst c List.mem_cons_self, Option.bind_some, if_neg Bool.false_ne_true,
            hnext]
          cases hlast : rest.getLast? with
          | none => simp [List.getLast?_cons, hlast]
          | some last => simp [List.getLast?_cons, hlast]

end SinglyLinked
