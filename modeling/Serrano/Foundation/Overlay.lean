import Mathlib.Data.List.Basic
import Mathlib.Data.List.TakeWhile

/-! # What is computed from a partly filled buffer

A buffer held something before the first elements of it were overwritten. Code
that reads it at fixed offsets may depend on what it held. A field is read by its
offset and size, and the part of a field that was overwritten is a prefix of what
is read.
-/

namespace Overlay

universe u v

variable {α : Type u} {β : Type v}

/-- The buffer that held `before`, once `received` is stored at its start. -/
def overlay (received : List α) (before : Nat → α) : Nat → α :=
  fun i => received[i]?.getD (before i)

/-- The elements of a field. -/
def slice (buffer : Nat → α) (offset size : Nat) : List α :=
  (List.range size).map fun i => buffer (offset + i)

/-- The elements of a field that were received. -/
def receivedPart (received : List α) (offset size : Nat) : List α :=
  (received.drop offset).take size

/-- A buffer that holds a list at an offset, and nothing else of interest. -/
def place (offset : Nat) (content : List α) (filler : α) : Nat → α :=
  fun i => if offset ≤ i then content[i - offset]?.getD filler else filler

/-- What is computed from the buffer does not depend on what it held before. -/
def Determined (f : (Nat → α) → β) (received : List α) : Prop :=
  ∀ before other, f (overlay received before) = f (overlay received other)

theorem overlay_of_length_le {received : List α} {before : Nat → α} {i : Nat}
    (h : received.length ≤ i) : overlay received before i = before i := by
  rw [overlay, List.getElem?_eq_none h, Option.getD_none]

theorem overlay_of_getElem? {received : List α} {before : Nat → α} {i : Nat} {x : α}
    (h : received[i]? = some x) : overlay received before i = x := by
  rw [overlay, h, Option.getD_some]

@[simp] theorem length_slice (buffer : Nat → α) (offset size : Nat) :
    (slice buffer offset size).length = size := by
  simp [slice]

@[simp] theorem getElem_slice (buffer : Nat → α) (offset size i : Nat)
    (h : i < (slice buffer offset size).length) :
    (slice buffer offset size)[i] = buffer (offset + i) := by
  simp [slice]

@[simp] theorem slice_zero (buffer : Nat → α) (offset : Nat) : slice buffer offset 0 = [] := rfl

theorem slice_const (x : α) (offset size : Nat) :
    slice (fun _ => x) offset size = List.replicate size x := by
  apply List.ext_getElem
  · simp
  · intro i hi hi'
    simp

theorem length_receivedPart (received : List α) (offset size : Nat) :
    (receivedPart received offset size).length = min size (received.length - offset) := by
  simp [receivedPart]

theorem receivedPart_of_length_le {received : List α} {offset : Nat} (h : received.length ≤ offset)
    (size : Nat) : receivedPart received offset size = [] := by
  rw [receivedPart, List.drop_eq_nil_of_le h, List.take_nil]

theorem length_receivedPart_of_le {received : List α} {offset size : Nat}
    (h : offset + size ≤ received.length) : (receivedPart received offset size).length = size := by
  rw [length_receivedPart]
  omega

/-- A field is what was received of it, and then what the buffer held before. -/
theorem slice_overlay (received : List α) (before : Nat → α) (offset size : Nat) :
    slice (overlay received before) offset size =
      receivedPart received offset size ++
        slice before (offset + (receivedPart received offset size).length)
          (size - (receivedPart received offset size).length) := by
  have hlength := length_receivedPart received offset size
  apply List.ext_getElem
  · rw [List.length_append, length_slice, length_slice]
    omega
  · intro i hi hi'
    rw [length_slice] at hi
    rw [getElem_slice, List.getElem_append]
    split
    · next hreceived =>
        have hbound : offset + i < received.length := by omega
        rw [overlay_of_getElem? (List.getElem?_eq_getElem hbound)]
        simp [receivedPart]
    · next hmissing =>
        rw [overlay_of_length_le (by omega), getElem_slice]
        congr 1
        omega

/-- A field that was received whole is what was received. -/
theorem slice_overlay_of_le {received : List α} {offset size : Nat}
    (h : offset + size ≤ received.length) (before : Nat → α) :
    slice (overlay received before) offset size = receivedPart received offset size := by
  rw [slice_overlay, length_receivedPart_of_le h, Nat.sub_self, slice_zero, List.append_nil]

/-- Nothing was received of a field behind the end. -/
theorem slice_overlay_of_length_le {received : List α} {offset : Nat}
    (h : received.length ≤ offset) (before : Nat → α) (size : Nat) :
    slice (overlay received before) offset size = slice before offset size := by
  rw [slice_overlay, receivedPart_of_length_le h]
  rfl

theorem receivedPart_prefix (received : List α) (before : Nat → α) (offset size : Nat) :
    receivedPart received offset size <+: slice (overlay received before) offset size := by
  rw [slice_overlay]
  exact List.prefix_append _ _

theorem determined_slice {received : List α} {offset size : Nat}
    (h : offset + size ≤ received.length) :
    Determined (fun buffer => slice buffer offset size) received := fun before other =>
  (slice_overlay_of_le h before).trans (slice_overlay_of_le h other).symm

theorem slice_place_add (offset : Nat) (content : List α) (filler : α) (skip : Nat) :
    slice (place offset content filler) (offset + skip) (content.length - skip) =
      content.drop skip := by
  apply List.ext_getElem
  · simp
  · intro i hi hi'
    rw [length_slice] at hi
    have hbound : skip + i < content.length := by omega
    rw [getElem_slice, place, if_pos (by omega), show offset + skip + i - offset = skip + i by omega,
      List.getElem?_eq_getElem hbound, Option.getD_some, List.getElem_drop]

/-- What was received of a field can be completed to whatever it is a prefix of. -/
theorem slice_overlay_place {received content : List α} {offset : Nat}
    (h : receivedPart received offset content.length <+: content) (filler : α) :
    slice (overlay received (place offset content filler)) offset content.length = content := by
  rw [slice_overlay, slice_place_add]
  exact List.prefix_iff_eq_append.mp h

/-- Behind the placed content there is only filler. -/
theorem slice_place_of_le {offset start : Nat} {content : List α}
    (h : offset + content.length ≤ start) (filler : α) (size : Nat) :
    slice (place offset content filler) start size = List.replicate size filler := by
  apply List.ext_getElem
  · simp
  · intro i hi hi'
    rw [getElem_slice, place, if_pos (by omega), List.getElem?_eq_none (by omega),
      Option.getD_none, List.getElem_replicate]

/-- A field read up to the first element that fails the test ends within what was
received. -/
def EndsWithin (p : α → Bool) (received : List α) (offset size : Nat) : Prop :=
  offset + size ≤ received.length ∨ ∃ x ∈ receivedPart received offset size, p x = false

instance (p : α → Bool) (received : List α) (offset size : Nat) :
    Decidable (EndsWithin p received offset size) :=
  inferInstanceAs (Decidable (_ ∨ _))

variable {p : α → Bool} {received : List α} {offset size : Nat}

theorem takeWhile_append_of_exists {first : List α} (h : ∃ x ∈ first, p x = false)
    (second : List α) : (first ++ second).takeWhile p = first.takeWhile p := by
  obtain ⟨x, hmem, hx⟩ := h
  rw [List.takeWhile_append, if_neg]
  intro hlength
  have hall := List.takeWhile_eq_self_iff.mp
    ((List.takeWhile_prefix p).eq_of_length hlength)
  rw [hall x hmem] at hx
  cases hx

theorem EndsWithin.determined (h : EndsWithin p received offset size) :
    Determined (fun buffer => (slice buffer offset size).takeWhile p) received :=
    fun before other => by
  rcases h with hwhole | hends
  · exact congrArg (List.takeWhile p) (determined_slice hwhole before other)
  · dsimp only
    rw [slice_overlay, slice_overlay, takeWhile_append_of_exists hends,
      takeWhile_append_of_exists hends]

/-- A field that does not end within what was received ends at once, or not at
all, as the buffer has it. -/
theorem takeWhile_ne_of_not_endsWithin (h : ¬ EndsWithin p received offset size)
    (hsize : 0 < size) {stop go : α} (hstop : p stop = false) (hgo : p go = true) :
    (slice (overlay received fun _ => stop) offset size).takeWhile p ≠
      (slice (overlay received fun _ => go) offset size).takeWhile p := by
  rw [EndsWithin, not_or] at h
  obtain ⟨hshort, hnone⟩ := h
  have hpass : ∀ x ∈ receivedPart received offset size, p x = true := by
    intro x hmem
    cases hx : p x with
    | true => rfl
    | false => exact absurd ⟨x, hmem, hx⟩ hnone
  have hmissing : 0 < size - (receivedPart received offset size).length := by
    rw [length_receivedPart]
    omega
  intro heq
  have hlength := congrArg List.length heq
  rw [slice_overlay, slice_overlay, slice_const, slice_const,
    List.takeWhile_append_of_pos hpass, List.takeWhile_append_of_pos hpass,
    List.length_append, List.length_append, List.takeWhile_replicate, List.takeWhile_replicate,
    if_neg (by simp [hstop]), if_pos hgo, List.length_nil, List.length_replicate] at hlength
  omega

end Overlay
