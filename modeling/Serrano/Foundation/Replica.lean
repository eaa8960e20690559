import Mathlib.Data.List.Basic

/-! # A value and its replica behind a queue

The owner of a value tells a replica about it through a queue of notes. A note
assigns a value, or makes the owner tell the value once more when it is processed,
or does not concern it. What matters is where the replica settles when the queue is
drained: if it settles on the wanted value at every moment, it agrees with the owner
whenever the queue is empty.
-/

namespace Replica

universe u

variable {Value : Type u}

inductive Note (Value : Type u)
  | assign (value : Value)
  | refresh
  | other
  deriving DecidableEq

/-- Where the replica settles. What a refresh tells comes after everything that is
in the queue already. Nothing is told when no value is wanted. -/
def settles (wanted : Option Value) : List (Note Value) → Option Value → Option Value
  | [], replica => replica
  | .assign value :: rest, _ => settles wanted rest (some value)
  | .refresh :: rest, replica =>
      match wanted with
      | some value => some value
      | none => settles none rest replica
  | .other :: rest, replica => settles wanted rest replica

/-- The replica settles on the wanted value, if there is one. -/
def Consistent (wanted : Option Value) (pending : List (Note Value)) (replica : Option Value) :
    Prop :=
  ∀ value, wanted = some value → settles wanted pending replica = some value

/-- The notes make up for a change of the wanted value. -/
def Informs (before after : Option Value) (notes : List (Note Value)) : Prop :=
  ∀ value, after = some value → ∀ replica, (before = some value → replica = some value) →
    settles after notes replica = some value

variable {wanted before after : Option Value} {pending notes : List (Note Value)}
  {replica : Option Value} {value : Value}

theorem settles_of_refresh (hmem : .refresh ∈ pending) :
    settles (some value) pending replica = some value := by
  induction pending generalizing replica with
  | nil => cases hmem
  | cons note rest ih =>
      cases note with
      | refresh => rfl
      | assign _ | other => exact ih (by simpa using hmem)

theorem settles_append_of_no_refresh (before : Option Value) (hmem : .refresh ∉ pending) :
    settles after (pending ++ notes) replica =
      settles after notes (settles before pending replica) := by
  induction pending generalizing replica with
  | nil => rfl
  | cons note rest ih =>
      cases note with
      | refresh => simp at hmem
      | assign _ | other => exact ih (by simpa using hmem)

theorem consistent_none (pending : List (Note Value)) (replica : Option Value) :
    Consistent none pending replica := by
  intro value hnone
  cases hnone

/-- Sending notes that make up for a change keeps the replica consistent. -/
theorem Consistent.send (hbefore : Consistent before pending replica)
    (hnotes : Informs before after notes) : Consistent after (pending ++ notes) replica := by
  rintro value rfl
  by_cases hmem : .refresh ∈ pending
  · exact settles_of_refresh (List.mem_append_left notes hmem)
  · rw [settles_append_of_no_refresh before hmem]
    exact hnotes value rfl _ (hbefore value)

/-- A note that is no refresh does its work when it is processed. -/
theorem Consistent.assign (h : Consistent wanted (.assign value :: pending) replica) :
    Consistent wanted pending (some value) := h

theorem Consistent.other (h : Consistent wanted (.other :: pending) replica) :
    Consistent wanted pending replica := h

/-- The notes of a refresh make the replica consistent from any state. -/
theorem Consistent.refresh (hnotes : Informs none after notes) :
    Consistent after (pending ++ notes) replica :=
  Consistent.send (consistent_none pending replica) hnotes

/-- With an empty queue, the replica is what is wanted. -/
theorem Consistent.drained (h : Consistent (some value) [] replica) : replica = some value :=
  h value rfl

theorem informs_none : Informs before none notes := by
  intro value hnone
  cases hnone

/-- Notes that do not concern the value leave the replica where it is. -/
theorem settles_of_other (hnotes : ∀ note ∈ notes, note = .other) :
    settles wanted notes replica = replica := by
  induction notes with
  | nil => rfl
  | cons note rest ih =>
      obtain rfl := hnotes note List.mem_cons_self
      exact ih fun note hmem => hnotes note (List.mem_cons_of_mem _ hmem)

theorem informs_same (hnotes : ∀ note ∈ notes, note = .other) : Informs wanted wanted notes := by
  intro value hvalue replica hreplica
  rw [settles_of_other hnotes]
  exact hreplica hvalue

theorem informs_refresh : Informs before after [.refresh] := by
  rintro value rfl replica -
  rfl

/-- An assignment with only other notes around it informs from any state. -/
theorem informs_assign (first rest : List (Note Value)) (hfirst : ∀ note ∈ first, note = .other)
    (hrest : ∀ note ∈ rest, note = .other) :
    Informs before (some value) (first ++ .assign value :: rest) := by
  rintro _ ⟨⟩ replica -
  have hnot : (.refresh : Note Value) ∉ first := by
    intro hmem
    cases hfirst _ hmem
  rw [settles_append_of_no_refresh none hnot]
  exact settles_of_other hrest

/-- Notes that do not concern the value may come before or after. -/
theorem Informs.append_other (hnotes : Informs before after notes) {rest : List (Note Value)}
    (hrest : ∀ note ∈ rest, note = .other) : Informs before after (notes ++ rest) := by
  intro value hvalue replica hreplica
  have hsettles := hnotes value hvalue replica hreplica
  subst hvalue
  by_cases hmem : .refresh ∈ notes
  · exact settles_of_refresh (List.mem_append_left rest hmem)
  · rw [settles_append_of_no_refresh (some value) hmem, settles_of_other hrest]
    exact hsettles

theorem Informs.other_append (hnotes : Informs before after notes) {first : List (Note Value)}
    (hfirst : ∀ note ∈ first, note = .other) : Informs before after (first ++ notes) := by
  intro value hvalue replica hreplica
  have hnot : (.refresh : Note Value) ∉ first := by
    intro hmem
    cases hfirst _ hmem
  rw [settles_append_of_no_refresh after hnot, settles_of_other hfirst]
  exact hnotes value hvalue replica hreplica

end Replica
