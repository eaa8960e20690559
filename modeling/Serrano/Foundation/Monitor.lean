import Mathlib.Data.List.Induction
import Mathlib.Data.List.Pairwise

/-! # Monitors over event logs

A monitor summarizes an append-only log by a left fold. A temporal property of
the log asks that every event is acceptable to the summary of what came before
it. Both are compositional in the log, so that a step only has to look at the
events it appends.
-/

/-- A summary of a log, updated at every event. -/
structure Monitor (σ Event : Type*) where
  init : σ
  update : σ → Event → σ

namespace Monitor

variable {σ Event : Type*} (mon : Monitor σ Event)

/-- The summary after more events. -/
def afterFrom (state : σ) (log : List Event) : σ := log.foldl mon.update state

/-- The summary of a whole log. -/
def after (log : List Event) : σ := mon.afterFrom mon.init log

@[simp] theorem afterFrom_nil (state : σ) : mon.afterFrom state [] = state := rfl

@[simp] theorem afterFrom_cons (state : σ) (event : Event) (rest : List Event) :
    mon.afterFrom state (event :: rest) = mon.afterFrom (mon.update state event) rest := rfl

@[simp] theorem afterFrom_append (state : σ) (first second : List Event) :
    mon.afterFrom state (first ++ second) =
      mon.afterFrom (mon.afterFrom state first) second :=
  List.foldl_append

@[simp] theorem after_append (log new : List Event) :
    mon.after (log ++ new) = mon.afterFrom (mon.after log) new :=
  mon.afterFrom_append _ _ _

/-- Events the monitor ignores leave its summary alone. -/
theorem afterFrom_eq_of_ignored {state : σ} {log : List Event}
    (hignore : ∀ event ∈ log, mon.update state event = state) :
    mon.afterFrom state log = state := by
  induction log with
  | nil => rfl
  | cons event rest ih =>
      rw [afterFrom_cons, hignore event List.mem_cons_self]
      exact ih fun e he => hignore e (List.mem_cons_of_mem _ he)

/-- Every event is acceptable to the summary of the events before it. -/
def AlwaysFrom (accept : σ → Event → Prop) : σ → List Event → Prop
  | _, [] => True
  | state, event :: rest => accept state event ∧ AlwaysFrom accept (mon.update state event) rest

/-- The temporal property of a whole log. -/
def Always (accept : σ → Event → Prop) (log : List Event) : Prop :=
  mon.AlwaysFrom accept mon.init log

@[simp] theorem alwaysFrom_nil (accept : σ → Event → Prop) (state : σ) :
    mon.AlwaysFrom accept state [] := trivial

@[simp] theorem alwaysFrom_cons (accept : σ → Event → Prop) (state : σ) (event : Event)
    (rest : List Event) : mon.AlwaysFrom accept state (event :: rest) ↔
      accept state event ∧ mon.AlwaysFrom accept (mon.update state event) rest := Iff.rfl

@[simp] theorem alwaysFrom_append (accept : σ → Event → Prop) (state : σ)
    (first second : List Event) : mon.AlwaysFrom accept state (first ++ second) ↔
      mon.AlwaysFrom accept state first ∧
        mon.AlwaysFrom accept (mon.afterFrom state first) second := by
  induction first generalizing state with
  | nil => simp
  | cons event rest ih => simp [ih, and_assoc]

instance decidableAlwaysFrom (accept : σ → Event → Prop) [∀ s e, Decidable (accept s e)] :
    (state : σ) → (log : List Event) → Decidable (mon.AlwaysFrom accept state log)
  | _, [] => .isTrue trivial
  | state, event :: rest =>
      have := decidableAlwaysFrom accept (mon.update state event) rest
      inferInstanceAs (Decidable (accept state event ∧ _))

instance (accept : σ → Event → Prop) [∀ s e, Decidable (accept s e)] (log : List Event) :
    Decidable (mon.Always accept log) := mon.decidableAlwaysFrom accept mon.init log

@[simp] theorem always_append (accept : σ → Event → Prop) (log new : List Event) :
    mon.Always accept (log ++ new) ↔
      mon.Always accept log ∧ mon.AlwaysFrom accept (mon.after log) new :=
  mon.alwaysFrom_append accept mon.init log new

/-- Acceptable whatever the summary is: the events of a frame condition. -/
theorem alwaysFrom_of_forall {accept : σ → Event → Prop} {state : σ} {log : List Event}
    (haccept : ∀ event ∈ log, ∀ s, accept s event) : mon.AlwaysFrom accept state log := by
  induction log generalizing state with
  | nil => trivial
  | cons event rest ih =>
      exact ⟨haccept event List.mem_cons_self _,
        ih fun e he => haccept e (List.mem_cons_of_mem _ he)⟩

end Monitor

/-! ## Lifetimes -/

namespace Monitor

variable {Event : Type*}

/-- No event that uses a thing comes after one that ends its life. -/
def NeverAfter (ends uses : Event → Prop) (log : List Event) : Prop :=
  log.Pairwise fun earlier later => ends earlier → ¬ uses later

variable {ends uses : Event → Prop} {log : List Event}

instance [DecidablePred ends] [DecidablePred uses] : Decidable (NeverAfter ends uses log) :=
  inferInstanceAs (Decidable (log.Pairwise _))

theorem neverAfter_nil : NeverAfter ends uses [] := List.Pairwise.nil

theorem NeverAfter.append {new : List Event} (hlog : NeverAfter ends uses log)
    (hnew : NeverAfter ends uses new)
    (huses : ∀ event ∈ new, uses event → ∀ earlier ∈ log, ¬ ends earlier) :
    NeverAfter ends uses (log ++ new) := by
  rw [NeverAfter, List.pairwise_append]
  refine ⟨hlog, hnew, ?_⟩
  intro earlier hearlier event hevent hends huse
  exact huses event hevent huse earlier hearlier hends

theorem NeverAfter.concat {event : Event} (hlog : NeverAfter ends uses log)
    (hevent : uses event → ∀ earlier ∈ log, ¬ ends earlier) :
    NeverAfter ends uses (log ++ [event]) := by
  apply hlog.append (List.pairwise_singleton _ _)
  intro later hlater
  rw [List.mem_singleton] at hlater
  exact hlater ▸ hevent

end Monitor
