import Mathlib.Logic.Function.Basic
import Serrano.Foundation.Transition

/-! # Threads around one mutex and one condition variable

Each thread follows a program of single instructions over a shared value. The
scheduler runs any thread, and it may wake a sleeper that nobody notified. A
program whose points are labelled consistently keeps the mutex exclusive, and a
program that makes its condition true only on the way to a notification loses no
wake-up.
-/

namespace ConditionVariable

universe uThread uPoint uShared uAnswer

/-- What a thread does at one point of its program. The answer of a computation
is what the outside world decides. -/
inductive Instruction (Thread : Type uThread) (Point : Type uPoint) (Shared : Type uShared)
    (Answer : Type uAnswer)
  | lock (next : Point)
  | unlock (next : Point)
  | wait (next : Point)
  | notify (next : Point)
  | create (thread : Thread) (entry next : Point)
  | compute (effect : Answer → Shared → Shared) (goto : Answer → Shared → Point)
  | join (thread : Thread) (next : Point)
  | stop

/-- A sleeper that was woken has to take the mutex again before it goes on. -/
inductive Phase (Point : Type uPoint)
  | unborn
  | running (point : Point)
  | asleep (point : Point)
  | woken (point : Point)
  deriving DecidableEq

variable {Thread : Type uThread} {Point : Type uPoint} {Shared : Type uShared}
  {Answer : Type uAnswer}

@[ext] structure State (Thread : Type uThread) (Point : Type uPoint) (Shared : Type uShared) where
  phase : Thread → Phase Point
  mutex : Option Thread
  shared : Shared

/-- The next instruction of a thread, or a wake-up that nobody asked for. -/
inductive Action (Thread : Type uThread) (Answer : Type uAnswer)
  | run (thread : Thread) (answer : Answer)
  | spurious (thread : Thread)

def Action.isRun : Action Thread Answer → Bool
  | run _ _ => true
  | spurious _ => false

/-- Every sleeper starts to compete for the mutex. -/
def Phase.wake : Phase Point → Phase Point
  | asleep point => woken point
  | phase => phase

variable [DecidableEq Thread]

namespace State

variable (s : State Thread Point Shared)

def goto (thread : Thread) (phase : Phase Point) : State Thread Point Shared :=
  { s with phase := Function.update s.phase thread phase }

@[simp] theorem goto_phase_self (thread : Thread) (phase : Phase Point) :
    (s.goto thread phase).phase thread = phase := by
  simp [goto]

@[simp] theorem goto_phase_ne {thread other : Thread} (hne : other ≠ thread)
    (phase : Phase Point) : (s.goto thread phase).phase other = s.phase other := by
  simp [goto, hne]

@[simp] theorem goto_shared (thread : Thread) (phase : Phase Point) :
    (s.goto thread phase).shared = s.shared := rfl

@[simp] theorem goto_mutex (thread : Thread) (phase : Phase Point) :
    (s.goto thread phase).mutex = s.mutex := rfl

/-- Unlocking or waiting without the mutex has no meaning, and joining waits until
the other thread stands at the end of its program. -/
def perform (code : Thread → Point → Instruction Thread Point Shared Answer) (thread : Thread)
    (answer : Answer) :
    Instruction Thread Point Shared Answer → Option (State Thread Point Shared)
  | .lock next =>
      match s.mutex with
      | none => some { s.goto thread (.running next) with mutex := some thread }
      | some _ => none
  | .unlock next =>
      if s.mutex = some thread then some { s.goto thread (.running next) with mutex := none }
      else none
  | .wait next =>
      if s.mutex = some thread then some { s.goto thread (.asleep next) with mutex := none }
      else none
  | .notify next =>
      some { s with
        phase := Function.update (fun other => (s.phase other).wake) thread (.running next) }
  | .create other entry next =>
      match s.phase other with
      | .unborn => some ((s.goto other (.running entry)).goto thread (.running next))
      | _ => none
  | .compute effect goto =>
      some { s.goto thread (.running (goto answer s.shared)) with
        shared := effect answer s.shared }
  | .join other next =>
      match s.phase other with
      | .running point =>
          match code other point with
          | .stop => some (s.goto thread (.running next))
          | _ => none
      | _ => none
  | .stop => none

def step (code : Thread → Point → Instruction Thread Point Shared Answer) :
    Action Thread Answer → Option (State Thread Point Shared)
  | .run thread answer =>
      match s.phase thread with
      | .running point => s.perform code thread answer (code thread point)
      | .woken point =>
          match s.mutex with
          | none => some { s.goto thread (.running point) with mutex := some thread }
          | some _ => none
      | _ => none
  | .spurious thread =>
      match s.phase thread with
      | .asleep point => some (s.goto thread (.woken point))
      | _ => none

end State

def system (code : Thread → Point → Instruction Thread Point Shared Answer)
    (init : State Thread Point Shared) :
    Transition.System (State Thread Point Shared) (Action Thread Answer) where
  init := init
  step s := s.step code

/-- What one performed action changes. Every invariant is derived from it. -/
inductive Moves (code : Thread → Point → Instruction Thread Point Shared Answer)
    (s : State Thread Point Shared) : Action Thread Answer → State Thread Point Shared → Prop
  | lock (thread point next answer) (hphase : s.phase thread = .running point)
      (hcode : code thread point = .lock next) (hmutex : s.mutex = none) :
      Moves code s (.run thread answer) { s.goto thread (.running next) with mutex := some thread }
  | unlock (thread point next answer) (hphase : s.phase thread = .running point)
      (hcode : code thread point = .unlock next) (hmutex : s.mutex = some thread) :
      Moves code s (.run thread answer) { s.goto thread (.running next) with mutex := none }
  | wait (thread point next answer) (hphase : s.phase thread = .running point)
      (hcode : code thread point = .wait next) (hmutex : s.mutex = some thread) :
      Moves code s (.run thread answer) { s.goto thread (.asleep next) with mutex := none }
  | notify (thread point next answer) (hphase : s.phase thread = .running point)
      (hcode : code thread point = .notify next) :
      Moves code s (.run thread answer) { s with
        phase := Function.update (fun other => (s.phase other).wake) thread (.running next) }
  | create (thread point other entry next answer) (hphase : s.phase thread = .running point)
      (hcode : code thread point = .create other entry next) (hother : s.phase other = .unborn) :
      Moves code s (.run thread answer)
        ((s.goto other (.running entry)).goto thread (.running next))
  | compute (thread point effect goto answer) (hphase : s.phase thread = .running point)
      (hcode : code thread point = .compute effect goto) :
      Moves code s (.run thread answer) { s.goto thread (.running (goto answer s.shared)) with
        shared := effect answer s.shared }
  | join (thread point other next final answer) (hphase : s.phase thread = .running point)
      (hcode : code thread point = .join other next) (hother : s.phase other = .running final)
      (hfinal : code other final = .stop) :
      Moves code s (.run thread answer) (s.goto thread (.running next))
  | resume (thread point answer) (hphase : s.phase thread = .woken point)
      (hmutex : s.mutex = none) :
      Moves code s (.run thread answer) { s.goto thread (.running point) with mutex := some thread }
  | spurious (thread point) (hphase : s.phase thread = .asleep point) :
      Moves code s (.spurious thread) (s.goto thread (.woken point))

variable {code : Thread → Point → Instruction Thread Point Shared Answer}
  {s next : State Thread Point Shared}

theorem moves_of_step {action : Action Thread Answer} (hstep : s.step code action = some next) :
    Moves code s action next := by
  cases action with
  | spurious thread =>
      rw [State.step] at hstep
      split at hstep
      next point hphase => exact Option.some.inj hstep ▸ .spurious thread point hphase
      next => cases hstep
  | run thread answer =>
      rw [State.step] at hstep
      split at hstep
      next point hphase =>
        cases hcode : code thread point <;> rw [hcode, State.perform] at hstep
        case lock next =>
          split at hstep
          next hmutex =>
            exact Option.some.inj hstep ▸ .lock thread point next answer hphase hcode hmutex
          next => cases hstep
        case unlock next =>
          split at hstep
          next hmutex =>
            exact Option.some.inj hstep ▸ .unlock thread point next answer hphase hcode hmutex
          next => cases hstep
        case wait next =>
          split at hstep
          next hmutex =>
            exact Option.some.inj hstep ▸ .wait thread point next answer hphase hcode hmutex
          next => cases hstep
        case notify next =>
          exact Option.some.inj hstep ▸ .notify thread point next answer hphase hcode
        case create other entry next =>
          split at hstep
          next hother =>
            exact Option.some.inj hstep ▸
              .create thread point other entry next answer hphase hcode hother
          next => cases hstep
        case compute effect goto =>
          exact Option.some.inj hstep ▸ .compute thread point effect goto answer hphase hcode
        case join other next =>
          split at hstep
          next final hother =>
            split at hstep
            next hfinal =>
              exact Option.some.inj hstep ▸
                .join thread point other next final answer hphase hcode hother hfinal
            next => cases hstep
          next => cases hstep
        case stop => cases hstep
      next point hphase =>
        split at hstep
        next hmutex => exact Option.some.inj hstep ▸ .resume thread point answer hphase hmutex
        next => cases hstep
      next => cases hstep

/-! ## The mutex is exclusive -/

/-- An instruction that fits the points at which its thread holds the mutex. -/
def Fits (inside : Thread → Point → Prop) (thread : Thread) (point : Point) :
    Instruction Thread Point Shared Answer → Prop
  | .lock next => ¬ inside thread point ∧ inside thread next
  | .unlock next => inside thread point ∧ ¬ inside thread next
  | .wait next => inside thread point ∧ inside thread next
  | .notify next => inside thread next ↔ inside thread point
  | .create other entry next => ¬ inside other entry ∧ (inside thread next ↔ inside thread point)
  | .compute _ goto => ∀ answer shared, inside thread (goto answer shared) ↔ inside thread point
  | .join _ next => inside thread next ↔ inside thread point
  | .stop => True

/-- Every point is labelled by whether its thread holds the mutex there. -/
def Labelled (code : Thread → Point → Instruction Thread Point Shared Answer)
    (inside : Thread → Point → Prop) : Prop :=
  ∀ thread point, Fits inside thread point (code thread point)

omit [DecidableEq Thread] in
theorem Labelled.fits {inside : Thread → Point → Prop} (hlabels : Labelled code inside)
    {thread : Thread} {point : Point} {instruction : Instruction Thread Point Shared Answer}
    (hcode : code thread point = instruction) : Fits inside thread point instruction :=
  hcode ▸ hlabels thread point

def Phase.Inside (inside : Point → Prop) : Phase Point → Prop
  | running point => inside point
  | _ => False

/-- Whoever waits goes on inside. -/
def Phase.Parked (inside : Point → Prop) : Phase Point → Prop
  | asleep point | woken point => inside point
  | _ => True

@[simp] theorem Phase.inside_wake (inside : Point → Prop) (phase : Phase Point) :
    phase.wake.Inside inside ↔ phase.Inside inside := by
  cases phase <;> rfl

@[simp] theorem Phase.parked_wake (inside : Point → Prop) (phase : Phase Point) :
    phase.wake.Parked inside ↔ phase.Parked inside := by
  cases phase <;> rfl

@[simp] theorem Phase.wake_eq_running {phase : Phase Point} {point : Point} :
    phase.wake = .running point ↔ phase = .running point := by
  cases phase <;> simp [wake]

@[simp] theorem Phase.wake_ne_asleep (phase : Phase Point) (point : Point) :
    phase.wake ≠ .asleep point := by
  cases phase <;> simp [wake]

/-- The mutex belongs to the thread that is at an inner point. -/
structure Exclusive (inside : Thread → Point → Prop) (s : State Thread Point Shared) :
    Prop where
  owner : ∀ thread, s.mutex = some thread ↔ (s.phase thread).Inside (inside thread)
  parked : ∀ thread, (s.phase thread).Parked (inside thread)

namespace Exclusive

variable {inside : Thread → Point → Prop}

omit [DecidableEq Thread] in
theorem unique (hs : Exclusive inside s) {first second : Thread} {p q : Point}
    (hfirst : s.phase first = .running p) (hp : inside first p)
    (hsecond : s.phase second = .running q) (hq : inside second q) : first = second := by
  have hone : s.mutex = some first := (hs.owner first).mpr (by rw [hfirst]; exact hp)
  have htwo : s.mutex = some second := (hs.owner second).mpr (by rw [hsecond]; exact hq)
  exact Option.some.inj (hone.symm.trans htwo)

/-- One thread moves on, and the mutex changes for nobody else. -/
theorem moved (hs : Exclusive inside s) {thread : Thread} {phase : Phase Point}
    {mutex : Option Thread} (shared : Shared)
    (howner : mutex = some thread ↔ phase.Inside (inside thread))
    (hparked : phase.Parked (inside thread))
    (hothers : ∀ other, other ≠ thread → (mutex = some other ↔ s.mutex = some other)) :
    Exclusive inside
      { phase := Function.update s.phase thread phase, mutex := mutex, shared := shared } where
  owner other := by
    rcases eq_or_ne other thread with rfl | hne
    · simpa using howner
    · simpa [hne] using (hothers other hne).trans (hs.owner other)
  parked other := by
    rcases eq_or_ne other thread with rfl | hne
    · simpa using hparked
    · simpa [hne] using hs.parked other

omit [DecidableEq Thread] in
theorem owner_running (hs : Exclusive inside s) {thread : Thread} {point : Point}
    (hphase : s.phase thread = .running point) : s.mutex = some thread ↔ inside thread point := by
  rw [hs.owner thread, hphase]
  rfl

theorem moves (hlabels : Labelled code inside) (hs : Exclusive inside s)
    {action : Action Thread Answer} (hmoves : Moves code s action next) :
    Exclusive inside next := by
  cases hmoves with
  | lock thread point next _ hphase hcode hmutex =>
      have hfits : ¬ inside thread point ∧ inside thread next := hlabels.fits hcode
      exact hs.moved s.shared (iff_of_true rfl hfits.2) trivial fun other hother => by
        simp [hmutex, hother.symm]
  | unlock thread point next _ hphase hcode hmutex =>
      have hfits : inside thread point ∧ ¬ inside thread next := hlabels.fits hcode
      exact hs.moved s.shared (iff_of_false (by simp) hfits.2) trivial fun other hother => by
        simp [hmutex, hother.symm]
  | wait thread point next _ hphase hcode hmutex =>
      have hfits : inside thread point ∧ inside thread next := hlabels.fits hcode
      exact hs.moved s.shared (iff_of_false (by simp) id) hfits.2 fun other hother => by
        simp [hmutex, hother.symm]
  | notify thread point next _ hphase hcode =>
      have hfits : inside thread next ↔ inside thread point := hlabels.fits hcode
      have hawake : Exclusive inside { s with phase := fun other => (s.phase other).wake } :=
        ⟨fun other => by simpa using hs.owner other, fun other => by simpa using hs.parked other⟩
      exact hawake.moved s.shared ((hs.owner_running hphase).trans hfits.symm) trivial
        fun _ _ => Iff.rfl
  | create thread point other entry next _ hphase hcode hother =>
      have hfits : ¬ inside other entry ∧ (inside thread next ↔ inside thread point) :=
        hlabels.fits hcode
      have hne : thread ≠ other := fun hsame => by simp [hsame, hother] at hphase
      have hborn : Exclusive inside (s.goto other (.running entry)) :=
        hs.moved s.shared (iff_of_false (fun hown => by
          have hinside := (hs.owner other).mp hown
          rw [hother] at hinside
          exact hinside) hfits.1) trivial fun _ _ => Iff.rfl
      have hat : (s.goto other (.running entry)).phase thread = .running point := by
        simpa [State.goto, hne] using hphase
      exact hborn.moved s.shared ((hborn.owner_running hat).trans hfits.2.symm) trivial
        fun _ _ => Iff.rfl
  | compute thread point effect goto answer hphase hcode =>
      have hfits : ∀ answer shared, inside thread (goto answer shared) ↔ inside thread point :=
        hlabels.fits hcode
      exact hs.moved (effect answer s.shared)
        ((hs.owner_running hphase).trans (hfits answer s.shared).symm) trivial fun _ _ => Iff.rfl
  | join thread point other next final _ hphase hcode hother hfinal =>
      have hfits : inside thread next ↔ inside thread point := hlabels.fits hcode
      exact hs.moved s.shared ((hs.owner_running hphase).trans hfits.symm) trivial
        fun _ _ => Iff.rfl
  | resume thread point _ hphase hmutex =>
      have hinside := hs.parked thread
      rw [hphase] at hinside
      exact hs.moved s.shared (iff_of_true rfl hinside) trivial fun other hother => by
        simp [hmutex, hother.symm]
  | spurious thread point hphase =>
      have hinside := hs.parked thread
      have houter := hs.owner thread
      rw [hphase] at hinside houter
      exact hs.moved s.shared houter hinside fun _ _ => Iff.rfl

end Exclusive

/-! ## No wake-up is lost -/

/-- What a program has to keep so that nobody sleeps on a true condition. At
`blocked` points a thread knows the condition to be false; at `announcing` points
it is on its way to a notification. -/
structure Protocol (inside : Thread → Point → Prop) (ready : Shared → Prop) where
  blocked : Thread → Point → Prop
  announcing : Thread → Point → Prop
  blocked_inside : ∀ thread point, blocked thread point → inside thread point

namespace Protocol

variable {inside : Thread → Point → Prop} {ready : Shared → Prop}
  (protocol : Protocol inside ready)

/-- An instruction that respects the protocol. The condition becomes true only
inside and only on the way to a notification. -/
def Respects (thread : Thread) (point : Point) :
    Instruction Thread Point Shared Answer → Prop
  | .lock next | .unlock next =>
      ¬ protocol.blocked thread next ∧ ¬ protocol.announcing thread point
  | .wait next => protocol.blocked thread point ∧ ¬ protocol.blocked thread next ∧
      ¬ protocol.announcing thread point
  | .notify next => protocol.blocked thread next → protocol.blocked thread point
  | .create other entry next => ¬ protocol.blocked other entry ∧
      (protocol.blocked thread next → protocol.blocked thread point) ∧
      (protocol.announcing thread point → protocol.announcing thread next)
  | .compute effect goto => ∀ answer shared,
      (protocol.blocked thread (goto answer shared) →
        (protocol.blocked thread point → ¬ ready shared) → ¬ ready (effect answer shared)) ∧
      (protocol.announcing thread point → protocol.announcing thread (goto answer shared)) ∧
      (ready (effect answer shared) → ready shared ∨
        inside thread point ∧ protocol.announcing thread (goto answer shared))
  | .join _ next => (protocol.blocked thread next → protocol.blocked thread point) ∧
      (protocol.announcing thread point → protocol.announcing thread next)
  | .stop => True

/-- Nobody blocked while the condition is true, and nobody asleep then unless a
notification is on its way. -/
structure Attended (s : State Thread Point Shared) : Prop where
  blocked : ∀ thread point, s.phase thread = .running point → protocol.blocked thread point →
    ¬ ready s.shared
  asleep : ∀ thread point, s.phase thread = .asleep point → ready s.shared →
    ∃ other at_, s.phase other = .running at_ ∧ protocol.announcing other at_
  parked : ∀ thread, (s.phase thread).Parked fun point => ¬ protocol.blocked thread point

namespace Attended

variable {protocol}

/-- One thread moves on. If it makes the condition true, it announces that, and it
does not do so while another thread relies on the opposite. -/
theorem moved (hs : protocol.Attended s) {thread : Thread} {phase : Phase Point}
    (mutex : Option Thread) {shared : Shared}
    (hblocked : ∀ point, phase = .running point → protocol.blocked thread point → ¬ ready shared)
    (hasleep : ∀ point, phase = .asleep point → ¬ ready shared)
    (hparked : phase.Parked fun point => ¬ protocol.blocked thread point)
    (hannouncing : ∀ point, s.phase thread = .running point → protocol.announcing thread point →
      ∃ point, phase = .running point ∧ protocol.announcing thread point)
    (hready : ready shared → ready s.shared ∨
      (∃ point, phase = .running point ∧ protocol.announcing thread point) ∧
      ∀ other point, other ≠ thread → s.phase other = .running point →
        ¬ protocol.blocked other point) :
    protocol.Attended
      { phase := Function.update s.phase thread phase, mutex := mutex, shared := shared } where
  blocked other point hphase hat hnow := by
    rcases eq_or_ne other thread with rfl | hne
    · exact hblocked point (by simpa using hphase) hat hnow
    · have hbefore : s.phase other = .running point := by simpa [hne] using hphase
      rcases hready hnow with hold | ⟨-, hfree⟩
      · exact hs.blocked other point hbefore hat hold
      · exact hfree other point hne hbefore hat
  asleep other point hphase hnow := by
    have hself : (∃ point, phase = .running point ∧ protocol.announcing thread point) →
        ∃ other at_, Function.update s.phase thread phase other = .running at_ ∧
          protocol.announcing other at_ := by
      rintro ⟨at_, hrunning, hat⟩
      exact ⟨thread, at_, by simpa using hrunning, hat⟩
    rcases eq_or_ne other thread with rfl | hne
    · exact absurd hnow (hasleep point (by simpa using hphase))
    · rcases hready hnow with hold | ⟨hannounced, -⟩
      · obtain ⟨announcer, at_, hrunning, hat⟩ :=
          hs.asleep other point (by simpa [hne] using hphase) hold
        rcases eq_or_ne announcer thread with rfl | hother
        · exact hself (hannouncing at_ hrunning hat)
        · exact ⟨announcer, at_, by simpa [hother] using hrunning, hat⟩
      · exact hself hannounced
  parked other := by
    rcases eq_or_ne other thread with rfl | hne
    · simpa using hparked
    · simpa [hne] using hs.parked other

theorem moves (hrespects : ∀ thread point, protocol.Respects thread point (code thread point))
    (hexclusive : Exclusive inside s) (hs : protocol.Attended s) {action : Action Thread Answer}
    (hmoves : Moves code s action next) :
    protocol.Attended next := by
  cases hmoves with
  | lock thread point next _ hphase hcode hmutex =>
      have hcare := hrespects thread point
      rw [hcode] at hcare
      refine hs.moved (some thread) (fun at_ hat hblocked => ?_) (by simp)
        trivial (fun at_ hat hannouncing => ?_) Or.inl
      · cases hat
        exact absurd hblocked hcare.1
      · cases hphase.symm.trans hat
        exact absurd hannouncing hcare.2
  | unlock thread point next _ hphase hcode hmutex =>
      have hcare := hrespects thread point
      rw [hcode] at hcare
      refine hs.moved none (fun at_ hat hblocked => ?_) (by simp)
        trivial (fun at_ hat hannouncing => ?_) Or.inl
      · cases hat
        exact absurd hblocked hcare.1
      · cases hphase.symm.trans hat
        exact absurd hannouncing hcare.2
  | wait thread point next _ hphase hcode hmutex =>
      have hcare := hrespects thread point
      rw [hcode] at hcare
      refine hs.moved none (by simp) (fun at_ _ => hs.blocked thread point hphase hcare.1)
        hcare.2.1 (fun at_ hat hannouncing => ?_) Or.inl
      cases hphase.symm.trans hat
      exact absurd hannouncing hcare.2.2
  | notify thread point next _ hphase hcode =>
      have hcare := hrespects thread point
      rw [hcode] at hcare
      refine ⟨fun other at_ hat hblocked => ?_, fun other at_ hat => ?_, fun other => ?_⟩
      · rcases eq_or_ne other thread with rfl | hne
        · have hnext : next = at_ := by simpa using hat
          exact hs.blocked other point hphase (hcare (hnext ▸ hblocked))
        · exact hs.blocked other at_ (by simpa [hne] using hat) hblocked
      · rcases eq_or_ne other thread with rfl | hne
        · simp at hat
        · simp [hne] at hat
      · rcases eq_or_ne other thread with rfl | hne
        · simp [Phase.Parked]
        · simpa [hne] using hs.parked other
  | create thread point other entry next _ hphase hcode hother =>
      have hcare := hrespects thread point
      rw [hcode] at hcare
      have hne : thread ≠ other := fun hsame => by simp [hsame, hother] at hphase
      have hborn : protocol.Attended (s.goto other (.running entry)) := by
        refine hs.moved s.mutex (fun at_ hat hblocked => ?_) (by simp)
          trivial (fun at_ hat => ?_) Or.inl
        · cases hat
          exact absurd hblocked hcare.1
        · cases hother.symm.trans hat
      have hat : (s.goto other (.running entry)).phase thread = .running point := by
        simpa [State.goto, hne] using hphase
      refine hborn.moved s.mutex (fun at_ hnext hblocked => ?_) (by simp)
        trivial (fun at_ hnow hannouncing => ?_) Or.inl
      · cases hnext
        exact hs.blocked thread point hphase (hcare.2.1 hblocked)
      · cases hat.symm.trans hnow
        exact ⟨next, rfl, hcare.2.2 hannouncing⟩
  | compute thread point effect goto answer hphase hcode =>
      have hcare := hrespects thread point
      rw [hcode] at hcare
      obtain ⟨hblocked, hannouncing, hready⟩ := hcare answer s.shared
      refine hs.moved s.mutex (fun at_ hat hthere => ?_) (by simp) trivial
        (fun at_ hat hthere => ?_) fun hnow => (hready hnow).imp_right fun hinside => ?_
      · cases hat
        exact hblocked hthere (hs.blocked thread point hphase)
      · cases hphase.symm.trans hat
        exact ⟨_, rfl, hannouncing hthere⟩
      · refine ⟨⟨_, rfl, hinside.2⟩, fun other at_ hne hat hthere => hne ?_⟩
        exact hexclusive.unique hat (protocol.blocked_inside other at_ hthere) hphase hinside.1
  | join thread point other next final _ hphase hcode hother hfinal =>
      have hcare := hrespects thread point
      rw [hcode] at hcare
      refine hs.moved s.mutex (fun at_ hnext hblocked => ?_) (by simp)
        trivial (fun at_ hnow hannouncing => ?_) Or.inl
      · cases hnext
        exact hs.blocked thread point hphase (hcare.1 hblocked)
      · cases hphase.symm.trans hnow
        exact ⟨next, rfl, hcare.2 hannouncing⟩
  | resume thread point _ hphase hmutex =>
      have hfree := hs.parked thread
      rw [hphase] at hfree
      refine hs.moved (some thread) (fun at_ hat hblocked => ?_) (by simp) trivial
        (fun at_ hat => ?_) Or.inl
      · cases hat
        exact absurd hblocked hfree
      · cases hphase.symm.trans hat
  | spurious thread point hphase =>
      have hfree := hs.parked thread
      rw [hphase] at hfree
      refine hs.moved s.mutex (by simp) (by simp) hfree (fun at_ hat => ?_) Or.inl
      cases hphase.symm.trans hat

end Attended

end Protocol

/-! ## Where a program can be stuck -/

/-- Nobody can run, whatever the outside world answers. -/
def Stuck (code : Thread → Point → Instruction Thread Point Shared Answer)
    (s : State Thread Point Shared) : Prop :=
  ∀ thread answer, s.step code (.run thread answer) = none

/-- Where a thread of a stuck program is when the mutex is free. -/
inductive Rests (code : Thread → Point → Instruction Thread Point Shared Answer)
    (s : State Thread Point Shared) (thread : Thread) : Prop
  | unborn (hphase : s.phase thread = .unborn)
  | asleep (point) (hphase : s.phase thread = .asleep point)
  | stopped (point) (hphase : s.phase thread = .running point) (hcode : code thread point = .stop)
  | joining (point other next) (hphase : s.phase thread = .running point)
      (hcode : code thread point = .join other next)
  | creating (point other entry next) (hphase : s.phase thread = .running point)
      (hcode : code thread point = .create other entry next) (hborn : s.phase other ≠ .unborn)

variable {inside : Thread → Point → Prop}

/-- In a stuck program every thread rests or waits for the mutex. -/
theorem Stuck.rests [Nonempty Answer] (hlabels : Labelled code inside)
    (hs : Exclusive inside s) (hstuck : Stuck code s) (thread : Thread) :
    Rests code s thread ∨ s.mutex ≠ none ∧ s.mutex ≠ some thread := by
  obtain ⟨answer⟩ := ‹Nonempty Answer›
  have hnone := hstuck thread answer
  rw [State.step] at hnone
  cases hphase : s.phase thread with
  | unborn => exact .inl (.unborn hphase)
  | asleep point => exact .inl (.asleep point hphase)
  | woken point =>
      have hnot : s.mutex ≠ some thread := fun hown => by
        have hinside := (hs.owner thread).mp hown
        rw [hphase] at hinside
        exact hinside
      rw [hphase] at hnone
      refine .inr ⟨fun hfree => ?_, hnot⟩
      simp [hfree] at hnone
  | running point =>
      have howner := hs.owner_running hphase
      have hfits := hlabels thread point
      rw [hphase] at hnone
      cases hcode : code thread point with
      | lock next =>
          simp only [hcode, State.perform, Fits] at hnone hfits
          refine .inr ⟨fun hfree => by simp [hfree] at hnone, fun hown => ?_⟩
          exact hfits.1 (howner.mp hown)
      | unlock next =>
          simp only [hcode, State.perform, Fits] at hnone hfits
          simp [howner.mpr hfits.1] at hnone
      | wait next =>
          simp only [hcode, State.perform, Fits] at hnone hfits
          simp [howner.mpr hfits.1] at hnone
      | notify next => simp [hcode, State.perform] at hnone
      | create other entry next =>
          refine .inl (.creating point other entry next hphase hcode fun hunborn => ?_)
          simp [hcode, State.perform, hunborn] at hnone
      | compute effect goto => simp [hcode, State.perform] at hnone
      | join other next => exact .inl (.joining point other next hphase hcode)
      | stop => exact .inl (.stopped point hphase hcode)

/-- The mutex of a stuck program is free when no thread ends, joins or creates
the same thread twice inside. -/
theorem Stuck.mutex_eq_none [Nonempty Answer] (hlabels : Labelled code inside)
    (hs : Exclusive inside s) (hstuck : Stuck code s)
    (hbusy : ∀ thread point, s.phase thread = .running point → inside thread point →
      code thread point ≠ .stop ∧ (∀ other next, code thread point ≠ .join other next) ∧
      ∀ other entry next, code thread point = .create other entry next → s.phase other = .unborn) :
    s.mutex = none := by
  by_contra hheld
  obtain ⟨thread, hown⟩ := Option.ne_none_iff_exists'.mp hheld
  have hinside := (hs.owner thread).mp hown
  rcases Stuck.rests hlabels hs hstuck thread with hrests | hwaits
  · cases hrests with
    | unborn hphase | asleep point hphase =>
        rw [hphase] at hinside
        exact hinside
    | stopped point hphase hcode =>
        rw [hphase] at hinside
        exact (hbusy thread point hphase hinside).1 hcode
    | joining point other next hphase hcode =>
        rw [hphase] at hinside
        exact (hbusy thread point hphase hinside).2.1 other next hcode
    | creating point other entry next hphase hcode hborn =>
        rw [hphase] at hinside
        exact hborn ((hbusy thread point hphase hinside).2.2 other entry next hcode)
  · exact hwaits.2 hown

end ConditionVariable
