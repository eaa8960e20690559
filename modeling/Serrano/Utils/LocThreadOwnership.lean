import Mathlib.Tactic.SplitIfs
import Serrano.Utils.LocThread

/-! # Who deletes a delegate and its runnable

The client and the spawned thread each have a share in a delegate until they have
counted themselves out, and the one that is last deletes it. The runnable is deleted
by its thread, which must have found it before the client clears `mRunnable`.
-/

namespace Serrano.Utils

/-- One side's share in a delegate: it is counted, or it is about to delete. -/
inductive Share
  | held
  | deleting
  | none
  deriving DecidableEq

namespace Share

def refs : Share → Int
  | held => 1
  | deleting | none => 0

def deletes : Share → Nat
  | deleting => 1
  | held | none => 0

theorem refs_nonneg (share : Share) : 0 ≤ share.refs := by
  cases share <;> decide

end Share

/-- What a side in `destroy` still has. -/
def DestroyPoint.share : DestroyPoint → Share
  | test | decrement => .held
  | delete => .deleting

def ThreadPoint.share : ThreadPoint → Share
  | destroy point => point.share
  | ended => .none
  | begin | testPrerun | prerun | testRun | run | testPostrun | postrun | clear
  | deleteRunnable => .held

/-- The thread is past the deletion of its runnable. -/
def ThreadPoint.pastRunnable : ThreadPoint → Bool
  | destroy _ | ended => true
  | begin | testPrerun | prerun | testRun | run | testPostrun | postrun | clear
  | deleteRunnable => false

def Spawned.share (sp : Spawned) : Share := sp.thread.elim .none ThreadPoint.share

/-- The client's share in the delegate of a thread that it is about. -/
def ClientPoint.share : ClientPoint → Share
  | idle | gone => .none
  | construct _ | isRunning _ | bye _ | stop .. | clear .. | join .. | joining .. => .held
  | destroy point .. => point.share
  | returned _ _ mThread => if mThread.isSome then .held else .none

/-- The client is in a `start` that returns false. -/
def ClientPoint.fails : ClientPoint → Bool
  | idle | gone | construct _ | isRunning _ | bye _ => false
  | stop _ method | clear _ method | join _ method | joining _ method
  | destroy _ _ method => method = .start
  | returned _ method mThread => method = .start && mThread.isNone

/-- The client clears `mRunnable` after the thread has read it, and looks at it in `create`
before the thread clears it. -/
def ClientPoint.InTime (sp : Spawned) : ClientPoint → Prop
  | clear .. => sp.thread ≠ some .begin
  | isRunning _ => sp.thread.isSome = true → sp.delegate.mRunnable = true
  | idle | gone | construct _ | bye _ | stop .. | join .. | joining .. | destroy ..
  | returned .. => True

instance ClientPoint.decidableInTime (sp : Spawned) :
    (point : ClientPoint) → Decidable (point.InTime sp)
  | clear .. => inferInstanceAs (Decidable (sp.thread ≠ some .begin))
  | isRunning _ => inferInstanceAs
      (Decidable (sp.thread.isSome = true → sp.delegate.mRunnable = true))
  | idle | gone | construct _ | bye _ | stop .. | join .. | joining .. | destroy ..
  | returned .. => .isTrue trivial

/-- The client's share in the delegate of each thread. -/
def LocThread.share (s : LocThread) (i : Nat) : Share :=
  match s.client.thread with
  | some j => if j = i then s.client.share else .none
  | none => if s.mThread = some i then .held else .none

/-- The count is that of the sides that hold the delegate, and at zero it is deleted. -/
structure Counted (mine other : Share) (d : LocThreadDelegate) : Prop where
  refs : d.mRefCount = mine.refs + other.refs
  deletions : d.deletions + mine.deletes + other.deletes = if d.mRefCount = 0 then 1 else 0
  used : d.usedDeleted = false

namespace Counted

variable {mine other : Share} {d : LocThreadDelegate}

theorem symm (h : Counted mine other d) : Counted other mine d := by
  refine ⟨?_, ?_, h.used⟩
  · rw [h.refs, Int.add_comm]
  · rw [← h.deletions]
    omega

/-- A side that still has a share finds the delegate there. -/
theorem deletions_eq_zero (h : Counted mine other d) (hmine : mine ≠ .none) : d.deletions = 0 := by
  have hrefs := h.refs
  have hdeletions := h.deletions
  have hother := other.refs_nonneg
  cases mine with
  | held =>
      have hpos : d.mRefCount ≠ 0 := by
        simp only [Share.refs] at hrefs hother
        omega
      rw [if_neg hpos] at hdeletions
      omega
  | deleting =>
      have hle : (if d.mRefCount = 0 then 1 else 0) ≤ 1 := by split_ifs <;> omega
      rw [← hdeletions] at hle
      simp only [Share.deletes] at hle
      omega
  | none => exact absurd rfl hmine

theorem access_eq (h : Counted mine other d) (hmine : mine ≠ .none) : d.access = d := by
  have hused : (d.usedDeleted || decide (0 < d.deletions)) = d.usedDeleted := by
    rw [h.deletions_eq_zero hmine]
    exact Bool.or_false d.usedDeleted
  rw [LocThreadDelegate.access, hused]

theorem access (h : Counted mine other d) (hmine : mine ≠ .none) : Counted mine other d.access := by
  rw [h.access_eq hmine]
  exact h

/-- The two flags are not counted. -/
theorem setRunnable (h : Counted mine other d) (value : Bool) :
    Counted mine other { d with mRunnable := value } :=
  ⟨h.refs, h.deletions, h.used⟩

theorem setJoinable (h : Counted mine other d) (value : Bool) :
    Counted mine other { d with mJoinable := value } :=
  ⟨h.refs, h.deletions, h.used⟩

/-- A step of `destroy` takes the share of the side that performs it. -/
theorem destroy {point : DestroyPoint} (h : Counted point.share other d) :
    Counted ((point.step d).2.elim .none DestroyPoint.share) other (point.step d).1 := by
  have hrefs := h.refs
  have hdeletions := h.deletions
  have hother := other.refs_nonneg
  cases point with
  | test =>
      have hpos : d.mRefCount > 0 := by
        change d.mRefCount = 1 + other.refs at hrefs
        omega
      rw [DestroyPoint.step, h.access_eq Share.noConfusion, if_pos hpos]
      exact h
  | decrement =>
      change d.mRefCount = 1 + other.refs at hrefs
      have hne : d.mRefCount ≠ 0 := by omega
      rw [if_neg hne] at hdeletions
      have hafter : d.mRefCount - 1 = other.refs := by omega
      rw [DestroyPoint.step, h.access_eq Share.noConfusion]
      by_cases hlast : d.mRefCount = 1
      · rw [if_pos hlast]
        refine ⟨hafter.trans (Int.zero_add _).symm, ?_, h.used⟩
        change d.deletions + 0 + other.deletes = 0 at hdeletions
        change d.deletions + 1 + other.deletes = if d.mRefCount - 1 = 0 then 1 else 0
        rw [hlast, if_pos (Int.sub_self 1)]
        omega
      · have hrest : d.mRefCount - 1 ≠ 0 := by omega
        rw [if_neg hlast]
        refine ⟨hafter.trans (Int.zero_add _).symm, ?_, h.used⟩
        rw [if_neg hrest]
        exact hdeletions
  | delete =>
      rw [DestroyPoint.step, h.access_eq Share.noConfusion]
      exact ⟨hrefs, hdeletions, h.used⟩

end Counted

/-- The runnable is deleted by its thread and not run after that, and a thread that has
not begun will find it. -/
structure RunnableKept (sp : Spawned) : Prop where
  ran : sp.ranDeleted = false
  deletions : sp.runnableDeletions = if sp.thread.any ThreadPoint.pastRunnable then 1 else 0
  waiting : sp.thread = some .begin → sp.delegate.mRunnable = true

namespace Spawned

variable {sp next : Spawned} {again : Bool} {client : Share}

theorem share_eq {point : ThreadPoint} (hthread : sp.thread = some point) :
    sp.share = point.share := by
  rw [share, hthread, Option.elim_some]

/-- Looking at the delegate changes nothing in it, and going on keeps the share. -/
theorem counted_look {point : ThreadPoint} (h : Counted client .held sp.delegate)
    (hpoint : point.share = .held) :
    Counted client (sp.look point).share (sp.look point).delegate := by
  have hdelegate : (sp.look point).delegate = sp.delegate := h.symm.access_eq Share.noConfusion
  rw [hdelegate, share_eq rfl, hpoint]
  exact h

theorem counted_call {point : ThreadPoint} (h : Counted client .held sp.delegate)
    (hpoint : point.share = .held) :
    Counted client (sp.call point).share (sp.call point).delegate := by
  rw [share_eq rfl, hpoint]
  exact h

/-- The thread keeps the delegate counted. -/
theorem counted_threadMain (hcounted : Counted client sp.share sp.delegate)
    (hstep : sp.threadMain again = some next) : Counted client next.share next.delegate := by
  unfold threadMain at hstep
  cases hthread : sp.thread with
  | none =>
      rw [hthread] at hstep
      cases hstep
  | some point =>
      rw [share_eq hthread] at hcounted
      rw [hthread] at hstep
      cases point with
      | begin | testPrerun | testRun | testPostrun =>
          obtain rfl := Option.some.inj hstep
          cases sp.delegate.mRunnable <;> exact counted_look hcounted rfl
      | prerun | postrun | deleteRunnable =>
          obtain rfl := Option.some.inj hstep
          exact counted_call hcounted rfl
      | run =>
          obtain rfl := Option.some.inj hstep
          cases again <;> exact counted_call hcounted rfl
      | clear =>
          obtain rfl := Option.some.inj hstep
          exact ((hcounted.symm.access Share.noConfusion).setRunnable false).symm
      | destroy step =>
          obtain rfl := Option.some.inj hstep
          have hafter := hcounted.symm.destroy.symm
          rw [share_eq rfl]
          cases hrest : (step.step sp.delegate).2 with
          | none => rw [hrest] at hafter; exact hafter
          | some rest => rw [hrest] at hafter; exact hafter
      | ended => cases hstep

/-- The runnable is still there when it is called. -/
theorem ranDeleted_call (hran : sp.ranDeleted = false) (hdeletions : sp.runnableDeletions = 0) :
    (sp.ranDeleted || decide (0 < sp.runnableDeletions)) = false := by
  rw [hran, hdeletions]
  rfl

/-- The thread deletes the runnable that it has found once, after its last use. -/
theorem kept_threadMain (hkept : RunnableKept sp) (hstep : sp.threadMain again = some next) :
    RunnableKept next := by
  obtain ⟨hran, hdeletions, hwaiting⟩ := hkept
  unfold threadMain at hstep
  cases hthread : sp.thread with
  | none =>
      rw [hthread] at hstep
      cases hstep
  | some point =>
      rw [hthread, Option.any_some] at hdeletions
      rw [hthread] at hstep
      cases point with
      | begin =>
          obtain rfl := Option.some.inj hstep
          rw [hwaiting hthread]
          exact ⟨hran, hdeletions, fun hbegin => by cases hbegin⟩
      | testPrerun | testRun | testPostrun =>
          obtain rfl := Option.some.inj hstep
          cases sp.delegate.mRunnable <;>
            exact ⟨hran, hdeletions, fun hbegin => by cases hbegin⟩
      | prerun | postrun =>
          obtain rfl := Option.some.inj hstep
          exact ⟨ranDeleted_call hran hdeletions, hdeletions, fun hbegin => by cases hbegin⟩
      | run =>
          obtain rfl := Option.some.inj hstep
          cases again <;>
            exact ⟨ranDeleted_call hran hdeletions, hdeletions, fun hbegin => by cases hbegin⟩
      | clear =>
          obtain rfl := Option.some.inj hstep
          exact ⟨hran, hdeletions, fun hbegin => by cases hbegin⟩
      | deleteRunnable =>
          obtain rfl := Option.some.inj hstep
          refine ⟨ranDeleted_call hran hdeletions, ?_, fun hbegin => by cases hbegin⟩
          change sp.runnableDeletions + 1 = 1
          rw [hdeletions]
          rfl
      | destroy step =>
          obtain rfl := Option.some.inj hstep
          cases (step.step sp.delegate).2 <;>
            exact ⟨hran, hdeletions, fun hbegin => by cases hbegin⟩
      | ended => cases hstep

end Spawned

namespace ClientPoint

variable {sp : Spawned} {point next : ClientPoint} {d : LocThreadDelegate}

/-- The client keeps the delegate counted. -/
theorem counted_step (hcounted : Counted point.share sp.share sp.delegate)
    (hstep : point.step sp = some (d, next)) : Counted next.share sp.share d := by
  cases point with
  | idle | gone | returned => cases hstep
  | construct i =>
      obtain ⟨rfl, rfl⟩ := Prod.mk.inj (Option.some.inj hstep)
      exact hcounted.access Share.noConfusion
  | isRunning i =>
      obtain ⟨rfl, rfl⟩ := Prod.mk.inj (Option.some.inj hstep)
      cases sp.delegate.mRunnable <;> exact hcounted.access Share.noConfusion
  | bye i =>
      obtain ⟨rfl, rfl⟩ := Prod.mk.inj (Option.some.inj hstep)
      cases sp.delegate.mJoinable <;> exact hcounted.access Share.noConfusion
  | stop i method =>
      obtain ⟨rfl, rfl⟩ := Prod.mk.inj (Option.some.inj hstep)
      cases sp.delegate.mRunnable <;> exact hcounted.access Share.noConfusion
  | clear i method =>
      obtain ⟨rfl, rfl⟩ := Prod.mk.inj (Option.some.inj hstep)
      exact (hcounted.access Share.noConfusion).setRunnable false
  | join i method =>
      obtain ⟨rfl, rfl⟩ := Prod.mk.inj (Option.some.inj hstep)
      cases sp.delegate.mJoinable <;> exact (hcounted.access Share.noConfusion).setJoinable false
  | joining i method =>
      rw [step] at hstep
      split_ifs at hstep
      obtain ⟨rfl, rfl⟩ := Prod.mk.inj (Option.some.inj hstep)
      exact hcounted
  | destroy point i method =>
      obtain ⟨rfl, rfl⟩ := Prod.mk.inj (Option.some.inj hstep)
      have hafter := hcounted.destroy
      cases hrest : (point.step sp.delegate).2 with
      | none => rw [hrest] at hafter; exact hafter
      | some rest => rw [hrest] at hafter; exact hafter

/-- The client goes on about the same thread, and clears `mRunnable` only in `stop`. -/
theorem thread_step (hstep : point.step sp = some (d, next)) :
    next.thread = point.thread ∧
      ((∃ i method, point = .clear i method) ∨ d.mRunnable = sp.delegate.mRunnable) := by
  cases point with
  | idle | gone | returned => cases hstep
  | construct i =>
      obtain ⟨rfl, rfl⟩ := Prod.mk.inj (Option.some.inj hstep)
      exact ⟨rfl, .inr rfl⟩
  | isRunning i =>
      obtain ⟨rfl, rfl⟩ := Prod.mk.inj (Option.some.inj hstep)
      refine ⟨?_, .inr rfl⟩
      cases sp.delegate.mRunnable <;> rfl
  | bye i =>
      obtain ⟨rfl, rfl⟩ := Prod.mk.inj (Option.some.inj hstep)
      refine ⟨?_, .inr rfl⟩
      cases sp.delegate.mJoinable <;> rfl
  | stop i method =>
      obtain ⟨rfl, rfl⟩ := Prod.mk.inj (Option.some.inj hstep)
      refine ⟨?_, .inr rfl⟩
      cases sp.delegate.mRunnable <;> rfl
  | clear i method =>
      obtain ⟨rfl, rfl⟩ := Prod.mk.inj (Option.some.inj hstep)
      exact ⟨rfl, .inl ⟨i, method, rfl⟩⟩
  | join i method =>
      obtain ⟨rfl, rfl⟩ := Prod.mk.inj (Option.some.inj hstep)
      refine ⟨?_, .inr rfl⟩
      cases sp.delegate.mJoinable <;> rfl
  | joining i method =>
      rw [step] at hstep
      split_ifs at hstep
      obtain ⟨rfl, rfl⟩ := Prod.mk.inj (Option.some.inj hstep)
      exact ⟨rfl, .inr rfl⟩
  | destroy point i method =>
      obtain ⟨rfl, rfl⟩ := Prod.mk.inj (Option.some.inj hstep)
      have hsame : (point.step sp.delegate).1.mRunnable = sp.delegate.mRunnable := by
        cases point <;> rfl
      cases (point.step sp.delegate).2 <;> exact ⟨rfl, .inr hsame⟩

/-- Only a `start` that finds `mRunnable` returns with a delegate, and only one that does
not find it fails. -/
theorem outcome_step (hstep : point.step sp = some (d, next)) :
    (∀ i method mThread, next = .returned i method (some mThread) →
      mThread = i ∧ method = .start) ∧
    (next.fails = true →
      point.fails = true ∨ ∃ i, point = .isRunning i ∧ sp.delegate.mRunnable = false) := by
  cases point with
  | idle | gone | returned => cases hstep
  | construct i =>
      obtain ⟨rfl, rfl⟩ := Prod.mk.inj (Option.some.inj hstep)
      exact ⟨(fun j method mThread h => by cases h), (fun h => by cases h)⟩
  | isRunning i =>
      obtain ⟨rfl, rfl⟩ := Prod.mk.inj (Option.some.inj hstep)
      cases hrunnable : sp.delegate.mRunnable with
      | false => exact ⟨(fun j method mThread h => by cases h), fun _ => .inr ⟨i, rfl, rfl⟩⟩
      | true =>
          refine ⟨fun j method mThread h => ?_, (fun h => by cases h)⟩
          cases h
          exact ⟨rfl, rfl⟩
  | bye i =>
      obtain ⟨rfl, rfl⟩ := Prod.mk.inj (Option.some.inj hstep)
      cases sp.delegate.mJoinable <;>
        exact ⟨(fun j method mThread h => by cases h), (fun h => by cases h)⟩
  | stop i method =>
      obtain ⟨rfl, rfl⟩ := Prod.mk.inj (Option.some.inj hstep)
      cases sp.delegate.mRunnable <;> exact ⟨(fun j method mThread h => by cases h), .inl⟩
  | clear i method =>
      obtain ⟨rfl, rfl⟩ := Prod.mk.inj (Option.some.inj hstep)
      exact ⟨(fun j method mThread h => by cases h), .inl⟩
  | join i method =>
      obtain ⟨rfl, rfl⟩ := Prod.mk.inj (Option.some.inj hstep)
      cases sp.delegate.mJoinable <;> exact ⟨(fun j method mThread h => by cases h), .inl⟩
  | joining i method =>
      rw [step] at hstep
      split_ifs at hstep
      obtain ⟨rfl, rfl⟩ := Prod.mk.inj (Option.some.inj hstep)
      exact ⟨(fun j method mThread h => by cases h), .inl⟩
  | destroy point i method =>
      obtain ⟨rfl, rfl⟩ := Prod.mk.inj (Option.some.inj hstep)
      cases (point.step sp.delegate).2 with
      | none =>
          refine ⟨(fun j method mThread h => by cases h), fun hfails => .inl ?_⟩
          cases method <;> first | rfl | cases hfails
      | some rest => exact ⟨(fun j method mThread h => by cases h), .inl⟩

/-- The client leaves the runnable alone, but it must not clear `mRunnable` before the
thread has begun. -/
theorem kept_step (hkept : RunnableKept sp)
    (hbegun : ∀ i method, point = .clear i method → sp.thread ≠ some .begin)
    (hstep : point.step sp = some (d, next)) : RunnableKept { sp with delegate := d } := by
  refine ⟨hkept.ran, hkept.deletions, fun hwaiting => ?_⟩
  rcases (thread_step hstep).2 with ⟨i, method, hclear⟩ | hsame
  · exact absurd hwaiting (hbegun i method hclear)
  · exact hsame.trans (hkept.waiting hwaiting)

end ClientPoint

namespace LocThread

/-- What an action does. -/
inductive Performs (s : LocThread) : LocThreadAction → LocThread → Prop
  | refuse (runnable joinable created : Bool) :
      Performs s (.start runnable joinable created)
        { s with started := s.started ++ [⟨false, false⟩] }
  | create (runnable joinable created : Bool) (hidle : s.client = .idle)
      (hmThread : s.mThread = none) :
      Performs s (.start runnable joinable created) (s.create joinable created)
  | skip (action : LocThreadAction) (point : ClientPoint) (hidle : s.client = .idle)
      (hmThread : s.mThread = none) (hpoint : point = .idle ∨ point = .gone) :
      Performs s action { s with client := point }
  | enter (action : LocThreadAction) (i : Nat) (point : ClientPoint) (hidle : s.client = .idle)
      (hmThread : s.mThread = some i) (hpoint : point = .stop i .stop ∨ point = .bye i) :
      Performs s action { s with client := point }
  | finish (i : Nat) (method : LocThreadMethod) (mThread : Option Nat)
      (hclient : s.client = .returned i method mThread) :
      Performs s .client (s.finish i method mThread)
  | client (i : Nat) (sp : Spawned) (d : LocThreadDelegate) (point : ClientPoint)
      (hthread : s.client.thread = some i) (hspawned : s.spawned i = some sp)
      (hstep : s.client.step sp = some (d, point)) :
      Performs s .client { s.setSpawned i { sp with delegate := d } with client := point }
  | thread (i : Nat) (again : Bool) (sp next : Spawned) (hspawned : s.spawned i = some sp)
      (hstep : sp.threadMain again = some next) :
      Performs s (.thread i again) (s.setSpawned i next)

theorem performs_of_clientStep {s next : LocThread} (hstep : s.clientStep = some next) :
    Performs s .client next := by
  unfold clientStep at hstep
  split at hstep
  · rename_i i method mThread hclient
    obtain rfl := Option.some.inj hstep
    exact .finish i method mThread hclient
  · obtain ⟨i, hthread, hrest⟩ := Option.bind_eq_some_iff.mp hstep
    obtain ⟨sp, hspawned, hrest⟩ := Option.bind_eq_some_iff.mp hrest
    obtain ⟨⟨d, point⟩, hpoint, rfl⟩ := Option.map_eq_some_iff.mp hrest
    exact .client i sp d point hthread hspawned hpoint

theorem performs_of_idle {s : LocThread} (action : LocThreadAction) {absent : ClientPoint}
    {present : Nat → ClientPoint} (hidle : s.client = .idle)
    (habsent : absent = .idle ∨ absent = .gone)
    (hpresent : ∀ i, present i = .stop i .stop ∨ present i = .bye i) :
    Performs s action { s with client := s.mThread.elim absent present } := by
  obtain hmThread | ⟨i, hmThread⟩ := Option.eq_none_or_eq_some s.mThread
  · have helim : s.mThread.elim absent present = absent := by rw [hmThread, Option.elim_none]
    rw [helim]
    exact .skip action absent hidle hmThread habsent
  · have helim : s.mThread.elim absent present = present i := by rw [hmThread, Option.elim_some]
    rw [helim]
    exact .enter action i (present i) hidle hmThread (hpresent i)

theorem performs_of_step {s next : LocThread} {action : LocThreadAction}
    (hstep : s.step action = some next) : Performs s action next := by
  cases action with
  | start runnable joinable created =>
      rw [step] at hstep
      split_ifs at hstep with hidle hrefuse
      · exact Option.some.inj hstep ▸ .refuse runnable joinable created
      · rw [Bool.or_eq_true, not_or, Bool.not_eq_true, Option.isSome_eq_false_iff,
          Option.isNone_iff_eq_none] at hrefuse
        exact Option.some.inj hstep ▸
          .create runnable joinable created (Classical.not_not.mp hidle) hrefuse.1
  | stop =>
      rw [step] at hstep
      split_ifs at hstep with hidle
      exact Option.some.inj hstep ▸ performs_of_idle _ (Classical.not_not.mp hidle) (.inl rfl)
        fun i => .inl rfl
  | destruct =>
      rw [step] at hstep
      split_ifs at hstep with hidle
      exact Option.some.inj hstep ▸ performs_of_idle _ (Classical.not_not.mp hidle) (.inr rfl)
        fun i => .inr rfl
  | client => exact performs_of_clientStep hstep
  | thread i again =>
      obtain ⟨sp, hspawned, hrest⟩ := Option.bind_eq_some_iff.mp hstep
      obtain ⟨next, hnext, rfl⟩ := Option.map_eq_some_iff.mp hrest
      exact .thread i again sp next hspawned hnext

variable {s next : LocThread} {action : LocThreadAction}

theorem share_of_thread {i : Nat} (hthread : s.client.thread = some i) (j : Nat) :
    s.share j = if i = j then s.client.share else .none := by
  rw [share, hthread]

theorem share_of_none (hthread : s.client.thread = none) (j : Nat) :
    s.share j = if s.mThread = some j then .held else .none := by
  rw [share, hthread]

/-- Both sides are counted, and `start` alone returns with a delegate. -/
structure Accounted (s : LocThread) : Prop where
  counted : ∀ i sp, s.spawned i = some sp → Counted (s.share i) sp.share sp.delegate
  returned : ∀ i method mThread,
    s.client = .returned i method (some mThread) → mThread = i ∧ method = .start

theorem accounted_init : Accounted init := by
  refine ⟨fun i sp hspawned => ?_, fun i method mThread hclient => ?_⟩
  · cases hspawned
  · cases hclient

/-- A step that leaves the delegates alone leaves the shares alone. -/
theorem Accounted.of_share (h : Accounted s) (hspawned : next.spawned = s.spawned)
    (hshare : ∀ i, next.share i = s.share i)
    (hreturned : ∀ i method mThread, next.client ≠ .returned i method mThread) :
    Accounted next := by
  refine ⟨fun i sp hsp => ?_, fun i method mThread hclient => ?_⟩
  · rw [hshare]
    rw [hspawned] at hsp
    exact h.counted i sp hsp
  · exact absurd hclient (hreturned i method _)

/-- A step about one delegate. -/
theorem Accounted.of_update (h : Accounted s) {i : Nat} {sp : Spawned}
    (hspawned : next.spawned = Function.update s.spawned i (some sp))
    (hsp : Counted (next.share i) sp.share sp.delegate)
    (hshare : ∀ j, j ≠ i → next.share j = s.share j)
    (hreturned : ∀ i method mThread,
      next.client = .returned i method (some mThread) → mThread = i ∧ method = .start) :
    Accounted next := by
  refine ⟨fun j other hother => ?_, hreturned⟩
  rw [hspawned] at hother
  by_cases hj : j = i
  · subst hj
    rw [Function.update_self, Option.some.injEq] at hother
    exact hother ▸ hsp
  · rw [Function.update_of_ne hj] at hother
    rw [hshare j hj]
    exact h.counted j other hother

theorem counted_new (joinable created : Bool) :
    Counted .held (Spawned.new joinable created).share (Spawned.new joinable created).delegate := by
  cases created with
  | false => exact ⟨rfl, rfl, rfl⟩
  | true => exact ⟨rfl, rfl, rfl⟩

theorem share_eq_none (hidle : s.client = .idle) (hmThread : s.mThread = none) (i : Nat) :
    s.share i = .none := by
  rw [share_of_none (by rw [hidle]; rfl), hmThread]
  exact if_neg fun h => by cases h

theorem accounted_create (h : Accounted s) (joinable created : Bool) (hidle : s.client = .idle)
    (hmThread : s.mThread = none) : Accounted (s.create joinable created) := by
  have hthread : (s.create joinable created).client.thread = some s.allocated := by
    cases created <;> rfl
  have hheld : (s.create joinable created).client.share = .held := by cases created <;> rfl
  refine h.of_update rfl ?_ (fun j hj => ?_) fun i method mThread hclient => ?_
  · rw [share_of_thread hthread, if_pos rfl, hheld]
    exact counted_new joinable created
  · rw [share_of_thread hthread, if_neg hj.symm, share_eq_none hidle hmThread]
  · cases created <;> cases hclient

/-- A method begins or returns at once. -/
theorem accounted_enter (h : Accounted s) {i : Nat} {point : ClientPoint}
    (hidle : s.client = .idle) (hmThread : s.mThread = some i)
    (hpoint : point = .stop i .stop ∨ point = .bye i) :
    Accounted { s with client := point } := by
  refine h.of_share rfl (fun j => ?_) fun j method mThread hclient => ?_
  · have hthread : point.thread = some i := by rcases hpoint with rfl | rfl <;> rfl
    have hheld : point.share = .held := by rcases hpoint with rfl | rfl <;> rfl
    rw [share_of_thread hthread, hheld, share_of_none (by rw [hidle]; rfl), hmThread]
    exact if_congr Option.some_inj.symm rfl rfl
  · rcases hpoint with rfl | rfl <;> cases hclient

theorem accounted_skip (h : Accounted s) {point : ClientPoint} (hidle : s.client = .idle)
    (hpoint : point = .idle ∨ point = .gone) : Accounted { s with client := point } := by
  refine h.of_share rfl (fun j => ?_) fun j method mThread hclient => ?_
  · have hthread : point.thread = none := by rcases hpoint with rfl | rfl <;> rfl
    rw [share_of_none hthread, share_of_none (by rw [hidle]; rfl)]
  · rcases hpoint with rfl | rfl <;> cases hclient

/-- What a method returns with is what the client then has. -/
theorem accounted_finish (h : Accounted s) {i : Nat} {method : LocThreadMethod}
    {mThread : Option Nat} (hclient : s.client = .returned i method mThread) :
    Accounted (s.finish i method mThread) := by
  have hbefore : ∀ j, s.share j = if mThread = some j then .held else .none := by
    intro j
    rw [share_of_thread (by rw [hclient]; rfl), hclient]
    cases mThread with
    | none => exact ite_self Share.none
    | some handle =>
        obtain ⟨rfl, -⟩ := h.returned i method handle hclient
        exact if_congr Option.some_inj.symm rfl rfl
  have hafter : (s.finish i method mThread).client.thread = none ∧
      (s.finish i method mThread).mThread = mThread := by
    cases mThread with
    | none => cases method <;> exact ⟨rfl, rfl⟩
    | some handle =>
        obtain ⟨-, rfl⟩ := h.returned i method handle hclient
        exact ⟨rfl, rfl⟩
  refine h.of_share (by cases method <;> rfl) (fun j => ?_) fun j other handle hreturned => ?_
  · rw [share_of_none hafter.1, hafter.2, hbefore]
  · cases method <;> cases hreturned

theorem accounted_performs (h : Accounted s) (hperforms : Performs s action next) :
    Accounted next := by
  cases hperforms with
  | refuse => exact ⟨h.counted, h.returned⟩
  | create runnable joinable created hidle hmThread =>
      exact accounted_create h joinable created hidle hmThread
  | skip _ point hidle _ hpoint => exact accounted_skip h hidle hpoint
  | enter _ i point hidle hmThread hpoint => exact accounted_enter h hidle hmThread hpoint
  | finish i method mThread hclient => exact accounted_finish h hclient
  | client i sp d point hthread hspawned hstep =>
      have hcounted := h.counted i sp hspawned
      rw [share_of_thread hthread, if_pos rfl] at hcounted
      have hnext := (ClientPoint.thread_step hstep).1.trans hthread
      refine h.of_update rfl ?_ (fun j hj => ?_) fun j method mThread hreturned => ?_
      · rw [share_of_thread hnext, if_pos rfl]
        have hafter := ClientPoint.counted_step hcounted hstep
        exact hafter
      · rw [share_of_thread hnext, share_of_thread hthread, if_neg hj.symm, if_neg hj.symm]
      · have hreturn := (ClientPoint.outcome_step hstep).1
        rw [show point = .returned j method (some mThread) from hreturned] at hreturn
        exact hreturn j method mThread rfl
  | thread i again sp next hspawned hstep =>
      refine h.of_update rfl ?_ (fun j _ => rfl) h.returned
      exact Spawned.counted_threadMain (h.counted i sp hspawned) hstep

/-- Both sides are counted in every run, whatever becomes of the runnables. -/
theorem accounted_of_reachable (hreach : system.Reachable s) : Accounted s := by
  refine hreach.invariant accounted_init fun before action after h hstep => ?_
  change before.step action = some after at hstep
  exact accounted_performs h (performs_of_step hstep)

/-- The delegates and the runnables are deleted once, by those and when they should, and
`start` fails only for a runnable that no thread was given. -/
structure KeepsContract (s : LocThread) : Prop where
  delegate : ∀ i sp, s.spawned i = some sp →
    sp.delegate.usedDeleted = false ∧ sp.delegate.deletions ≤ 1 ∧
      (s.mThread ≠ some i → s.client.thread ≠ some i →
        sp.thread = none ∨ sp.thread = some .ended → sp.delegate.deletions = 1)
  runnable : ∀ i sp, s.spawned i = some sp →
    sp.ranDeleted = false ∧ sp.runnableDeletions ≤ 1 ∧
      (sp.thread = some .ended → sp.runnableDeletions = 1)
  started : ∀ result ∈ s.started, result.success = false → result.handed = false

/-- The step of the client is in time, whenever it is at one. -/
def InTime (s : LocThread) : LocThreadAction → Prop
  | .client => ∀ i ∈ s.client.thread, ∀ sp ∈ s.spawned i, s.client.InTime sp
  | .start .. | .stop | .destruct | .thread .. => True

instance decidableInTime (s : LocThread) : (action : LocThreadAction) → Decidable (InTime s action)
  | .client => inferInstanceAs
      (Decidable (∀ i ∈ s.client.thread, ∀ sp ∈ s.spawned i, s.client.InTime sp))
  | .start .. | .stop | .destruct | .thread .. => .isTrue trivial

/-- What runs in time keep. -/
structure Kept (s : LocThread) : Prop where
  accounted : Accounted s
  runnable : ∀ i sp, s.spawned i = some sp → RunnableKept sp
  failing : s.client.fails = true → ∀ i sp, s.client.thread = some i → s.spawned i = some sp →
    sp.thread = none
  started : ∀ result ∈ s.started, result.success = false → result.handed = false

theorem kept_init : Kept init where
  accounted := accounted_init
  runnable i sp hspawned := by cases hspawned
  failing hfails := by cases hfails
  started result hresult := by cases hresult

/-- One delegate is changed; the others are as they were. -/
theorem runnable_update {i : Nat} {sp : Spawned}
    (h : ∀ j other, s.spawned j = some other → RunnableKept other) (hsp : RunnableKept sp) :
    ∀ j other, Function.update s.spawned i (some sp) j = some other → RunnableKept other := by
  intro j other hother
  by_cases hj : j = i
  · subst hj
    rw [Function.update_self, Option.some.injEq] at hother
    exact hother ▸ hsp
  · rw [Function.update_of_ne hj] at hother
    exact h j other hother

theorem Accounted.contract (h : Accounted s) {i : Nat} {sp : Spawned}
    (hspawned : s.spawned i = some sp) :
    sp.delegate.usedDeleted = false ∧ sp.delegate.deletions ≤ 1 ∧
      (s.mThread ≠ some i → s.client.thread ≠ some i →
        sp.thread = none ∨ sp.thread = some .ended → sp.delegate.deletions = 1) := by
  have hcounted := h.counted i sp hspawned
  have hdeletions := hcounted.deletions
  refine ⟨hcounted.used, ?_, fun hmThread hclient hthread => ?_⟩
  · have hle : (if sp.delegate.mRefCount = 0 then 1 else 0) ≤ 1 := by split_ifs <;> omega
    omega
  · have hclientShare : s.share i = .none := by
      rw [share]
      cases hpoint : s.client.thread with
      | none => exact if_neg hmThread
      | some j => exact if_neg fun heq => hclient (by rw [hpoint, heq])
    have hthreadShare : sp.share = .none := by
      rcases hthread with hthread | hthread <;> rw [Spawned.share, hthread] <;> rfl
    rw [hclientShare, hthreadShare] at hcounted
    have hzero : sp.delegate.mRefCount = 0 := hcounted.refs
    have hdeleted := hcounted.deletions
    rwa [if_pos hzero] at hdeleted

theorem Kept.contract (h : Kept s) : KeepsContract s where
  delegate i sp hspawned := h.accounted.contract hspawned
  runnable i sp hspawned := by
    obtain ⟨hran, hdeletions, -⟩ := h.runnable i sp hspawned
    refine ⟨hran, ?_, fun hended => ?_⟩
    · rw [hdeletions]
      split_ifs <;> omega
    · rw [hdeletions, hended]
      rfl
  started := h.started

theorem kept_new (joinable created : Bool) : RunnableKept (Spawned.new joinable created) := by
  cases created with
  | false => exact ⟨rfl, rfl, (fun hbegin => by cases hbegin)⟩
  | true => exact ⟨rfl, rfl, fun _ => rfl⟩

/-- What `start` returns false for has no thread. -/
theorem started_finish (h : Kept s) {i : Nat} {method : LocThreadMethod} {mThread : Option Nat}
    (hclient : s.client = .returned i method mThread) :
    ∀ result ∈ (s.finish i method mThread).started,
      result.success = false → result.handed = false := by
  intro result hresult hfalse
  cases method with
  | stop | destructor => exact h.started result hresult hfalse
  | start =>
      rcases List.mem_append.mp hresult with hbefore | hnew
      · exact h.started result hbefore hfalse
      · obtain rfl := List.mem_singleton.mp hnew
        have hnone : mThread.isNone = true := by
          rwa [Option.isSome_eq_false_iff] at hfalse
        have hfails : s.client.fails = true := by
          rw [hclient, ClientPoint.fails, hnone]
          rfl
        change (s.spawned i).any (fun sp => sp.thread.isSome) = false
        cases hspawned : s.spawned i with
        | none => rfl
        | some sp =>
            have hthread := h.failing hfails i sp (by rw [hclient]; rfl) hspawned
            rw [Option.any_some, hthread]
            rfl

/-- The client goes on in time. -/
theorem kept_client (h : Kept s) (hintime : InTime s .client) {i : Nat} {sp : Spawned}
    {d : LocThreadDelegate} {point : ClientPoint} (hthread : s.client.thread = some i)
    (hspawned : s.spawned i = some sp) (hstep : s.client.step sp = some (d, point))
    (haccounted : Accounted { s.setSpawned i { sp with delegate := d } with client := point }) :
    Kept { s.setSpawned i { sp with delegate := d } with client := point } where
  accounted := haccounted
  runnable := by
    refine runnable_update h.runnable (ClientPoint.kept_step (h.runnable i sp hspawned) ?_ hstep)
    intro j method hclear
    have hbegun := hintime i hthread sp hspawned
    rwa [hclear] at hbegun
  failing hfails j other hj hother := by
    change point.fails = true at hfails
    change point.thread = some j at hj
    rw [(ClientPoint.thread_step hstep).1, hthread] at hj
    obtain rfl := Option.some.inj hj
    change Function.update s.spawned i _ i = some other at hother
    rw [Function.update_self, Option.some.injEq] at hother
    subst hother
    rcases (ClientPoint.outcome_step hstep).2 hfails with hbefore | ⟨j, hpoint, hnull⟩
    · exact h.failing hbefore i sp hthread hspawned
    · have hlook := hintime i hthread sp hspawned
      rw [hpoint] at hlook
      cases hsome : sp.thread with
      | none => rfl
      | some current =>
          have hrunnable := hlook (by rw [hsome]; rfl)
          rw [hnull] at hrunnable
          cases hrunnable
  started := h.started

theorem kept_step (h : Kept s) (hintime : InTime s action) (hstep : s.step action = some next) :
    Kept next := by
  have hperforms := performs_of_step hstep
  have haccounted := accounted_performs h.accounted hperforms
  cases hperforms with
  | refuse =>
      refine ⟨haccounted, h.runnable, h.failing, fun result hresult hfalse => ?_⟩
      rcases List.mem_append.mp hresult with hbefore | hnew
      · exact h.started result hbefore hfalse
      · rw [List.mem_singleton.mp hnew]
  | create runnable joinable created hidle hmThread =>
      refine ⟨haccounted, runnable_update h.runnable (kept_new joinable created), fun hfails => ?_,
        h.started⟩
      cases created <;> cases hfails
  | skip _ point hidle hmThread hpoint =>
      refine ⟨haccounted, h.runnable, fun hfails => ?_, h.started⟩
      rcases hpoint with rfl | rfl <;> cases hfails
  | enter _ i point hidle hmThread hpoint =>
      refine ⟨haccounted, h.runnable, fun hfails => ?_, h.started⟩
      rcases hpoint with rfl | rfl <;> cases hfails
  | finish i method mThread hclient =>
      refine ⟨haccounted, ?_, fun hfails => ?_, started_finish h hclient⟩
      · cases method <;> exact h.runnable
      · cases method <;> cases hfails
  | client i sp d point hthread hspawned hpoint =>
      exact kept_client h hintime hthread hspawned hpoint haccounted
  | thread i again sp next hspawned hmain =>
      refine ⟨haccounted, ?_, fun hfails j other hj hother => ?_, h.started⟩
      · exact runnable_update h.runnable (Spawned.kept_threadMain (h.runnable i sp hspawned) hmain)
      · change Function.update s.spawned i (some next) j = some other at hother
        by_cases heq : j = i
        · subst heq
          have hnone := h.failing hfails j sp hj hspawned
          rw [Spawned.threadMain, hnone] at hmain
          cases hmain
        · rw [Function.update_of_ne heq] at hother
          exact h.failing hfails j other hj hother

/-- In a run whose steps are all in time the contract of `LocThread` is kept. -/
theorem contract_of_inTime (actions : List LocThreadAction)
    (hintime : system.Guarded InTime init actions) :
    system.Throughout KeepsContract init actions :=
  Transition.System.throughout_of_guarded Kept (fun _ h => h.contract)
    (fun _ _ _ h hguard hstep => kept_step h hguard hstep) kept_init hintime

/-- A thread that runs once, and a client that stops it after that. -/
theorem contract_of_late_stop :
    system.Throughout KeepsContract init
      ([.start true true true] ++ List.replicate 3 .client ++
        List.replicate 11 (.thread 0 false) ++ [.stop] ++ List.replicate 7 .client) :=
  contract_of_inTime _ (by decide)

/-- A thread that has ended when `create` looks at its delegate. -/
theorem not_keepsContract_early_end :
    ¬ system.Throughout KeepsContract init
      ([.start true true true] ++ List.replicate 11 (.thread 0 false) ++
        List.replicate 6 .client) := by
  apply Transition.System.not_throughout_of_any fun s => decide (⟨false, true⟩ ∈ s.started)
  · intro s hs hcontract
    exact Bool.noConfusion (hcontract.started ⟨false, true⟩ (of_decide_eq_true hs) rfl)
  · rfl

/-- A thread that begins after `stop` has cleared `mRunnable`. -/
theorem not_keepsContract_early_stop :
    ¬ system.Throughout KeepsContract init
      ([.start true false true] ++ List.replicate 3 .client ++ [.stop] ++
        List.replicate 6 .client ++ List.replicate 4 (.thread 0 false)) := by
  apply Transition.System.not_throughout_of_any fun s => (s.spawned 0).any fun sp =>
    sp.thread = some .ended && sp.runnableDeletions = 0
  · intro s hs hcontract
    rw [Option.any_eq_true] at hs
    obtain ⟨sp, hspawned, hsp⟩ := hs
    rw [Bool.and_eq_true, decide_eq_true_iff, decide_eq_true_iff] at hsp
    have hdeleted := (hcontract.runnable 0 sp hspawned).2.2 hsp.1
    rw [hsp.2] at hdeleted
    cases hdeleted
  · rfl

end LocThread

end Serrano.Utils
