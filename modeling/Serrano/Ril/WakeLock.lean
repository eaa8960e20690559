import Mathlib.Data.List.Nodup
import Serrano.Foundation.Transition

/-! # The wake lock and its timeouts

Every grab of the wake lock schedules a timeout and cancels the one of the grab
before it, through a flag in the record of its timer. Grabs and releases hold the
mutex and are one step each. The event loop takes a timer that is due, reads the
flag without the mutex, may then enter the critical section of the timeout,
clears the pointer to the last timeout, and frees the record.
-/

namespace Serrano.Ril

/-- `UserCallbackInfo` of a wake timeout; a `userParam` that is not `NULL` cancels
it. It keeps the number of the grab that scheduled it, which nothing reads. -/
structure UserCallbackInfo where
  userParam : Bool
  grab : Nat
  deriving DecidableEq

/-- Where the event loop is in `userTimerCallback`. -/
inductive LoopPoint
  | idle
  | called (p_info : Nat)
  | wakeTimeout (p_info : Nat)
  | clear (p_info : Nat)
  | free (p_info : Nat)
  deriving DecidableEq

/-- The record the loop works on. -/
def LoopPoint.info : LoopPoint → Option Nat
  | idle => none
  | called p_info | wakeTimeout p_info | clear p_info | free p_info => some p_info

/-- A critical section of a timeout: the grab it comes from, and how many grabs
there were. -/
structure TimeoutRelease where
  grab : Nat
  grabs : Nat
  deriving DecidableEq

/-- The wake lock, with the records in memory and the timers that did not fire. -/
structure WakeLock where
  held : Bool
  s_wakelock_count : Nat
  s_last_wake_timeout_info : Option Nat
  infos : Nat → Option UserCallbackInfo
  timers : List Nat
  loop : LoopPoint
  grabs : Nat
  releases : List TimeoutRelease

/-- A grab comes with the address that `calloc` answers. -/
inductive WakeAction
  | grabPartialWakeLock (calloc : Nat)
  | releaseWakeLock
  | fire (p_info : Nat)
  | readUserParam
  | wakeTimeoutCallback
  | clearLast
  | freeInfo

namespace WakeLock

variable (version : Int) (s : WakeLock)

/-- `s_last_wake_timeout_info->userParam = (void *)1`, if there is a last one. -/
def cancelLast : WakeLock :=
  match s.s_last_wake_timeout_info with
  | none => s
  | some p_info =>
      let cancelled := (s.infos p_info).map fun info => { info with userParam := true }
      { s with infos := Function.update s.infos p_info cancelled }

/-- `internalRequestTimedCallback` with `wakeTimeoutCallback` and a `NULL`
parameter. -/
def internalRequestTimedCallback (p_info : Nat) : WakeLock :=
  { s with
    infos := Function.update s.infos p_info (some { userParam := false, grab := s.grabs })
    timers := p_info :: s.timers }

/-- `grabPartialWakeLock`; `calloc` answers an address that is not in use. -/
def grabPartialWakeLock (calloc : Nat) : Option WakeLock :=
  if 13 ≤ version then
    if (s.infos calloc).isSome then none
    else
      let s := { s with held := true, grabs := s.grabs + 1 }.internalRequestTimedCallback calloc
      let s := { s with s_wakelock_count := s.s_wakelock_count + 1 }.cancelLast
      some { s with s_last_wake_timeout_info := some calloc }
  else some { s with held := true }

def releaseWakeLock : WakeLock :=
  if 13 ≤ version then
    if 1 < s.s_wakelock_count then { s with s_wakelock_count := s.s_wakelock_count - 1 }
    else { s with s_wakelock_count := 0, held := false }.cancelLast
  else { s with held := false }

/-- The timer is taken off the lists of the event loop. -/
def fire (p_info : Nat) : Option WakeLock :=
  if s.loop = .idle ∧ p_info ∈ s.timers then
    some { s with timers := s.timers.erase p_info, loop := .called p_info }
  else none

/-- The call of `p_callback` with the parameter that is read. Only `NULL` does
something there. -/
def readUserParam : Option WakeLock :=
  match s.loop with
  | .called p_info =>
      (s.infos p_info).map fun info =>
        { s with loop := if info.userParam then .clear p_info else .wakeTimeout p_info }
  | _ => none

/-- The critical section of `wakeTimeoutCallback`. -/
def wakeTimeoutCallback : Option WakeLock :=
  match s.loop with
  | .wakeTimeout p_info =>
      (s.infos p_info).map fun info =>
        if 13 ≤ version then
          { s with
            s_wakelock_count := 0
            held := false
            loop := .clear p_info
            releases := s.releases ++ [⟨info.grab, s.grabs⟩] }
        else { s.releaseWakeLock version with loop := .clear p_info }
  | _ => none

/-- The last timeout is forgotten when it is this one. -/
def clearLast : Option WakeLock :=
  match s.loop with
  | .clear p_info =>
      some { s with
        s_last_wake_timeout_info :=
          if s.s_last_wake_timeout_info = some p_info then none else s.s_last_wake_timeout_info
        loop := .free p_info }
  | _ => none

def freeInfo : Option WakeLock :=
  match s.loop with
  | .free p_info => some { s with infos := Function.update s.infos p_info none, loop := .idle }
  | _ => none

def step : WakeAction → Option WakeLock
  | .grabPartialWakeLock calloc => s.grabPartialWakeLock version calloc
  | .releaseWakeLock => some (s.releaseWakeLock version)
  | .fire p_info => s.fire p_info
  | .readUserParam => s.readUserParam
  | .wakeTimeoutCallback => s.wakeTimeoutCallback version
  | .clearLast => s.clearLast
  | .freeInfo => s.freeInfo

def initial : WakeLock where
  held := false
  s_wakelock_count := 0
  s_last_wake_timeout_info := none
  infos _ := none
  timers := []
  loop := .idle
  grabs := 0
  releases := []

def system : Transition.System WakeLock WakeAction where
  init := initial
  step := step version

/-- The timeout did not reach its critical section yet. -/
def Pending (p_info : Nat) : Prop :=
  p_info ∈ s.timers ∨ s.loop = .called p_info ∨ s.loop = .wakeTimeout p_info

/-- The lock is held exactly while it is counted, an uncancelled timeout of the
last grab is then pending, only such timeouts released it, and the last timeout
is in memory. -/
structure Sound : Prop where
  held_iff : s.held = true ↔ 0 < s.s_wakelock_count
  timeout : s.held = true → ∃ p_info info, s.infos p_info = some info ∧ info.grab = s.grabs ∧
    info.userParam = false ∧ s.Pending p_info
  superseded : ∀ release ∈ s.releases, release.grab = release.grabs
  last : ∀ p_info, s.s_last_wake_timeout_info = some p_info → (s.infos p_info).isSome = true

/-- The loop read that the timeout is not cancelled, and did not enter its
critical section. -/
def Committed : Prop := ∃ p_info, s.loop = .wakeTimeout p_info

instance : Decidable s.Committed :=
  match hloop : s.loop with
  | .wakeTimeout p_info => .isTrue ⟨p_info, hloop⟩
  | .idle | .called _ | .clear _ | .free _ => .isFalse fun ⟨_, h⟩ => by rw [hloop] at h; cases h

/-- No grab while the loop is committed to a timeout. -/
def Undisturbed : WakeAction → Prop
  | .grabPartialWakeLock _ => ¬ s.Committed
  | _ => True

instance : (action : WakeAction) → Decidable (s.Undisturbed action)
  | .grabPartialWakeLock _ => inferInstanceAs (Decidable (¬ s.Committed))
  | .releaseWakeLock | .fire _ | .readUserParam | .wakeTimeoutCallback | .clearLast
  | .freeInfo => .isTrue trivial

/-- What undisturbed steps keep. Only the last timeout is not cancelled, and it is
not forgotten before its critical section is over. -/
structure Kept : Prop where
  held_iff : s.held = true ↔ 0 < s.s_wakelock_count
  timers : ∀ p_info ∈ s.timers, (s.infos p_info).isSome = true
  nodup : s.timers.Nodup
  looping : ∀ p_info, s.loop.info = some p_info →
    (s.infos p_info).isSome = true ∧ p_info ∉ s.timers
  live : ∀ p_info info, s.infos p_info = some info → info.userParam = false →
    p_info ∈ s.timers ∨ s.loop = .called p_info → s.s_last_wake_timeout_info = some p_info
  last : ∀ p_info, s.s_last_wake_timeout_info = some p_info →
    (∃ info, s.infos p_info = some info ∧ info.grab = s.grabs) ∧ s.loop ≠ .free p_info
  committed : ∀ p_info, s.loop = .wakeTimeout p_info →
    ∃ info, s.infos p_info = some info ∧ info.grab = s.grabs
  timeout : s.held = true → ∃ p_info info, s.s_last_wake_timeout_info = some p_info ∧
    s.infos p_info = some info ∧ info.userParam = false ∧ s.Pending p_info
  releases : ∀ release ∈ s.releases, release.grab = release.grabs

variable {version : Int} {s s' : WakeLock}

theorem Kept.sound (hs : s.Kept) : s.Sound where
  held_iff := hs.held_iff
  timeout hheld := by
    obtain ⟨p_info, info, hlast, hinfo, hparam, hpending⟩ := hs.timeout hheld
    obtain ⟨⟨info', hinfo', hgrab⟩, -⟩ := hs.last p_info hlast
    obtain rfl := Option.some.inj (hinfo.symm.trans hinfo')
    exact ⟨p_info, info, hinfo, hgrab, hparam, hpending⟩
  superseded := hs.releases
  last p_info hlast := by
    obtain ⟨⟨info, hinfo, -⟩, -⟩ := hs.last p_info hlast
    rw [hinfo]
    rfl

section CancelLast

@[simp] theorem cancelLast_held (s : WakeLock) : s.cancelLast.held = s.held := by
  rw [cancelLast]; split <;> rfl

@[simp] theorem cancelLast_count (s : WakeLock) :
    s.cancelLast.s_wakelock_count = s.s_wakelock_count := by
  rw [cancelLast]; split <;> rfl

@[simp] theorem cancelLast_last (s : WakeLock) :
    s.cancelLast.s_last_wake_timeout_info = s.s_last_wake_timeout_info := by
  rw [cancelLast]; split <;> rfl

@[simp] theorem cancelLast_timers (s : WakeLock) : s.cancelLast.timers = s.timers := by
  rw [cancelLast]; split <;> rfl

@[simp] theorem cancelLast_loop (s : WakeLock) : s.cancelLast.loop = s.loop := by
  rw [cancelLast]; split <;> rfl

@[simp] theorem cancelLast_grabs (s : WakeLock) : s.cancelLast.grabs = s.grabs := by
  rw [cancelLast]; split <;> rfl

@[simp] theorem cancelLast_releases (s : WakeLock) : s.cancelLast.releases = s.releases := by
  rw [cancelLast]; split <;> rfl

/-- Only the flag of the last timeout changes. -/
theorem cancelLast_infos (s : WakeLock) (p_info : Nat) :
    s.cancelLast.infos p_info =
      if s.s_last_wake_timeout_info = some p_info then
        (s.infos p_info).map fun info => { info with userParam := true }
      else s.infos p_info := by
  cases hlast : s.s_last_wake_timeout_info with
  | none => simp [cancelLast, hlast]
  | some last =>
      simp only [cancelLast, hlast, Option.some.injEq]
      by_cases heq : last = p_info
      · subst heq
        rw [if_pos rfl, Function.update_self]
      · rw [if_neg heq, Function.update_of_ne (Ne.symm heq)]

/-- A record after the last timeout was cancelled. -/
theorem cancelLast_some {p_info : Nat} {info : UserCallbackInfo}
    (hinfo : s.cancelLast.infos p_info = some info) :
    ∃ old, s.infos p_info = some old ∧ info.grab = old.grab ∧
      (info.userParam = false → old = info ∧ s.s_last_wake_timeout_info ≠ some p_info) := by
  rw [cancelLast_infos] at hinfo
  split_ifs at hinfo with hlast
  · obtain ⟨old, hold, rfl⟩ := Option.map_eq_some_iff.mp hinfo
    exact ⟨old, hold, rfl, fun hparam => by simp at hparam⟩
  · exact ⟨info, hinfo, rfl, fun _ => ⟨rfl, hlast⟩⟩

theorem cancelLast_of_some {p_info : Nat} {info : UserCallbackInfo}
    (hinfo : s.infos p_info = some info) :
    ∃ info', s.cancelLast.infos p_info = some info' ∧ info'.grab = info.grab := by
  rw [cancelLast_infos, hinfo]
  split_ifs
  · exact ⟨_, rfl, rfl⟩
  · exact ⟨_, rfl, rfl⟩

@[simp] theorem cancelLast_isSome (s : WakeLock) (p_info : Nat) :
    (s.cancelLast.infos p_info).isSome = (s.infos p_info).isSome := by
  rw [cancelLast_infos]
  split_ifs
  · rw [Option.isSome_map]
  · rfl

end CancelLast

theorem kept_releaseWakeLock (hs : s.Kept) (hversion : 13 ≤ version) :
    (s.releaseWakeLock version).Kept := by
  rw [releaseWakeLock, if_pos hversion]
  split_ifs with hcount
  · have hpos : 0 < s.s_wakelock_count - 1 := by omega
    exact
      { hs with
        held_iff := ⟨fun _ => hpos, fun _ => hs.held_iff.mpr (by omega)⟩ }
  · exact
      { held_iff := by simp
        timers := by simpa using hs.timers
        nodup := by simpa using hs.nodup
        looping := by simpa using hs.looping
        live := by
          intro p_info info hinfo hparam hpending
          obtain ⟨old, hold, -, hsame⟩ := cancelLast_some hinfo
          obtain ⟨rfl, -⟩ := hsame hparam
          simpa using hs.live p_info old hold hparam (by simpa using hpending)
        last := by
          intro p_info hlast
          obtain ⟨⟨info, hinfo, hgrab⟩, hfree⟩ := hs.last p_info (by simpa using hlast)
          obtain ⟨info', hinfo', hgrab'⟩ := cancelLast_of_some
            (s := { s with s_wakelock_count := 0, held := false }) hinfo
          exact ⟨⟨info', hinfo', by simpa using hgrab'.trans hgrab⟩, by simpa using hfree⟩
        committed := by
          intro p_info hloop
          obtain ⟨info, hinfo, hgrab⟩ := hs.committed p_info (by simpa using hloop)
          obtain ⟨info', hinfo', hgrab'⟩ := cancelLast_of_some
            (s := { s with s_wakelock_count := 0, held := false }) hinfo
          exact ⟨info', hinfo', by simpa using hgrab'.trans hgrab⟩
        timeout := by simp
        releases := by simpa using hs.releases }

/-- A grab up to where it cancels the timeout before. -/
def scheduled (s : WakeLock) (calloc : Nat) : WakeLock :=
  { s with
    held := true
    s_wakelock_count := s.s_wakelock_count + 1
    infos := Function.update s.infos calloc (some { userParam := false, grab := s.grabs + 1 })
    timers := calloc :: s.timers
    grabs := s.grabs + 1 }

theorem grabPartialWakeLock_cases (hversion : 13 ≤ version) {calloc : Nat}
    (hstep : s.grabPartialWakeLock version calloc = some s') :
    s.infos calloc = none ∧
      s' = { (s.scheduled calloc).cancelLast with s_last_wake_timeout_info := some calloc } := by
  rw [grabPartialWakeLock, if_pos hversion] at hstep
  split_ifs at hstep with hused
  exact ⟨by simpa using hused, (Option.some.inj hstep).symm⟩

/-- A grab makes its own timeout the last one, and cancels the one before. -/
theorem kept_grabPartialWakeLock (hs : s.Kept) (hversion : 13 ≤ version)
    (hundisturbed : ¬ s.Committed) {calloc : Nat}
    (hstep : s.grabPartialWakeLock version calloc = some s') : s'.Kept := by
  obtain ⟨hfree, rfl⟩ := grabPartialWakeLock_cases hversion hstep
  have hlast : s.s_last_wake_timeout_info ≠ some calloc := by
    intro heq
    obtain ⟨⟨info, hinfo, -⟩, -⟩ := hs.last calloc heq
    simp [hfree] at hinfo
  have htimers : calloc ∉ s.timers := fun hmem => by simpa [hfree] using hs.timers calloc hmem
  have hloop : s.loop.info ≠ some calloc := by
    intro heq
    simpa [hfree] using (hs.looping calloc heq).1
  have hnew : (s.scheduled calloc).cancelLast.infos calloc =
      some { userParam := false, grab := s.grabs + 1 } := by
    rw [cancelLast_infos]
    exact (if_neg hlast).trans (Function.update_self _ _ _)
  have hold : ∀ p_info, p_info ≠ calloc → (s.scheduled calloc).infos p_info = s.infos p_info :=
    fun p_info hne => Function.update_of_ne hne _ _
  exact
    { held_iff := by simp [scheduled]
      timers := by
        intro p_info hmem
        rw [cancelLast_isSome]
        by_cases heq : p_info = calloc
        · subst heq
          simp [scheduled]
        · rw [hold p_info heq]
          exact hs.timers p_info (by simpa [scheduled, heq] using hmem)
      nodup := by
        simpa [scheduled] using ⟨htimers, hs.nodup⟩
      looping := by
        intro p_info hinfo
        have hwork : s.loop.info = some p_info := by
          simpa [scheduled] using hinfo
        have hne : p_info ≠ calloc := fun heq => hloop (heq ▸ hwork)
        rw [cancelLast_isSome, hold p_info hne]
        simpa [scheduled, hne] using hs.looping p_info hwork
      live := by
        intro p_info info hinfo hparam hpending
        by_cases heq : p_info = calloc
        · rw [heq]
        · -- an older one would be the last one before the grab, which is cancelled
          obtain ⟨old, hold', -, hsame⟩ := cancelLast_some hinfo
          obtain ⟨rfl, hnot⟩ := hsame hparam
          rw [hold p_info heq] at hold'
          refine absurd (hs.live p_info old hold' hparam ?_) hnot
          simpa [scheduled, heq] using hpending
      last := by
        intro p_info heq
        obtain rfl := Option.some.inj heq
        refine ⟨⟨_, hnew, by simp [scheduled]⟩, fun hfreeing => hloop ?_⟩
        have hpoint : s.loop = .free calloc := by
          simpa [scheduled] using hfreeing
        rw [hpoint]
        rfl
      committed := by
        intro p_info hpoint
        exact absurd ⟨p_info, by simpa [scheduled] using hpoint⟩
          hundisturbed
      timeout := fun _ => ⟨calloc, _, rfl, hnew, rfl, .inl (by
        simp [scheduled])⟩
      releases := by simpa [scheduled] using hs.releases }

theorem kept_fire (hs : s.Kept) {p_info : Nat} (hstep : s.fire p_info = some s') : s'.Kept := by
  rw [fire] at hstep
  split_ifs at hstep with henabled
  obtain ⟨hidle, hmem⟩ := henabled
  obtain rfl := Option.some.inj hstep
  exact
    { hs with
      timers := fun other hother => hs.timers other (List.mem_of_mem_erase hother)
      nodup := hs.nodup.erase p_info
      looping := by
        intro other hother
        obtain rfl := Option.some.inj hother
        exact ⟨hs.timers p_info hmem, hs.nodup.not_mem_erase⟩
      live := by
        intro other info hinfo hparam hpending
        refine hs.live other info hinfo hparam (.inl ?_)
        rcases hpending with hother | hother
        · exact List.mem_of_mem_erase hother
        · exact LoopPoint.called.inj hother ▸ hmem
      last := fun other hlast => ⟨(hs.last other hlast).1, by simp⟩
      committed := fun _ hpoint => by cases hpoint
      timeout := by
        intro hheld
        obtain ⟨last, info, hlast, hinfo, hparam, hpending⟩ := hs.timeout hheld
        refine ⟨last, info, hlast, hinfo, hparam, ?_⟩
        rcases hpending with hother | hother | hother
        · by_cases heq : last = p_info
          · exact .inr (.inl (by rw [heq]))
          · exact .inl ((List.mem_erase_of_ne heq).mpr hother)
        · simp [hidle] at hother
        · simp [hidle] at hother }

theorem kept_readUserParam (hs : s.Kept) (hstep : s.readUserParam = some s') : s'.Kept := by
  cases hloop : s.loop with
  | idle | wakeTimeout | clear | free => simp [readUserParam, hloop] at hstep
  | called p_info =>
      simp only [readUserParam, hloop] at hstep
      obtain ⟨info, hinfo, rfl⟩ := Option.map_eq_some_iff.mp hstep
      have hwork := hs.looping p_info (by rw [hloop]; rfl)
      cases hparam : info.userParam with
      | true =>
          exact
            { hs with
              looping := fun other hother => Option.some.inj hother ▸ hwork
              live := fun other found hfound hnull hpending =>
                hs.live other found hfound hnull (.inl (hpending.resolve_right (by simp)))
              last := fun other hlast => ⟨(hs.last other hlast).1, by simp⟩
              committed := fun _ hpoint => by cases hpoint
              timeout := by
                intro hheld
                obtain ⟨last, found, hlast, hfound, hnull, hpending⟩ := hs.timeout hheld
                refine ⟨last, found, hlast, hfound, hnull, .inl ?_⟩
                rcases hpending with hmem | hpoint | hpoint
                · exact hmem
                · -- the one that was read is cancelled
                  obtain rfl := LoopPoint.called.inj (hloop.symm.trans hpoint)
                  rw [hinfo, Option.some.injEq] at hfound
                  rw [← hfound, hparam] at hnull
                  cases hnull
                · simp [hloop] at hpoint }
      | false =>
          have hlive := hs.live p_info info hinfo hparam (.inr hloop)
          exact
            { hs with
              looping := fun other hother => Option.some.inj hother ▸ hwork
              live := fun other found hfound hnull hpending =>
                hs.live other found hfound hnull (.inl (hpending.resolve_right (by simp)))
              last := fun other hlast => ⟨(hs.last other hlast).1, by simp⟩
              committed := by
                intro other hpoint
                obtain rfl := LoopPoint.wakeTimeout.inj hpoint
                exact (hs.last p_info hlive).1
              timeout := by
                intro hheld
                obtain ⟨last, found, hlast, hfound, hnull, hpending⟩ := hs.timeout hheld
                refine ⟨last, found, hlast, hfound, hnull, ?_⟩
                rcases hpending with hmem | hpoint | hpoint
                · exact .inl hmem
                · obtain rfl := LoopPoint.called.inj (hloop.symm.trans hpoint)
                  exact .inr (.inr rfl)
                · simp [hloop] at hpoint }

theorem kept_wakeTimeoutCallback (hs : s.Kept) (hversion : 13 ≤ version)
    (hstep : s.wakeTimeoutCallback version = some s') : s'.Kept := by
  cases hloop : s.loop with
  | idle | called | clear | free => simp [wakeTimeoutCallback, hloop] at hstep
  | wakeTimeout p_info =>
      simp only [wakeTimeoutCallback, hloop, if_pos hversion] at hstep
      obtain ⟨info, hinfo, rfl⟩ := Option.map_eq_some_iff.mp hstep
      have hwork := hs.looping p_info (by rw [hloop]; rfl)
      exact
        { hs with
          held_iff := by simp
          looping := fun other hother => Option.some.inj hother ▸ hwork
          live := fun other found hfound hnull hpending =>
            hs.live other found hfound hnull (.inl (hpending.resolve_right (by simp)))
          last := fun other hlast => ⟨(hs.last other hlast).1, by simp⟩
          committed := fun _ hpoint => by cases hpoint
          timeout := fun hheld => by cases hheld
          releases := by
            intro release hmem
            rcases List.mem_append.mp hmem with hmem | hmem
            · exact hs.releases release hmem
            · obtain rfl := List.mem_singleton.mp hmem
              obtain ⟨found, hfound, hgrab⟩ := hs.committed p_info hloop
              rw [hinfo, Option.some.injEq] at hfound
              exact hfound ▸ hgrab }

theorem kept_clearLast (hs : s.Kept) (hstep : s.clearLast = some s') : s'.Kept := by
  cases hloop : s.loop with
  | idle | called | wakeTimeout | free => simp [clearLast, hloop] at hstep
  | clear p_info =>
      simp only [clearLast, hloop] at hstep
      obtain rfl := Option.some.inj hstep
      have hwork := hs.looping p_info (by rw [hloop]; rfl)
      have hkeep : ∀ other, other ≠ p_info → s.s_last_wake_timeout_info = some other →
          (if s.s_last_wake_timeout_info = some p_info then none
            else s.s_last_wake_timeout_info) = some other := by
        intro other hne hlast
        rw [if_neg, hlast]
        rw [hlast]
        exact fun heq => hne (Option.some.inj heq)
      exact
        { hs with
          looping := fun other hother => Option.some.inj hother ▸ hwork
          live := by
            intro other info hinfo hnull hpending
            have hmem : other ∈ s.timers := hpending.resolve_right (by simp)
            exact hkeep other (fun heq => hwork.2 (heq ▸ hmem)) (hs.live other info hinfo hnull
              (.inl hmem))
          last := by
            intro other hlast
            dsimp only at hlast
            split_ifs at hlast with heq
            refine ⟨(hs.last other hlast).1, fun hpoint => heq ?_⟩
            obtain rfl := LoopPoint.free.inj hpoint
            exact hlast
          committed := fun _ hpoint => by cases hpoint
          timeout := by
            intro hheld
            obtain ⟨last, info, hlast, hinfo, hnull, hpending⟩ := hs.timeout hheld
            have hmem : last ∈ s.timers := by
              simpa [Pending, hloop] using hpending
            exact ⟨last, info, hkeep last (fun heq => hwork.2 (heq ▸ hmem)) hlast, hinfo, hnull,
              .inl hmem⟩ }

theorem kept_freeInfo (hs : s.Kept) (hstep : s.freeInfo = some s') : s'.Kept := by
  cases hloop : s.loop with
  | idle | called | wakeTimeout | clear => simp [freeInfo, hloop] at hstep
  | free p_info =>
      simp only [freeInfo, hloop] at hstep
      obtain rfl := Option.some.inj hstep
      have hwork := hs.looping p_info (by rw [hloop]; rfl)
      have hother : ∀ other, other ≠ p_info →
          Function.update s.infos p_info none other = s.infos other :=
        fun other hne => Function.update_of_ne hne _ _
      have hlastNe : ∀ other, s.s_last_wake_timeout_info = some other → other ≠ p_info := by
        rintro other hlast rfl
        exact (hs.last other hlast).2 hloop
      exact
        { hs with
          timers := by
            intro other hmem
            dsimp only at hmem ⊢
            rw [hother other fun heq => hwork.2 (heq ▸ hmem)]
            exact hs.timers other hmem
          looping := fun _ hother => by cases hother
          live := by
            intro other info hinfo hnull hpending
            have hmem : other ∈ s.timers := hpending.resolve_right (by simp)
            dsimp only at hinfo
            rw [hother other fun heq => hwork.2 (heq ▸ hmem)] at hinfo
            exact hs.live other info hinfo hnull (.inl hmem)
          last := by
            intro other hlast
            dsimp only
            rw [hother other (hlastNe other hlast)]
            exact ⟨(hs.last other hlast).1, by simp⟩
          committed := fun _ hpoint => by cases hpoint
          timeout := by
            intro hheld
            obtain ⟨last, info, hlast, hinfo, hnull, hpending⟩ := hs.timeout hheld
            refine ⟨last, info, hlast, ?_, hnull, .inl ?_⟩
            · dsimp only
              rw [hother last (hlastNe last hlast)]
              exact hinfo
            · simpa [Pending, hloop] using hpending }

theorem kept_step (hs : s.Kept) (hversion : 13 ≤ version) {action : WakeAction}
    (hundisturbed : s.Undisturbed action) (hstep : s.step version action = some s') : s'.Kept := by
  cases action with
  | grabPartialWakeLock calloc => exact kept_grabPartialWakeLock hs hversion hundisturbed hstep
  | releaseWakeLock =>
      obtain rfl := Option.some.inj hstep
      exact kept_releaseWakeLock hs hversion
  | fire p_info => exact kept_fire hs hstep
  | readUserParam => exact kept_readUserParam hs hstep
  | wakeTimeoutCallback => exact kept_wakeTimeoutCallback hs hversion hstep
  | clearLast => exact kept_clearLast hs hstep
  | freeInfo => exact kept_freeInfo hs hstep

theorem kept_initial : initial.Kept where
  held_iff := by simp [initial]
  timers _ hmem := absurd hmem List.not_mem_nil
  nodup := List.nodup_nil
  looping _ heq := by cases heq
  live _ _ hinfo := by cases hinfo
  last _ heq := by cases heq
  committed _ heq := by cases heq
  timeout hheld := by cases hheld
  releases _ hmem := absurd hmem List.not_mem_nil

/-- While no grab comes between the read of a `NULL` parameter and the critical
section that follows it, the wake lock is sound. -/
theorem undisturbed_timeouts_sound (version : Int) (hversion : 13 ≤ version)
    (actions : List WakeAction)
    (hundisturbed : (system version).Guarded Undisturbed initial actions) :
    (system version).Throughout Sound initial actions :=
  Transition.System.throughout_of_guarded Kept (fun _ hs => hs.sound)
    (fun _ _ _ hs hundisturbed hstep => kept_step hs hversion hundisturbed hstep)
    kept_initial hundisturbed

/-- A second grab supersedes the first timeout, which then does nothing, and the
second one releases the lock. -/
theorem undisturbed_timeouts_sound_superseded :
    (system 15).Throughout Sound initial
      [.grabPartialWakeLock 100, .grabPartialWakeLock 200, .fire 100, .readUserParam, .clearLast,
        .freeInfo, .fire 200, .readUserParam, .wakeTimeoutCallback, .clearLast, .freeInfo] := by
  apply undisturbed_timeouts_sound 15 (by decide)
  decide

/-- The second grab comes when the loop already read that the first timeout is not
cancelled. -/
theorem superseded_timeout_releases :
    ¬ (system 15).Throughout Sound initial
      [.grabPartialWakeLock 100, .fire 100, .readUserParam, .grabPartialWakeLock 200,
        .wakeTimeoutCallback] := by
  apply Transition.System.not_throughout_of_any fun s =>
    decide (∃ release ∈ s.releases, release.grab ≠ release.grabs)
  · intro s hbad hs
    obtain ⟨release, hmem, hne⟩ := of_decide_eq_true hbad
    exact hne (hs.superseded release hmem)
  · decide

end WakeLock

end Serrano.Ril
