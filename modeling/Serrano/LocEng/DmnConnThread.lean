import Mathlib.Tactic.SplitIfs
import Serrano.Foundation.ConditionVariable

/-! # The thread behind the loc api pipe

`loc_eng_dmn_conn_launch_thelper` starts a thread that runs its callbacks and waits
until the first of them is done. The wait is not repeated when the sleeper wakes.
`thread_exit` is read and written outside the mutex, and another thread may ask
for the end at any time. With `create_thread_cb`, as the only caller has it, nobody
looks whether a thread was made. All four callbacks are given, as that caller does,
so that the tests for null pointers before each call are left out.
-/

namespace Serrano.LocEng.Thelper

open ConditionVariable

inductive Thread
  | launcher
  | main
  | unblocker
  deriving DecidableEq

/-- The four callbacks of the thread. -/
inductive Callback
  | procInit
  | procPre
  | proc
  | procPost
  deriving DecidableEq

/-- The program points of `loc_eng_dmn_conn_launch_thelper` with
`thelper_signal_wait`, of `thelper_main` with `thelper_signal_ready`, and of
`loc_eng_dmn_conn_unblock_thelper`. -/
inductive Point
  | signalInit
  | pthreadCreate
  | created
  | lockWait
  | testWait
  | condWait
  | unlockWait
  | readExit
  | launched
  | enter (callback : Callback)
  | leave (callback : Callback)
  | initFailed
  | lockReady (failed : Bool)
  | setReady (failed : Bool)
  | condSignal (failed : Bool)
  | unlockReady (failed : Bool)
  | preFailed
  | procFailed
  | checkExit
  | exited
  | unblock
  deriving DecidableEq

/-- A call of a callback: whether `thread_exit` was set when it started, and what
it returned. -/
structure Call where
  callback : Callback
  exiting : Bool
  result : Option Int
  deriving DecidableEq

/-- `calls` has the latest call first. `created` and `result` record whether a thread
was made and what the launcher answers, and `unblocked` whether the end was asked for. -/
structure Shared where
  thread_exit : Bool
  thread_ready : Bool
  created : Option Bool
  result : Option Int
  calls : List Call
  unblocked : Bool
  deriving DecidableEq

namespace Shared

variable (shared : Shared)

def enter (callback : Callback) : Shared :=
  { shared with calls := ⟨callback, shared.thread_exit, none⟩ :: shared.calls }

def leave (result : Int) : Shared :=
  match shared.calls with
  | [] => shared
  | call :: earlier => { shared with calls := { call with result := some result } :: earlier }

/-- What `loc_eng_dmn_conn_launch_thelper` returns after the wait. -/
def readExit : Shared := { shared with result := some (if shared.thread_exit then 1 else 0) }

end Shared

/-- Where `thelper_main` goes on when a callback returns. -/
def afterCall : Callback → Int → Point
  | .procInit, result => if result < 0 then .initFailed else .lockReady false
  | .procPre, result => if result < 0 then .preFailed else .enter .proc
  | .proc, result => if result < 0 then .procFailed else .checkExit
  | .procPost, _ => .exited

section Code

variable (create_thread_cb : Bool)

/-- What follows the attempt to make a thread, whose result is zero if there is one. The
result of `create_thread_cb`, if this is given, is not looked at. -/
def afterCreate (result : Int) : Point :=
  if result = 0 then .created else if create_thread_cb then .lockWait else .launched

def Shared.create (shared : Shared) (result : Int) : Shared :=
  if result = 0 then { shared with created := some true }
  else if create_thread_cb then { shared with created := some false }
  else { shared with created := some false, result := some (-1) }

/-- The programs. The outside world answers whether a thread is made and the results of
the callbacks. -/
def code : Thread → Point → Instruction Thread Point Shared Int
  | .launcher, .signalInit =>
      .compute (fun _ shared => { shared with thread_exit := false, thread_ready := false })
        fun _ _ => .pthreadCreate
  | .launcher, .pthreadCreate =>
      .compute (fun result shared => shared.create create_thread_cb result)
        fun result _ => afterCreate create_thread_cb result
  | .launcher, .created => .create .main (.enter .procInit) .lockWait
  | .launcher, .lockWait => .lock .testWait
  | .launcher, .testWait =>
      .compute (fun _ shared => shared) fun _ shared =>
        if !shared.thread_ready && !shared.thread_exit then .condWait else .unlockWait
  | .launcher, .condWait => .wait .unlockWait
  -- the result of the wait is computed here, and nobody reads it
  | .launcher, .unlockWait => .unlock .readExit
  | .launcher, .readExit => .compute (fun _ shared => shared.readExit) fun _ _ => .launched
  | .main, .enter callback =>
      .compute (fun _ shared => shared.enter callback) fun _ _ => .leave callback
  | .main, .leave callback =>
      .compute (fun result shared => shared.leave result) fun result _ => afterCall callback result
  | .main, .initFailed =>
      .compute (fun _ shared => { shared with thread_exit := true }) fun _ _ => .lockReady true
  | .main, .lockReady failed => .lock (.setReady failed)
  | .main, .setReady failed =>
      .compute (fun _ shared => { shared with thread_ready := true }) fun _ _ => .condSignal failed
  -- the launcher is the only thread that waits, so a signal wakes every sleeper
  | .main, .condSignal failed => .notify (.unlockReady failed)
  | .main, .unlockReady failed => .unlock (if failed then .exited else .enter .procPre)
  | .main, .preFailed =>
      .compute (fun _ shared => { shared with thread_exit := true }) fun _ _ => .exited
  | .main, .procFailed =>
      .compute (fun _ shared => { shared with thread_exit := true }) fun _ _ => .checkExit
  | .main, .checkExit =>
      .compute (fun _ shared => shared) fun _ shared =>
        if shared.thread_exit then .enter .procPost else .enter .proc
  | .unblocker, .unblock =>
      .compute (fun _ shared => { shared with thread_exit := true, unblocked := true })
        fun _ _ => .unblock
  | _, _ => .stop

/-- The flags may be left from an earlier launch. -/
def initial (thread_exit thread_ready : Bool) : State Thread Point Shared where
  phase
    | .launcher => .running .signalInit
    | .main => .unborn
    | .unblocker => .running .unblock
  mutex := none
  shared := ⟨thread_exit, thread_ready, none, none, [], false⟩

def thelper (thread_exit thread_ready : Bool) :
    Transition.System (State Thread Point Shared) (Action Thread Int) :=
  system (code create_thread_cb) (initial thread_exit thread_ready)

end Code

variable {create_thread_cb : Bool}

namespace Shared

variable (shared : Shared) (result : Int)

@[simp] theorem create_calls : (shared.create create_thread_cb result).calls = shared.calls := by
  unfold create
  split_ifs <;> rfl

@[simp] theorem create_thread_exit :
    (shared.create create_thread_cb result).thread_exit = shared.thread_exit := by
  unfold create
  split_ifs <;> rfl

@[simp] theorem create_thread_ready :
    (shared.create create_thread_cb result).thread_ready = shared.thread_ready := by
  unfold create
  split_ifs <;> rfl

@[simp] theorem create_unblocked :
    (shared.create create_thread_cb result).unblocked = shared.unblocked := by
  unfold create
  split_ifs <;> rfl

end Shared

/-! ## The handshake keeps the protocol -/

/-- Where `thread_mutex` is held. -/
def Point.Inside : Point → Prop
  | testWait | condWait | unlockWait | setReady _ | condSignal _ | unlockReady _ => True
  | _ => False

def inside (_ : Thread) (point : Point) : Prop := point.Inside

/-- The launcher waits for `thread_ready`. -/
def handshake : Protocol inside fun shared : Shared => shared.thread_ready = true where
  blocked thread point := thread = .launcher ∧ point = .condWait
  announcing thread point := thread = .main ∧ ∃ failed, point = .condSignal failed
  blocked_inside := by
    rintro thread point ⟨rfl, rfl⟩
    trivial

theorem afterCall_not_inside (callback : Callback) (result : Int) :
    ¬ (afterCall callback result).Inside := by
  cases callback <;> by_cases hfailed : result < 0 <;> simp [afterCall, hfailed, Point.Inside]

theorem afterCreate_outside (result : Int) :
    ¬ (afterCreate create_thread_cb result).Inside := by
  unfold afterCreate
  split_ifs <;> simp [Point.Inside]

theorem labelled : Labelled (code create_thread_cb) inside := by
  intro thread point
  cases thread <;> cases point
  case main.leave callback =>
    exact fun result _ => iff_of_false (afterCall_not_inside callback result) id
  all_goals simp [code, Fits, inside, Point.Inside]
  case launcher.pthreadCreate => exact fun result _ => afterCreate_outside result
  case launcher.testWait =>
    intro shared
    cases shared.thread_ready <;> cases shared.thread_exit <;> simp
  case main.unlockReady failed => cases failed <;> simp
  case main.checkExit =>
    intro shared
    cases shared.thread_exit <;> simp

theorem thread_ready_enter (shared : Shared) (callback : Callback) :
    (shared.enter callback).thread_ready = shared.thread_ready := rfl

theorem thread_ready_leave (shared : Shared) (result : Int) :
    (shared.leave result).thread_ready = shared.thread_ready := by
  unfold Shared.leave
  split <;> rfl

theorem handshake_respects (thread : Thread) (point : Point) :
    handshake.Respects thread point (code create_thread_cb thread point) := by
  cases thread <;> cases point <;>
    simp [code, Protocol.Respects, handshake, inside, Point.Inside, thread_ready_enter,
      thread_ready_leave, Shared.readExit]
  case launcher.pthreadCreate =>
    intro result
    unfold afterCreate
    split_ifs <;> simp
  case launcher.testWait =>
    intro shared
    cases shared.thread_ready <;> simp

/-! ## The calls of the thread -/

namespace Call

variable (call : Call)

def Succeeded : Prop := ∃ result, call.result = some result ∧ 0 ≤ result

def Failed : Prop := ∃ result, call.result = some result ∧ result < 0

/-- Which call may start right after an earlier one. -/
def MayFollow (later earlier : Call) : Prop :=
  match earlier.callback, later.callback with
  | .procInit, .procPre | .procPre, .proc => earlier.Succeeded
  | .proc, .proc => earlier.Succeeded ∧ earlier.exiting = false
  | .proc, .procPost => earlier.result ≠ none ∧ later.exiting = true
  | _, _ => False

end Call

/-- The calls, the latest first, start with `thread_proc_init` and follow each
other as they may. -/
def Orderly : List Call → Prop
  | [] => True
  | [first] => first.callback = .procInit
  | later :: earlier :: rest => later.MayFollow earlier ∧ Orderly (earlier :: rest)

/-- The thread is through: its first or second callback failed, or the last one
was called. -/
def Ended : List Call → Prop
  | [] => False
  | last :: _ => last.Failed ∧ (last.callback = .procInit ∨ last.callback = .procPre) ∨
      last.result ≠ none ∧ last.callback = .procPost

namespace Orderly

variable {call : Call} {calls : List Call}

theorem tail (hcalls : Orderly (call :: calls)) : Orderly calls := by
  cases calls with
  | nil => trivial
  | cons earlier rest => exact hcalls.2

/-- Asking for the end does not make a call disorderly, and neither does its return. -/
theorem change {next : Call} (hcalls : Orderly (call :: calls))
    (hcallback : next.callback = call.callback)
    (hexiting : call.exiting = true → next.exiting = true) : Orderly (next :: calls) := by
  cases calls with
  | nil => exact hcallback.trans hcalls
  | cons earlier rest =>
      refine ⟨?_, hcalls.2⟩
      have hfollow := hcalls.1
      unfold Call.MayFollow at hfollow ⊢
      rw [hcallback]
      split at hfollow <;> simp_all

theorem initSucceeded (hcalls : Orderly (call :: calls)) (hcallback : call.callback ≠ .procInit) :
    ∃ first ∈ calls, first.callback = .procInit ∧ first.Succeeded := by
  induction calls generalizing call with
  | nil => exact absurd hcalls hcallback
  | cons earlier rest ih =>
      by_cases hfirst : earlier.callback = .procInit
      · refine ⟨earlier, List.mem_cons_self, hfirst, ?_⟩
        have hfollow := hcalls.1
        unfold Call.MayFollow at hfollow
        rw [hfirst] at hfollow
        split at hfollow <;> simp_all
      · obtain ⟨first, hmem, hinit⟩ := ih hcalls.2 hfirst
        exact ⟨first, List.mem_cons_of_mem earlier hmem, hinit⟩

end Orderly

/-! ## What the threads know of each other -/

namespace Shared

variable (shared : Shared)

def InitSucceeded : Prop :=
  ∃ call ∈ shared.calls, call.callback = .procInit ∧ call.Succeeded

/-- Someone asked for the end, or a callback failed. -/
def Excused : Prop := shared.unblocked = true ∨ ∃ call ∈ shared.calls, call.Failed

/-- The only call is that of `thread_proc_init`, and it returned. -/
def InitReturned (failed : Bool) : Prop :=
  ∃ exiting result, shared.calls = [⟨.procInit, exiting, some result⟩] ∧
    (failed = true ↔ result < 0) ∧ (failed = true → shared.thread_exit = true)

/-- The latest call was of the callback, and what it returned. -/
def Latest (callback : Callback) (returned : Bool → Int → Prop) : Prop :=
  ∃ exiting result earlier,
    shared.calls = ⟨callback, exiting, some result⟩ :: earlier ∧ returned exiting result

end Shared

/-- What `thelper_main` has done at each of its points. -/
def MainKnows (shared : Shared) : Phase Point → Prop
  | .unborn => shared.calls = []
  | .running (.enter callback) => Orderly (⟨callback, shared.thread_exit, none⟩ :: shared.calls) ∧
      shared.thread_ready = !(callback = .procInit)
  | .running (.leave callback) =>
      (∃ exiting earlier, shared.calls = ⟨callback, exiting, none⟩ :: earlier) ∧
      shared.thread_ready = !(callback = .procInit)
  | .running .initFailed =>
      (∃ exiting result, shared.calls = [⟨.procInit, exiting, some result⟩] ∧ result < 0) ∧
      shared.thread_ready = false
  | .running (.lockReady failed) | .running (.setReady failed) =>
      shared.InitReturned failed ∧ shared.thread_ready = false
  | .running (.condSignal failed) | .running (.unlockReady failed) =>
      shared.InitReturned failed ∧ shared.thread_ready = true
  | .running .preFailed =>
      shared.Latest .procPre (fun _ result => result < 0) ∧ shared.thread_ready = true
  | .running .procFailed =>
      shared.Latest .proc (fun _ result => result < 0) ∧ shared.thread_ready = true
  | .running .checkExit =>
      shared.Latest .proc (fun exiting result =>
        (exiting = true → shared.thread_exit = true) ∧ (result < 0 → shared.thread_exit = true)) ∧
      shared.thread_ready = true
  | .running .exited =>
      Ended shared.calls ∧ shared.thread_exit = true ∧ shared.thread_ready = true
  | _ => False

/-- The launcher waits for a thread, or without one. -/
def Awaits (create_thread_cb : Bool) (shared : Shared) (main : Phase Point) : Prop :=
  main ≠ .unborn ∧ shared.created = some true ∨
    create_thread_cb = true ∧ main = .unborn ∧ shared.created = some false ∧
      shared.thread_ready = false

/-- What the launcher has seen at each of its points. -/
def LauncherKnows (create_thread_cb : Bool) (shared : Shared) (main : Phase Point) :
    Phase Point → Prop
  | .running .signalInit => main = .unborn ∧ shared.created = none
  | .running .pthreadCreate =>
      main = .unborn ∧ shared.created = none ∧ shared.thread_ready = false
  | .running .created =>
      main = .unborn ∧ shared.created = some true ∧ shared.thread_ready = false
  | .running .lockWait | .running .testWait | .running .condWait | .asleep .unlockWait
  | .woken .unlockWait | .running .unlockWait | .running .readExit =>
      Awaits create_thread_cb shared main
  | .running .launched =>
      create_thread_cb = false ∧ main = .unborn ∧ shared.created = some false ∧
          shared.result = some (-1) ∨
        Awaits create_thread_cb shared main ∧
          (shared.result = some 0 ∨ shared.result = some 1 ∧ shared.Excused)
  | _ => False

structure Inv (create_thread_cb : Bool) (s : State Thread Point Shared) : Prop where
  exclusive : Exclusive inside s
  attended : handshake.Attended s
  main : MainKnows s.shared (s.phase .main)
  launcher : LauncherKnows create_thread_cb s.shared (s.phase .main) (s.phase .launcher)
  unblocker : s.phase .unblocker = .running .unblock
  orderly : Orderly s.shared.calls
  exiting : ∀ call ∈ s.shared.calls, call.exiting = true → s.shared.thread_exit = true
  excused : s.phase .launcher ≠ .running .signalInit → s.shared.thread_exit = true →
    s.shared.Excused

theorem initial_inv (thread_exit thread_ready : Bool) :
    Inv create_thread_cb (initial thread_exit thread_ready) where
  exclusive := ⟨fun thread => by cases thread <;> simp [initial, Phase.Inside, inside, Point.Inside],
    fun thread => by cases thread <;> trivial⟩
  attended := ⟨fun thread point hphase hblocked => by
      obtain ⟨rfl, rfl⟩ := hblocked
      simp [initial] at hphase,
    fun thread point hphase => by cases thread <;> simp [initial] at hphase,
    fun thread => by cases thread <;> trivial⟩
  main := rfl
  launcher := ⟨rfl, rfl⟩
  unblocker := rfl
  orderly := trivial
  exiting := by simp [initial]
  excused := by simp [initial]

/-! ## One lemma for each kind of step -/

theorem Shared.InitReturned.mono {shared later : Shared} {failed : Bool}
    (hknows : shared.InitReturned failed) (hcalls : later.calls = shared.calls)
    (hexit : shared.thread_exit = true → later.thread_exit = true) : later.InitReturned failed := by
  obtain ⟨exiting, result, heq, hfailed, himp⟩ := hknows
  exact ⟨exiting, result, hcalls.trans heq, hfailed, fun hf => hexit (himp hf)⟩

/-- What the thread knows is not disturbed by the others, who may ask for the end. -/
theorem MainKnows.mono {shared later : Shared} {main : Phase Point}
    (hknows : MainKnows shared main) (hcalls : later.calls = shared.calls)
    (hready : main ≠ .unborn → later.thread_ready = shared.thread_ready)
    (hexit : main ≠ .unborn → shared.thread_exit = true → later.thread_exit = true) :
    MainKnows later main := by
  unfold MainKnows at hknows ⊢
  split at hknows
  case h_1 => exact hcalls.trans hknows
  case h_2 =>
    exact ⟨hcalls ▸ hknows.1.change rfl (hexit (by simp)), (hready (by simp)).trans hknows.2⟩
  case h_3 => exact ⟨by rw [hcalls]; exact hknows.1, (hready (by simp)).trans hknows.2⟩
  case h_4 => exact ⟨by rw [hcalls]; exact hknows.1, (hready (by simp)).trans hknows.2⟩
  case h_5 | h_6 | h_7 | h_8 =>
    exact ⟨hknows.1.mono hcalls (hexit (by simp)), (hready (by simp)).trans hknows.2⟩
  case h_9 | h_10 =>
    exact ⟨by rw [Shared.Latest, hcalls]; exact hknows.1, (hready (by simp)).trans hknows.2⟩
  case h_11 =>
    obtain ⟨⟨exiting, result, earlier, heq, hexiting, hfailed⟩, hnow⟩ := hknows
    exact ⟨⟨exiting, result, earlier, hcalls.trans heq, fun he => hexit (by simp) (hexiting he),
      fun hf => hexit (by simp) (hfailed hf)⟩, (hready (by simp)).trans hnow⟩
  case h_12 =>
    exact ⟨hcalls ▸ hknows.1, hexit (by simp) hknows.2.1, (hready (by simp)).trans hknows.2.2⟩
  case h_13 => exact hknows

theorem Awaits.mono {shared later : Shared} {main after : Phase Point}
    (hknows : Awaits create_thread_cb shared main) (hborn : main ≠ .unborn)
    (hafter : after ≠ .unborn) (hcreated : later.created = shared.created) :
    Awaits create_thread_cb later after := by
  rcases hknows with ⟨-, hsome⟩ | ⟨-, hunborn, -⟩
  · exact .inl ⟨hafter, hcreated.trans hsome⟩
  · exact absurd hunborn hborn

/-- What the launcher knows is not disturbed by the thread. -/
theorem LauncherKnows.mono {shared later : Shared} {main after launcher : Phase Point}
    (hknows : LauncherKnows create_thread_cb shared main launcher) (hborn : main ≠ .unborn)
    (hafter : after ≠ .unborn) (hcreated : later.created = shared.created)
    (hresult : later.result = shared.result) (hexcused : shared.Excused → later.Excused) :
    LauncherKnows create_thread_cb later after launcher := by
  unfold LauncherKnows at hknows ⊢
  split at hknows
  case h_11 =>
    rcases hknows with ⟨-, hunborn, -⟩ | ⟨hawaits, hanswer⟩
    · exact absurd hunborn hborn
    · exact .inr ⟨hawaits.mono hborn hafter hcreated,
        hanswer.imp hresult.trans (And.imp hresult.trans hexcused)⟩
  case h_1 | h_2 | h_3 => exact absurd hknows.1 hborn
  case h_12 => exact hknows
  all_goals exact hknows.mono hborn hafter hcreated

theorem LauncherKnows.wake {shared : Shared} {main launcher : Phase Point}
    (hknows : LauncherKnows create_thread_cb shared main launcher) :
    LauncherKnows create_thread_cb shared main launcher.wake := by
  unfold LauncherKnows at hknows
  split at hknows <;> first | exact hknows | exact hknows.elim

/-- What the launcher knows is not disturbed by someone who asks for the end. -/
theorem LauncherKnows.unblock {shared : Shared} {main launcher : Phase Point}
    (hknows : LauncherKnows create_thread_cb shared main launcher) :
    LauncherKnows create_thread_cb { shared with thread_exit := true, unblocked := true } main
      launcher := by
  unfold LauncherKnows at hknows ⊢
  split at hknows
  case h_11 =>
    refine hknows.imp_right fun hanswer => ⟨hanswer.1, ?_⟩
    exact hanswer.2.imp_right fun hone => ⟨hone.1, .inl rfl⟩
  all_goals exact hknows

/-! ## The steps of the thread -/

namespace Shared

variable {shared : Shared}

theorem Excused.enter (hexcused : shared.Excused) (callback : Callback) :
    (shared.enter callback).Excused := by
  rcases hexcused with hunblocked | ⟨call, hmem, hfailed⟩
  · exact .inl hunblocked
  · exact .inr ⟨call, List.mem_cons_of_mem _ hmem, hfailed⟩

theorem Excused.leave (hexcused : shared.Excused) {callback : Callback} {exiting : Bool}
    {earlier : List Call} (hcalls : shared.calls = ⟨callback, exiting, none⟩ :: earlier)
    (result : Int) : (shared.leave result).Excused := by
  simp only [Shared.leave, hcalls]
  rcases hexcused with hunblocked | ⟨call, hmem, hfailed⟩
  · exact .inl hunblocked
  · rw [hcalls] at hmem
    rcases List.mem_cons.mp hmem with rfl | htail
    · obtain ⟨r, hr, -⟩ := hfailed
      cases hr
    · exact .inr ⟨call, List.mem_cons_of_mem _ htail, hfailed⟩

theorem InitSucceeded.enter (hinit : shared.InitSucceeded) (callback : Callback) :
    (shared.enter callback).InitSucceeded := by
  obtain ⟨call, hmem, hcall⟩ := hinit
  exact ⟨call, List.mem_cons_of_mem _ hmem, hcall⟩

theorem InitSucceeded.leave (hinit : shared.InitSucceeded) {callback : Callback} {exiting : Bool}
    {earlier : List Call} (hcalls : shared.calls = ⟨callback, exiting, none⟩ :: earlier)
    (result : Int) : (shared.leave result).InitSucceeded := by
  obtain ⟨call, hmem, hcallback, hsucceeded⟩ := hinit
  simp only [Shared.leave, hcalls]
  rw [hcalls] at hmem
  rcases List.mem_cons.mp hmem with rfl | htail
  · obtain ⟨r, hr, -⟩ := hsucceeded
    cases hr
  · exact ⟨call, List.mem_cons_of_mem _ htail, hcallback, hsucceeded⟩

end Shared

/-- After a callback the thread is where its result takes it. -/
theorem mainKnows_leave {shared : Shared} {callback : Callback} {exiting : Bool}
    {earlier : List Call} (hcalls : shared.calls = ⟨callback, exiting, none⟩ :: earlier)
    (hready : shared.thread_ready = !(callback = .procInit)) (horderly : Orderly shared.calls)
    (hexiting : exiting = true → shared.thread_exit = true) (result : Int) :
    MainKnows (shared.leave result) (.running (afterCall callback result)) := by
  rw [hcalls] at horderly
  cases callback with
  | procInit =>
      -- nothing is called before `thread_proc_init`
      have hfirst : earlier = [] := by
        cases earlier with
        | nil => rfl
        | cons before rest =>
            have hfollow := horderly.1
            unfold Call.MayFollow at hfollow
            split at hfollow <;> simp_all
      subst hfirst
      by_cases hfailed : result < 0
      · simp only [afterCall, hfailed, if_true, Shared.leave, hcalls, MainKnows]
        exact ⟨⟨exiting, result, rfl, hfailed⟩, by simpa using hready⟩
      · simp only [afterCall, hfailed, if_false, Shared.leave, hcalls, MainKnows]
        exact ⟨⟨exiting, result, rfl, by simp [hfailed], by simp⟩, by simpa using hready⟩
  | procPre =>
      by_cases hfailed : result < 0
      · simp only [afterCall, hfailed, if_true, Shared.leave, hcalls, MainKnows]
        exact ⟨⟨exiting, result, earlier, rfl, hfailed⟩, by simpa using hready⟩
      · simp only [afterCall, hfailed, if_false, Shared.leave, hcalls, MainKnows]
        exact ⟨⟨⟨result, rfl, by omega⟩, horderly.change rfl id⟩, by simpa using hready⟩
  | proc =>
      by_cases hfailed : result < 0
      · simp only [afterCall, hfailed, if_true, Shared.leave, hcalls, MainKnows]
        exact ⟨⟨exiting, result, earlier, rfl, hfailed⟩, by simpa using hready⟩
      · simp only [afterCall, hfailed, if_false, Shared.leave, hcalls, MainKnows]
        exact ⟨⟨exiting, result, earlier, rfl, hexiting, fun hf => absurd hf hfailed⟩, by
          simpa using hready⟩
  | procPost =>
      have hset : shared.thread_exit = true := by
        cases earlier with
        | nil => simp [Orderly] at horderly
        | cons before rest =>
            have hfollow := horderly.1
            unfold Call.MayFollow at hfollow
            split at hfollow <;> simp_all
      simp only [afterCall, Shared.leave, hcalls, MainKnows]
      exact ⟨.inr ⟨by simp, rfl⟩, hset, by simpa using hready⟩

/-- What a step of the thread itself has to establish. -/
structure MainStep (shared next : Shared) (after : Phase Point) : Prop where
  main : MainKnows next after
  created : next.created = shared.created
  result : next.result = shared.result
  orderly : Orderly next.calls
  exiting : ∀ call ∈ next.calls, call.exiting = true → next.thread_exit = true
  excused : next.thread_exit = true → next.Excused
  monoExcused : shared.Excused → next.Excused
  initSucceeded : shared.InitSucceeded → next.InitSucceeded
  ready : shared.thread_ready = true → next.thread_ready = true
  exit : shared.thread_exit = true → next.thread_exit = true

section Steps

variable {s : State Thread Point Shared} (hs : Inv create_thread_cb s)

include hs

/-- Once the thread is born, the launcher is past the initialisation. -/
theorem Inv.launcher_past (hborn : s.phase .main ≠ .unborn) :
    s.phase .launcher ≠ .running .signalInit := by
  intro hat
  have hknows := hs.launcher
  rw [hat] at hknows
  exact hborn hknows.1

theorem Inv.mainStep_enter {callback : Callback}
    (hphase : s.phase .main = .running (.enter callback)) :
    MainStep s.shared (s.shared.enter callback) (.running (.leave callback)) := by
  have hknows := hs.main
  have hpast := hs.launcher_past (by simp [hphase])
  rw [hphase] at hknows
  refine ⟨⟨⟨s.shared.thread_exit, s.shared.calls, rfl⟩, hknows.2⟩, rfl, rfl, hknows.1, ?_, ?_,
    fun hexcused => hexcused.enter callback, fun hinit => hinit.enter callback, id, id⟩
  · intro call hmem hexiting
    rcases List.mem_cons.mp hmem with rfl | htail
    · exact hexiting
    · exact hs.exiting call htail hexiting
  · exact fun hexit => (hs.excused hpast hexit).enter callback

theorem Inv.mainStep_leave {callback : Callback}
    (hphase : s.phase .main = .running (.leave callback)) (result : Int) :
    MainStep s.shared (s.shared.leave result) (.running (afterCall callback result)) := by
  have hknows := hs.main
  have hpast := hs.launcher_past (by simp [hphase])
  rw [hphase] at hknows
  obtain ⟨⟨exiting, earlier, hcalls⟩, hready⟩ := hknows
  have hleave : s.shared.leave result =
      { s.shared with calls := ⟨callback, exiting, some result⟩ :: earlier } := by
    simp only [Shared.leave, hcalls]
  have hfirst : exiting = true → s.shared.thread_exit = true :=
    hs.exiting ⟨callback, exiting, none⟩ (by simp [hcalls])
  have horderly := hs.orderly
  rw [hcalls] at horderly
  refine ⟨mainKnows_leave hcalls hready hs.orderly hfirst result, by rw [hleave], by rw [hleave],
    by rw [hleave]; exact horderly.change rfl id, ?_, ?_,
    fun hexcused => hexcused.leave hcalls result, fun hinit => hinit.leave hcalls result, by
      rw [hleave]; exact id, by rw [hleave]; exact id⟩
  · rw [hleave]
    intro call hmem hexiting
    rcases List.mem_cons.mp hmem with rfl | htail
    · exact hfirst hexiting
    · exact hs.exiting call (by simp [hcalls, htail]) hexiting
  · intro hexit
    rw [hleave] at hexit
    exact (hs.excused hpast hexit).leave hcalls result

/-- A step of the thread that only sets a flag. -/
theorem Inv.mainStep_flags {next : Shared} {after : Phase Point}
    (hborn : s.phase .main ≠ .unborn) (hmain : MainKnows next after)
    (hcreated : next.created = s.shared.created) (hresult : next.result = s.shared.result)
    (hcalls : next.calls = s.shared.calls) (hunblocked : next.unblocked = s.shared.unblocked)
    (hready : s.shared.thread_ready = true → next.thread_ready = true)
    (hexit : s.shared.thread_exit = true → next.thread_exit = true)
    (hwhy : next.thread_exit = true → s.shared.thread_exit = true ∨
      ∃ call ∈ s.shared.calls, call.Failed) : MainStep s.shared next after := by
  have hsame : s.shared.Excused → next.Excused := by
    rw [Shared.Excused, Shared.Excused, hcalls, hunblocked]
    exact id
  refine ⟨hmain, hcreated, hresult, hcalls ▸ hs.orderly, ?_, fun hnow => ?_, hsame, ?_, hready,
    hexit⟩
  · rw [hcalls]
    exact fun call hmem hexiting => hexit (hs.exiting call hmem hexiting)
  · rcases hwhy hnow with hold | hfailed
    · exact hsame (hs.excused (hs.launcher_past hborn) hold)
    · exact .inr (hcalls ▸ hfailed)
  · rw [Shared.InitSucceeded, Shared.InitSucceeded, hcalls]
    exact id

/-- The steps of the thread that call nothing. -/
theorem Inv.mainStep_point {point after : Point} {next : Shared}
    (hphase : s.phase .main = .running point)
    (hstep : MainKnows next (.running after)) (hsame : next = s.shared) :
    MainStep s.shared next (.running after) := by
  subst hsame
  exact hs.mainStep_flags (by simp [hphase]) hstep rfl rfl rfl rfl id id .inl

theorem Inv.mainStep_fail {point after : Point} (hphase : s.phase .main = .running point)
    (hstep : MainKnows { s.shared with thread_exit := true } (.running after))
    (hfailed : ∃ call ∈ s.shared.calls, call.Failed) :
    MainStep s.shared { s.shared with thread_exit := true } (.running after) :=
  hs.mainStep_flags (by simp [hphase]) hstep rfl rfl rfl rfl id (fun _ => rfl) fun _ => .inr hfailed

theorem Inv.mainStep_checkExit (hphase : s.phase .main = .running .checkExit) :
    MainStep s.shared s.shared
      (.running (if s.shared.thread_exit then .enter .procPost else .enter .proc)) := by
  have hknows := hs.main
  rw [hphase] at hknows
  obtain ⟨⟨exiting, result, earlier, hcalls, hexiting, hfailed⟩, hready⟩ := hknows
  have horderly := hs.orderly
  rw [hcalls] at horderly
  by_cases hexit : s.shared.thread_exit = true
  · rw [if_pos hexit]
    refine hs.mainStep_point hphase ⟨?_, by simpa using hready⟩ rfl
    rw [hcalls]
    exact ⟨⟨by simp, hexit⟩, horderly⟩
  · rw [if_neg hexit]
    refine hs.mainStep_point hphase ⟨?_, by simpa using hready⟩ rfl
    rw [hcalls]
    refine ⟨⟨⟨result, rfl, ?_⟩, Bool.eq_false_iff.mpr fun hset => hexit (hexiting hset)⟩, horderly⟩
    by_contra hneg
    exact hexit (hfailed (by omega))

theorem Inv.mainStep_compute {point : Point} {effect : Int → Shared → Shared}
    {goto : Int → Shared → Point} (hphase : s.phase .main = .running point)
    (hcode : code create_thread_cb .main point = .compute effect goto) (answer : Int) :
    MainStep s.shared (effect answer s.shared) (.running (goto answer s.shared)) := by
  have hknows := hs.main
  rw [hphase] at hknows
  cases point <;> cases hcode
  case enter callback => exact hs.mainStep_enter hphase
  case leave callback => exact hs.mainStep_leave hphase answer
  case initFailed =>
    obtain ⟨⟨exiting, result, hcalls, hfailed⟩, hready⟩ := hknows
    refine hs.mainStep_fail hphase ⟨⟨exiting, result, hcalls, by simp [hfailed], fun _ => rfl⟩,
      hready⟩ ⟨_, by rw [hcalls]; exact List.mem_cons_self, result, rfl, hfailed⟩
  case setReady failed =>
    exact hs.mainStep_flags (by simp [hphase]) ⟨hknows.1.mono rfl id, rfl⟩ rfl rfl rfl rfl
      (fun _ => rfl) id .inl
  case preFailed =>
    obtain ⟨⟨exiting, result, earlier, hcalls, hfailed⟩, hready⟩ := hknows
    refine hs.mainStep_fail hphase ⟨?_, rfl, hready⟩
      ⟨_, by rw [hcalls]; exact List.mem_cons_self, result, rfl, hfailed⟩
    rw [show ({ s.shared with thread_exit := true } : Shared).calls = _ from hcalls]
    exact .inl ⟨⟨result, rfl, hfailed⟩, .inr rfl⟩
  case procFailed =>
    obtain ⟨⟨exiting, result, earlier, hcalls, hfailed⟩, hready⟩ := hknows
    exact hs.mainStep_fail hphase
      ⟨⟨exiting, result, earlier, hcalls, fun _ => rfl, fun _ => rfl⟩, hready⟩
      ⟨_, by rw [hcalls]; exact List.mem_cons_self, result, rfl, hfailed⟩
  case checkExit => exact hs.mainStep_checkExit hphase

theorem Inv.mainStep_unlockReady {failed : Bool}
    (hphase : s.phase .main = .running (.unlockReady failed)) :
    MainStep s.shared s.shared (.running (if failed then .exited else .enter .procPre)) := by
  have hknows := hs.main
  rw [hphase] at hknows
  obtain ⟨⟨exiting, result, hcalls, hfailed, hexit⟩, hready⟩ := hknows
  cases failed with
  | true =>
      refine hs.mainStep_point hphase ⟨?_, hexit rfl, hready⟩ rfl
      rw [hcalls]
      exact .inl ⟨⟨result, rfl, hfailed.mp rfl⟩, .inl rfl⟩
  | false =>
      refine hs.mainStep_point hphase ⟨?_, by simpa using hready⟩ rfl
      rw [hcalls]
      refine ⟨⟨result, rfl, ?_⟩, rfl⟩
      by_contra hneg
      simp at hfailed
      omega

/-- What the thread itself does, whatever the instruction. -/
theorem Inv.mainStep {next : State Thread Point Shared} {answer : Int}
    (hmoves : Moves (code create_thread_cb) s (.run .main answer) next) :
    MainStep s.shared next.shared (next.phase .main) ∧
      s.phase .main ≠ .unborn ∧ next.phase .main ≠ .unborn ∧
      (∀ other, other ≠ .main → next.phase other = s.phase other ∨
        next.phase other = (s.phase other).wake ∧ next.shared.thread_ready = true) := by
  have hknows := hs.main
  cases hmoves with
  | lock thread point next _ hphase hcode hmutex =>
      rw [hphase] at hknows
      cases point <;> cases hcode
      refine ⟨?_, by simp [hphase], by simp, fun other hother => .inl (by simp [hother])⟩
      rw [State.goto_phase_self]
      exact hs.mainStep_point hphase hknows rfl
  | unlock thread point next _ hphase hcode hmutex =>
      rw [hphase] at hknows
      cases point <;> cases hcode
      refine ⟨?_, by simp [hphase], by simp, fun other hother => .inl (by simp [hother])⟩
      rw [State.goto_phase_self]
      exact hs.mainStep_unlockReady hphase
  | wait thread point next _ hphase hcode hmutex => cases point <;> cases hcode
  | notify thread point next _ hphase hcode =>
      rw [hphase] at hknows
      cases point <;> cases hcode
      refine ⟨?_, by simp [hphase], by simp, fun other hother =>
        .inr ⟨by simp [hother], hknows.2⟩⟩
      have hafter : MainKnows s.shared (.running (.unlockReady _)) := hknows
      simpa using hs.mainStep_point hphase hafter rfl
  | create thread point other entry next _ hphase hcode hother => cases point <;> cases hcode
  | compute thread point effect goto answer hphase hcode =>
      refine ⟨?_, by simp [hphase], by simp, fun other hother => .inl (by simp [hother])⟩
      rw [State.goto_phase_self]
      exact hs.mainStep_compute hphase hcode answer
  | join thread point other next final _ hphase hcode hother hfinal =>
      cases point <;> cases hcode
  | resume thread point _ hphase hmutex =>
      rw [hphase] at hknows
      exact hknows.elim

end Steps

/-- What a step of the launcher has to establish. -/
structure LauncherStep (create_thread_cb : Bool) (s next : State Thread Point Shared) :
    Prop where
  main : MainKnows next.shared (next.phase .main)
  launcher : LauncherKnows create_thread_cb next.shared (next.phase .main) (next.phase .launcher)
  unblocker : next.phase .unblocker = s.phase .unblocker
  calls : next.shared.calls = s.shared.calls
  exit : next.shared.thread_exit = s.shared.thread_exit ∨
    s.shared.calls = [] ∧ next.shared.thread_exit = false
  unblocked : next.shared.unblocked = s.shared.unblocked
  past : next.phase .launcher ≠ .running .signalInit →
    s.phase .launcher ≠ .running .signalInit ∨ next.shared.thread_exit = false

/-- What the launcher knows once it has tried to make a thread. -/
theorem launcherKnows_create {shared : Shared} {main : Phase Point} (hmain : main = .unborn)
    (hready : shared.thread_ready = false) (answer : Int) :
    LauncherKnows create_thread_cb (shared.create create_thread_cb answer) main
      (.running (afterCreate create_thread_cb answer)) := by
  unfold Shared.create afterCreate
  split_ifs with hresult hcallback
  · exact ⟨hmain, rfl, hready⟩
  · exact .inr ⟨hcallback, hmain, rfl, hready⟩
  · exact .inl ⟨eq_false_of_ne_true hcallback, hmain, rfl, rfl⟩

theorem Inv.launcherStep_compute {s : State Thread Point Shared} (hs : Inv create_thread_cb s)
    {point : Point}
    {effect : Int → Shared → Shared} {goto : Int → Shared → Point}
    (hphase : s.phase .launcher = .running point)
    (hcode : code create_thread_cb .launcher point = .compute effect goto) (answer : Int) :
    LauncherStep create_thread_cb s { s.goto .launcher (.running (goto answer s.shared)) with
      shared := effect answer s.shared } := by
  have hknows := hs.launcher
  have hmain := hs.main
  rw [hphase] at hknows
  cases point <;> cases hcode
  case signalInit =>
    rw [hknows.1] at hmain
    refine ⟨?_, ?_, by simp, rfl, .inr ⟨hmain, rfl⟩, rfl, fun _ => .inr rfl⟩
    · simpa [hknows.1, MainKnows] using hmain
    · simpa [LauncherKnows] using hknows
  case pthreadCreate =>
    rw [hknows.1] at hmain
    refine ⟨?_, ?_, by simp, by simp, .inl (by simp), by simp, fun _ => .inl (by simp [hphase])⟩
    · simpa [hknows.1, MainKnows] using hmain
    · rw [State.goto_phase_ne _ (by decide), State.goto_phase_self]
      exact launcherKnows_create hknows.1 hknows.2.2 answer
  case testWait =>
    refine ⟨?_, ?_, by simp, rfl, .inl rfl, rfl, fun _ => .inl (by simp [hphase])⟩
    · simpa using hmain
    · cases hready : s.shared.thread_ready <;> cases hexit : s.shared.thread_exit <;>
        simpa [hready, hexit, LauncherKnows] using hknows
  case readExit =>
    refine ⟨?_, ?_, by simp, rfl, .inl rfl, rfl, fun _ => .inl (by simp [hphase])⟩
    · rw [State.goto_phase_ne _ (by decide)]
      exact hmain.mono rfl (fun _ => rfl) fun _ => id
    · rw [State.goto_phase_ne _ (by decide), State.goto_phase_self]
      refine .inr ⟨hknows, ?_⟩
      cases hexit : s.shared.thread_exit with
      | false => exact .inl (by simp [Shared.readExit, hexit])
      | true =>
          refine .inr ⟨by simp [Shared.readExit, hexit], ?_⟩
          exact hs.excused (by simp [hphase]) hexit

theorem Inv.launcherStep {s next : State Thread Point Shared} (hs : Inv create_thread_cb s)
    {answer : Int}
    (hmoves : Moves (code create_thread_cb) s (.run .launcher answer) next) :
    LauncherStep create_thread_cb s next := by
  have hknows := hs.launcher
  have hmain := hs.main
  cases hmoves with
  | lock thread point next _ hphase hcode hmutex =>
      rw [hphase] at hknows
      cases point <;> cases hcode
      refine ⟨?_, ?_, ?_, rfl, .inl rfl, rfl, fun _ => .inl (by simp [hphase])⟩
      · simpa using hmain
      · simpa [LauncherKnows] using hknows
      · simp
  | unlock thread point next _ hphase hcode hmutex =>
      rw [hphase] at hknows
      cases point <;> cases hcode
      refine ⟨?_, ?_, ?_, rfl, .inl rfl, rfl, fun _ => .inl (by simp [hphase])⟩
      · simpa using hmain
      · simpa [LauncherKnows] using hknows
      · simp
  | wait thread point next _ hphase hcode hmutex =>
      rw [hphase] at hknows
      cases point <;> cases hcode
      refine ⟨?_, ?_, ?_, rfl, .inl rfl, rfl, fun _ => .inl (by simp [hphase])⟩
      · simpa using hmain
      · simpa [LauncherKnows] using hknows
      · simp
  | notify thread point next _ hphase hcode => cases point <;> cases hcode
  | create thread point other entry next _ hphase hcode hother =>
      rw [hphase] at hknows
      cases point <;> cases hcode
      rw [hknows.1] at hmain
      refine ⟨?_, ?_, ?_, rfl, .inl rfl, rfl, fun _ => .inl (by simp [hphase])⟩
      · rw [State.goto_phase_ne _ (by decide), State.goto_phase_self]
        refine ⟨?_, by simpa using hknows.2.2⟩
        rw [State.goto_shared, State.goto_shared, show s.shared.calls = [] from hmain]
        rfl
      · rw [State.goto_phase_ne _ (by decide), State.goto_phase_self, State.goto_phase_self]
        exact .inl ⟨by simp, hknows.2.1⟩
      · simp
  | compute thread point effect goto answer hphase hcode =>
      exact hs.launcherStep_compute hphase hcode answer
  | join thread point other next final _ hphase hcode hother hfinal =>
      cases point <;> cases hcode
  | resume thread point _ hphase hmutex =>
      rw [hphase] at hknows
      cases point <;> simp [LauncherKnows] at hknows
      refine ⟨?_, ?_, ?_, rfl, .inl rfl, rfl, fun _ => .inl (by simp [hphase])⟩
      · simpa using hmain
      · simpa [LauncherKnows] using hknows
      · simp

section Moves

variable {s next : State Thread Point Shared}

theorem Inv.launcherMoves (hs : Inv create_thread_cb s) {answer : Int}
    (hmoves : Moves (code create_thread_cb) s (.run .launcher answer) next) :
    Inv create_thread_cb next := by
  have hstep := hs.launcherStep hmoves
  refine ⟨hs.exclusive.moves labelled hmoves,
    hs.attended.moves handshake_respects hs.exclusive hmoves, hstep.main, hstep.launcher,
    hstep.unblocker.trans hs.unblocker, hstep.calls ▸ hs.orderly, ?_, ?_⟩
  · rw [hstep.calls]
    intro call hmem hexiting
    rcases hstep.exit with hsame | ⟨hnone, -⟩
    · exact hsame.trans (hs.exiting call hmem hexiting)
    · simp [hnone] at hmem
  · intro hpast hexit
    rw [Shared.Excused, hstep.calls, hstep.unblocked]
    rcases hstep.exit with hsame | ⟨-, hreset⟩
    · refine hs.excused ?_ (hsame ▸ hexit)
      exact (hstep.past hpast).resolve_right (by simp [hexit])
    · simp [hreset] at hexit

theorem Inv.mainMoves (hs : Inv create_thread_cb s) {answer : Int}
    (hmoves : Moves (code create_thread_cb) s (.run .main answer) next) :
    Inv create_thread_cb next := by
  obtain ⟨hstep, hborn, hafter, hothers⟩ := hs.mainStep hmoves
  have hknows := hs.launcher.mono hborn hafter hstep.created hstep.result hstep.monoExcused
  refine ⟨hs.exclusive.moves labelled hmoves,
    hs.attended.moves handshake_respects hs.exclusive hmoves, hstep.main, ?_, ?_,
    hstep.orderly, hstep.exiting, fun _ => hstep.excused⟩
  · rcases hothers .launcher (by simp) with hsame | ⟨hwoken, -⟩
    · exact hsame ▸ hknows
    · exact hwoken ▸ hknows.wake
  · rcases hothers .unblocker (by simp) with hsame | ⟨hwoken, -⟩
    · exact hsame.trans hs.unblocker
    · rw [hwoken, hs.unblocker]
      rfl

theorem Inv.unblockerMoves (hs : Inv create_thread_cb s) {answer : Int}
    (hmoves : Moves (code create_thread_cb) s (.run .unblocker answer) next) :
    Inv create_thread_cb next := by
  have hexclusive := hs.exclusive.moves labelled hmoves
  have hattended := hs.attended.moves handshake_respects hs.exclusive hmoves
  have hat := hs.unblocker
  cases hmoves with
  | compute thread point effect goto answer hphase hcode =>
      cases hphase.symm.trans hat
      cases hcode
      refine ⟨hexclusive, hattended, ?_, ?_, by simp, hs.orderly, fun _ _ _ => rfl,
        fun _ _ => .inl rfl⟩
      · rw [State.goto_phase_ne _ (by decide)]
        exact hs.main.mono rfl (fun _ => rfl) fun _ _ => rfl
      · rw [State.goto_phase_ne _ (by decide), State.goto_phase_ne _ (by decide)]
        exact hs.launcher.unblock
  | lock _ _ _ _ hphase hcode | unlock _ _ _ _ hphase hcode | wait _ _ _ _ hphase hcode
  | notify _ _ _ _ hphase hcode | create _ _ _ _ _ _ hphase hcode
  | join _ _ _ _ _ _ hphase hcode =>
      cases hphase.symm.trans hat
      cases hcode
  | resume _ _ _ hphase => cases hphase.symm.trans hat

/-- Only the launcher sleeps. -/
theorem Inv.spuriousMoves (hs : Inv create_thread_cb s) {thread : Thread}
    (hmoves : Moves (code create_thread_cb) s (.spurious thread) next) :
    Inv create_thread_cb next := by
  have hexclusive := hs.exclusive.moves labelled hmoves
  have hattended := hs.attended.moves handshake_respects hs.exclusive hmoves
  cases hmoves with
  | spurious _ point hphase =>
      have hlauncher : thread = .launcher := by
        cases thread with
        | launcher => rfl
        | main =>
            have hknows := hs.main
            rw [hphase] at hknows
            exact hknows.elim
        | unblocker => cases hphase.symm.trans hs.unblocker
      subst hlauncher
      have hknows := hs.launcher
      rw [hphase] at hknows
      refine ⟨hexclusive, hattended, by simpa using hs.main, ?_, by simpa using hs.unblocker,
        hs.orderly, hs.exiting, fun _ => hs.excused (by simp [hphase])⟩
      cases point <;> simp_all [LauncherKnows]

theorem Inv.moves (hs : Inv create_thread_cb s) {action : Action Thread Int}
    (hmoves : Moves (code create_thread_cb) s action next) : Inv create_thread_cb next := by
  cases action with
  | run thread answer =>
      cases thread with
      | launcher => exact hs.launcherMoves hmoves
      | main => exact hs.mainMoves hmoves
      | unblocker => exact hs.unblockerMoves hmoves
  | spurious thread => exact hs.spuriousMoves hmoves

end Moves

theorem Inv.of_runFrom {thread_exit thread_ready : Bool} {s final : State Thread Point Shared}
    (hs : Inv create_thread_cb s) {actions : List (Action Thread Int)}
    (hrun : (thelper create_thread_cb thread_exit thread_ready).runFrom s actions = some final) :
    Inv create_thread_cb final :=
  Transition.System.guarded_invariant (fun _ _ => True)
    (fun _ _ _ hinv _ hstep => hinv.moves (moves_of_step hstep)) hs
    (Transition.System.guarded_of_forall (fun _ _ => trivial) _ _) hrun

/-! ## The order of the calls -/

/-- Which callbacks were called before one of each kind, the latest first. -/
theorem Orderly.shape {call : Call} {calls : List Call} (hcalls : Orderly (call :: calls)) :
    (call.callback = .procInit → calls.map Call.callback = []) ∧
    (call.callback = .procPre → calls.map Call.callback = [.procInit]) ∧
    (call.callback = .proc → ∃ n,
      calls.map Call.callback = List.replicate n .proc ++ [.procPre, .procInit]) ∧
    (call.callback = .procPost → ∃ n,
      calls.map Call.callback = List.replicate n .proc ++ [.procPre, .procInit]) := by
  induction calls generalizing call with
  | nil =>
      have hfirst : call.callback = .procInit := hcalls
      simp [hfirst]
  | cons earlier rest ih =>
      obtain ⟨hinit, hpre, hproc, -⟩ := ih hcalls.2
      have hfollow := hcalls.1
      unfold Call.MayFollow at hfollow
      split at hfollow
      next hearlier hlater => simp_all
      next hearlier hlater =>
        exact ⟨by simp [hlater], by simp [hlater],
          fun _ => ⟨0, by simp [hearlier, hpre hearlier]⟩, by simp [hlater]⟩
      next hearlier hlater =>
        obtain ⟨n, hn⟩ := hproc hearlier
        simpa [hearlier, hlater, hn] using ⟨n + 1, rfl⟩
      next hearlier hlater =>
        obtain ⟨n, hn⟩ := hproc hearlier
        simpa [hearlier, hlater, hn] using ⟨n + 1, rfl⟩
      next => exact hfollow.elim

/-- Before a call of `thread_proc` or `thread_proc_post` the end was not asked for
when an earlier `thread_proc` but the last started. -/
theorem Orderly.not_exiting {call : Call} {calls : List Call} (hcalls : Orderly (call :: calls))
    (hcall : call.callback = .proc) :
    ∀ earlier ∈ calls, earlier.callback = .proc → earlier.exiting = false := by
  induction calls generalizing call with
  | nil => simp
  | cons before rest ih =>
      intro earlier hmem hproc
      have hfollow := hcalls.1
      unfold Call.MayFollow at hfollow
      rcases List.mem_cons.mp hmem with rfl | htail
      · simp only [hcall, hproc] at hfollow
        exact hfollow.2
      · by_cases hbefore : before.callback = .proc
        · exact ih hcalls.2 hbefore earlier htail hproc
        · -- then `before` is `thread_proc_pre`, and only `thread_proc_init` came earlier
          have hpre : before.callback = .procPre := by
            split at hfollow <;> simp_all
          have hshape := hcalls.2.shape.2.1 hpre
          have hcallback := List.mem_map_of_mem (f := Call.callback) htail
          rw [hshape, List.mem_singleton] at hcallback
          simp [hcallback] at hproc

theorem Orderly.exiting_le_one {calls : List Call} (hcalls : Orderly calls) :
    (calls.filter fun call => call.callback = .proc && call.exiting).length ≤ 1 := by
  induction calls with
  | nil => simp
  | cons call rest ih =>
      by_cases hproc : call.callback = .proc
      · have hnone : rest.filter (fun call => call.callback = .proc && call.exiting) = [] := by
          rw [List.filter_eq_nil_iff]
          intro earlier hmem hboth
          simp only [Bool.and_eq_true, decide_eq_true_eq] at hboth
          have hclear := hcalls.not_exiting hproc earlier hmem hboth.1
          exact absurd hboth.2 (by simp [hclear])
        rw [List.filter_cons, hnone]
        split <;> simp
      · simpa [List.filter_cons, hproc] using ih hcalls.tail

theorem Orderly.prefix_of_run {calls : List Call} (hcalls : Orderly calls) :
    ∃ n, (calls.map Call.callback).reverse <+:
      [.procInit, .procPre] ++ List.replicate n .proc ++ [.procPost] := by
  cases calls with
  | nil => exact ⟨0, by simp⟩
  | cons call rest =>
      obtain ⟨hinit, hpre, hproc, hpost⟩ := hcalls.shape
      cases hcallback : call.callback with
      | procInit => exact ⟨0, by simp [hcallback, hinit hcallback]⟩
      | procPre => exact ⟨0, by simp [hcallback, hpre hcallback]⟩
      | proc =>
          obtain ⟨n, hn⟩ := hproc hcallback
          refine ⟨n + 1, [.procPost], ?_⟩
          simp [hcallback, hn, List.replicate_succ']
      | procPost =>
          obtain ⟨n, hn⟩ := hpost hcallback
          exact ⟨n, [], by simp [hcallback, hn]⟩

/-- Whoever runs when, and whenever the end is asked for: the thread calls its
callbacks in order, `thread_proc` again and again in between; a callback follows
only one that did not fail, except that the last follows every `thread_proc`; at
most one `thread_proc` starts after `thread_exit` is set; and a thread that is
through has called the last callback unless one of the first two failed. -/
theorem thelper_calls {thread_exit thread_ready : Bool} {actions : List (Action Thread Int)}
    {s : State Thread Point Shared}
    (hrun : (thelper create_thread_cb thread_exit thread_ready).run actions = some s) :
    Orderly s.shared.calls ∧
    (∃ n, (s.shared.calls.map Call.callback).reverse <+:
      [.procInit, .procPre] ++ List.replicate n .proc ++ [.procPost]) ∧
    (s.shared.calls.filter fun call => call.callback = .proc && call.exiting).length ≤ 1 ∧
    (s.phase .main = .running .exited → Ended s.shared.calls) := by
  have hs : Inv create_thread_cb s := (initial_inv thread_exit thread_ready).of_runFrom hrun
  refine ⟨hs.orderly, hs.orderly.prefix_of_run, hs.orderly.exiting_le_one, fun hexited => ?_⟩
  have hknows := hs.main
  rw [hexited] at hknows
  exact hknows.1

/-- The launcher sleeps before the thread runs its first callback. -/
def launchAsleep : List (Action Thread Int) :=
  List.replicate 6 (.run .launcher 0) ++ List.replicate 6 (.run .main 0) ++
    List.replicate 3 (.run .launcher 0)

/-- The end is asked for after one `thread_proc`, just before the next. -/
def unblockBetween : List (Action Thread Int) :=
  launchAsleep ++ List.replicate 5 (.run .main 0) ++ [.run .unblocker 0] ++
    List.replicate 5 (.run .main 0)

theorem thelper_calls_unblockBetween :
    ∃ s, (thelper true true true).run unblockBetween = some s ∧ s.phase .main = .running .exited ∧
      s.shared.calls.length = 5 ∧ Ended s.shared.calls :=
  ⟨_, rfl, rfl, rfl,
    (thelper_calls (show (thelper true true true).run unblockBetween = some _ from rfl)).2.2.2 rfl⟩

/-! ## What the launcher answers -/

/-- What the launcher can rely on when nobody wakes it without a reason. -/
def Prompt (shared : Shared) : Phase Point → Prop
  | .woken .unlockWait => shared.thread_ready = true
  | .running .unlockWait | .running .readExit =>
      shared.thread_ready = true ∨ shared.thread_exit = true
  | .running .launched => shared.result = some 0 → shared.InitSucceeded
  | _ => True

theorem Shared.initSucceeded_of_calls {shared : Shared} {call : Call} {earlier : List Call}
    (hcalls : shared.calls = call :: earlier) (horderly : Orderly shared.calls)
    (hcallback : call.callback ≠ .procInit) : shared.InitSucceeded := by
  rw [hcalls] at horderly
  obtain ⟨first, hmem, hfirst⟩ := horderly.initSucceeded hcallback
  exact ⟨first, by simp [hcalls, hmem], hfirst⟩

theorem Shared.InitReturned.initSucceeded {shared : Shared} {failed : Bool}
    (hreturned : shared.InitReturned failed) (hexit : shared.thread_exit = false) :
    shared.InitSucceeded := by
  obtain ⟨exiting, result, hcalls, hfailed, hset⟩ := hreturned
  refine ⟨⟨.procInit, exiting, some result⟩, by simp [hcalls], rfl, result, rfl, ?_⟩
  by_contra hneg
  have hnow := hset (hfailed.mpr (by omega))
  simp [hexit] at hnow

/-- The thread says it is ready only when its first callback succeeded, or it is
to end. -/
theorem Inv.initSucceeded_of_ready {s : State Thread Point Shared} (hs : Inv create_thread_cb s)
    (hborn : s.phase .main ≠ .unborn) (hready : s.shared.thread_ready = true)
    (hexit : s.shared.thread_exit = false) : s.shared.InitSucceeded := by
  have hknows := hs.main
  have horderly := hs.orderly
  unfold MainKnows at hknows
  split at hknows
  next hphase => exact absurd hphase hborn
  next callback hphase =>
    obtain ⟨first, hfirst⟩ := hknows.1.initSucceeded (by simpa [hready] using hknows.2.symm)
    exact ⟨first, hfirst⟩
  next callback hphase =>
    obtain ⟨⟨exiting, earlier, hcalls⟩, hwhen⟩ := hknows
    exact Shared.initSucceeded_of_calls hcalls horderly (by simpa [hready] using hwhen.symm)
  next hphase => simp [hready] at hknows
  next failed hphase => simp [hready] at hknows
  next failed hphase => simp [hready] at hknows
  next failed hphase => exact hknows.1.initSucceeded hexit
  next failed hphase => exact hknows.1.initSucceeded hexit
  next hphase =>
    obtain ⟨⟨exiting, result, earlier, hcalls, -⟩, -⟩ := hknows
    exact Shared.initSucceeded_of_calls hcalls horderly (by simp)
  next hphase =>
    obtain ⟨⟨exiting, result, earlier, hcalls, -⟩, -⟩ := hknows
    exact Shared.initSucceeded_of_calls hcalls horderly (by simp)
  next hphase =>
    obtain ⟨⟨exiting, result, earlier, hcalls, -⟩, -⟩ := hknows
    exact Shared.initSucceeded_of_calls hcalls horderly (by simp)
  next hphase => simp [hexit] at hknows
  next => exact hknows.elim

theorem Prompt.mono {shared later : Shared} {launcher : Phase Point}
    (hprompt : Prompt shared launcher) (hresult : later.result = shared.result)
    (hready : shared.thread_ready = true → later.thread_ready = true)
    (hexit : shared.thread_exit = true → later.thread_exit = true)
    (hinit : shared.InitSucceeded → later.InitSucceeded) : Prompt later launcher := by
  unfold Prompt at hprompt ⊢
  split at hprompt
  next => exact hready hprompt
  next => exact hprompt.imp hready hexit
  next => exact hprompt.imp hready hexit
  next => exact fun hzero => hinit (hprompt (hresult ▸ hzero))
  next => trivial

theorem Prompt.wake {shared : Shared} {launcher : Phase Point} (hprompt : Prompt shared launcher)
    (hready : shared.thread_ready = true) : Prompt shared launcher.wake := by
  cases launcher with
  | asleep point => cases point <;> first | exact hready | trivial
  | unborn | running point | woken point => exact hprompt

theorem prompt_create (shared : Shared) (answer : Int) :
    Prompt (shared.create create_thread_cb answer)
      (.running (afterCreate create_thread_cb answer)) := by
  unfold Shared.create afterCreate
  split_ifs
  · trivial
  · trivial
  · intro hzero
    cases hzero

theorem Prompt.launcherStep {s next : State Thread Point Shared} (hs : Inv create_thread_cb s)
    (hprompt : Prompt s.shared (s.phase .launcher)) {answer : Int}
    (hmoves : Moves (code create_thread_cb) s (.run .launcher answer) next) :
    Prompt next.shared (next.phase .launcher) := by
  have hknows := hs.launcher
  cases hmoves with
  | lock thread point next _ hphase hcode hmutex =>
      cases point <;> cases hcode
      simp [Prompt]
  | unlock thread point next _ hphase hcode hmutex =>
      rw [hphase] at hprompt
      cases point <;> cases hcode
      simpa [Prompt] using hprompt
  | wait thread point next _ hphase hcode hmutex =>
      cases point <;> cases hcode
      simp [Prompt]
  | notify thread point next _ hphase hcode => cases point <;> cases hcode
  | create thread point other entry next _ hphase hcode hother =>
      cases point <;> cases hcode
      simp [Prompt]
  | compute thread point effect goto answer hphase hcode =>
      rw [hphase] at hprompt hknows
      cases point <;> cases hcode
      case compute.signalInit.refl => simp [Prompt]
      case compute.pthreadCreate.refl =>
        rw [State.goto_phase_self]
        exact prompt_create s.shared answer
      case compute.testWait.refl =>
        cases hready : s.shared.thread_ready <;> cases hexit : s.shared.thread_exit <;>
          simp [hready, hexit, Prompt]
      case compute.readExit.refl =>
        rw [State.goto_phase_self]
        intro hzero
        have hexit : s.shared.thread_exit = false := by
          by_contra hset
          simp [Shared.readExit, hset] at hzero
        have hready : s.shared.thread_ready = true := by
          simpa [Prompt, hexit] using hprompt
        rcases hknows with ⟨hborn, -⟩ | ⟨-, -, -, hnot⟩
        · exact hs.initSucceeded_of_ready hborn hready hexit
        · cases hnot.symm.trans hready
  | join thread point other next final _ hphase hcode hother hfinal =>
      cases point <;> cases hcode
  | resume thread point _ hphase hmutex =>
      rw [hphase] at hprompt hknows
      cases point <;> simp [LauncherKnows] at hknows
      simpa [Prompt] using .inl hprompt

theorem Prompt.moves {s next : State Thread Point Shared} (hs : Inv create_thread_cb s)
    (hprompt : Prompt s.shared (s.phase .launcher)) {action : Action Thread Int}
    (hrun : action.isRun = true) (hmoves : Moves (code create_thread_cb) s action next) :
    Prompt next.shared (next.phase .launcher) := by
  cases action with
  | spurious thread => cases hrun
  | run thread answer =>
      cases thread with
      | launcher => exact Prompt.launcherStep hs hprompt hmoves
      | main =>
          obtain ⟨hstep, -, -, hothers⟩ := hs.mainStep hmoves
          have hlater := hprompt.mono hstep.result hstep.ready hstep.exit hstep.initSucceeded
          rcases hothers .launcher (by simp) with hsame | ⟨hwoken, hready⟩
          · exact hsame ▸ hlater
          · exact hwoken ▸ hlater.wake hready
      | unblocker =>
          have hat := hs.unblocker
          cases hmoves with
          | compute thread point effect goto answer hphase hcode =>
              cases hphase.symm.trans hat
              cases hcode
              rw [State.goto_phase_ne _ (by decide)]
              exact hprompt.mono rfl id (fun _ => rfl) id
          | lock _ _ _ _ hphase hcode | unlock _ _ _ _ hphase hcode | wait _ _ _ _ hphase hcode
          | notify _ _ _ _ hphase hcode | create _ _ _ _ _ _ hphase hcode
          | join _ _ _ _ _ _ hphase hcode =>
              cases hphase.symm.trans hat
              cases hcode
          | resume _ _ _ hphase => cases hphase.symm.trans hat

/-- The launcher knows, and nobody woke it without a reason. -/
def Prompted (create_thread_cb : Bool) (s : State Thread Point Shared) : Prop :=
  Inv create_thread_cb s ∧ Prompt s.shared (s.phase .launcher)

theorem Prompted.of_runFrom {thread_exit thread_ready : Bool} {s final : State Thread Point Shared}
    (hs : Prompted create_thread_cb s) {actions : List (Action Thread Int)}
    (hquiet : ∀ action ∈ actions, action.isRun = true)
    (hrun : (thelper create_thread_cb thread_exit thread_ready).runFrom s actions = some final) :
    Prompted create_thread_cb final :=
  Transition.System.guarded_invariant (fun _ action => action.isRun = true)
    (fun _ _ _ hinv hrunning hstep => ⟨hinv.1.moves (moves_of_step hstep),
      hinv.2.moves hinv.1 hrunning (moves_of_step hstep)⟩) hs
    (Transition.System.guarded_of_forall_mem (fun action hmem _ => hquiet action hmem) _) hrun

/-- The launcher sleeps, and no thread was made that could wake it. -/
structure Stranded (create_thread_cb : Bool) (s : State Thread Point Shared) : Prop where
  callback : create_thread_cb = true
  unborn : s.phase .main = .unborn
  created : s.shared.created = some false
  asleep : ∃ point, s.phase .launcher = .asleep point

/-- Nobody who was asked to wakes a stranded launcher, not even someone who asks for the end. -/
theorem Stranded.moves {s next : State Thread Point Shared} (hs : Stranded create_thread_cb s)
    (hunblocker : s.phase .unblocker = .running .unblock) {action : Action Thread Int}
    (hrun : action.isRun = true) (hmoves : Moves (code create_thread_cb) s action next) :
    Stranded create_thread_cb next := by
  obtain ⟨point, hasleep⟩ := hs.asleep
  have hself : ∀ thread, (∃ at_, s.phase thread = .running at_) ∨
      (∃ at_, s.phase thread = .woken at_) → thread = .unblocker := by
    intro thread hawake
    cases thread with
    | unblocker => rfl
    | launcher =>
        rw [hasleep] at hawake
        rcases hawake with ⟨at_, h⟩ | ⟨at_, h⟩ <;> cases h
    | main =>
        rw [hs.unborn] at hawake
        rcases hawake with ⟨at_, h⟩ | ⟨at_, h⟩ <;> cases h
  cases hmoves with
  | compute thread at_ effect goto answer hphase hcode =>
      obtain rfl := hself thread (.inl ⟨at_, hphase⟩)
      cases hphase.symm.trans hunblocker
      cases hcode
      exact ⟨hs.callback, by simpa using hs.unborn, hs.created, point, by simpa using hasleep⟩
  | lock thread at_ _ _ hphase hcode | unlock thread at_ _ _ hphase hcode
  | wait thread at_ _ _ hphase hcode | notify thread at_ _ _ hphase hcode
  | create thread at_ _ _ _ _ hphase hcode | join thread at_ _ _ _ _ hphase hcode =>
      obtain rfl := hself thread (.inl ⟨at_, hphase⟩)
      cases hphase.symm.trans hunblocker
      cases hcode
  | resume thread at_ _ hphase =>
      obtain rfl := hself thread (.inr ⟨at_, hphase⟩)
      cases hphase.symm.trans hunblocker
  | spurious thread => cases hrun

/-- It sleeps for ever unless it wakes without a reason. -/
theorem Stranded.of_runFrom {thread_exit thread_ready : Bool}
    {s final : State Thread Point Shared} (hs : Stranded create_thread_cb s)
    (hinv : Inv create_thread_cb s) {actions : List (Action Thread Int)}
    (hquiet : ∀ action ∈ actions, action.isRun = true)
    (hrun : (thelper create_thread_cb thread_exit thread_ready).runFrom s actions = some final) :
    Stranded create_thread_cb final := by
  have hstep : ∀ (state : State Thread Point Shared) (action : Action Thread Int)
      (next : State Thread Point Shared),
      Inv create_thread_cb state ∧ Stranded create_thread_cb state → action.isRun = true →
        (thelper create_thread_cb thread_exit thread_ready).step state action = some next →
          Inv create_thread_cb next ∧ Stranded create_thread_cb next :=
    fun state action next h hrunning hnext => ⟨h.1.moves (moves_of_step hnext),
      h.2.moves h.1.unblocker hrunning (moves_of_step hnext)⟩
  have hguard : (thelper create_thread_cb thread_exit thread_ready).Guarded
      (fun _ action => action.isRun = true) s actions :=
    Transition.System.guarded_of_forall_mem (fun action hmem _ => hquiet action hmem) s
  exact (Transition.System.guarded_invariant _ hstep ⟨hinv, hs⟩ hguard hrun).2

/-- The way of the thread to its announcement, and out of the mutex. -/
def Point.Announces : Point → Prop
  | enter .procInit | leave .procInit | initFailed | lockReady _ | setReady _ | condSignal _
  | unlockReady _ => True
  | _ => False

section Progress

variable {s : State Thread Point Shared} (hs : Inv create_thread_cb s)

include hs

/-- The thread can go on to its announcement, unless it waits for the mutex. -/
theorem Inv.main_canRun {point : Point} (hphase : s.phase .main = .running point)
    (hpoint : point.Announces) (hfree : s.mutex = none ∨ s.mutex = some .main) :
    ∃ next, s.step (code create_thread_cb) (.run .main 0) = some next := by
  have howner := hs.exclusive.owner_running hphase
  rw [State.step, hphase]
  cases point <;> simp only [Point.Announces] at hpoint
  case unlockReady failed => simp [code, State.perform, howner.mpr trivial]
  case lockReady failed =>
    have hnot : s.mutex ≠ some .main := fun hown => howner.mp hown
    simp [code, State.perform, hfree.resolve_right hnot]
  all_goals simp [code, State.perform]

/-- Whoever holds the mutex beside the launcher is the thread on its way. -/
theorem Inv.mutex_of_not_launcher (hnot : s.mutex ≠ some .launcher) :
    s.mutex = none ∨ s.mutex = some .main ∧
      ∃ point, s.phase .main = .running point ∧ point.Announces := by
  cases hmutex : s.mutex with
  | none => exact .inl rfl
  | some owner =>
      have hinside := (hs.exclusive.owner owner).mp hmutex
      cases owner with
      | launcher => exact absurd hmutex hnot
      | unblocker =>
          rw [hs.unblocker] at hinside
          exact hinside.elim
      | main =>
          have hknows := hs.main
          refine .inr ⟨rfl, ?_⟩
          cases hphase : s.phase .main with
          | unborn | asleep point | woken point =>
              rw [hphase] at hinside
              exact hinside.elim
          | running point =>
              rw [hphase] at hinside hknows
              refine ⟨point, rfl, ?_⟩
              cases point <;> trivial

/-- A thread that is not ready yet is on its way to its announcement. -/
theorem Inv.announces_of_not_ready (hborn : s.phase .main ≠ .unborn)
    (hready : s.shared.thread_ready = false) :
    ∃ point, s.phase .main = .running point ∧ point.Announces := by
  have hknows := hs.main
  cases hphase : s.phase .main with
  | unborn => exact absurd hphase hborn
  | asleep point | woken point =>
      rw [hphase] at hknows
      exact hknows.elim
  | running point =>
      rw [hphase] at hknows
      refine ⟨point, rfl, ?_⟩
      cases point <;> simp [MainKnows, hready] at hknows <;> try trivial
      case enter callback =>
        obtain rfl := hknows.2
        trivial
      case leave callback =>
        obtain rfl := hknows.2
        trivial

/-- Until it returns, the launcher can run, or the thread can on the way to its
announcement, or the launcher sleeps and no thread was made. -/
theorem Inv.progress (hnot : s.phase .launcher ≠ .running .launched) :
    (∃ next, s.step (code create_thread_cb) (.run .launcher 0) = some next) ∨
      (∃ point, s.phase .main = .running point ∧ point.Announces ∧
        ∃ next, s.step (code create_thread_cb) (.run .main 0) = some next) ∨
      Stranded create_thread_cb s := by
  have hknows := hs.launcher
  have howner := hs.exclusive.owner .launcher
  -- without the mutex the launcher waits for the thread, or it takes it
  have hwaits : s.mutex ≠ some .launcher → s.mutex ≠ none →
      ∃ point, s.phase .main = .running point ∧ point.Announces ∧
        ∃ next, s.step (code create_thread_cb) (.run .main 0) = some next := by
    intro hother hheld
    rcases hs.mutex_of_not_launcher hother with hfree | ⟨hown, point, hphase, hpoint⟩
    · exact absurd hfree hheld
    · exact ⟨point, hphase, hpoint, hs.main_canRun hphase hpoint (.inr hown)⟩
  cases hphase : s.phase .launcher with
  | unborn =>
      rw [hphase] at hknows
      exact hknows.elim
  | asleep point =>
      rw [hphase] at hknows howner
      cases point <;> simp only [LauncherKnows] at hknows
      have hother : s.mutex ≠ some .launcher := fun hown => howner.mp hown
      rcases hknows with ⟨hborn, -⟩ | ⟨hcallback, hunborn, hnone, -⟩
      · by_cases hfree : s.mutex = none
        · have hpoint : ∃ point, s.phase .main = .running point ∧ point.Announces := by
            cases hready : s.shared.thread_ready with
            | false => exact hs.announces_of_not_ready hborn hready
            | true =>
                obtain ⟨thread, at_, hrunning, rfl, failed, rfl⟩ :=
                  hs.attended.asleep .launcher _ hphase hready
                exact ⟨_, hrunning, trivial⟩
          obtain ⟨point, hmain, hannounces⟩ := hpoint
          exact .inr (.inl ⟨point, hmain, hannounces,
            hs.main_canRun hmain hannounces (.inl hfree)⟩)
        · exact .inr (.inl (hwaits hother hfree))
      · exact .inr (.inr ⟨hcallback, hunborn, hnone, .unlockWait, hphase⟩)
  | woken point =>
      rw [hphase] at howner
      have hother : s.mutex ≠ some .launcher := fun hown => howner.mp hown
      by_cases hfree : s.mutex = none
      · exact .inl (by simp [State.step, hphase, hfree])
      · exact .inr (.inl (hwaits hother hfree))
  | running point =>
      rw [hphase] at hknows howner
      cases point <;> simp only [LauncherKnows] at hknows
      case launched => exact absurd hphase hnot
      case lockWait =>
        have hother : s.mutex ≠ some .launcher := fun hown => howner.mp hown
        by_cases hfree : s.mutex = none
        · exact .inl (by simp [State.step, State.perform, hphase, code, hfree])
        · exact .inr (.inl (hwaits hother hfree))
      case condWait =>
        exact .inl (by simp [State.step, State.perform, hphase, code, howner.mpr trivial])
      case unlockWait =>
        exact .inl (by simp [State.step, State.perform, hphase, code, howner.mpr trivial])
      case created => exact .inl (by simp [State.step, State.perform, hphase, code, hknows.1])
      all_goals exact .inl (by simp [State.step, State.perform, hphase, code])

end Progress

/-- Woken without a reason, the launcher answers 0 before anything was called. -/
example : ((thelper true false false).run (List.replicate 6 (.run .launcher 0) ++
    .spurious .launcher :: List.replicate 3 (.run .launcher 0))).map (fun s =>
      (s.phase .launcher, s.shared.result, s.shared.calls)) =
    some (.running .launched, some 0, []) := rfl

end Serrano.LocEng.Thelper
