import Serrano.Foundation.ConditionVariable

/-! # Starting the event loop

`RIL_startEventLoop` creates the dispatch thread while it holds `s_startupMutex`
and sleeps until `eventLoop` announces itself. Either thread may run at any time,
and the sleeper may wake for no reason.
-/

namespace Serrano.Ril.Startup

open ConditionVariable

inductive Thread
  | caller
  | dispatch
  deriving DecidableEq

/-- The program points of `RIL_startEventLoop` and of `eventLoop`. -/
inductive Point
  | reset
  | lock
  | pthreadCreate
  | created
  | test
  | wait
  | done
  | returned
  | rilEventInit
  | lockStartup
  | setStarted
  | broadcast
  | unlockStartup
  | pipe
  | pipeFailed
  | rilEventLoop
  deriving DecidableEq

/-- `initialised` is what `ril_event_init` leaves behind; `result` and `wakeup`
record whether the thread and the wake-up pipe could be made. -/
structure Shared where
  s_started : Bool
  initialised : Bool
  result : Option Bool
  wakeup : Option Bool
  deriving DecidableEq

/-- The programs. The outside world answers whether a thread can be created and
whether a pipe can be opened. -/
def code : Thread → Point → Instruction Thread Point Shared Bool
  | .caller, .reset =>
      .compute (fun _ shared => { shared with s_started := false }) fun _ _ => .lock
  | .caller, .lock => .lock .pthreadCreate
  | .caller, .pthreadCreate =>
      .compute (fun succeeds shared => { shared with result := some succeeds })
        fun succeeds _ => if succeeds then .created else .done
  | .caller, .created => .create .dispatch .rilEventInit .test
  | .caller, .test =>
      .compute (fun _ shared => shared) fun _ shared => if shared.s_started then .done else .wait
  | .caller, .wait => .wait .test
  | .caller, .done => .unlock .returned
  | .dispatch, .rilEventInit =>
      .compute (fun _ shared => { shared with initialised := true }) fun _ _ => .lockStartup
  | .dispatch, .lockStartup => .lock .setStarted
  | .dispatch, .setStarted =>
      .compute (fun _ shared => { shared with s_started := true }) fun _ _ => .broadcast
  | .dispatch, .broadcast => .notify .unlockStartup
  | .dispatch, .unlockStartup => .unlock .pipe
  | .dispatch, .pipe =>
      .compute (fun succeeds shared => { shared with wakeup := some succeeds })
        fun succeeds _ => if succeeds then .rilEventLoop else .pipeFailed
  | _, _ => .stop

def initial : State Thread Point Shared where
  phase
    | .caller => .running .reset
    | .dispatch => .unborn
  mutex := none
  shared := ⟨false, false, none, none⟩

def startup : Transition.System (State Thread Point Shared) (Action Thread Bool) :=
  system code initial

/-! ## The handshake keeps the protocol -/

/-- Where `s_startupMutex` is held. -/
def Point.Inside : Point → Prop
  | pthreadCreate | created | test | wait | done | setStarted | broadcast | unlockStartup => True
  | _ => False

def inside (_ : Thread) (point : Point) : Prop := point.Inside

/-- The caller waits for `s_started`. -/
def handshake : Protocol inside fun shared : Shared => shared.s_started = true where
  blocked thread point := thread = .caller ∧ point = .wait
  announcing thread point := thread = .dispatch ∧ point = .broadcast
  blocked_inside := by
    rintro thread point ⟨rfl, rfl⟩
    trivial

theorem labelled : Labelled code inside := by
  intro thread point
  cases thread <;> cases point <;> simp [code, Fits, inside, Point.Inside]
  case caller.test =>
    rintro ⟨s_started, _⟩
    cases s_started <;> trivial

theorem handshake_respects (thread : Thread) (point : Point) :
    handshake.Respects thread point (code thread point) := by
  cases thread <;> cases point <;>
    simp [code, Protocol.Respects, handshake, inside, Point.Inside]

/-! ## What the two threads know of each other -/

/-- How far the caller is, by the state of the dispatch thread. -/
def CallerKnows (shared : Shared) (dispatch : Phase Point) : Phase Point → Prop
  | .running .reset | .running .lock | .running .pthreadCreate =>
      dispatch = .unborn ∧ shared.result = none
  | .running .created => dispatch = .unborn ∧ shared.result = some true
  | .running .test | .running .wait | .asleep .test | .woken .test =>
      dispatch ≠ .unborn ∧ shared.result = some true
  | .running .done | .running .returned =>
      shared.result = some false ∧ dispatch = .unborn ∨
        shared.result = some true ∧ dispatch ≠ .unborn ∧ shared.s_started = true
  | _ => False

/-- What the dispatch thread has left behind at each of its points. -/
def DispatchKnows (shared : Shared) : Phase Point → Prop
  | .unborn | .running .rilEventInit => shared.s_started = false ∧ shared.wakeup = none
  | .running .lockStartup | .running .setStarted =>
      shared.s_started = false ∧ shared.initialised = true ∧ shared.wakeup = none
  | .running .broadcast | .running .unlockStartup | .running .pipe =>
      shared.s_started = true ∧ shared.initialised = true ∧ shared.wakeup = none
  | .running .pipeFailed =>
      shared.s_started = true ∧ shared.initialised = true ∧ shared.wakeup = some false
  | .running .rilEventLoop =>
      shared.s_started = true ∧ shared.initialised = true ∧ shared.wakeup = some true
  | _ => False

structure Inv (s : State Thread Point Shared) : Prop where
  exclusive : Exclusive inside s
  attended : handshake.Attended s
  caller : CallerKnows s.shared (s.phase .dispatch) (s.phase .caller)
  dispatch : DispatchKnows s.shared (s.phase .dispatch)

theorem initial_inv : Inv initial where
  exclusive := ⟨fun thread => by cases thread <;> simp [initial, Phase.Inside, inside, Point.Inside],
    fun thread => by cases thread <;> trivial⟩
  attended := ⟨fun thread point _ _ => by simp [initial], fun thread point _ => by simp [initial],
    fun thread => by cases thread <;> trivial⟩
  caller := ⟨rfl, rfl⟩
  dispatch := ⟨rfl, rfl⟩

/-- What the caller knows survives the steps of the dispatch thread. -/
theorem CallerKnows.mono {shared later : Shared} {dispatch after caller : Phase Point}
    (hknows : CallerKnows shared dispatch caller) (hborn : dispatch ≠ .unborn)
    (hafter : after ≠ .unborn) (hresult : later.result = shared.result)
    (hstarted : shared.s_started = true → later.s_started = true) :
    CallerKnows later after caller := by
  unfold CallerKnows at hknows ⊢
  split at hknows <;> simp_all

theorem CallerKnows.wake {shared : Shared} {dispatch caller : Phase Point}
    (hknows : CallerKnows shared dispatch caller) : CallerKnows shared dispatch caller.wake := by
  unfold CallerKnows at hknows
  split at hknows <;> first | exact hknows | exact hknows.elim

theorem knows_compute {s : State Thread Point Shared} (hs : Inv s) {thread : Thread}
    {point : Point} {effect : Bool → Shared → Shared} {goto : Bool → Shared → Point}
    (hphase : s.phase thread = .running point) (hcode : code thread point = .compute effect goto)
    (answer : Bool) :
    CallerKnows (effect answer s.shared)
        ((s.goto thread (.running (goto answer s.shared))).phase .dispatch)
        ((s.goto thread (.running (goto answer s.shared))).phase .caller) ∧
      DispatchKnows (effect answer s.shared)
        ((s.goto thread (.running (goto answer s.shared))).phase .dispatch) := by
  obtain ⟨-, -, hcaller, hdispatch⟩ := hs
  cases thread
  case caller =>
    rw [hphase] at hcaller
    cases point <;> cases hcode
    case reset =>
      simp_all [CallerKnows, DispatchKnows]
    case pthreadCreate =>
      cases answer <;> simp_all [CallerKnows, DispatchKnows]
    case test =>
      refine ⟨?_, by simpa [State.goto] using hdispatch⟩
      cases hstarted : s.shared.s_started <;> simp_all [CallerKnows]
  case dispatch =>
    have hborn : s.phase .dispatch ≠ .unborn := by simp [hphase]
    rw [hphase] at hdispatch
    cases point <;> cases hcode
    case rilEventInit =>
      rw [State.goto_phase_self, State.goto_phase_ne s (by decide)]
      exact ⟨hcaller.mono hborn (by simp) rfl id, hdispatch.1, rfl, hdispatch.2⟩
    case setStarted =>
      rw [State.goto_phase_self, State.goto_phase_ne s (by decide)]
      exact ⟨hcaller.mono hborn (by simp) rfl fun _ => rfl, rfl, hdispatch.2⟩
    case pipe =>
      rw [State.goto_phase_self, State.goto_phase_ne s (by decide)]
      refine ⟨hcaller.mono hborn (by simp) rfl id, ?_⟩
      cases answer <;> exact ⟨hdispatch.1, hdispatch.2.1, rfl⟩

theorem knows_moves {s next : State Thread Point Shared} (hs : Inv s)
    {action : Action Thread Bool} (hmoves : Moves code s action next) :
    CallerKnows next.shared (next.phase .dispatch) (next.phase .caller) ∧
      DispatchKnows next.shared (next.phase .dispatch) := by
  obtain ⟨-, -, hcaller, hdispatch⟩ := id hs
  cases hmoves with
  | lock thread point next _ hphase hcode hmutex =>
      cases thread <;> cases point <;> cases hcode <;>
        simp_all [CallerKnows, DispatchKnows]
  | unlock thread point next _ hphase hcode hmutex =>
      cases thread <;> cases point <;> cases hcode <;>
        simp_all [CallerKnows, DispatchKnows]
  | wait thread point next _ hphase hcode hmutex =>
      cases thread <;> cases point <;> cases hcode
      simp_all [CallerKnows, DispatchKnows]
  | notify thread point next _ hphase hcode =>
      cases thread <;> cases point <;> cases hcode
      -- only the caller can be asleep, and it wakes where it slept
      have hborn : s.phase .dispatch ≠ .unborn := by simp [hphase]
      rw [hphase] at hdispatch
      exact ⟨by simpa using (hcaller.mono hborn (by simp) rfl id).wake,
        by simpa [DispatchKnows] using hdispatch⟩
  | create thread point other entry next _ hphase hcode hother =>
      cases thread <;> cases point <;> cases hcode
      simp_all [CallerKnows, DispatchKnows]
  | compute thread point effect goto answer hphase hcode =>
      exact knows_compute hs hphase hcode answer
  | join thread point other next final _ hphase hcode hother hfinal =>
      cases thread <;> cases point <;> cases hcode
  | resume thread point _ hphase hmutex =>
      cases thread
      · cases point <;> simp_all [CallerKnows]
      · simp_all [DispatchKnows]
  | spurious thread point hphase =>
      cases thread
      · cases point <;> simp_all [CallerKnows]
      · simp_all [DispatchKnows]

theorem Inv.moves {s next : State Thread Point Shared} (hs : Inv s)
    {action : Action Thread Bool} (hmoves : Moves code s action next) : Inv next where
  exclusive := hs.exclusive.moves labelled hmoves
  attended := hs.attended.moves handshake_respects hs.exclusive hmoves
  caller := (knows_moves hs hmoves).1
  dispatch := (knows_moves hs hmoves).2

theorem Inv.of_runFrom {s final : State Thread Point Shared} (hs : Inv s)
    {actions : List (Action Thread Bool)} (hrun : startup.runFrom s actions = some final) :
    Inv final :=
  Transition.System.guarded_invariant (fun _ _ => True)
    (fun _ _ _ hinv _ hstep => hinv.moves (moves_of_step hstep)) hs
    (Transition.System.guarded_of_forall (fun _ _ => trivial) _ _) hrun

/-! ## The handshake ends -/

/-- How many steps a thread may still take. The notification pays for the
caller's way back to the test. -/
def Point.rank : Point → Nat
  | rilEventInit => 9
  | reset | lockStartup => 8
  | lock | setStarted => 7
  | pthreadCreate | broadcast => 6
  | created => 5
  | test => 4
  | wait => 3
  | unlockStartup => 2
  | done | pipe => 1
  | returned | pipeFailed | rilEventLoop => 0

def phaseRank : Phase Point → Nat
  | .unborn => 9
  | .running point => point.rank
  | .asleep _ => 2
  | .woken _ => 5

@[simp] theorem phaseRank_unborn : phaseRank .unborn = 9 := rfl

@[simp] theorem phaseRank_running (point : Point) : phaseRank (.running point) = point.rank := rfl

@[simp] theorem phaseRank_asleep (point : Point) : phaseRank (.asleep point) = 2 := rfl

@[simp] theorem phaseRank_woken (point : Point) : phaseRank (.woken point) = 5 := rfl

theorem phaseRank_wake_le (phase : Phase Point) : phaseRank phase.wake ≤ phaseRank phase + 3 := by
  cases phase <;> simp [Phase.wake]

def rank (s : State Thread Point Shared) : Nat :=
  phaseRank (s.phase .caller) + phaseRank (s.phase .dispatch)

/-- A thread that comes to a lower point lowers the rank. -/
theorem rank_goto_lt {s : State Thread Point Shared} {thread : Thread} {phase : Phase Point}
    (mutex : Option Thread) (shared : Shared)
    (hless : phaseRank phase + 1 ≤ phaseRank (s.phase thread)) :
    rank { s.goto thread phase with mutex := mutex, shared := shared } + 1 ≤ rank s := by
  have hself := s.goto_phase_self thread phase
  have hother : ∀ other ≠ thread, (s.goto thread phase).phase other = s.phase other :=
    fun _ hne => s.goto_phase_ne hne phase
  unfold rank
  dsimp only
  cases thread with
  | caller =>
      rw [hself, hother .dispatch (by decide)]
      omega
  | dispatch =>
      rw [hself, hother .caller (by decide)]
      omega

/-- The notification raises the rank of the caller by three at most. -/
theorem rank_notify_lt {s : State Thread Point Shared}
    (hphase : s.phase .dispatch = .running .broadcast) :
    rank { s with
      phase := Function.update (fun other => (s.phase other).wake) .dispatch
        (.running .unlockStartup) } + 1 ≤ rank s := by
  have hwake := phaseRank_wake_le (s.phase .caller)
  unfold rank
  dsimp only
  rw [Function.update_self, Function.update_of_ne (by decide), hphase, phaseRank_running,
    phaseRank_running, Point.rank, Point.rank]
  omega

theorem rank_create_lt {s : State Thread Point Shared}
    (hphase : s.phase .caller = .running .created) (hother : s.phase .dispatch = .unborn) :
    rank ((s.goto .dispatch (.running .rilEventInit)).goto .caller (.running .test)) + 1 ≤
      rank s := by
  unfold rank
  rw [State.goto_phase_self, State.goto_phase_ne _ (by decide), State.goto_phase_self, hphase,
    hother]
  decide

/-- A step that lowers the rank, whoever takes it. -/
theorem lowers_run {s next : State Thread Point Shared} {thread : Thread} {answer : Bool}
    (hless : rank next + 1 ≤ rank s) :
    ((Action.run thread answer).isRun = true → rank next + 1 ≤ rank s) ∧
      ((Action.run thread answer).isRun = false → rank next ≤ rank s + 3) :=
  ⟨fun _ => hless, fun hspurious => by cases hspurious⟩

/-- Every step of a thread lowers the rank, and a sleeper woken for no reason
raises it by three. -/
theorem rank_moves {s next : State Thread Point Shared} (hs : Inv s) {action : Action Thread Bool}
    (hmoves : Moves code s action next) :
    (action.isRun = true → rank next + 1 ≤ rank s) ∧
      (action.isRun = false → rank next ≤ rank s + 3) := by
  have hcaller := hs.caller
  have hdispatch := hs.dispatch
  cases hmoves with
  | lock thread point next _ hphase hcode hmutex =>
      refine lowers_run (rank_goto_lt _ _ ?_)
      rw [hphase]
      cases thread <;> cases point <;> cases hcode <;> decide
  | unlock thread point next _ hphase hcode hmutex =>
      refine lowers_run (rank_goto_lt _ _ ?_)
      rw [hphase]
      cases thread <;> cases point <;> cases hcode <;> decide
  | wait thread point next _ hphase hcode hmutex =>
      refine lowers_run (rank_goto_lt _ _ ?_)
      rw [hphase]
      cases thread <;> cases point <;> cases hcode
      decide
  | notify thread point next _ hphase hcode =>
      cases thread <;> cases point <;> cases hcode
      exact lowers_run (rank_notify_lt hphase)
  | create thread point other entry next _ hphase hcode hother =>
      cases thread <;> cases point <;> cases hcode
      exact lowers_run (rank_create_lt hphase hother)
  | compute thread point effect goto answer hphase hcode =>
      refine lowers_run (rank_goto_lt _ _ ?_)
      rw [hphase]
      generalize s.shared = shared
      cases thread <;> cases point <;> cases hcode <;> cases answer <;>
        obtain ⟨_ | _, _⟩ := shared <;> exact of_decide_eq_true rfl
  | join thread point other next final _ hphase hcode hother hfinal =>
      cases thread <;> cases point <;> cases hcode
  | resume thread point _ hphase hmutex =>
      refine lowers_run (rank_goto_lt _ _ ?_)
      cases thread with
      | caller =>
          rw [hphase] at hcaller ⊢
          cases point <;> simp_all [CallerKnows, Point.rank]
      | dispatch =>
          rw [hphase] at hdispatch
          exact hdispatch.elim
  | spurious thread point hphase =>
      refine ⟨fun hrun => (by cases hrun), fun _ => ?_⟩
      cases thread with
      | caller =>
          unfold rank
          rw [State.goto_phase_self, State.goto_phase_ne _ (by decide), hphase,
            phaseRank_woken, phaseRank_asleep]
          omega
      | dispatch =>
          rw [hphase] at hdispatch
          exact hdispatch.elim

theorem Inv.countP_isRun_le {s final : State Thread Point Shared} (hs : Inv s)
    {actions : List (Action Thread Bool)} (hrun : startup.runFrom s actions = some final) :
    actions.countP Action.isRun + rank final ≤
      rank s + 3 * actions.countP fun action => !action.isRun :=
  Transition.System.countP_add_rank_le rank Action.isRun 3
    (fun _ _ _ hinv hstep => (rank_moves hinv (moves_of_step hstep)).1)
    (fun _ _ _ hinv hstep => (rank_moves hinv (moves_of_step hstep)).2)
    (fun _ _ _ hinv hstep => hinv.moves (moves_of_step hstep)) hs hrun

/-- No thread ends, joins or creates twice inside. -/
theorem Inv.busy {s : State Thread Point Shared} (hs : Inv s) (thread : Thread) (point : Point)
    (hphase : s.phase thread = .running point) (hinside : inside thread point) :
    code thread point ≠ .stop ∧ (∀ other next, code thread point ≠ .join other next) ∧
      ∀ other entry next, code thread point = .create other entry next →
        s.phase other = .unborn := by
  obtain ⟨-, -, hcaller, hdispatch⟩ := hs
  cases thread
  case caller =>
    rw [hphase] at hcaller
    cases point <;> simp_all [code, inside, Point.Inside, CallerKnows]
  case dispatch =>
    rw [hphase] at hdispatch
    cases point <;> simp_all [code, inside, Point.Inside, DispatchKnows]

/-- Once the dispatch thread is past its announcement, nobody sleeps. -/
theorem Inv.not_asleep {s : State Thread Point Shared} (hs : Inv s) {point : Point}
    (hstarted : s.shared.s_started = true) (hphase : s.phase .dispatch ≠ .running .broadcast)
    (hasleep : s.phase .caller = .asleep point) : False := by
  obtain ⟨announcer, at_, hrunning, rfl, rfl⟩ := hs.attended.asleep .caller point hasleep hstarted
  exact hphase hrunning

/-- Where the dispatch thread rests when nobody can run. -/
theorem Inv.dispatch_rests {s : State Thread Point Shared} (hs : Inv s)
    (hrests : Rests code s .dispatch) :
    s.phase .dispatch = .unborn ∨ s.phase .dispatch = .running .rilEventLoop ∨
      s.phase .dispatch = .running .pipeFailed := by
  have hknows := hs.dispatch
  cases hrests with
  | unborn hphase => exact .inl hphase
  | asleep point hphase =>
      rw [hphase] at hknows
      exact hknows.elim
  | stopped point hphase hcode =>
      rw [hphase] at hknows
      cases point <;> simp_all [code, DispatchKnows]
  | joining point other next hphase hcode => cases point <;> simp [code] at hcode
  | creating point other entry next hphase hcode hborn => cases point <;> simp [code] at hcode

/-- When nobody can run, the caller has returned. -/
theorem Inv.stuck {s : State Thread Point Shared} (hs : Inv s) (hstuck : Stuck code s) :
    s.phase .caller = .running .returned ∧ (s.phase .dispatch = .unborn ∨
      s.phase .dispatch = .running .rilEventLoop ∨ s.phase .dispatch = .running .pipeFailed) := by
  have hfree := Stuck.mutex_eq_none labelled hs.exclusive hstuck hs.busy
  have hrests : ∀ thread, Rests code s thread := fun thread =>
    (hstuck.rests labelled hs.exclusive thread).resolve_right fun hwaits => hwaits.1 hfree
  have hdispatch := hs.dispatch_rests (hrests .dispatch)
  refine ⟨?_, hdispatch⟩
  have hknows := hs.caller
  cases hrests .caller with
  | unborn hphase =>
      rw [hphase] at hknows
      exact hknows.elim
  | asleep point hphase =>
      have hmade := hs.dispatch
      rcases hdispatch with hthere | hthere | hthere <;> rw [hthere] at hmade hknows
      · cases point <;> simp [hphase, CallerKnows] at hknows
      · exact (hs.not_asleep hmade.1 (by simp [hthere]) hphase).elim
      · exact (hs.not_asleep hmade.1 (by simp [hthere]) hphase).elim
  | stopped point hphase hcode =>
      rw [hphase] at hknows
      cases point <;> simp_all [code, CallerKnows]
  | joining point other next hphase hcode => cases point <;> simp [code] at hcode
  | creating point other entry next hphase hcode hborn =>
      rw [hphase] at hknows
      cases point <;> simp [code] at hcode
      exact absurd (hcode.1 ▸ hknows.1) hborn

/-- However the two threads are scheduled: `RIL_startEventLoop` returns only when
no thread could be made or the event table is initialised and announced; it never
sleeps on an announcement that was made; it does return; and the two threads take
at most seventeen steps and three more for every wake-up without a reason. -/
theorem startEventLoop_handshake {actions : List (Action Thread Bool)}
    {s : State Thread Point Shared} (hrun : startup.run actions = some s) :
    (s.phase .caller = .running .returned →
      s.shared.result = some false ∨ s.shared.s_started = true ∧ s.shared.initialised = true) ∧
    (∀ point, s.phase .caller = .asleep point → s.shared.s_started = true →
      s.phase .dispatch = .running .broadcast ∧ s.mutex = some .dispatch) ∧
    (Stuck code s → s.phase .caller = .running .returned ∧
      (s.shared.result = some true → s.phase .dispatch = .running .rilEventLoop ∨
        s.phase .dispatch = .running .pipeFailed ∧ s.shared.wakeup = some false)) ∧
    actions.countP Action.isRun ≤ 17 + 3 * actions.countP fun action => !action.isRun := by
  have hs : Inv s := initial_inv.of_runFrom hrun
  have hmade := hs.dispatch
  have hknows := hs.caller
  refine ⟨fun hreturned => ?_, fun point hasleep hstarted => ?_, fun hstuck => ?_, ?_⟩
  · rw [hreturned] at hknows
    rcases hknows with ⟨hresult, -⟩ | ⟨-, hborn, hstarted⟩
    · exact .inl hresult
    · refine .inr ⟨hstarted, ?_⟩
      unfold DispatchKnows at hmade
      split at hmade <;> simp_all
  · obtain ⟨announcer, at_, hrunning, rfl, rfl⟩ :=
      hs.attended.asleep .caller point hasleep hstarted
    exact ⟨hrunning, (hs.exclusive.owner_running hrunning).mpr trivial⟩
  · obtain ⟨hreturned, hdispatch⟩ := hs.stuck hstuck
    refine ⟨hreturned, fun hresult => ?_⟩
    rcases hdispatch with hthere | hthere | hthere
    · rw [hreturned, hthere] at hknows
      simp [CallerKnows, hresult] at hknows
    · exact .inl hthere
    · rw [hthere] at hmade
      exact .inr ⟨hthere, hmade.2.2⟩
  · have hcount := initial_inv.countP_isRun_le hrun
    have hrank : rank initial = 17 := rfl
    omega

/-- The caller sleeps, is woken for no reason, sleeps again and returns. -/
def sleepTwice : List (Action Thread Bool) :=
  List.replicate 6 (.run .caller true) ++ .spurious .caller ::
    List.replicate 3 (.run .caller true) ++ List.replicate 5 (.run .dispatch true) ++
    List.replicate 3 (.run .caller true)

theorem startEventLoop_handshake_sleepTwice :
    ∃ s, startup.run sleepTwice = some s ∧ s.phase .caller = .running .returned ∧
      (s.shared.result = some false ∨ s.shared.s_started = true ∧ s.shared.initialised = true) :=
  ⟨_, rfl, rfl,
    (startEventLoop_handshake (show startup.run sleepTwice = some _ from rfl)).1 rfl⟩

end Serrano.Ril.Startup
