import Serrano.Utils.MsgQ

/-! # Message tasks

A task is a queue and a thread that takes one message after the other from it, handles it
and deletes it. Whoever destroys the task unblocks the queue; the thread then leaves its
loop and deletes the task, which flushes the queue. Clients send messages from any threads
until the task is gone. Every message that was accepted is handled and deleted once, or
deleted by the flush, in the order in which the messages were accepted, unless the thread is
stopped before it has read its runnable. It ends at once then; nobody deletes the task, and
what was accepted stays in its queue.
-/

namespace Serrano.MsgTask

open LinkedList MsgQ

/-- Messages, numbered in the order of their construction. -/
abbrev LocMsg := Nat

/-- `LocMsgDestroy`, the only function that deletes what a queue holds. -/
inductive Destroy
  | locMsgDestroy
  deriving DecidableEq

/-- Where the thread of the task is. -/
inductive Point
  /-- The thread could not be created. -/
  | unstarted
  /-- The thread has not read its runnable yet. -/
  | created
  /-- Before `run`, or between two runs. -/
  | looping
  /-- It waits in `msg_q_rcv`. -/
  | receiving
  | received (msg : LocMsg)
  | processed (msg : LocMsg)
  /-- Out of the loop of `threadMain`. -/
  | leaving
  /-- The thread found no runnable and ended. -/
  | ended
  /-- The task was deleted. -/
  | gone
  deriving DecidableEq

/-- The message that was received and not deleted yet. -/
def Point.inHand : Point → List LocMsg
  | .received msg => [msg]
  | .processed msg => [msg]
  | _ => []

/-- The message that was handled and not deleted yet. -/
def Point.handled : Point → List LocMsg
  | .processed msg => [msg]
  | _ => []

/-- `running` is whether the delegate of the thread has a runnable. `processed` and `deleted`
are the messages whose `proc` was called, and which `run` has deleted. -/
structure Task where
  mQ : MsgQ LocMsg Destroy
  joinable : Bool
  running : Bool
  destroyed : Bool
  point : Point
  processed : List LocMsg
  deleted : List LocMsg

/-- The constructor; the thread may fail to be created. -/
def init (started joinable : Bool) : Task where
  mQ := .init
  joinable := joinable
  running := started
  destroyed := false
  point := if started then .created else .unstarted
  processed := []
  deleted := []

/-- The thread of the task among those that use the queue. -/
def taskThread : Nat := 0

/-- `run` goes on with a message that was received, and returns false without one. -/
def afterEvent : Option (QueueEvent LocMsg Destroy) → Point
  | some (.rcv _ .success (some msg)) => .received msg
  | _ => .leaving

/-- Where `msg_q_rcv` leaves the thread: it waits, or returned what the log says last. -/
def afterReceive (mQ : MsgQ LocMsg Destroy) : Point :=
  if mQ.waiting taskThread then .receiving else afterEvent mQ.log.getLast?

inductive Action
  /-- A client sends a message; `elem` is what `malloc` answers. -/
  | sendMsg (client : Nat) (msg : LocMsg) (elem : Option Nat)
  /-- `threadMain` reads the runnable. -/
  | enter
  /-- `threadMain` tests whether it is still running, and calls `run` if so. -/
  | run
  | wake
  | proc
  | delete
  /-- `destroy`, as far as the queue is unblocked, and on to the end without a thread. -/
  | destroy (client : Nat)
  /-- `destroy` stops the thread. -/
  | stop
  /-- `threadMain` deletes the task. -/
  | leave

namespace Task

variable (t : Task)

/-- What the queue does for one of its threads. -/
def queued (action : QueueAction LocMsg Destroy) : Option Task :=
  (t.mQ.step action).map fun mQ => { t with mQ }

def receive (action : QueueAction LocMsg Destroy) : Option Task :=
  (t.queued action).map fun t => { t with point := afterReceive t.mQ }

/-- `~MsgTask` -/
def destruct (thread : Nat) : Option Task :=
  (t.queued (.flush thread)).map fun t => { t with point := .gone }

/-- Nobody sends to a task that was deleted. -/
def sendMsg (client : Nat) (msg : LocMsg) (elem : Option Nat) : Option Task :=
  if t.point = .gone then none
  else t.queued (.snd (client + 1) (some msg) (some .locMsgDestroy) elem)

/-- Without a runnable, `threadMain` has nothing to delete. -/
def enter : Option Task :=
  if t.point = .created then
    some { t with point := if t.running then .looping else .ended }
  else none

/-- `run`, up to where `msg_q_rcv` returns or waits. -/
def run : Option Task :=
  if t.point = .looping then
    if t.running then t.receive (.rcv taskThread true) else some { t with point := .leaving }
  else none

def wake : Option Task :=
  if t.point = .receiving then t.receive (.wake taskThread) else none

def proc : Option Task :=
  match t.point with
  | .received msg => some { t with processed := t.processed ++ [msg], point := .processed msg }
  | _ => none

def delete : Option Task :=
  match t.point with
  | .processed msg => some { t with deleted := t.deleted ++ [msg], point := .looping }
  | _ => none

/-- A task is destroyed once, and not after it was deleted. -/
def destroy (client : Nat) : Option Task :=
  if t.destroyed ∨ t.point = .gone then none
  else
    (t.queued (.unblock (client + 1))).bind fun t =>
      let t := { t with destroyed := true }
      if t.point = .unstarted then t.destruct (client + 1) else some t

/-- A detached thread is left alone. -/
def stop : Option Task :=
  if t.destroyed then some { t with running := t.running && !t.joinable } else none

def leave : Option Task :=
  if t.point = .leaving then t.destruct taskThread else none

def step : Action → Option Task
  | .sendMsg client msg elem => t.sendMsg client msg elem
  | .enter => t.enter
  | .run => t.run
  | .wake => t.wake
  | .proc => t.proc
  | .delete => t.delete
  | .destroy client => t.destroy client
  | .stop => t.stop
  | .leave => t.leave

/-- What `malloc` answers is not in use. -/
def MallocFresh : Action → Prop
  | .sendMsg client msg elem =>
      t.mQ.MallocFresh (.snd (client + 1) (some msg) (some .locMsgDestroy) elem)
  | _ => True

instance : (action : Action) → Decidable (t.MallocFresh action)
  | .sendMsg _ _ _ => inferInstanceAs (Decidable (t.mQ.MallocFresh _))
  | .enter | .run | .wake | .proc | .delete | .destroy _ | .stop | .leave => .isTrue trivial

end Task

def system (started joinable : Bool) : Transition.System Task Action where
  init := init started joinable
  step := Task.step

/-! ## What the calls of the queue do -/

section

variable {q next : MsgQ LocMsg Destroy} {thread : Nat}

/-- Everything in the queue is deleted by a flush. -/
def Deletable (q : MsgQ LocMsg Destroy) : Prop :=
  ∀ entry ∈ q.held, entry.2 = some .locMsgDestroy

theorem held_of_msgList {msgList : ListState LocMsg Destroy} {cells : List Nat}
    {entries : List (LocMsg × Option Destroy)} (hlist : msgList.Represents cells entries)
    (hnext : next.msgList = msgList) : next.held = entries.reverse := by
  subst hnext
  exact held_eq hlist

theorem deallocCalls_of_deletable {entries : List (LocMsg × Option Destroy)}
    (h : ∀ entry ∈ entries, entry.2 = some .locMsgDestroy) :
    (ListState.deallocCalls entries).map Prod.snd = entries.map Prod.fst := by
  induction entries with
  | nil => rfl
  | cons entry rest ih =>
      have hrest := ih fun other hmem => h other (List.mem_cons_of_mem _ hmem)
      rw [ListState.deallocCalls, List.filterMap_cons, h entry List.mem_cons_self, Option.map_some,
        List.map_cons, List.map_cons, ← hrest]
      rfl

/-- A send adds the message at the end, or leaves the queue as it is. -/
theorem snd_spec (hq : q.Inv) {msg : LocMsg} {elem : Option Nat}
    (hfresh : q.MallocFresh (.snd thread (some msg) (some .locMsgDestroy) elem))
    (hsnd : q.step (.snd thread (some msg) (some .locMsgDestroy) elem) = some next) :
    next.waiting = q.waiting ∧ departed next.log = departed q.log ∧
      flushed next.log = flushed q.log ∧
      (next.held = q.held ∨ next.held = q.held ++ [(msg, some .locMsgDestroy)]) := by
  rw [MsgQ.step] at hsnd
  split at hsnd
  next => cases hsnd
  next =>
    rw [msgQSnd] at hsnd
    dsimp only at hsnd
    split at hsnd
    next =>
      obtain rfl := Option.some.inj hsnd
      refine ⟨rfl, ?_, ?_, .inl rfl⟩
      · exact (departed_append _ _).trans (List.append_nil _)
      · exact (flushed_append _ _).trans (List.append_nil _)
    next =>
      obtain ⟨cells, entries, hlist⟩ := hq.list
      cases elem with
      | none =>
          obtain rfl := Option.some.inj hsnd
          refine ⟨rfl, ?_, ?_, .inl rfl⟩
          · exact (departed_append _ _).trans (List.append_nil _)
          · exact (flushed_append _ _).trans (List.append_nil _)
      | some elem =>
          have hnone : q.msgList.memory elem = none := by simpa using hfresh elem rfl
          obtain ⟨msgList, hadd, hlist', -⟩ :=
            hlist.linkedListAdd msg (some Destroy.locMsgDestroy) hnone
          rw [hadd] at hsnd
          obtain rfl := Option.some.inj hsnd
          refine ⟨rfl, ?_, ?_, .inr ?_⟩
          · exact (departed_append _ _).trans (List.append_nil _)
          · exact (flushed_append _ _).trans (List.append_nil _)
          · rw [held_eq hlist]
            exact (held_eq hlist').trans List.reverse_cons

theorem afterReceive_record (hwaiting : q.waiting taskThread = false)
    (event : QueueEvent LocMsg Destroy) :
    afterReceive (q.record event) = afterEvent (some event) := by
  rw [afterReceive, if_neg (by simp [MsgQ.record, hwaiting]), MsgQ.record, List.getLast?_concat]

theorem afterReceive_cases (q : MsgQ LocMsg Destroy) :
    afterReceive q = .receiving ∨ (∃ msg, afterReceive q = .received msg) ∨
      afterReceive q = .leaving := by
  unfold afterReceive
  split
  · exact .inl rfl
  · unfold afterEvent
    split
    next msg _ => exact .inr (.inl ⟨msg, rfl⟩)
    next => exact .inr (.inr rfl)

theorem afterReceive_handled (q : MsgQ LocMsg Destroy) : (afterReceive q).handled = [] := by
  obtain hpoint | ⟨msg, hpoint⟩ | hpoint := afterReceive_cases q <;> rw [hpoint] <;> rfl

/-- A receive waits, or takes the first message, or is refused. -/
theorem rcvLoop_spec (hq : q.Inv) (hrcv : q.rcvLoop taskThread = some next) :
    departed next.log = departed q.log ++ (afterReceive next).inHand ∧
      flushed next.log = flushed q.log ∧ next.held <:+ q.held := by
  obtain ⟨cells, entries, hlist⟩ := hq.list
  rw [rcvLoop] at hrcv
  split at hrcv
  next =>
    obtain rfl := Option.some.inj hrcv
    have hpoint : afterReceive { q with waiting := Function.update q.waiting taskThread true } =
        .receiving := by
      rw [afterReceive, if_pos (Function.update_self _ _ _)]
    rw [hpoint]
    exact ⟨(List.append_nil _).symm, rfl, List.suffix_refl _⟩
  next =>
    have hidle : ∀ msgList : ListState LocMsg Destroy,
        ({ q with msgList, waiting := Function.update q.waiting taskThread false } :
          MsgQ LocMsg Destroy).waiting taskThread = false := fun _ =>
      Function.update_self taskThread false q.waiting
    obtain rfl | ⟨front, entry, rfl⟩ := List.eq_nil_or_concat' entries
    · rw [hlist.linkedListRemove_nil] at hrcv
      obtain rfl := Option.some.inj hrcv
      rw [afterReceive_record (hidle _)]
      refine ⟨departed_append _ _, ?_, List.suffix_refl _⟩
      exact (flushed_append _ _).trans (List.append_nil _)
    · obtain ⟨msgList, cells', hremove, hlist', -⟩ := hlist.linkedListRemove
      rw [hremove] at hrcv
      obtain rfl := Option.some.inj hrcv
      rw [afterReceive_record (hidle _)]
      refine ⟨departed_append _ _, ?_, ?_⟩
      · exact (flushed_append _ _).trans (List.append_nil _)
      · rw [held_eq hlist, List.reverse_append]
        rw [held_of_msgList hlist' rfl]
        exact List.suffix_append _ _

/-- An unblocked queue refuses a receive from the start. -/
theorem rcv_spec (hq : q.Inv) (hrcv : q.step (.rcv taskThread true) = some next) :
    departed next.log = departed q.log ++ (afterReceive next).inHand ∧
      flushed next.log = flushed q.log ∧ next.held <:+ q.held := by
  rw [MsgQ.step] at hrcv
  split at hrcv
  next => cases hrcv
  next hwaiting =>
    rw [msgQRcv, if_neg (by simp)] at hrcv
    split at hrcv
    next =>
      obtain rfl := Option.some.inj hrcv
      rw [afterReceive_record (Bool.eq_false_iff.mpr hwaiting)]
      refine ⟨departed_append _ _, ?_, List.suffix_refl _⟩
      exact (flushed_append _ _).trans (List.append_nil _)
    next => exact rcvLoop_spec hq hrcv

/-- A flush deletes what the queue holds, the newest first. -/
theorem flush_spec (hq : q.Inv) (hdeletable : Deletable q)
    (hflush : q.step (.flush thread) = some next) :
    departed next.log = departed q.log ++ q.held.map Prod.fst ∧
      (flushed next.log).map Prod.snd =
        (flushed q.log).map Prod.snd ++ (q.held.map Prod.fst).reverse ∧
      next.held = [] := by
  rw [MsgQ.step] at hflush
  split at hflush
  next => cases hflush
  next =>
    obtain ⟨cells, entries, hlist⟩ := hq.list
    obtain ⟨msgList, hlistFlush, hlist', -⟩ := hlist.linkedListFlush
    rw [msgQFlush, hlistFlush] at hflush
    have hnext := Option.some.inj hflush
    have hlog : next.log = q.log ++ [.flush thread .success q.held] := hnext ▸ rfl
    have hheld : next.held = [] := held_of_msgList hlist' (hnext ▸ rfl)
    have hdealloc : (flushed [QueueEvent.flush thread .success q.held]).map Prod.snd =
        (q.held.map Prod.fst).reverse := by
      change ([ListState.deallocCalls q.held.reverse].flatten).map Prod.snd = _
      rw [List.flatten_singleton, ← List.map_reverse, deallocCalls_of_deletable]
      exact fun entry hmem => hdeletable entry (List.mem_reverse.mp hmem)
    have hdeparted : departed [QueueEvent.flush thread .success q.held] =
        q.held.map Prod.fst := List.append_nil _
    rw [hlog, departed_append, flushed_append, List.map_append, hdealloc, hdeparted]
    exact ⟨rfl, rfl, hheld⟩

/-- An unblock leaves the messages alone. -/
theorem unblock_spec (hunblock : q.step (.unblock thread) = some next) :
    departed next.log = departed q.log ∧ flushed next.log = flushed q.log ∧
      next.held = q.held ∧ next.unblocked = true := by
  rw [MsgQ.step] at hunblock
  split at hunblock
  next => cases hunblock
  next =>
    obtain rfl := Option.some.inj hunblock
    rw [msgQUnblock]
    split
    next hunblocked =>
      refine ⟨?_, ?_, rfl, hunblocked⟩
      · exact (departed_append _ _).trans (List.append_nil _)
      · exact (flushed_append _ _).trans (List.append_nil _)
    next =>
      refine ⟨?_, ?_, rfl, rfl⟩
      · exact (departed_append _ _).trans (List.append_nil _)
      · exact (flushed_append _ _).trans (List.append_nil _)

/-- Nothing blocks the queue again. -/
theorem unblocked_step {action : QueueAction LocMsg Destroy} (hunblocked : q.unblocked = true)
    (hstep : q.step action = some next) : next.unblocked = true := by
  have hloop : ∀ thread next, q.rcvLoop thread = some next → next.unblocked = true := by
    intro thread next hrcv
    rw [rcvLoop, if_neg (by simp [hunblocked]), Option.map_eq_some_iff] at hrcv
    obtain ⟨removed, -, rfl⟩ := hrcv
    exact hunblocked
  cases action with
  | snd thread msgObj dealloc elem =>
      rw [MsgQ.step] at hstep
      split at hstep
      next => cases hstep
      next =>
        cases msgObj with
        | none => exact Option.some.inj hstep ▸ hunblocked
        | some msgObj =>
            rw [msgQSnd, if_pos hunblocked] at hstep
            exact Option.some.inj hstep ▸ hunblocked
  | rcv thread msgObj =>
      rw [MsgQ.step] at hstep
      split at hstep
      next => cases hstep
      next =>
        cases msgObj with
        | false => exact Option.some.inj hstep ▸ hunblocked
        | true =>
            rw [msgQRcv, if_neg (by simp), if_pos hunblocked] at hstep
            exact Option.some.inj hstep ▸ hunblocked
  | wake thread =>
      rw [MsgQ.step] at hstep
      split at hstep
      next => exact hloop thread next hstep
      next => cases hstep
  | flush thread =>
      rw [MsgQ.step] at hstep
      split at hstep
      next => cases hstep
      next =>
        rw [msgQFlush, Option.map_eq_some_iff] at hstep
        obtain ⟨msgList, -, rfl⟩ := hstep
        exact hunblocked
  | unblock thread => exact (unblock_spec hstep).2.2.2

end

/-! ## Accounting for the messages -/

/-- The messages that the flush has deleted, in the order in which they were accepted. -/
def flushedOldestFirst (q : MsgQ LocMsg Destroy) : List LocMsg :=
  ((flushed q.log).map Prod.snd).reverse

/-- What has left the queue is deleted, or in the hands of the thread. -/
structure Accounted (t : Task) : Prop where
  queue : t.mQ.Inv
  deletable : Deletable t.mQ
  taken : departed t.mQ.log = t.deleted ++ t.point.inHand ++ flushedOldestFirst t.mQ
  unflushed : t.point ≠ .gone → flushed t.mQ.log = []
  handled : t.processed = t.deleted ++ t.point.handled
  gone : t.point = .gone → t.mQ.held = []

theorem accounted_init (started joinable : Bool) : Accounted (init started joinable) where
  queue := inv_init
  deletable := by
    have hheld : (MsgQ.init : MsgQ LocMsg Destroy).held = [] :=
      held_of_msgList ListState.represents_init rfl
    intro entry hmem
    rw [init, hheld] at hmem
    cases hmem
  taken := by cases started <;> rfl
  unflushed _ := rfl
  handled := by cases started <;> rfl
  gone h := by cases started <;> cases h

section

variable {t next : Task}

/-- A call of the queue that neither takes a message nor flushes. -/
theorem Accounted.queued (h : Accounted t) {action : QueueAction LocMsg Destroy}
    (hfresh : t.mQ.MallocFresh action) (hpoint : t.point ≠ .gone)
    (hspec : ∀ mQ, t.mQ.step action = some mQ →
      departed mQ.log = departed t.mQ.log ∧ flushed mQ.log = flushed t.mQ.log ∧ Deletable mQ)
    (hstep : t.queued action = some next) : Accounted next := by
  rw [Task.queued, Option.map_eq_some_iff] at hstep
  obtain ⟨mQ, hmQ, rfl⟩ := hstep
  obtain ⟨hdeparted, hflushed, hdeletable⟩ := hspec mQ hmQ
  constructor
  · exact inv_step h.queue hfresh hmQ
  · exact hdeletable
  · have heq := h.taken
    rw [flushedOldestFirst] at heq ⊢
    rwa [← hdeparted, ← hflushed] at heq
  · intro hgone
    rw [hflushed]
    exact h.unflushed hgone
  · exact h.handled
  · exact fun hgone => absurd hgone hpoint

/-- The thread has no message in its hands, and receives one or not. -/
theorem Accounted.receive (h : Accounted t) {action : QueueAction LocMsg Destroy}
    (hfresh : t.mQ.MallocFresh action) (hempty : t.point.inHand = []) (hpoint : t.point ≠ .gone)
    (hspec : ∀ mQ, t.mQ.step action = some mQ →
      departed mQ.log = departed t.mQ.log ++ (afterReceive mQ).inHand ∧
        flushed mQ.log = flushed t.mQ.log ∧ mQ.held <:+ t.mQ.held)
    (hstep : t.receive action = some next) : Accounted next := by
  rw [Task.receive, Task.queued, Option.map_map, Option.map_eq_some_iff] at hstep
  obtain ⟨mQ, hmQ, rfl⟩ := hstep
  obtain ⟨hdeparted, hflushed, hheld⟩ := hspec mQ hmQ
  have hnone : t.point.handled = [] := by
    cases hcase : t.point with
    | processed msg =>
        rw [hcase] at hempty
        cases hempty
    | _ => rfl
  have hunflushed := h.unflushed hpoint
  constructor
  · exact inv_step h.queue hfresh hmQ
  · exact fun entry hmem => h.deletable entry (hheld.mem hmem)
  · have heq := h.taken
    change departed mQ.log = t.deleted ++ (afterReceive mQ).inHand ++ flushedOldestFirst mQ
    rw [flushedOldestFirst, hunflushed, hempty] at heq
    rw [flushedOldestFirst, hflushed, hunflushed, hdeparted, heq]
    simp
  · intro _
    exact hflushed.trans hunflushed
  · have heq := h.handled
    change t.processed = t.deleted ++ (afterReceive mQ).handled
    rwa [afterReceive_handled, ← hnone]
  · intro heq
    obtain hpoint | ⟨msg, hpoint⟩ | hpoint := afterReceive_cases mQ
    all_goals cases heq.symm.trans hpoint

/-- The thread goes on without the queue. -/
theorem Accounted.moved (h : Accounted t) {point : Point} {processed deleted : List LocMsg}
    (hne : t.point ≠ .gone) (hpoint : point ≠ .gone)
    (htaken : deleted ++ point.inHand = t.deleted ++ t.point.inHand)
    (hhandled : processed = deleted ++ point.handled) :
    Accounted { t with point, processed, deleted } where
  queue := h.queue
  deletable := h.deletable
  taken := by
    have heq := h.taken
    rwa [← htaken] at heq
  unflushed _ := h.unflushed hne
  handled := hhandled
  gone heq := absurd heq hpoint

/-- The destructor, with no message in the hands of the thread. -/
theorem Accounted.destruct (h : Accounted t) {thread : Nat} (hempty : t.point.inHand = [])
    (hnone : t.point.handled = []) (hpoint : t.point ≠ .gone)
    (hstep : t.destruct thread = some next) : Accounted next := by
  rw [Task.destruct, Task.queued, Option.map_map, Option.map_eq_some_iff] at hstep
  obtain ⟨mQ, hmQ, rfl⟩ := hstep
  obtain ⟨hdeparted, hflushed, hheld⟩ := flush_spec h.queue h.deletable hmQ
  constructor
  · exact inv_step h.queue (fun elem helem => by cases helem) hmQ
  · intro entry hmem
    change entry ∈ mQ.held at hmem
    rw [hheld] at hmem
    cases hmem
  · have heq := h.taken
    change departed mQ.log = t.deleted ++ [] ++ flushedOldestFirst mQ
    rw [flushedOldestFirst, h.unflushed hpoint, hempty] at heq
    rw [flushedOldestFirst, hflushed, h.unflushed hpoint, hdeparted, heq]
    simp
  · exact fun hne => absurd rfl hne
  · have heq := h.handled
    rw [hnone] at heq
    exact heq
  · exact fun _ => hheld

theorem Accounted.sendMsg (h : Accounted t) {client : Nat} {msg : LocMsg} {elem : Option Nat}
    (hfresh : t.MallocFresh (.sendMsg client msg elem))
    (hstep : t.sendMsg client msg elem = some next) : Accounted next := by
  rw [Task.sendMsg] at hstep
  split at hstep
  next => cases hstep
  next hpoint =>
    refine h.queued hfresh hpoint (fun mQ hmQ => ?_) hstep
    obtain ⟨-, hdeparted, hflushed, hheld⟩ := snd_spec h.queue hfresh hmQ
    refine ⟨hdeparted, hflushed, fun entry hmem => ?_⟩
    rcases hheld with hheld | hheld
    · exact h.deletable entry (hheld ▸ hmem)
    · rw [hheld] at hmem
      rcases List.mem_append.mp hmem with hmem | hmem
      · exact h.deletable entry hmem
      · rw [List.mem_singleton.mp hmem]

theorem Accounted.enter (h : Accounted t) (hstep : t.enter = some next) : Accounted next := by
  rw [Task.enter] at hstep
  split at hstep
  next hpoint =>
    obtain rfl := Option.some.inj hstep
    have hne : t.point ≠ .gone := by rw [hpoint]; simp
    have hhandled : t.processed = t.deleted ++ [] := by
      rw [h.handled, hpoint]
      rfl
    split
    next => exact h.moved hne (by simp) (by rw [hpoint]; rfl) hhandled
    next => exact h.moved hne (by simp) (by rw [hpoint]; rfl) hhandled
  next => cases hstep

theorem Accounted.run (h : Accounted t) (hstep : t.run = some next) : Accounted next := by
  rw [Task.run] at hstep
  split at hstep
  next hpoint =>
    have hempty : t.point.inHand = [] := by rw [hpoint]; rfl
    have hne : t.point ≠ .gone := by rw [hpoint]; simp
    split at hstep
    next =>
      refine h.receive (fun elem helem => by cases helem) hempty hne (fun mQ hmQ => ?_) hstep
      exact rcv_spec h.queue hmQ
    next =>
      obtain rfl := Option.some.inj hstep
      refine h.moved hne (by simp) ?_ ?_
      · rw [hempty]
        rfl
      · rw [h.handled, hpoint]
        rfl
  next => cases hstep

theorem Accounted.wake (h : Accounted t) (hstep : t.wake = some next) : Accounted next := by
  rw [Task.wake] at hstep
  split at hstep
  next hpoint =>
    have hempty : t.point.inHand = [] := by rw [hpoint]; rfl
    have hne : t.point ≠ .gone := by rw [hpoint]; simp
    refine h.receive (fun elem helem => by cases helem) hempty hne (fun mQ hmQ => ?_) hstep
    rw [MsgQ.step] at hmQ
    split at hmQ
    next => exact rcvLoop_spec h.queue hmQ
    next => cases hmQ
  next => cases hstep

theorem Accounted.proc (h : Accounted t) (hstep : t.proc = some next) : Accounted next := by
  rw [Task.proc] at hstep
  split at hstep
  next msg hpoint =>
    obtain rfl := Option.some.inj hstep
    refine h.moved (by rw [hpoint]; simp) (by simp) ?_ ?_
    · rw [hpoint]
      rfl
    · rw [h.handled, hpoint]
      exact congrArg (· ++ [msg]) (List.append_nil _)
  next => cases hstep

theorem Accounted.delete (h : Accounted t) (hstep : t.delete = some next) : Accounted next := by
  rw [Task.delete] at hstep
  split at hstep
  next msg hpoint =>
    obtain rfl := Option.some.inj hstep
    refine h.moved (by rw [hpoint]; simp) (by simp) ?_ ?_
    · rw [hpoint]
      exact List.append_nil _
    · rw [h.handled, hpoint]
      exact (List.append_nil _).symm
  next => cases hstep

theorem Accounted.destroy (h : Accounted t) {client : Nat}
    (hstep : t.destroy client = some next) : Accounted next := by
  rw [Task.destroy] at hstep
  split at hstep
  next => cases hstep
  next halive =>
    have hpoint : t.point ≠ .gone := fun hgone => halive (.inr hgone)
    obtain ⟨t', hunblock, hstep⟩ := Option.bind_eq_some_iff.mp hstep
    have h' : Accounted t' := by
      refine h.queued (fun elem helem => by cases helem) hpoint (fun mQ hmQ => ?_) hunblock
      obtain ⟨hdeparted, hflushed, hheld, -⟩ := unblock_spec hmQ
      exact ⟨hdeparted, hflushed, fun entry hmem => h.deletable entry (hheld ▸ hmem)⟩
    have hdestroyed : Accounted { t' with destroyed := true } :=
      ⟨h'.queue, h'.deletable, h'.taken, h'.unflushed, h'.handled, h'.gone⟩
    dsimp only at hstep
    split at hstep
    next hunstarted =>
      refine hdestroyed.destruct ?_ ?_ ?_ hstep
      · exact congrArg Point.inHand hunstarted
      · exact congrArg Point.handled hunstarted
      · intro hgone
        cases hunstarted.symm.trans hgone
    next =>
      obtain rfl := Option.some.inj hstep
      exact hdestroyed

theorem Accounted.stop (h : Accounted t) (hstep : t.stop = some next) : Accounted next := by
  rw [Task.stop] at hstep
  split at hstep
  next =>
    obtain rfl := Option.some.inj hstep
    exact ⟨h.queue, h.deletable, h.taken, h.unflushed, h.handled, h.gone⟩
  next => cases hstep

theorem Accounted.leave (h : Accounted t) (hstep : t.leave = some next) : Accounted next := by
  rw [Task.leave] at hstep
  split at hstep
  next hpoint =>
    refine h.destruct ?_ ?_ ?_ hstep
    · rw [hpoint]; rfl
    · rw [hpoint]; rfl
    · rw [hpoint]; simp
  next => cases hstep

/-- Every action keeps the account. -/
theorem Accounted.step (h : Accounted t) {action : Action} (hfresh : t.MallocFresh action)
    (hstep : t.step action = some next) : Accounted next := by
  cases action with
  | sendMsg client msg elem => exact h.sendMsg hfresh hstep
  | enter => exact h.enter hstep
  | run => exact h.run hstep
  | wake => exact h.wake hstep
  | proc => exact h.proc hstep
  | delete => exact h.delete hstep
  | destroy client => exact h.destroy hstep
  | stop => exact h.stop hstep
  | leave => exact h.leave hstep

end

/-! ## A thread that is stopped before it begins -/

/-- Only a joinable task that is destroyed can stop its thread, and until the thread has
read its runnable it has handled nothing. -/
structure StoppedEarly (t : Task) : Prop where
  unblocked : t.destroyed = true → t.mQ.unblocked = true
  created : t.point = .created →
    t.deleted = [] ∧ (t.running = false → t.joinable = true ∧ t.destroyed = true)
  ended : t.point = .ended → t.deleted = [] ∧ t.joinable = true ∧ t.destroyed = true

section

variable {t next : Task}

/-- Past the start, only the queue matters. -/
theorem StoppedEarly.of_point (hunblocked : t.destroyed = true → t.mQ.unblocked = true)
    (hcreated : t.point ≠ .created) (hended : t.point ≠ .ended) : StoppedEarly t where
  unblocked := hunblocked
  created h := absurd h hcreated
  ended h := absurd h hended

theorem StoppedEarly.queued (h : StoppedEarly t) {action : QueueAction LocMsg Destroy}
    (hstep : t.queued action = some next) : StoppedEarly next := by
  rw [Task.queued, Option.map_eq_some_iff] at hstep
  obtain ⟨mQ, hmQ, rfl⟩ := hstep
  exact ⟨fun hdestroyed => unblocked_step (h.unblocked hdestroyed) hmQ, h.created, h.ended⟩

theorem StoppedEarly.receive (h : StoppedEarly t) {action : QueueAction LocMsg Destroy}
    (hstep : t.receive action = some next) : StoppedEarly next := by
  rw [Task.receive, Option.map_eq_some_iff] at hstep
  obtain ⟨t', hqueued, rfl⟩ := hstep
  refine .of_point (h.queued hqueued).unblocked ?_ ?_
  all_goals
    intro heq
    obtain hpoint | ⟨msg, hpoint⟩ | hpoint := afterReceive_cases t'.mQ
    all_goals cases heq.symm.trans hpoint

theorem StoppedEarly.destruct (h : StoppedEarly t) {thread : Nat}
    (hstep : t.destruct thread = some next) : StoppedEarly next := by
  rw [Task.destruct, Option.map_eq_some_iff] at hstep
  obtain ⟨t', hqueued, rfl⟩ := hstep
  exact .of_point (h.queued hqueued).unblocked (by simp) (by simp)

theorem StoppedEarly.enter (h : StoppedEarly t) (hstep : t.enter = some next) :
    StoppedEarly next := by
  rw [Task.enter] at hstep
  split at hstep
  next hpoint =>
    obtain rfl := Option.some.inj hstep
    obtain ⟨hdeleted, hstopped⟩ := h.created hpoint
    split
    next => exact .of_point h.unblocked (by simp) (by simp)
    next hrunning =>
      have hended := hstopped (Bool.eq_false_iff.mpr hrunning)
      exact ⟨h.unblocked, fun hcreated => (by cases hcreated), fun _ => ⟨hdeleted, hended⟩⟩
  next => cases hstep

theorem StoppedEarly.destroy (h : StoppedEarly t) {client : Nat}
    (hstep : t.destroy client = some next) : StoppedEarly next := by
  rw [Task.destroy] at hstep
  split at hstep
  next => cases hstep
  next =>
    obtain ⟨t', hunblock, hstep⟩ := Option.bind_eq_some_iff.mp hstep
    have h' := h.queued hunblock
    have hunblocked : t'.mQ.unblocked = true := by
      rw [Task.queued, Option.map_eq_some_iff] at hunblock
      obtain ⟨mQ, hmQ, rfl⟩ := hunblock
      exact (unblock_spec hmQ).2.2.2
    have hdestroyed : StoppedEarly { t' with destroyed := true } := by
      refine ⟨fun _ => hunblocked, fun hcreated => ?_, fun hended => ?_⟩
      · obtain ⟨hdeleted, hstopped⟩ := h'.created hcreated
        exact ⟨hdeleted, fun hrunning => ⟨(hstopped hrunning).1, rfl⟩⟩
      · obtain ⟨hdeleted, hjoinable, -⟩ := h'.ended hended
        exact ⟨hdeleted, hjoinable, rfl⟩
    dsimp only at hstep
    split at hstep
    next => exact hdestroyed.destruct hstep
    next =>
      obtain rfl := Option.some.inj hstep
      exact hdestroyed

theorem StoppedEarly.stop (h : StoppedEarly t) (hstep : t.stop = some next) :
    StoppedEarly next := by
  rw [Task.stop] at hstep
  split at hstep
  next hdestroyed =>
    obtain rfl := Option.some.inj hstep
    refine ⟨h.unblocked, fun hcreated => ?_, h.ended⟩
    obtain ⟨hdeleted, hstopped⟩ := h.created hcreated
    refine ⟨hdeleted, fun hrunning => ?_⟩
    obtain hrunning | hjoinable := Bool.and_eq_false_iff.mp hrunning
    · exact hstopped hrunning
    · exact ⟨by simpa using hjoinable, hdestroyed⟩
  next => cases hstep

theorem StoppedEarly.step (h : StoppedEarly t) {action : Action}
    (hstep : t.step action = some next) : StoppedEarly next := by
  cases action with
  | sendMsg client msg elem =>
      rw [Task.step, Task.sendMsg] at hstep
      split at hstep
      next => cases hstep
      next => exact h.queued hstep
  | enter => exact h.enter hstep
  | run =>
      rw [Task.step, Task.run] at hstep
      split at hstep
      next =>
        split at hstep
        next => exact h.receive hstep
        next =>
          obtain rfl := Option.some.inj hstep
          exact .of_point h.unblocked (by simp) (by simp)
      next => cases hstep
  | wake =>
      rw [Task.step, Task.wake] at hstep
      split at hstep
      next => exact h.receive hstep
      next => cases hstep
  | proc =>
      rw [Task.step, Task.proc] at hstep
      split at hstep
      next =>
        obtain rfl := Option.some.inj hstep
        exact .of_point h.unblocked (by simp) (by simp)
      next => cases hstep
  | delete =>
      rw [Task.step, Task.delete] at hstep
      split at hstep
      next =>
        obtain rfl := Option.some.inj hstep
        exact .of_point h.unblocked (by simp) (by simp)
      next => cases hstep
  | destroy client => exact h.destroy hstep
  | stop => exact h.stop hstep
  | leave =>
      rw [Task.step, Task.leave] at hstep
      split at hstep
      next => exact h.destruct hstep
      next => cases hstep

/-- The thread has ended, the queue refuses what is sent, and holds what it held. -/
structure Stranded (msgList : ListState LocMsg Destroy) (t : Task) : Prop where
  point : t.point = .ended
  destroyed : t.destroyed = true
  unblocked : t.mQ.unblocked = true
  msgList : t.mQ.msgList = msgList

/-- Nobody is left who would delete the task. -/
theorem Stranded.step {msgList : ListState LocMsg Destroy} (h : Stranded msgList t)
    {action : Action} (hstep : t.step action = some next) : Stranded msgList next := by
  cases action with
  | sendMsg client msg elem =>
      rw [Task.step, Task.sendMsg, if_neg (by rw [h.point]; simp), Task.queued,
        Option.map_eq_some_iff] at hstep
      obtain ⟨mQ, hsnd, rfl⟩ := hstep
      rw [MsgQ.step] at hsnd
      split at hsnd
      next => cases hsnd
      next =>
        rw [msgQSnd, if_pos h.unblocked] at hsnd
        obtain rfl := Option.some.inj hsnd
        exact ⟨h.point, h.destroyed, h.unblocked, h.msgList⟩
  | stop =>
      rw [Task.step, Task.stop, if_pos h.destroyed] at hstep
      obtain rfl := Option.some.inj hstep
      exact ⟨h.point, h.destroyed, h.unblocked, h.msgList⟩
  | destroy client =>
      rw [Task.step, Task.destroy, if_pos (.inl h.destroyed)] at hstep
      cases hstep
  | enter | run | wake | leave =>
      simp [Task.step, Task.enter, Task.run, Task.wake, Task.leave, h.point] at hstep
  | proc | delete => simp [Task.step, Task.proc, Task.delete, h.point] at hstep

end

variable {started joinable : Bool}

end Serrano.MsgTask
