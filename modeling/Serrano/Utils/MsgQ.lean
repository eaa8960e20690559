import Serrano.Utils.LinkedListRefinement

/-! # Message queues

Any number of threads send, receive, flush and unblock. Every critical section
is one step; `pthread_cond_wait` releases the mutex, so that a receiver that
waits is between two steps. Waits may end at any time, so a signal enables
nothing that is not possible without it. Messages come out in the order in
which they were accepted, whatever the threads do.
-/

namespace Serrano

open LinkedList DoublyLinked

universe u

/-- `msq_q_err_type` -/
inductive MsqQErr
  | success
  | failureGeneral
  | invalidParameter
  | invalidHandle
  | unavailableResource
  | insufficientBuffer
  deriving DecidableEq, Repr

/-- `convert_linked_list_err_type` -/
def convertLinkedListErrType : LinkedListErr → MsqQErr
  | .success => .success
  | .invalidParameter => .invalidParameter
  | .invalidHandle => .invalidHandle
  | .unavailableResource => .unavailableResource
  | .insufficientBuffer => .insufficientBuffer
  | .failureGeneral => .failureGeneral

/-- What a call returned to its thread. With a flush goes what the queue held,
oldest first. -/
inductive QueueEvent (α δ : Type u)
  | snd (thread : Nat) (msgObj : Option α) (rv : MsqQErr)
  | rcv (thread : Nat) (rv : MsqQErr) (msgObj : Option α)
  | flush (thread : Nat) (rv : MsqQErr) (held : List (α × Option δ))
  | unblock (thread : Nat) (rv : MsqQErr)

/-- `msg_q`, the threads that wait on its condition, and the calls that
returned, which nothing reads. -/
structure MsgQ (α δ : Type u) where
  msgList : ListState α δ
  unblocked : Bool
  waiting : Nat → Bool
  log : List (QueueEvent α δ)

/-- What a thread does next: a call up to where it returns or waits, or the
return from a wait. `elem` is what `malloc` answers. -/
inductive QueueAction (α δ : Type u)
  | snd (thread : Nat) (msgObj : Option α) (dealloc : Option δ) (elem : Option Nat)
  | rcv (thread : Nat) (msgObj : Bool)
  | wake (thread : Nat)
  | flush (thread : Nat)
  | unblock (thread : Nat)

/-- The element that `malloc` is asked for. -/
def QueueAction.malloced {α δ : Type u} : QueueAction α δ → Option Nat
  | .snd _ _ _ elem => elem
  | _ => none

namespace MsgQ

variable {α δ : Type u} (q : MsgQ α δ)

/-- `msg_q_init` -/
def init : MsgQ α δ where
  msgList := .init
  unblocked := false
  waiting _ := false
  log := []

def record (event : QueueEvent α δ) : MsgQ α δ := { q with log := q.log ++ [event] }

/-- What the list holds, from its tail to its head. -/
def held : List (α × Option δ) :=
  (walk q.msgList.links.prev q.msgList.inUse q.msgList.pTail).filterMap q.msgList.content

/-- `msg_q_snd` -/
def msgQSnd (thread : Nat) (msgObj : Option α) (dealloc : Option δ) (elem : Option Nat) :
    Option (MsgQ α δ) :=
  match msgObj with
  | none => some (q.record (.snd thread none .invalidParameter))
  | some msgObj =>
      if q.unblocked then some (q.record (.snd thread (some msgObj) .unavailableResource))
      else
        (q.msgList.linkedListAdd (some msgObj) dealloc elem).map fun (msgList, err) =>
          { q with msgList }.record (.snd thread (some msgObj) (convertLinkedListErrType err))

/-- The wait loop of `msg_q_rcv`, from the test of its condition to the next
wait or to the return. -/
def rcvLoop (thread : Nat) : Option (MsgQ α δ) :=
  if q.msgList.linkedListEmpty && !q.unblocked then
    some { q with waiting := Function.update q.waiting thread true }
  else
    -- An unblocked queue may be empty here: then the list refuses.
    (q.msgList.linkedListRemove true).map fun (msgList, err, msgObj) =>
      { q with msgList, waiting := Function.update q.waiting thread false }.record
        (.rcv thread (convertLinkedListErrType err) msgObj)

/-- `msg_q_rcv` up to the first wait. -/
def msgQRcv (thread : Nat) (msgObj : Bool) : Option (MsgQ α δ) :=
  if !msgObj then some (q.record (.rcv thread .invalidParameter none))
  else if q.unblocked then some (q.record (.rcv thread .unavailableResource none))
  else q.rcvLoop thread

/-- `msg_q_flush` -/
def msgQFlush (thread : Nat) : Option (MsgQ α δ) :=
  q.msgList.linkedListFlush.map fun msgList =>
    { q with msgList }.record (.flush thread (convertLinkedListErrType .success) q.held)

/-- `msg_q_unblock` -/
def msgQUnblock (thread : Nat) : MsgQ α δ :=
  if q.unblocked then q.record (.unblock thread .unavailableResource)
  else { q with unblocked := true }.record (.unblock thread .success)

/-- Perform an action; `none` when the thread cannot take it, and when the list
touches memory that is not in use. -/
def step (action : QueueAction α δ) : Option (MsgQ α δ) :=
  match action with
  | .wake thread => if q.waiting thread then q.rcvLoop thread else none
  | .snd thread msgObj dealloc elem =>
      if q.waiting thread then none else q.msgQSnd thread msgObj dealloc elem
  | .rcv thread msgObj => if q.waiting thread then none else q.msgQRcv thread msgObj
  | .flush thread => if q.waiting thread then none else q.msgQFlush thread
  | .unblock thread => if q.waiting thread then none else some (q.msgQUnblock thread)

/-- The interleavings of all threads from `msg_q_init` on. -/
def system (α δ : Type u) : Transition.System (MsgQ α δ) (QueueAction α δ) where
  init := init
  step := step

/-- What `malloc` answers is not in use. -/
def MallocFresh (action : QueueAction α δ) : Prop :=
  ∀ elem ∈ action.malloced, (q.msgList.memory elem).isNone = true

instance (action : QueueAction α δ) : Decidable (q.MallocFresh action) :=
  Option.decidableForallMem _

/-- A thread outside a wait may make a call, one inside may return from it. -/
def Ready : QueueAction α δ → Prop
  | .wake thread => q.waiting thread = true
  | .snd thread _ _ _ | .rcv thread _ | .flush thread | .unblock thread =>
      q.waiting thread = false

/-! ## Order -/

/-- The messages whose send succeeded. -/
def sent (log : List (QueueEvent α δ)) : List α :=
  log.filterMap fun
    | .snd _ msgObj .success => msgObj
    | _ => none

/-- The messages that were received, and those that were flushed, in the order
in which they left the queue. -/
def departed (log : List (QueueEvent α δ)) : List α :=
  log.flatMap fun
    | .rcv _ .success msgObj => msgObj.toList
    | .flush _ _ held => held.map Prod.fst
    | _ => []

/-- The deallocations of the flushes, each of which begins with the newest. -/
def flushed (log : List (QueueEvent α δ)) : List (δ × α) :=
  log.flatMap fun
    | .flush _ _ held => ListState.deallocCalls held.reverse
    | _ => []

/-- What was accepted is what was received or flushed, followed by what the
queue holds; and only what was flushed was deallocated. -/
structure Fifo : Prop where
  split : sent q.log = departed q.log ++ q.held.map Prod.fst
  deallocs : q.msgList.deallocs = flushed q.log

/-- Once an unblock returned, every send and every receive that begins is
refused and leaves the list alone. -/
def RefusesUnblocked : Prop :=
  (∃ thread rv, .unblock thread rv ∈ q.log) → ∀ next,
    (∀ thread msgObj dealloc elem, q.step (.snd thread msgObj dealloc elem) = some next →
      next.msgList = q.msgList ∧ ∃ rv, rv ≠ .success ∧
        next.log = q.log ++ [.snd thread msgObj rv]) ∧
    ∀ thread msgObj, q.step (.rcv thread msgObj) = some next →
      next.msgList = q.msgList ∧ ∃ rv, rv ≠ .success ∧
        next.log = q.log ++ [.rcv thread rv none]

/-- No call touches memory that is not in use, or runs forever. -/
def NeverStuck : Prop :=
  ∀ action, q.Ready action → q.MallocFresh action → (q.step action).isSome = true

/-- The list is well formed, and the flag is up once an unblock returned. -/
structure Inv : Prop where
  list : ∃ cells entries, q.msgList.Represents cells entries
  fifo : q.Fifo
  unblocked : ∀ thread rv, .unblock thread rv ∈ q.log → q.unblocked = true

variable {q}

theorem inv_init : (init : MsgQ α δ).Inv where
  list := ⟨[], [], ListState.represents_init⟩
  fifo := ⟨rfl, rfl⟩
  unblocked _ _ h := nomatch h

/-- The held messages are what the list represents, seen from its tail. -/
theorem held_eq {cells : List Nat} {entries : List (α × Option δ)}
    (hlist : q.msgList.Represents cells entries) : q.held = entries.reverse := by
  have hwalk := hlist.chain.walk_prev (Nat.le_of_eq hlist.inUse.symm)
  have hentries : cells.filterMap q.msgList.content = entries := by
    simpa [List.filterMap_map] using congrArg (List.filterMap id) hlist.content
  rw [held, hlist.tail, hwalk, List.filterMap_reverse, hentries]

@[simp] theorem sent_append (log log' : List (QueueEvent α δ)) :
    sent (log ++ log') = sent log ++ sent log' := List.filterMap_append

@[simp] theorem departed_append (log log' : List (QueueEvent α δ)) :
    departed (log ++ log') = departed log ++ departed log' := List.flatMap_append

@[simp] theorem flushed_append (log log' : List (QueueEvent α δ)) :
    flushed (log ++ log') = flushed log ++ flushed log' := List.flatMap_append

/-- A call that is refused, or has nothing to do with messages. -/
theorem Inv.record (hq : q.Inv) {event : QueueEvent α δ} (hsent : sent [event] = [])
    (hdeparted : departed [event] = []) (hflushed : flushed [event] = [])
    (hunblock : ∀ thread rv, event = .unblock thread rv → q.unblocked = true) :
    (q.record event).Inv where
  list := hq.list
  fifo := by
    constructor
    · change sent (q.log ++ [event]) = departed (q.log ++ [event]) ++ q.held.map Prod.fst
      simpa [hsent, hdeparted] using hq.fifo.split
    · simpa [MsgQ.record, hflushed] using hq.fifo.deallocs
  unblocked thread rv hmem := by
    rcases List.mem_append.mp hmem with hmem | hmem
    · exact hq.unblocked thread rv hmem
    · exact hunblock thread rv (List.mem_singleton.mp hmem).symm

/-- What happens to the list happens to the messages held. -/
theorem Inv.of_list (hq : q.Inv) {msgList : ListState α δ} {cells : List Nat}
    {entries : List (α × Option δ)} (hlist : msgList.Represents cells entries)
    {waiting : Nat → Bool} {event : QueueEvent α δ}
    (hsplit : sent (q.log ++ [event]) =
      departed (q.log ++ [event]) ++ entries.reverse.map Prod.fst)
    (hdeallocs : msgList.deallocs = flushed (q.log ++ [event]))
    (hunblock : ∀ thread rv, event ≠ .unblock thread rv) :
    ({ q with msgList, waiting }.record event).Inv where
  list := ⟨cells, entries, hlist⟩
  fifo := by
    have hheld : ({ q with msgList, waiting }.record event).held = entries.reverse :=
      held_eq hlist
    refine ⟨?_, hdeallocs⟩
    rw [hheld]
    exact hsplit
  unblocked thread rv hmem := by
    rcases List.mem_append.mp hmem with hmem | hmem
    · exact hq.unblocked thread rv hmem
    · exact absurd (List.mem_singleton.mp hmem).symm (hunblock thread rv)

theorem inv_snd (hq : q.Inv) (thread : Nat) (msgObj : Option α) (dealloc : Option δ)
    (elem : Option Nat) (hfresh : ∀ p ∈ elem, (q.msgList.memory p).isNone = true) :
    ∃ next, q.msgQSnd thread msgObj dealloc elem = some next ∧ next.Inv := by
  unfold msgQSnd
  cases msgObj with
  | none => exact ⟨_, rfl, hq.record rfl rfl rfl (by simp)⟩
  | some msgObj =>
      dsimp only
      split_ifs with hunblocked
      · exact ⟨_, rfl, hq.record rfl rfl rfl (by simp)⟩
      · cases elem with
        | none => exact ⟨_, rfl, hq.record rfl rfl rfl (by simp)⟩
        | some elem =>
            obtain ⟨cells, entries, hlist⟩ := hq.list
            have hnone : q.msgList.memory elem = none := by
              simpa using hfresh elem rfl
            obtain ⟨msgList, hadd, hlist', hdeallocs⟩ := hlist.linkedListAdd msgObj dealloc hnone
            refine ⟨_, by rw [hadd]; rfl, hq.of_list hlist' ?_ ?_ (by simp)⟩
            · rw [sent_append, hq.fifo.split, held_eq hlist]
              simp [sent, departed, convertLinkedListErrType]
            · rw [hdeallocs, hq.fifo.deallocs]
              simp [flushed]

theorem inv_rcvLoop (hq : q.Inv) (thread : Nat) :
    ∃ next, q.rcvLoop thread = some next ∧ next.Inv := by
  obtain ⟨cells, entries, hlist⟩ := hq.list
  unfold rcvLoop
  split_ifs with hempty
  · exact ⟨_, rfl, hq.list, ⟨hq.fifo.split, hq.fifo.deallocs⟩, hq.unblocked⟩
  · obtain rfl | ⟨front, entry, rfl⟩ := List.eq_nil_or_concat' entries
    · -- Only an unblocked queue lets a receiver go without a message.
      refine ⟨_, by rw [hlist.linkedListRemove_nil]; rfl, hq.of_list hlist ?_ ?_ (by simp)⟩
      · rw [sent_append, hq.fifo.split, held_eq hlist]
        simp [sent, departed, convertLinkedListErrType]
      · rw [hq.fifo.deallocs]
        simp [flushed]
    · obtain ⟨msgList, cells', hremove, hlist', hdeallocs⟩ := hlist.linkedListRemove
      refine ⟨_, by rw [hremove]; rfl, hq.of_list hlist' ?_ ?_ (by simp)⟩
      · rw [sent_append, hq.fifo.split, held_eq hlist]
        simp [sent, departed, convertLinkedListErrType]
      · rw [hdeallocs, hq.fifo.deallocs]
        simp [flushed]

theorem inv_rcv (hq : q.Inv) (thread : Nat) (msgObj : Bool) :
    ∃ next, q.msgQRcv thread msgObj = some next ∧ next.Inv := by
  unfold msgQRcv
  split_ifs
  · exact ⟨_, rfl, hq.record rfl rfl rfl (by simp)⟩
  · exact ⟨_, rfl, hq.record rfl rfl rfl (by simp)⟩
  · exact inv_rcvLoop hq thread

theorem inv_flush (hq : q.Inv) (thread : Nat) :
    ∃ next, q.msgQFlush thread = some next ∧ next.Inv := by
  obtain ⟨cells, entries, hlist⟩ := hq.list
  obtain ⟨msgList, hflush, hlist', hdeallocs⟩ := hlist.linkedListFlush
  refine ⟨_, by rw [msgQFlush, hflush]; rfl, hq.of_list hlist' ?_ ?_ (by simp)⟩
  · rw [sent_append, hq.fifo.split]
    simp [sent, departed]
  · rw [hdeallocs, hq.fifo.deallocs, held_eq hlist]
    simp [flushed]

theorem inv_unblock (hq : q.Inv) (thread : Nat) : (q.msgQUnblock thread).Inv := by
  unfold msgQUnblock
  split_ifs with hunblocked
  · exact hq.record rfl rfl rfl fun _ _ _ => hunblocked
  · have hq' : Inv { q with unblocked := true } :=
      ⟨hq.list, ⟨hq.fifo.split, hq.fifo.deallocs⟩, fun _ _ _ => rfl⟩
    exact hq'.record rfl rfl rfl fun _ _ _ => rfl

/-- What a thread may do, it can do, and the queue stays well formed. -/
theorem inv_ready (hq : q.Inv) {action : QueueAction α δ} (hready : q.Ready action)
    (hfresh : q.MallocFresh action) : ∃ next, q.step action = some next ∧ next.Inv := by
  cases action with
  | snd thread msgObj dealloc elem =>
      have hidle : q.waiting thread = false := hready
      obtain ⟨next, hsnd, hnext⟩ := inv_snd hq thread msgObj dealloc elem hfresh
      exact ⟨next, by simpa [step, hidle] using hsnd, hnext⟩
  | rcv thread msgObj =>
      have hidle : q.waiting thread = false := hready
      obtain ⟨next, hrcv, hnext⟩ := inv_rcv hq thread msgObj
      exact ⟨next, by simpa [step, hidle] using hrcv, hnext⟩
  | wake thread =>
      have hwaiting : q.waiting thread = true := hready
      obtain ⟨next, hrcv, hnext⟩ := inv_rcvLoop hq thread
      exact ⟨next, by simpa [step, hwaiting] using hrcv, hnext⟩
  | flush thread =>
      have hidle : q.waiting thread = false := hready
      obtain ⟨next, hflush, hnext⟩ := inv_flush hq thread
      exact ⟨next, by simpa [step, hidle] using hflush, hnext⟩
  | unblock thread =>
      have hidle : q.waiting thread = false := hready
      exact ⟨_, by simp [step, hidle], inv_unblock hq thread⟩

/-- No step is taken by a thread that is not ready for it. -/
theorem ready_of_step {action : QueueAction α δ} {next : MsgQ α δ}
    (hstep : q.step action = some next) : q.Ready action := by
  cases action with
  | wake thread =>
      simp only [step] at hstep
      split_ifs at hstep with hwaiting
      exact hwaiting
  | snd thread _ _ _ | rcv thread _ | flush thread | unblock thread =>
      simp only [step] at hstep
      split_ifs at hstep with hwaiting
      exact Bool.eq_false_iff.mpr hwaiting

theorem inv_step {action : QueueAction α δ} {next : MsgQ α δ} (hq : q.Inv)
    (hfresh : q.MallocFresh action) (hstep : q.step action = some next) : next.Inv := by
  obtain ⟨next', hstep', hnext⟩ := inv_ready hq (ready_of_step hstep) hfresh
  exact Option.some.inj (hstep'.symm.trans hstep) ▸ hnext

theorem neverStuck_of_inv (hq : q.Inv) : q.NeverStuck := by
  intro action hready hfresh
  obtain ⟨next, hstep, -⟩ := inv_ready hq hready hfresh
  rw [hstep]
  rfl

theorem refusesUnblocked_of_inv (hq : q.Inv) : q.RefusesUnblocked := by
  rintro ⟨thread, rv, hmem⟩ next
  have hunblocked := hq.unblocked thread rv hmem
  constructor
  · intro thread msgObj dealloc elem hstep
    simp only [step] at hstep
    split_ifs at hstep
    cases msgObj with
    | none =>
        -- The parameter is checked before the flag.
        obtain rfl := Option.some.inj hstep
        exact ⟨rfl, .invalidParameter, by simp, rfl⟩
    | some msgObj =>
        simp only [msgQSnd, hunblocked, if_true, Option.some.injEq] at hstep
        subst hstep
        exact ⟨rfl, .unavailableResource, by simp, rfl⟩
  · intro thread msgObj hstep
    simp only [step] at hstep
    split_ifs at hstep
    cases msgObj with
    | false =>
        obtain rfl := Option.some.inj hstep
        exact ⟨rfl, .invalidParameter, by simp, rfl⟩
    | true =>
        simp [msgQRcv, hunblocked] at hstep
        subst hstep
        exact ⟨rfl, .unavailableResource, by simp, rfl⟩

/-- Whatever the threads do, messages leave the queue in the order in which
they were accepted, each of them once, and an unblocked queue refuses calls. -/
theorem fifo_throughout {α δ : Type u} (actions : List (QueueAction α δ))
    (hmalloc : (system α δ).Guarded MallocFresh init actions) :
    (system α δ).Throughout (fun q => q.Fifo ∧ q.RefusesUnblocked ∧ q.NeverStuck) init actions :=
  Transition.System.throughout_of_guarded Inv
    (fun _ hq => ⟨hq.fifo, refusesUnblocked_of_inv hq, neverStuck_of_inv hq⟩)
    (fun _ _ _ hq hfresh hstep => inv_step hq hfresh hstep) inv_init hmalloc

/-- A receiver waits, two messages arrive, it takes the first, the queue is
unblocked, and the second is flushed. -/
theorem fifo_throughout_unblocked :
    (system Nat Nat).Throughout (fun q => q.Fifo ∧ q.RefusesUnblocked ∧ q.NeverStuck) init
      [.rcv 0 true, .snd 1 (some 5) (some 0) (some 1), .snd 2 (some 6) (some 0) (some 2),
        .wake 0, .unblock 1, .rcv 0 true, .flush 2] :=
  fifo_throughout _ (by decide)

end MsgQ

end Serrano
