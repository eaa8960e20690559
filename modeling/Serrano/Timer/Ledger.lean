import Mathlib.Algebra.Order.Group.Multiset
import Serrano.Timer.Ownership

/-! # The ledger of a delegate

It counts what happened to the delegate and who holds it. It is balanced: what
was started is in the queue or was pushed, is running or on its way to be
deleted, and has one outcome at most. Every entry that is made in a ledger
leaves it balanced.
-/

namespace Serrano.Timer

inductive EventKind
  | started
  | pushed
  | stopped
  | timedOut
  | deleted
  deriving DecidableEq

namespace TimerEvent

def kind : TimerEvent → EventKind
  | .started .. => .started
  | .pushed _ => .pushed
  | .stopped .. => .stopped
  | .timedOut .. => .timedOut
  | .deleted _ => .deleted

/-- The address of the delegate that an event is about. -/
def timer : TimerEvent → Nat
  | .started _ timer _ _ | .pushed timer | .stopped _ timer | .timedOut _ timer _
  | .deleted timer => timer

end TimerEvent

/-- How often something happened to a delegate. -/
def happened (kind : EventKind) (address : Nat) (log : List TimerEvent) : Nat :=
  log.countP fun event => event.kind = kind ∧ event.timer = address

@[simp] theorem happened_append (kind : EventKind) (address : Nat) (log : List TimerEvent)
    (event : TimerEvent) :
    happened kind address (log ++ [event]) = happened kind address log +
      if event.kind = kind ∧ event.timer = address then 1 else 0 := by
  simp [happened, List.countP_append, List.countP_singleton]

/-- Whether there is a timer, and it has the address. -/
def isAt (address : Nat) (timer : Option LocTimerDelegate) : Nat :=
  if timer.any (·.address = address) then 1 else 0

@[simp] theorem isAt_none (address : Nat) : isAt address none = 0 := rfl

@[simp] theorem isAt_some (address : Nat) (timer : LocTimerDelegate) :
    isAt address (some timer) = if timer.address = address then 1 else 0 := by
  simp [isAt]

namespace LocMsg

/-- The delegate that a message is about. -/
def timer? : LocMsg → Option LocTimerDelegate
  | .timerPush _ mTimer | .timerRemove _ mTimer => some mTimer
  | .timerExpire _ => none

def pushes (address : Nat) : LocMsg → Bool
  | .timerPush _ mTimer => mTimer.address = address
  | .timerRemove .. | .timerExpire _ => false

def removes (address : Nat) : LocMsg → Bool
  | .timerRemove _ mTimer => mTimer.address = address
  | .timerPush .. | .timerExpire _ => false

end LocMsg

/-! ## The ledger -/

/-- One delegate: what happened to it, and how often it is held, and where. -/
structure Ledger where
  started : Nat
  pushing : Nat
  pushed : Nat
  inHeap : Nat
  running : Nat
  removing : Nat
  doomed : Nat
  deleted : Nat
  calling : Nat
  timedOut : Nat
  stopped : Nat

namespace Ledger

/-- A delegate is started once; then it is on its way to the heap or was
pushed, it runs or is on its way to be deleted, it runs or has its one outcome,
and nobody holds it any more once it is about to be deleted. -/
structure Balanced (l : Ledger) : Prop where
  once : l.started ≤ 1
  placed : l.pushing + l.pushed = l.started
  owned : l.running + l.removing + l.doomed + l.deleted = l.started
  ended : l.running + l.calling + l.timedOut + l.stopped = l.started
  heaped : l.inHeap ≤ l.pushed
  gone : 0 < l.doomed + l.deleted → l.pushing = 0 ∧ l.inHeap = 0

/-- The entries that are made in a ledger. -/
inductive Move : Ledger → Ledger → Prop
  | stay (l : Ledger) : Move l l
  | start (l : Ledger) (hfresh : l.started = 0) :
      Move l { l with
        started := l.started + 1, pushing := l.pushing + 1, running := 1 }
  | stop (l : Ledger) (hrunning : l.running = 1) :
      Move l { l with running := 0, removing := l.removing + 1, stopped := l.stopped + 1 }
  | expire (l : Ledger) (hrunning : l.running = 1) :
      Move l { l with running := 0, removing := l.removing + 1, calling := l.calling + 1 }
  | callBack (l : Ledger) (hcalling : 0 < l.calling) :
      Move l { l with calling := l.calling - 1, timedOut := l.timedOut + 1 }
  | push (l : Ledger) (hpushing : 0 < l.pushing) :
      Move l { l with
        pushing := l.pushing - 1, pushed := l.pushed + 1, inHeap := l.inHeap + 1 }
  | pop (l : Ledger) : Move l { l with inHeap := l.inHeap - 1 }
  | remove (l : Ledger) (hremoving : 0 < l.removing) (hpushed : l.pushing = 0) :
      Move l { l with removing := l.removing - 1, doomed := l.doomed + 1, inHeap := 0 }
  | delete (l : Ledger) (hdoomed : 0 < l.doomed) :
      Move l { l with doomed := l.doomed - 1, deleted := l.deleted + 1 }

/-- Every entry leaves a balanced ledger balanced. -/
theorem Balanced.move {l l' : Ledger} (hl : l.Balanced) (hmove : Move l l') : l'.Balanced := by
  obtain ⟨honce, hplaced, howned, hended, hheaped, hgone⟩ := hl
  -- An entry changes both sides of every balance it touches alike.
  cases hmove with
  | stay => exact ⟨honce, hplaced, howned, hended, hheaped, hgone⟩
  | start hfresh | stop hrunning | expire hrunning | callBack hcalling | push hpushing | pop
  | remove hremoving hpushed | delete hdoomed =>
      constructor <;> dsimp only <;> omega

end Ledger

namespace Holdings

variable (h : Holdings) (address : Nat)

/-- How many entries of a heap have the address. -/
def heldIn (heap : SortedHeap LocTimerDelegate.ranking) (address : Nat) : Nat :=
  heap.elements.countP (·.address = address)

def ledger : Ledger where
  started := happened .started address h.log
  pushing := h.queue.countP (LocMsg.pushes address)
  pushed := happened .pushed address h.log
  inHeap := heldIn (h.heap false) address + heldIn (h.heap true) address
  running := if ((h.links address).bind DelegateLinks.mClient).isSome then 1 else 0
  removing := h.queue.countP (LocMsg.removes address)
  doomed := isAt address h.doomed
  deleted := happened .deleted address h.log
  calling := isAt address h.calling
  timedOut := happened .timedOut address h.log
  stopped := happened .stopped address h.log

/-- Whoever a message is about is on its way to the heap, or to be removed. -/
theorem pos_of_queue {h : Holdings} {msg : LocMsg} (hmem : msg ∈ h.queue)
    {timer : LocTimerDelegate} (htimer : msg.timer? = some timer) :
    0 < (h.ledger timer.address).pushing + (h.ledger timer.address).removing := by
  cases msg with
  | timerPush container mTimer =>
      obtain rfl := Option.some.inj htimer
      have hpushing : 0 < (h.ledger mTimer.address).pushing :=
        List.countP_pos_iff.mpr ⟨_, hmem, by simp [LocMsg.pushes]⟩
      omega
  | timerRemove container mTimer =>
      obtain rfl := Option.some.inj htimer
      have hremoving : 0 < (h.ledger mTimer.address).removing :=
        List.countP_pos_iff.mpr ⟨_, hmem, by simp [LocMsg.removes]⟩
      omega
  | timerExpire container => cases htimer

section Heaps

variable {heap : SortedHeap LocTimerDelegate.ranking} {address : Nat}

theorem heldIn_push (timer : LocTimerDelegate) :
    heldIn (heap.push timer) address =
      heldIn heap address + if timer.address = address then 1 else 0 := by
  have helements : (heap.push timer).elements = timer ::ₘ heap.elements :=
    LocHeap.elements_push heap.toLocHeap timer
  rw [heldIn, helements, Multiset.countP_cons]
  rfl

/-- A pop takes the top out, or finds nothing. -/
theorem pop_cases (heap : SortedHeap LocTimerDelegate.ranking) :
    (heap.pop.2 = none ∧ heap.pop.1 = heap) ∨
      ∃ top, heap.pop.2 = some top ∧ heap.elements = top ::ₘ heap.pop.1.elements := by
  rw [SortedHeap.pop_answer]
  cases hpeek : heap.peek with
  | none => exact .inl ⟨rfl, heap.pop_of_peek_none hpeek⟩
  | some top => exact .inr ⟨top, rfl, (heap.consistent.peek_some hpeek).2.2⟩

/-- A removal takes the delegate out, or does not find it. -/
theorem remove_cases (heap : SortedHeap LocTimerDelegate.ranking) (timer : LocTimerDelegate) :
    (timer ∉ heap.elements ∧ (heap.remove timer).1 = heap) ∨
      heap.elements = timer ::ₘ (heap.remove timer).1.elements := by
  rcases heap.consistent.remove_cases timer with ⟨habsent, hremove⟩ | ⟨-, helements⟩
  · refine .inl ⟨habsent, ?_⟩
    cases heap with
    | mk toLocHeap consistent => simp only [SortedHeap.remove, hremove]
  · exact .inr helements

theorem heldIn_of_elements {heap' : SortedHeap LocTimerDelegate.ranking}
    {timer : LocTimerDelegate} (helements : heap.elements = timer ::ₘ heap'.elements)
    (address : Nat) :
    heldIn heap address = heldIn heap' address + if timer.address = address then 1 else 0 := by
  rw [heldIn, helements, Multiset.countP_cons]
  rfl

theorem heldIn_eq_zero_iff :
    heldIn heap address = 0 ↔ ∀ timer ∈ heap.elements, timer.address ≠ address :=
  Multiset.countP_eq_zero

/-- Changing one heap changes what is held by the difference. -/
theorem heldIn_update (heaps : Bool → SortedHeap LocTimerDelegate.ranking) (container : Bool)
    (heap : SortedHeap LocTimerDelegate.ranking) (address : Nat) :
    heldIn (Function.update heaps container heap false) address +
        heldIn (Function.update heaps container heap true) address +
        heldIn (heaps container) address =
      heldIn (heaps false) address + heldIn (heaps true) address + heldIn heap address := by
  cases container
  · simp only [Function.update_self, Function.update_of_ne (show true ≠ false by decide)]
    omega
  · simp only [Function.update_self, Function.update_of_ne (show false ≠ true by decide)]
    omega

/-- A pop takes one entry of an address at most. -/
theorem heldIn_pop (heaps : Bool → SortedHeap LocTimerDelegate.ranking) (container : Bool)
    (address : Nat) :
    let heaps' := Function.update heaps container (heaps container).pop.1
    heldIn (heaps' false) address + heldIn (heaps' true) address =
        heldIn (heaps false) address + heldIn (heaps true) address ∨
      heldIn (heaps' false) address + heldIn (heaps' true) address =
        heldIn (heaps false) address + heldIn (heaps true) address - 1 := by
  have hchange := heldIn_update heaps container (heaps container).pop.1 address
  dsimp only
  rcases pop_cases (heaps container) with ⟨-, hsame⟩ | ⟨top, -, helements⟩
  · rw [hsame] at hchange ⊢
    omega
  · have hheld := heldIn_of_elements helements address
    split_ifs at hheld <;> omega

end Heaps

end Holdings

end Serrano.Timer
