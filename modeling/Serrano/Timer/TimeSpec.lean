import Serrano.Foundation.Ranking

/-! # Clock readings and the ranking of timers

Time is read from the boot-time clock as seconds and nanoseconds. A timer
ranks by the time it is due at, the earlier one higher. The device's `time_t`
is a 32-bit signed integer, so that a difference of two readings is the `int`
that the comparison computes.
-/

namespace Serrano.Timer

open Priority

/-- `struct timespec` as the clock fills it in: normalised, and never zero,
which is the value that disarms a `timerfd`. -/
structure TimeSpec where
  tv_sec : Nat
  tv_nsec : Nat
  normal : tv_nsec < 1000000000
  running : 0 < tv_sec + tv_nsec
  deriving DecidableEq

namespace TimeSpec

/-- The time in nanoseconds. -/
def toNs (time : TimeSpec) : Nat := time.tv_sec * 1000000000 + time.tv_nsec

/-- The time `start` computes: add the delay and carry into the seconds. -/
def futureTime (now : TimeSpec) (timeOutInMs : Nat) : TimeSpec :=
  if hcarry : now.tv_nsec + timeOutInMs % 1000 * 1000000 ≥ 1000000000 then
    { tv_sec := now.tv_sec + timeOutInMs / 1000 +
        (now.tv_nsec + timeOutInMs % 1000 * 1000000) / 1000000000
      tv_nsec := (now.tv_nsec + timeOutInMs % 1000 * 1000000) % 1000000000
      normal := Nat.mod_lt _ (by decide)
      running := by omega }
  else
    { tv_sec := now.tv_sec + timeOutInMs / 1000
      tv_nsec := now.tv_nsec + timeOutInMs % 1000 * 1000000
      normal := by omega
      running := by have := now.running; omega }

/-- `ranks`: a larger time ranks lower. -/
def ranks (self rankable : TimeSpec) : Int :=
  let rank : Int := rankable.tv_sec - self.tv_sec
  if rank = 0 then rankable.tv_nsec - self.tv_nsec else rank

theorem toNs_futureTime (now : TimeSpec) (timeOutInMs : Nat) :
    (now.futureTime timeOutInMs).toNs = now.toNs + timeOutInMs * 1000000 := by
  unfold futureTime toNs
  split
  · simp only
    omega
  · simp only
    omega

theorem ranks_pos_iff (self rankable : TimeSpec) :
    0 < self.ranks rankable ↔ self.toNs < rankable.toNs := by
  have hself := self.normal
  have hrankable := rankable.normal
  unfold ranks toNs
  simp only
  split_ifs with hrank
  · omega
  · omega

theorem ranks_neg_iff (self rankable : TimeSpec) :
    self.ranks rankable < 0 ↔ rankable.toNs < self.toNs := by
  have hself := self.normal
  have hrankable := rankable.normal
  unfold ranks toNs
  simp only
  split_ifs with hrank
  · omega
  · omega

theorem ranks_nonneg_iff (self rankable : TimeSpec) :
    0 ≤ self.ranks rankable ↔ self.toNs ≤ rankable.toNs := by
  have hneg := ranks_neg_iff self rankable
  omega

end TimeSpec

/-- A timer delegate as the heap sees it: where it is allocated, and the time
it was constructed with. -/
structure LocTimerDelegate where
  address : Nat
  mFutureTime : TimeSpec
  deriving DecidableEq

namespace LocTimerDelegate

/-- `ranks`, a total preorder by the time in nanoseconds. -/
def ranking : Ranking LocTimerDelegate where
  ranks self rankable := self.mFutureTime.ranks rankable.mFutureTime
  pos_iff_neg self rankable := by rw [TimeSpec.ranks_pos_iff, TimeSpec.ranks_neg_iff]
  nonneg_trans first second third := by
    simp only [TimeSpec.ranks_nonneg_iff]
    exact Nat.le_trans

theorem outRanks_iff (self rankable : LocTimerDelegate) :
    ranking.outRanks self rankable ↔ self.mFutureTime.toNs < rankable.mFutureTime.toNs :=
  TimeSpec.ranks_pos_iff _ _

end LocTimerDelegate

end Serrano.Timer
