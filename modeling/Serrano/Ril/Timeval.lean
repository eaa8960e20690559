import Mathlib.Algebra.Ring.Int.Defs

/-! # Seconds and microseconds

A `timeval` is normalised, so that comparing, adding and subtracting two of them
is comparing, adding and subtracting their microseconds. The seconds do not
overflow.
-/

namespace Serrano.Ril

/-- `struct timeval`, normalised. -/
structure Timeval where
  tv_sec : Int
  tv_usec : Int
  usec_nonneg : 0 ≤ tv_usec
  usec_lt : tv_usec < 1000000
  deriving DecidableEq

/-- A relative time is not negative. -/
structure RelativeTime extends Timeval where
  sec_nonneg : 0 ≤ tv_sec
  deriving DecidableEq

namespace Timeval

/-- The time in microseconds. -/
def toUs (tv : Timeval) : Int := tv.tv_sec * 1000000 + tv.tv_usec

def zero : Timeval := ⟨0, 0, by decide, by decide⟩

def timeradd (a b : Timeval) : Timeval :=
  if hcarry : a.tv_usec + b.tv_usec ≥ 1000000 then
    { tv_sec := a.tv_sec + b.tv_sec + 1
      tv_usec := a.tv_usec + b.tv_usec - 1000000
      usec_nonneg := by omega
      usec_lt := by have := a.usec_lt; have := b.usec_lt; omega }
  else
    { tv_sec := a.tv_sec + b.tv_sec
      tv_usec := a.tv_usec + b.tv_usec
      usec_nonneg := by have := a.usec_nonneg; have := b.usec_nonneg; omega
      usec_lt := by omega }

def timercmp (a b : Timeval) (op : Int → Int → Bool) : Bool :=
  if a.tv_sec = b.tv_sec then op a.tv_usec b.tv_usec else op a.tv_sec b.tv_sec

def timersub (a b : Timeval) : Timeval :=
  if hborrow : a.tv_usec - b.tv_usec < 0 then
    { tv_sec := a.tv_sec - b.tv_sec - 1
      tv_usec := a.tv_usec - b.tv_usec + 1000000
      usec_nonneg := by have := a.usec_nonneg; have := b.usec_lt; omega
      usec_lt := by omega }
  else
    { tv_sec := a.tv_sec - b.tv_sec
      tv_usec := a.tv_usec - b.tv_usec
      usec_nonneg := by omega
      usec_lt := by have := a.usec_lt; have := b.usec_nonneg; omega }

@[simp] theorem toUs_zero : zero.toUs = 0 := rfl

theorem toUs_timeradd (a b : Timeval) : (timeradd a b).toUs = a.toUs + b.toUs := by
  unfold timeradd toUs
  split_ifs
  · simp only
    omega
  · simp only
    omega

theorem toUs_timersub (a b : Timeval) : (timersub a b).toUs = a.toUs - b.toUs := by
  unfold timersub toUs
  split_ifs
  · simp only
    omega
  · simp only
    omega

theorem timercmp_lt_iff (a b : Timeval) :
    timercmp a b (fun x y => x < y) = true ↔ a.toUs < b.toUs := by
  have ha := a.usec_nonneg
  have ha' := a.usec_lt
  have hb := b.usec_nonneg
  have hb' := b.usec_lt
  unfold timercmp toUs
  split_ifs with hsec
  · rw [decide_eq_true_iff, hsec]
    omega
  · rw [decide_eq_true_iff]
    omega

theorem timercmp_gt_iff (a b : Timeval) :
    timercmp a b (fun x y => x > y) = true ↔ b.toUs < a.toUs := by
  rw [← timercmp_lt_iff, timercmp, timercmp]
  split_ifs with hsec hsec'
  · rfl
  · exact absurd hsec.symm hsec'
  · exact absurd ‹_› (Ne.symm hsec)
  · rfl

end Timeval

theorem RelativeTime.toUs_nonneg (tv : RelativeTime) : 0 ≤ tv.toUs := by
  have hsec := tv.sec_nonneg
  have husec := tv.usec_nonneg
  unfold Timeval.toUs
  omega

end Serrano.Ril
