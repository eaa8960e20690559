import Serrano.Foundation.FixedWidth
import Serrano.Timer.TimeSpec

/-! # Deadlines in the machine's arithmetic

`loc_timer_start` takes 64 bits of milliseconds and passes them to a parameter of
32. The sum with the current time is computed in `long` and `unsigned long`, and
`ranks` subtracts two sums, all of which have 32 bits as well. As long as the
timeout fits the parameter the deadline is the one that was asked for, up to the
last time that a `timespec` can hold.
-/

namespace Serrano.Timer

open FixedWidth

def unsignedInt : IntType where
  signed := false
  bits := 32
  positive := by decide

def int : IntType where
  signed := true
  bits := 32
  positive := by decide

def unsignedLong : IntType where
  signed := false
  bits := 32
  positive := by decide

def long : IntType where
  signed := true
  bits := 32
  positive := by decide

theorem long_has_iff (value : Int) : long.Has value ↔ -2147483648 ≤ value ∧ value < 2147483648 :=
  Iff.rfl

theorem unsignedLong_has_iff (value : Int) :
    unsignedLong.Has value ↔ 0 ≤ value ∧ value < 4294967296 :=
  Iff.rfl

theorem unsignedInt_has_iff (value : Int) :
    unsignedInt.Has value ↔ 0 ≤ value ∧ value < 4294967296 :=
  Iff.rfl

/-- A difference that a `long` holds is an `int` as well. -/
theorem difference_kept {difference : Int} (hdifference : long.Has difference) :
    Arithmetic.language.operation long difference = some difference ∧
      Arithmetic.language.conversion int difference = some difference :=
  ⟨Arithmetic.language.operation_eq hdifference, Arithmetic.language.conversion_eq hdifference⟩

/-- `struct timespec` -/
structure Timespec where
  tv_sec : Int
  tv_nsec : Int
  deriving DecidableEq

namespace Timespec

/-- The time in nanoseconds. -/
def toNs (time : Timespec) : Int := time.tv_sec * 1000000000 + time.tv_nsec

/-- The seconds fit a `long`, and the nanoseconds are less than a second. -/
structure Normal (time : Timespec) : Prop where
  tv_sec : long.Has time.tv_sec
  nonneg : 0 ≤ time.tv_nsec
  lt : time.tv_nsec < 1000000000

/-- The time that is a number of nanoseconds. -/
def ofNs (ns : Int) : Timespec where
  tv_sec := ns / 1000000000
  tv_nsec := ns % 1000000000

theorem toNs_ofNs (ns : Int) : (ofNs ns).toNs = ns := by
  have hdivided := Int.mul_ediv_add_emod ns 1000000000
  rwa [Int.mul_comm] at hdivided

theorem normal_ofNs {ns : Int} (hleast : -2147483648000000000 ≤ ns)
    (hbound : ns < 2147483648000000000) : (ofNs ns).Normal := by
  refine ⟨?_, ?_, ?_⟩
  · have hsecond : (ofNs ns).tv_sec = ns / 1000000000 := rfl
    rw [long_has_iff, hsecond]
    omega
  · exact Int.emod_nonneg ns (by decide)
  · exact Int.emod_lt_of_pos ns (by decide)

/-- The rest of `LocTimer::start` once it has read the clock into `futureTime`. -/
def start (arith : Arithmetic) (futureTime : Timespec) (timeOutInMs : Int) : Option Timespec := do
  let tv_sec ← arith.addAssign unsignedLong long futureTime.tv_sec (timeOutInMs / 1000)
  let product ← arith.operation unsignedInt (timeOutInMs % 1000 * 1000000)
  let tv_nsec ← arith.addAssign unsignedLong long futureTime.tv_nsec product
  if 1000000000 ≤ tv_nsec then
    let tv_sec ← arith.operation long (tv_sec + tv_nsec / 1000000000)
    some { tv_sec := tv_sec, tv_nsec := tv_nsec % 1000000000 }
  else
    some { tv_sec := tv_sec, tv_nsec := tv_nsec }

/-- `loc_timer_start`, whose `msec` becomes the `unsigned int` parameter of `start`. -/
def loc_timer_start (arith : Arithmetic) (now : Timespec) (msec : UInt64) : Option Timespec := do
  let timeOutInMs ← arith.conversion unsignedInt msec.toNat
  start arith now timeOutInMs

/-- `LocTimerDelegate::ranks` -/
def ranks (arith : Arithmetic) (mFutureTime timer : Timespec) : Option Int := do
  let difference ← arith.operation long (timer.tv_sec - mFutureTime.tv_sec)
  let rank ← arith.conversion int difference
  if 0 = rank then
    let difference ← arith.operation long (timer.tv_nsec - mFutureTime.tv_nsec)
    arith.conversion int difference
  else
    some rank

/-- `start` computes the current time plus the timeout, when its two sums do. -/
theorem start_eq {arith : Arithmetic} {now : Timespec} {timeOutInMs : Int} (hnow : now.Normal)
    (hnonneg : 0 ≤ timeOutInMs)
    (hfits : now.toNs + timeOutInMs * 1000000 < 2147483648000000000)
    (hsec : arith.addAssign unsignedLong long now.tv_sec (timeOutInMs / 1000) =
      some (now.tv_sec + timeOutInMs / 1000)) :
    start arith now timeOutInMs = some (ofNs (now.toNs + timeOutInMs * 1000000)) := by
  obtain ⟨hsecond, hnsec, hnanosecond⟩ := hnow
  rw [toNs] at hfits
  have hproduct : arith.operation unsignedInt (timeOutInMs % 1000 * 1000000) =
      some (timeOutInMs % 1000 * 1000000) :=
    arith.operation_eq ((unsignedInt_has_iff _).mpr (by omega))
  have hsum : arith.addAssign unsignedLong long now.tv_nsec (timeOutInMs % 1000 * 1000000) =
      some (now.tv_nsec + timeOutInMs % 1000 * 1000000) :=
    Arithmetic.addAssign_eq ((unsignedLong_has_iff _).mpr (by omega))
      ((unsignedLong_has_iff _).mpr (by omega)) ((long_has_iff _).mpr (by omega))
  simp only [start, hsec, hproduct, hsum, Option.bind_eq_bind, Option.bind_some]
  rw [long_has_iff] at hsecond
  -- the carry of the nanoseconds, of which there are less than two seconds
  split
  next hcarry =>
    have hseconds : arith.operation long (now.tv_sec + timeOutInMs / 1000 +
        (now.tv_nsec + timeOutInMs % 1000 * 1000000) / 1000000000) =
        some (now.tv_sec + timeOutInMs / 1000 +
          (now.tv_nsec + timeOutInMs % 1000 * 1000000) / 1000000000) :=
      arith.operation_eq ((long_has_iff _).mpr (by omega))
    rw [hseconds, Option.bind_some, ofNs, toNs]
    congr 2
    · omega
    · omega
  next hcarry =>
    rw [ofNs, toNs]
    congr 2
    · omega
    · omega

/-- What `start` is given is what is left of the timeout in 32 bits. -/
theorem loc_timer_start_eq {now : Timespec} {msec : UInt64} (hnow : now.Normal)
    (hfits : now.toNs + msec.toNat * 1000000 < 2147483648000000000) :
    loc_timer_start .language now msec =
      some (ofNs (now.toNs + (msec.toNat % 4294967296 : Nat) * 1000000)) := by
  -- the parameter of `start` has 32 bits
  have htimeOut : unsignedInt.wrap msec.toNat = (msec.toNat % 4294967296 : Nat) := by
    change (0 : Int) + (msec.toNat - 0) % 4294967296 = _
    omega
  have hconversion : Arithmetic.language.conversion unsignedInt msec.toNat =
      some ((msec.toNat % 4294967296 : Nat) : Int) := congrArg some htimeOut
  have hsecond := (long_has_iff _).mp hnow.tv_sec
  have hnsec := hnow.nonneg
  rw [loc_timer_start, hconversion, Option.bind_eq_bind, Option.bind_some]
  apply start_eq hnow
  · omega
  · omega
  · rw [toNs] at hfits
    exact Arithmetic.addAssign_language rfl rfl ((long_has_iff _).mpr (by omega))

/-- After the boot no value of the computation overflows, when the timeout has 32 bits. -/
theorem loc_timer_start_exact {now : Timespec} {msec : UInt64} (hnow : now.Normal)
    (hboot : 0 ≤ now.tv_sec) (hmsec : msec.toNat < 4294967296)
    (hfits : now.toNs + msec.toNat * 1000000 < 2147483648000000000) :
    loc_timer_start .exact now msec = some (ofNs (now.toNs + msec.toNat * 1000000)) := by
  have hconversion : Arithmetic.exact.conversion unsignedInt msec.toNat = some (msec.toNat : Int) :=
    Arithmetic.exact.conversion_eq ((unsignedInt_has_iff _).mpr (by omega))
  have hsecond := (long_has_iff _).mp hnow.tv_sec
  have hnsec := hnow.nonneg
  rw [loc_timer_start, hconversion, Option.bind_eq_bind, Option.bind_some]
  apply start_eq hnow
  · omega
  · omega
  · rw [toNs] at hfits
    exact Arithmetic.addAssign_eq ((unsignedLong_has_iff _).mpr (by omega))
      ((unsignedLong_has_iff _).mpr (by omega)) ((long_has_iff _).mpr (by omega))

/-- The rank is defined, and tells which time is the earlier one. -/
def RanksByTime (mFutureTime timer : Timespec) : Prop :=
  ∃ rank, ranks .language mFutureTime timer = some rank ∧
    (0 < rank ↔ mFutureTime.toNs < timer.toNs) ∧ (rank = 0 ↔ mFutureTime.toNs = timer.toNs) ∧
      (rank < 0 ↔ timer.toNs < mFutureTime.toNs)

/-- Two times after the boot are less than a `long` apart. -/
theorem ranksByTime {mFutureTime timer : Timespec} (hmFutureTime : mFutureTime.Normal)
    (htimer : timer.Normal) (hboot : 0 ≤ mFutureTime.tv_sec) (htimerBoot : 0 ≤ timer.tv_sec) :
    RanksByTime mFutureTime timer := by
  obtain ⟨hsec, hnonneg, hlt⟩ := hmFutureTime
  obtain ⟨htimerSec, htimerNonneg, htimerLt⟩ := htimer
  rw [long_has_iff] at hsec htimerSec
  have hseconds : long.Has (timer.tv_sec - mFutureTime.tv_sec) :=
    (long_has_iff _).mpr (by omega)
  have hnanoseconds : long.Has (timer.tv_nsec - mFutureTime.tv_nsec) :=
    (long_has_iff _).mpr (by omega)
  unfold RanksByTime toNs
  simp only [ranks, difference_kept hseconds, difference_kept hnanoseconds, Option.bind_eq_bind,
    Option.bind_some]
  split
  next hsame =>
    refine ⟨_, rfl, ?_, ?_, ?_⟩ <;> omega
  next hdifferent =>
    refine ⟨_, rfl, ?_, ?_, ?_⟩ <;> omega

end Timespec

namespace TimeSpec

/-- The clock reading as the machine holds it. -/
def machine (time : TimeSpec) : Timespec where
  tv_sec := time.tv_sec
  tv_nsec := time.tv_nsec

theorem toNs_machine (time : TimeSpec) : time.machine.toNs = time.toNs := by
  rw [Timespec.toNs, toNs, machine]
  push_cast
  rfl

theorem ofNs_toNs (time : TimeSpec) : Timespec.ofNs time.toNs = time.machine := by
  have hnormal := time.normal
  rw [Timespec.ofNs, machine, toNs]
  congr 1
  · omega
  · omega

theorem machine_normal {time : TimeSpec} (hfits : time.tv_sec < 2147483648) :
    time.machine.Normal := by
  have hnormal := time.normal
  have hsecond : time.machine.tv_sec = time.tv_sec := rfl
  have hnsec : time.machine.tv_nsec = time.tv_nsec := rfl
  refine ⟨?_, ?_, ?_⟩
  · rw [hsecond, long_has_iff]
    omega
  · omega
  · omega

/-- The machine computes `futureTime` where that can be represented. -/
theorem start_machine (now : TimeSpec) (timeOutInMs : Nat)
    (hfits : (now.futureTime timeOutInMs).tv_sec < 2147483648) :
    Timespec.start .language now.machine timeOutInMs =
      some (now.futureTime timeOutInMs).machine := by
  have hdue : ((now.futureTime timeOutInMs).toNs : Int) =
      now.machine.toNs + timeOutInMs * 1000000 := by
    rw [toNs_futureTime, toNs_machine]
    push_cast
    rfl
  have hnormal := (now.futureTime timeOutInMs).normal
  have hsum := now.toNs_futureTime timeOutInMs
  have hsecond : now.machine.tv_sec = now.tv_sec := rfl
  rw [toNs, toNs] at hsum
  rw [← ofNs_toNs (now.futureTime timeOutInMs), hdue]
  apply Timespec.start_eq
  · exact machine_normal (by omega)
  · omega
  · rw [← hdue, toNs]
    omega
  · rw [hsecond]
    exact Arithmetic.addAssign_language rfl rfl ((long_has_iff _).mpr (by omega))

/-- The machine ranks by `ranks` where both times can be represented. -/
theorem ranks_machine {self rankable : TimeSpec} (hself : self.tv_sec < 2147483648)
    (hrankable : rankable.tv_sec < 2147483648) :
    Timespec.ranks .language self.machine rankable.machine = some (self.ranks rankable) := by
  have hselfNormal := self.normal
  have hrankableNormal := rankable.normal
  have hseconds : long.Has (rankable.tv_sec - self.tv_sec) := (long_has_iff _).mpr (by omega)
  have hnanoseconds : long.Has (rankable.tv_nsec - self.tv_nsec) := (long_has_iff _).mpr (by omega)
  simp only [Timespec.ranks, machine, ranks, difference_kept hseconds,
    difference_kept hnanoseconds, Option.bind_eq_bind, Option.bind_some, eq_comm (a := (0 : Int))]
  split
  next hsame => rfl
  next hdifferent => rfl

end TimeSpec

/-- A call of `loc_timer_start` with a callback, and what the clock shows then. The
time that is asked for can be represented. -/
structure StartRequest where
  now : Timespec
  msec : UInt64
  normal : now.Normal
  representable : now.toNs + msec.toNat * 1000000 < 2147483648000000000

namespace StartRequest

/-- The time in nanoseconds at which the timer is to be due. -/
def due (request : StartRequest) : Int := request.now.toNs + request.msec.toNat * 1000000

/-- `mFutureTime` of the new delegate, unless the computation overflows. -/
def mFutureTime (request : StartRequest) : Option Timespec :=
  Timespec.loc_timer_start .language request.now request.msec

/-- The clock counts from the boot. -/
def SinceBoot (request : StartRequest) : Prop := 0 ≤ request.now.tv_sec

/-- The deadline is the current time plus the timeout. Within one boot no value of
its computation exceeds its type, and it ranks by time among the other deadlines. -/
def Kept (request : StartRequest) : Prop :=
  ∃ deadline, request.mFutureTime = some deadline ∧ deadline.Normal ∧ deadline.toNs = request.due ∧
    (request.SinceBoot →
      Timespec.loc_timer_start .exact request.now request.msec = some deadline ∧
        ∀ other : StartRequest, other.SinceBoot → ∀ timer ∈ other.mFutureTime,
          deadline.RanksByTime timer ∧ timer.RanksByTime deadline)

/-- The deadline that is stored, in nanoseconds. -/
def stored (request : StartRequest) : Int :=
  request.now.toNs + (request.msec.toNat % 4294967296 : Nat) * 1000000

theorem mFutureTime_eq (request : StartRequest) :
    request.mFutureTime = some (.ofNs request.stored) :=
  Timespec.loc_timer_start_eq request.normal request.representable

theorem stored_normal (request : StartRequest) : (Timespec.ofNs request.stored).Normal := by
  have hsecond := (long_has_iff _).mp request.normal.tv_sec
  have hnsec := request.normal.nonneg
  have hfits := request.representable
  rw [Timespec.toNs] at hfits
  apply Timespec.normal_ofNs
  · rw [stored, Timespec.toNs]
    omega
  · rw [stored, Timespec.toNs]
    omega

theorem stored_sinceBoot {request : StartRequest} (hboot : request.SinceBoot) :
    0 ≤ (Timespec.ofNs request.stored).tv_sec := by
  have hnsec := request.normal.nonneg
  have hsecond : (Timespec.ofNs request.stored).tv_sec = request.stored / 1000000000 := rfl
  rw [SinceBoot] at hboot
  rw [hsecond, stored, Timespec.toNs]
  omega

theorem stored_eq_due_iff (request : StartRequest) :
    request.stored = request.due ↔ request.msec.toNat < 4294967296 := by
  rw [stored, due]
  omega

/-- The deadline is right exactly when the timeout fits the parameter. -/
theorem kept_iff (request : StartRequest) : request.Kept ↔ request.msec.toNat < 2 ^ 32 := by
  change request.Kept ↔ request.msec.toNat < 4294967296
  constructor
  · rintro ⟨deadline, hdeadline, -, hdue, -⟩
    rw [mFutureTime_eq, Option.some.injEq] at hdeadline
    subst hdeadline
    rwa [Timespec.toNs_ofNs, stored_eq_due_iff] at hdue
  · intro hmsec
    have hdue := request.stored_eq_due_iff.mpr hmsec
    refine ⟨.ofNs request.stored, request.mFutureTime_eq, request.stored_normal, ?_, ?_⟩
    · rw [Timespec.toNs_ofNs, hdue]
    · intro hboot
      refine ⟨?_, ?_⟩
      · rw [hdue]
        exact Timespec.loc_timer_start_exact request.normal hboot hmsec request.representable
      · intro other hother timer htimer
        rw [mFutureTime_eq, Option.mem_def, Option.some.injEq] at htimer
        subst htimer
        exact ⟨Timespec.ranksByTime request.stored_normal other.stored_normal
            (stored_sinceBoot hboot) (stored_sinceBoot hother),
          Timespec.ranksByTime other.stored_normal request.stored_normal
            (stored_sinceBoot hother) (stored_sinceBoot hboot)⟩

/-- A second after the boot, a timer of 49 days and a little more. -/
def sevenWeeks : StartRequest where
  now := { tv_sec := 1, tv_nsec := 0 }
  msec := 4294967296
  normal := ⟨by decide, by decide, by decide⟩
  representable := by decide

/-- The timer is due at once. -/
theorem sevenWeeks_dueAtOnce : ¬ ∀ request : StartRequest, request.Kept := by
  intro hkept
  obtain ⟨deadline, hdeadline, -, hdue, -⟩ := hkept sevenWeeks
  have hstored : sevenWeeks.mFutureTime = some { tv_sec := 1, tv_nsec := 0 } := by decide
  rw [hstored, Option.some.injEq] at hdeadline
  subst hdeadline
  exact absurd hdue (by decide)

end StartRequest

end Serrano.Timer
