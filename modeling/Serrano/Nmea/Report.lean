import Serrano.LocEng.Engine
import Serrano.Nmea.Sentence

/-! # Positions and satellites in view

The reports that sentences are made from, what the platform is relied on for, and the part of
`loc_eng_data_s_type` that sentences depend on.

A field of a floating-point type is the rational number it stands for: `FiniteFloat` and
`FiniteDouble` are any rational in the range of the type, and what is computed with them is exact.
The coordinates have the sign of their zero besides, since a latitude of zero is multiplied by
`-1.0`. The other fields have one zero, the positive one.
-/

namespace Serrano.Nmea

open DecimalText

/-- A finite value of the type `float`. -/
structure FiniteFloat where
  value : ℚ
  finite : |value| < 2 ^ 128

/-- A finite value of the type `double`. -/
structure FiniteDouble where
  value : ℚ
  finite : |value| < 2 ^ 1024

/-- A `double` with its sign bit, which a zero has too. -/
structure SignedDouble extends FiniteDouble where
  negative : Bool
  negative_eq : value ≠ 0 → negative = decide (value < 0)

def FiniteFloat.zero : FiniteFloat := ⟨0, by norm_num⟩

def FiniteFloat.ofNat (n : ℕ) (h : n < 2 ^ 128) : FiniteFloat :=
  ⟨n, by rw [Nat.abs_cast]; exact_mod_cast h⟩

def FiniteDouble.ofNat (n : ℕ) (h : n < 2 ^ 128) : FiniteDouble where
  value := n
  finite := by
    rw [Nat.abs_cast]
    calc (n : ℚ) < 2 ^ 128 := by exact_mod_cast h
      _ ≤ 2 ^ 1024 := pow_le_pow_right₀ (by norm_num) (by norm_num)

def SignedDouble.ofNat (n : ℕ) (h : n < 2 ^ 128) : SignedDouble where
  toFiniteDouble := .ofNat n h
  negative := false
  negative_eq := fun _ => (decide_eq_false (not_lt.mpr (Nat.cast_nonneg n))).symm

/-- The product with `-1.0`. -/
def SignedDouble.negated (x : SignedDouble) : SignedDouble where
  value := x.value * -1
  finite := by rw [mul_neg_one, abs_neg]; exact x.finite
  negative := !x.negative
  negative_eq := by
    intro hne
    have hne' : x.value ≠ 0 := fun h => hne (by rw [h, zero_mul])
    rw [x.negative_eq hne', mul_neg_one, ← decide_not]
    refine decide_eq_decide.mpr ?_
    rw [neg_lt_zero, not_lt]
    exact ⟨fun h => h.lt_of_ne' hne', le_of_lt⟩

@[simp] theorem SignedDouble.value_negated (x : SignedDouble) : x.negated.value = -x.value :=
  mul_neg_one x.value

@[simp] theorem SignedDouble.negative_negated (x : SignedDouble) :
    x.negated.negative = !x.negative := rfl

instance : Inhabited FiniteFloat := ⟨.zero⟩
instance : Inhabited FiniteDouble := ⟨⟨0, by norm_num⟩⟩
instance : Inhabited SignedDouble := ⟨.ofNat 0 (by decide)⟩

/-- Broken-down time, in the ranges that the C library gives. -/
structure Tm where
  tmSec : ℕ
  tmMin : ℕ
  tmHour : ℕ
  tmMday : ℕ
  tmMon : ℕ
  tmYear : Int32
  sec_le : tmSec ≤ 60
  min_le : tmMin ≤ 59
  hour_le : tmHour ≤ 23
  mday_le : tmMday ≤ 31
  mon_le : tmMon ≤ 11

instance : Inhabited Tm where
  default :=
    { tmSec := 0, tmMin := 0, tmHour := 0, tmMday := 1, tmMon := 0, tmYear := 70
      sec_le := by decide, min_le := by decide, hour_le := by decide
      mday_le := by decide, mon_le := by decide }

/-- What the sentences rely on outside this code. Of the number of satellites a report has room
for only its number of digits matters. -/
structure Platform where
  gmtime : Int64 → Option Tm
  -- C leaves open what an out-of-range number is converted to
  intOverflow : ℤ → Int32
  uint8Overflow : ℤ → UInt8
  gpsMaxSvs : ℕ
  gpsMaxSvs_lt : gpsMaxSvs < 10 ^ 6

instance : Inhabited Platform where
  default :=
    { gmtime := fun _ => some default
      intOverflow := fun _ => 0
      uint8Overflow := fun _ => 0
      gpsMaxSvs := 32
      gpsMaxSvs_lt := by decide }

namespace Platform

variable (p : Platform)

/-- A conversion to `int`. -/
def toInt (q : ℚ) : ℤ :=
  if -2 ^ 31 ≤ truncate q ∧ truncate q < 2 ^ 31 then truncate q
  else (p.intOverflow (truncate q)).toInt

/-- A conversion to `uint8_t`. -/
def toUInt8 (q : ℚ) : ℕ :=
  if 0 ≤ truncate q ∧ truncate q < 2 ^ 8 then (truncate q).toNat
  else (p.uint8Overflow (truncate q)).toNat

theorem natAbs_toInt_lt (q : ℚ) : (p.toInt q).natAbs < 10 ^ 10 := by
  rw [toInt]
  split
  next h => omega
  next =>
    have hlo := Int32.le_toInt (p.intOverflow (truncate q))
    have hhi := Int32.toInt_lt (p.intOverflow (truncate q))
    omega

theorem toUInt8_lt (q : ℚ) : p.toUInt8 q < 256 := by
  rw [toUInt8]
  split
  next h => omega
  next => exact UInt8.toNat_lt _

theorem toInt_of_nonneg {q : ℚ} (h : 0 ≤ q) (hlt : q < 2 ^ 31) : p.toInt q = ⌊q⌋ := by
  have htruncate := truncate_of_nonneg h
  have hfloor : 0 ≤ ⌊q⌋ := Int.floor_nonneg.mpr h
  have habove : ⌊q⌋ < 2 ^ 31 := Int.floor_lt.mpr (by exact_mod_cast hlt)
  rw [toInt, htruncate, if_pos ⟨by omega, habove⟩]

theorem toUInt8_of_nonneg {q : ℚ} (h : 0 ≤ q) (hlt : q < 2 ^ 8) : p.toUInt8 q = ⌊q⌋.toNat := by
  have htruncate := truncate_of_nonneg h
  have habove : ⌊q⌋ < 2 ^ 8 := Int.floor_lt.mpr (by exact_mod_cast hlt)
  rw [toUInt8, htruncate, if_pos ⟨Int.floor_nonneg.mpr h, habove⟩]

end Platform

structure GpsSvInfo where
  prn : ℤ
  snr : FiniteFloat
  elevation : FiniteFloat
  azimuth : FiniteFloat
  deriving Inhabited

/-- A report of satellites, of which the first `numSvs` of the array count. -/
structure HaxxSvStatus (p : Platform) where
  numSvs : ℤ
  svList : Vector GpsSvInfo p.gpsMaxSvs
  gpsUsedInFixMask : UInt32
  gloUsedInFixMask : UInt32
  numSvs_le : numSvs ≤ p.gpsMaxSvs

abbrev GpsLocationFlags := UInt16

def gpsLocationHasLatLong : GpsLocationFlags := 0x0001
def gpsLocationHasAltitude : GpsLocationFlags := 0x0002
def gpsLocationHasSpeed : GpsLocationFlags := 0x0004
def gpsLocationHasBearing : GpsLocationFlags := 0x0008

abbrev GpsLocationExtendedFlags := UInt16

def gpsLocationExtendedHasDop : GpsLocationExtendedFlags := 0x0001
def gpsLocationExtendedHasAltitudeMeanSeaLevel : GpsLocationExtendedFlags := 0x0002
def gpsLocationExtendedHasMagDev : GpsLocationExtendedFlags := 0x0004

/-- A flag is set. -/
def Has (flags flag : UInt16) : Prop := flags &&& flag ≠ 0

instance (flags flag : UInt16) : Decidable (Has flags flag) := by unfold Has; infer_instance

structure GpsLocation where
  flags : GpsLocationFlags
  latitude : SignedDouble
  longitude : SignedDouble
  altitude : FiniteDouble
  speed : FiniteFloat
  bearing : FiniteFloat
  timestamp : Int64
  deriving Inhabited

structure GpsLocationExtended where
  flags : GpsLocationExtendedFlags
  altitudeMeanSeaLevel : FiniteFloat
  pdop : FiniteFloat
  hdop : FiniteFloat
  vdop : FiniteFloat
  magneticDeviation : FiniteFloat
  deriving Inhabited

/-- What sentences take from the engine and what they leave for later ones. -/
structure LocEngData where
  nmeaCb : Bool
  mode : LocEng.LocPositionMode
  gpsUsedMask : UInt32
  gloUsedMask : UInt32
  pdop : FiniteFloat
  hdop : FiniteFloat
  vdop : FiniteFloat

/-- The engine behind a call, with what has been sent. -/
structure Run where
  engine : LocEngData
  sent : List Sent

/-- All calls of a run, in their order. -/
def Run.calls (run : Run) : List Call := run.sent.flatMap (send run.engine.nmeaCb)

theorem Run.mem_calls_iff {run : Run} {sent : Sent} :
    (∃ call ∈ run.calls, call.sent = sent) ↔ sent ∈ run.sent := by
  constructor
  · rintro ⟨call, hcall, rfl⟩
    obtain ⟨sent, hsent, hmem⟩ := List.mem_flatMap.mp hcall
    rw [send] at hmem
    split at hmem
    next =>
      obtain rfl | hmem := List.mem_cons.mp hmem
      · exact hsent
      · rwa [List.mem_singleton.mp hmem]
    next => rwa [List.mem_singleton.mp hmem]
  · intro hsent
    refine ⟨.reportNmea sent, List.mem_flatMap.mpr ⟨sent, hsent, ?_⟩, rfl⟩
    rw [send]
    split
    next => exact List.mem_cons_of_mem _ List.mem_cons_self
    next => exact List.mem_cons_self

end Serrano.Nmea
