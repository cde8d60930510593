import TimeOrderedGuid.Bytes.Basic
import TimeOrderedGuid.Time.Instant

/-! Ticks: tenths of a microsecond counted from the first midnight of the year 1, as 64-bit signed
counts. The module holds their conversion from and to instants, the window of counts that an
identifier may carry, and the eight bytes that a count takes up in memory. -/

namespace TimeOrderedGuid

structure Ticks where
  count : Int64
deriving DecidableEq

namespace Ticks

def perSecond : Int := 10000000

def nanosPerTick : Nat := 100

def toInt (ticks : Ticks) : Int := ticks.count.toInt

/-- The count nearest to an unbounded integer: what lies outside the 64-bit range goes to the end.
-/
def saturate (count : Int) : Ticks := ⟨Int64.ofIntClamp count⟩

def ofInt? (count : Int) : Option Ticks :=
  if (saturate count).toInt = count then some (saturate count) else none

/-- The 64 bits of the count in two's complement, as a number. -/
def bits (ticks : Ticks) : Nat := ticks.count.toUInt64.toNat

/-- The count whose two's complement has the low 64 bits of a number. -/
def ofBits (bits : Nat) : Ticks := ⟨(UInt64.ofNat bits).toInt64⟩

def unixEpoch : Ticks := saturate 621355968000000000

instance : LE Ticks := ⟨fun earlier later => earlier.toInt ≤ later.toInt⟩

instance : LT Ticks := ⟨fun earlier later => earlier.toInt < later.toInt⟩

instance (earlier later : Ticks) : Decidable (earlier ≤ later) :=
  inferInstanceAs (Decidable (earlier.toInt ≤ later.toInt))

instance (earlier later : Ticks) : Decidable (earlier < later) :=
  inferInstanceAs (Decidable (earlier.toInt < later.toInt))

/-- An identifier may carry the counts from 1970 up to the present, both included. -/
def InWindow (ticks now : Ticks) : Prop := unixEpoch ≤ ticks ∧ ticks ≤ now

instance (ticks now : Ticks) : Decidable (ticks.InWindow now) :=
  inferInstanceAs (Decidable (_ ∧ _))

/-! ### Instants -/

/-- The whole ticks within the second of an instant; a leap second stays on the last one. -/
def withinSecond (instant : Instant) : Int :=
  min (instant.nanos / nanosPerTick : Nat) (perSecond - 1)

/-- The count at an instant, rounded down. Scaling the seconds, adding the rest of the second and
moving the origin each stop at the ends of the 64-bit range. -/
def ofInstant (instant : Instant) : Ticks :=
  let seconds := saturate (instant.seconds * perSecond)
  let sinceUnixEpoch := saturate (seconds.toInt + withinSecond instant)
  saturate (sinceUnixEpoch.toInt + unixEpoch.toInt)

/-- The instant of a count, unless the distance from 1970 leaves the 64-bit range. -/
def toInstant? (ticks : Ticks) : Option Instant := do
  let sinceUnixEpoch ← ofInt? (ticks.toInt - unixEpoch.toInt)
  let withinSecond := sinceUnixEpoch.toInt % perSecond
  Instant.ofUnix? (sinceUnixEpoch.toInt / perSecond) (withinSecond.toNat * nanosPerTick)

/-! ### Bytes in memory -/

/-- The eight bytes of a count in memory: the high half as a field of four bytes, then each quarter
of the low half as a field of two bytes. Every field has its least significant byte first. -/
def encode (ticks : Ticks) : Bytes 8 :=
  let lowHalf : Bytes 4 :=
    Bytes.join (Bytes.ofNatReversed 2 (ticks.bits >>> 16)) (Bytes.ofNatReversed 2 ticks.bits)
  Bytes.join (Bytes.ofNatReversed 4 (ticks.bits >>> 32)) lowHalf

def decode (memory : Bytes 8) : Ticks :=
  ofBits (Bytes.toNatReversed (memory.slice 0 4) * 0x100000000 +
    Bytes.toNatReversed (memory.slice 4 2) * 0x10000 + Bytes.toNatReversed (memory.slice 6 2))

/-! ### Laws -/

@[ext]
theorem ext {first second : Ticks} (same : first.toInt = second.toInt) : first = second := by
  cases first
  cases second
  exact congrArg Ticks.mk (Int64.toInt_inj.mp same)

theorem le_iff_toInt_le {earlier later : Ticks} :
    earlier ≤ later ↔ earlier.toInt ≤ later.toInt := Iff.rfl

theorem lt_iff_toInt_lt {earlier later : Ticks} :
    earlier < later ↔ earlier.toInt < later.toInt := Iff.rfl

theorem toInt_bounds (ticks : Ticks) :
    -0x8000000000000000 ≤ ticks.toInt ∧ ticks.toInt < 0x8000000000000000 :=
  ⟨Int64.le_toInt ticks.count, Int64.toInt_lt ticks.count⟩

theorem toInt_saturate (count : Int) :
    (saturate count).toInt = max (-0x8000000000000000) (min count 0x7fffffffffffffff) := by
  unfold saturate toInt Int64.ofIntClamp
  split
  · rename_i above
    split
    · rename_i below
      rw [Int64.toInt_ofIntLE]
      simp only [Int64.toInt_minValue, Int64.toInt_maxValue] at above below
      omega
    · rename_i below
      simp only [Int64.toInt_minValue, Int64.toInt_maxValue] at above below ⊢
      omega
  · rename_i above
    simp only [Int64.toInt_minValue] at above ⊢
    omega

theorem toInt_unixEpoch : unixEpoch.toInt = 621355968000000000 := by decide

theorem ofInt?_eq_some_iff {count : Int} {ticks : Ticks} :
    ofInt? count = some ticks ↔ ticks.toInt = count := by
  unfold ofInt?
  constructor
  · split
    · rename_i held
      intro same
      cases same
      exact held
    · intro same
      cases same
  · intro same
    have bounds := ticks.toInt_bounds
    have held : (saturate count).toInt = count := by
      rw [toInt_saturate]
      omega
    rw [if_pos held]
    exact congrArg some (Ticks.ext (held.trans same.symm))

theorem ofInt?_eq_none_iff {count : Int} :
    ofInt? count = none ↔ count < -0x8000000000000000 ∨ 0x8000000000000000 ≤ count := by
  unfold ofInt?
  rw [toInt_saturate]
  split <;> simp <;> omega

end Ticks

end TimeOrderedGuid
