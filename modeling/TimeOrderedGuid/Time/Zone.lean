import TimeOrderedGuid.Time.Instant

namespace TimeOrderedGuid

/-- What a wall clock shows, as the instant at which a clock in Coordinated Universal Time shows the
same. -/
structure WallTime where
  reading : Instant
deriving DecidableEq

/-- The distance of a zone from Coordinated Universal Time, in seconds to the east and less than a
day. -/
structure Offset where
  secondsEast : Int
  lessThanDay : -86400 < secondsEast ∧ secondsEast < 86400 := by decide
deriving DecidableEq

def Offset.zero : Offset := { secondsEast := 0 }

def Offset.ofSeconds? (secondsEast : Int) : Option Offset :=
  if lessThanDay : -86400 < secondsEast ∧ secondsEast < 86400 then
    some ⟨secondsEast, lessThanDay⟩
  else
    none

/-- A point in time as a clock at a known offset shows it. The clock may show a time beyond the
calendar, as long as the calendar holds the point in time. -/
structure ZonedTime where
  instant : Instant
  offset : Offset

namespace ZonedTime

def wallSeconds (zoned : ZonedTime) : Int := zoned.instant.seconds + zoned.offset.secondsEast

/-- A wall-clock time at an offset, if the calendar holds the instant it denotes. Nanoseconds are
not changed, so a leap second stays one. -/
def ofWall? (wall : WallTime) (offset : Offset) : Option ZonedTime := do
  let instant ← Instant.ofUnix? (wall.reading.seconds - offset.secondsEast) wall.reading.nanos
  return { instant, offset }

def ofInstant (instant : Instant) : ZonedTime := { instant, offset := .zero }

/-- Two zoned times count as the same when they denote the same instant, whatever their offsets. -/
instance : BEq ZonedTime := ⟨fun first second => first.instant == second.instant⟩

theorem beq_iff {first second : ZonedTime} :
    (first == second) = true ↔ first.instant = second.instant := by
  change (first.instant == second.instant) = true ↔ _
  exact beq_iff_eq

theorem ofWall?_eq_some_iff {wall : WallTime} {offset : Offset} {zoned : ZonedTime} :
    ofWall? wall offset = some zoned ↔
      zoned.wallSeconds = wall.reading.seconds ∧ zoned.instant.nanos = wall.reading.nanos ∧
        zoned.offset = offset := by
  unfold ofWall? wallSeconds
  rw [Option.bind_eq_bind, Option.bind_eq_some_iff]
  simp only [Instant.ofUnix?_eq_some_iff, Option.pure_def, Option.some_inj]
  constructor
  · rintro ⟨instant, ⟨seconds, nanos⟩, rfl⟩
    refine ⟨?_, nanos, rfl⟩
    rw [seconds, Int.sub_add_cancel]
  · rintro ⟨seconds, nanos, rfl⟩
    exact ⟨zoned.instant, ⟨by omega, nanos⟩, rfl⟩

end ZonedTime

end TimeOrderedGuid
