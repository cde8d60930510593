import TimeOrderedGuid.Time.Ticks
import TimeOrderedGuid.Time.Zone

/-! Timestamps as callers hand them over, with what is known about their zone, and their admission
to identifiers. A timestamp is refused when its instant is unknown or its ticks lie outside the
window from 1970 to the present. -/

namespace TimeOrderedGuid

/-- A point in time together with what is known about its zone. -/
inductive Timestamp where
  | utc (instant : Instant)
  /-- A wall-clock time at a known offset. -/
  | zoned (time : ZonedTime)
  /-- A wall-clock time in an unknown zone. -/
  | unspecified (wall : WallTime)

inductive InvalidTimestamp where
  /-- The zone is unknown, and so is the instant. -/
  | unspecified
  /-- The ticks lie outside the window. -/
  | outOfRange (ticks : Ticks)
deriving DecidableEq

namespace InvalidTimestamp

def message : InvalidTimestamp → String
  | .unspecified => "time zone is unspecified"
  | .outOfRange ticks =>
    toString ticks.toInt ++ " ticks is not between January 1st, 1970 UTC and now"

def inspect : InvalidTimestamp → String
  | .unspecified => "Unspecified"
  | .outOfRange ticks => "OutOfRange \x7b ticks: " ++ toString ticks.toInt ++ " \x7d"

end InvalidTimestamp

namespace Timestamp

/-- Timestamps of different kinds are never the same; zoned ones are compared by instant. -/
instance : BEq Timestamp where
  beq
    | .utc first, .utc second => first == second
    | .zoned first, .zoned second => first == second
    | .unspecified first, .unspecified second => first == second
    | _, _ => false

def ofSystemClock? (distance : Int) : Option Timestamp :=
  (Instant.ofNanoseconds? distance).map utc

def toInstant : Timestamp → Except InvalidTimestamp Instant
  | .utc instant => .ok instant
  | .zoned time => .ok time.instant
  | .unspecified _ => .error .unspecified

/-- The ticks to embed for a timestamp, if they lie in the window that ends at `now`. -/
def embeddableTicks (timestamp : Timestamp) (now : Ticks) : Except InvalidTimestamp Ticks := do
  let instant ← timestamp.toInstant
  let ticks := Ticks.ofInstant instant
  if ticks.InWindow now then
    return ticks
  else
    throw (.outOfRange ticks)

end Timestamp

end TimeOrderedGuid
