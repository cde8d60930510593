/-! Instants of Coordinated Universal Time as whole seconds and nanoseconds from 1970. Leap seconds
are kept: their nanoseconds run from one to two billion within the second that they lengthen.
Calendar dates and their texts are not treated. -/

namespace TimeOrderedGuid

/-- The first second that the calendar holds, counted from 1970. -/
def Instant.firstSecond : Int := -8334601228800

def Instant.lastSecond : Int := 8210266876799

def nanosPerSecond : Nat := 1000000000

/-- A point in time: whole seconds since 1970, rounded down, and the nanoseconds after them.
Nanoseconds beyond a whole second denote a leap second that belongs to second `seconds`. -/
structure Instant where
  seconds : Int
  nanos : Nat
  notBeforeFirst : Instant.firstSecond ≤ seconds := by decide
  notAfterLast : seconds ≤ Instant.lastSecond := by decide
  nanosInRange : nanos < 2 * nanosPerSecond := by decide
deriving DecidableEq

namespace Instant

def ofUnix? (seconds : Int) (nanos : Nat) : Option Instant :=
  if inRange : (firstSecond ≤ seconds ∧ seconds ≤ lastSecond) ∧ nanos < 2 * nanosPerSecond then
    some ⟨seconds, nanos, inRange.1.1, inRange.1.2, inRange.2⟩
  else
    none

/-- The instant at a signed distance in nanoseconds from 1970, with no leap second on the way. -/
def ofNanoseconds? (distance : Int) : Option Instant :=
  ofUnix? (distance / nanosPerSecond) (distance % nanosPerSecond).toNat

def IsLeap (instant : Instant) : Prop := nanosPerSecond ≤ instant.nanos

instance (instant : Instant) : Decidable instant.IsLeap := inferInstanceAs (Decidable (_ ≤ _))

@[ext]
theorem ext {first second : Instant} (sameSeconds : first.seconds = second.seconds)
    (sameNanos : first.nanos = second.nanos) : first = second := by
  cases first
  cases second
  cases sameSeconds
  cases sameNanos
  rfl

theorem ofUnix?_eq_some_iff {seconds : Int} {nanos : Nat} {instant : Instant} :
    ofUnix? seconds nanos = some instant ↔
      instant.seconds = seconds ∧ instant.nanos = nanos := by
  unfold ofUnix?
  split
  · constructor
    · intro same
      cases same
      exact ⟨rfl, rfl⟩
    · intro same
      exact congrArg some (Instant.ext same.1.symm same.2.symm)
  · rename_i outside
    simp only [reduceCtorEq, false_iff]
    intro same
    apply outside
    rw [← same.1, ← same.2]
    exact ⟨⟨instant.notBeforeFirst, instant.notAfterLast⟩, instant.nanosInRange⟩

end Instant

end TimeOrderedGuid
