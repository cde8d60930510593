import Mathlib.Data.Prod.Lex
import TimeOrderedGuid.Time.Ticks

namespace TimeOrderedGuid

theorem Ticks.toInt_injective : Function.Injective Ticks.toInt := fun _ _ => Ticks.ext

instance : LinearOrder Ticks := LinearOrder.lift' Ticks.toInt Ticks.toInt_injective

namespace Instant

/-- Instants are ordered by second and then by nanosecond, so that a leap second comes before the
second after it. -/
def key (instant : Instant) : ℤ ×ₗ ℕ := toLex (instant.seconds, instant.nanos)

theorem key_injective : Function.Injective key := by
  intro first second same
  injection toLex.injective same with seconds nanos
  exact Instant.ext seconds nanos

instance : LinearOrder Instant := LinearOrder.lift' key key_injective

theorem le_iff {earlier later : Instant} :
    earlier ≤ later ↔
      earlier.seconds < later.seconds ∨
        earlier.seconds = later.seconds ∧ earlier.nanos ≤ later.nanos :=
  Prod.Lex.toLex_le_toLex

end Instant

end TimeOrderedGuid
