import Mathlib.Data.List.Chain
import TimeOrderedGuid.Proofs.History
import TimeOrderedGuid.Proofs.Timeline

namespace TimeOrderedGuid

namespace Ticks

theorem bits_lt_iff {earlier later : Ticks} (earlierNonnegative : 0 ≤ earlier.toInt)
    (laterNonnegative : 0 ≤ later.toInt) : earlier.bits < later.bits ↔ earlier < later := by
  have earlierBits := bits_of_nonnegative earlierNonnegative
  have laterBits := bits_of_nonnegative laterNonnegative
  rw [lt_iff_toInt_lt]
  omega

end Ticks

namespace Generator

variable (generator : Generator)

theorem precedes_next_iff {ticks next : Ticks} (nonnegative : 0 ≤ ticks.toInt)
    (notLess : ticks ≤ next) (issues : Nat) :
    generator.order.Precedes (generator.identifier ticks (generator.after issues).count)
        (generator.identifier next (generator.after (issues + 1)).count) ↔
      ¬ (ticks = next ∧ 2 ^ 24 ∣ generator.count.toNat + issues + 1) := by
  have nextNonnegative : 0 ≤ next.toInt := Int.le_trans nonnegative notLess
  rw [identifier_precedes_iff, toNat_count_after_mod, toNat_count_after_mod,
    Ticks.bits_lt_iff nonnegative nextNonnegative]
  by_cases same : ticks = next
  · subst same
    simp only [lt_irrefl, true_and, false_or]
    omega
  · have before : ticks < next := lt_of_le_of_ne notLess same
    simp [before, same]

/-- Identifiers for ticks that start at zero or later and do not fall ascend strictly, unless two
calls in a row ask for the same ticks and the serial number of the second wraps to zero. A first
count as this machine draws it rules that out for as many calls as there are such counts. -/
theorem issueAll_ascends_iff (times : List Ticks) (nonnegative : ∀ ticks ∈ times, 0 ≤ ticks.toInt)
    (nondecreasing : times.Pairwise (· ≤ ·)) :
    let guids := (generator.issueAll times).1
    (guids.Pairwise generator.order.Precedes ↔
      ¬ ∃ place, ∃ inside : place + 1 < times.length,
        times[place] = times[place + 1] ∧ 2 ^ 24 ∣ generator.count.toNat + (place + 1) + 1) ∧
    (generator.count.toNat < Environment.firstCountLimit → times.length ≤ 2 ^ 23 →
      guids.Pairwise generator.order.Precedes) := by
  intro guids
  have ascends : guids.Pairwise generator.order.Precedes ↔
      ¬ ∃ place, ∃ inside : place + 1 < times.length,
        times[place] = times[place + 1] ∧
          2 ^ 24 ∣ generator.count.toNat + (place + 1) + 1 := by
    have neighbours (place : Nat) (inside : place + 1 < times.length) :=
      precedes_next_iff generator (nonnegative times[place] (List.getElem_mem _))
        (List.pairwise_iff_getElem.mp nondecreasing place (place + 1) _ inside
          (Nat.lt_succ_self place)) (place + 1)
    -- Precedence is transitive, so that only neighbours have to be compared.
    rw [← List.isChain_iff_pairwise, List.isChain_iff_getElem]
    simp only [guids, issueAll_eq, List.length_mapIdx, List.getElem_mapIdx]
    constructor
    · rintro rising ⟨place, inside, wraps⟩
      exact (neighbours place inside).mp (rising place inside) wraps
    · intro neverWraps place inside
      exact (neighbours place inside).mpr fun wraps => neverWraps ⟨place, inside, wraps⟩
  refine ⟨ascends, ?_⟩
  intro drawn short
  rw [ascends]
  rintro ⟨place, inside, -, wraps⟩
  have limit : Environment.firstCountLimit = 2 ^ 23 := rfl
  omega

/-- Two calls for the same ticks: the greatest first count that may be drawn keeps them in order,
and one that lets the second call wrap does not. -/
theorem issueAll_ascends_unless_wrapped :
    let times : List Ticks := [Ticks.unixEpoch, Ticks.unixEpoch]
    let drawn : Generator :=
      { order := .native, discriminator := ⟨#v[1, 2, 3, 4, 5]⟩, count := 0x7fffff }
    let wrapping : Generator :=
      { order := .sqlServer, discriminator := ⟨#v[1, 2, 3, 4, 5]⟩, count := 0xfffffe }
    (∀ ticks ∈ times, 0 ≤ ticks.toInt) ∧ times.Pairwise (· ≤ ·) ∧
      drawn.count.toNat < Environment.firstCountLimit ∧
      (drawn.issueAll times).1.Pairwise drawn.order.Precedes ∧
      ¬ (wrapping.issueAll times).1.Pairwise wrapping.order.Precedes := by
  intro times drawn wrapping
  have nonnegative : ∀ ticks ∈ times, 0 ≤ ticks.toInt := by decide
  have nondecreasing : times.Pairwise (· ≤ ·) := by decide
  have possible : drawn.count.toNat < Environment.firstCountLimit := by decide
  refine ⟨nonnegative, nondecreasing, possible, ?_, ?_⟩
  · exact (issueAll_ascends_iff drawn times nonnegative nondecreasing).2 possible (by decide)
  · rw [(issueAll_ascends_iff wrapping times nonnegative nondecreasing).1]
    exact not_not_intro ⟨0, by decide, rfl, by decide⟩

end Generator

end TimeOrderedGuid
