import TimeOrderedGuid.Proofs.Chronology
import TimeOrderedGuid.Proofs.Misreading

namespace TimeOrderedGuid

namespace Guid

variable {first second : Guid} {now : Ticks}

theorem bits_nativeReading (guid : Guid) : guid.nativeReading.bits = guid.toNat / 2 ^ 64 := by
  rw [nativeReading_eq_spelledBy, Ticks.bits_spelledBy,
    Bytes.toNat_slice_head guid.bytes (rfl : 8 + 8 = 16)]
  rfl

theorem lt_of_nativeReading_lt (nonnegative : 0 ≤ first.nativeReading.toInt)
    (earlier : first.nativeReading < second.nativeReading) : first < second := by
  have laterNonnegative : 0 ≤ second.nativeReading.toInt :=
    Int.le_trans nonnegative (Int.le_of_lt earlier)
  have leading := (Ticks.bits_lt_iff nonnegative laterNonnegative).mpr earlier
  rw [bits_nativeReading, bits_nativeReading] at leading
  rw [lt_iff_toNat_lt]
  omega

theorem nativeReading_le_of_le (nonnegative : 0 ≤ second.nativeReading.toInt)
    (sorted : first ≤ second) : first.nativeReading ≤ second.nativeReading := by
  by_contra notSorted
  have reversed := lt_of_nativeReading_lt nonnegative (not_le.mp notSorted)
  rw [lt_iff_toNat_lt] at reversed
  rw [le_iff_toNat_le] at sorted
  omega

theorem ticksAt_sorted (firstInWindow : first.nativeReading.InWindow now)
    (secondInWindow : second.nativeReading.InWindow now) :
    ∃ firstTicks secondTicks,
      first.ticksAt now = some firstTicks ∧ second.ticksAt now = some secondTicks ∧
        (first ≤ second → firstTicks ≤ secondTicks) ∧
        (firstTicks < secondTicks → first < second) := by
  have epoch : 0 ≤ Ticks.unixEpoch.toInt := by decide
  refine ⟨first.nativeReading, second.nativeReading, ticksAt_of_nativeReading firstInWindow,
    ticksAt_of_nativeReading secondInWindow, ?_, ?_⟩
  · exact nativeReading_le_of_le (Int.le_trans epoch secondInWindow.1)
  · exact lt_of_nativeReading_lt (Int.le_trans epoch firstInWindow.1)

end Guid

/-- Of two identifiers that are read natively at some time, the lesser one in native order does not
carry later ticks, and earlier ticks are carried by the lesser one. For two identifiers that are
read in SQL Server order the same holds as SQL Server compares them. -/
theorem sorted_identifiers_carry_sorted_ticks (now : Ticks) :
    (∀ first second : Guid,
      first.nativeReading.InWindow now → second.nativeReading.InWindow now →
        ∃ firstTicks secondTicks,
          first.ticksAt now = some firstTicks ∧ second.ticksAt now = some secondTicks ∧
            (first ≤ second → firstTicks ≤ secondTicks) ∧
            (firstTicks < secondTicks → first < second)) ∧
    ∀ first second : SqlGuid,
      first.guid.sqlServerReading.InWindow now → second.guid.sqlServerReading.InWindow now →
        ∃ firstTicks secondTicks,
          first.toGuid.ticksAt now = some firstTicks ∧
            second.toGuid.ticksAt now = some secondTicks ∧
            (first ≤ second → firstTicks ≤ secondTicks) ∧
            (firstTicks < secondTicks → first < second) := by
  refine ⟨?_, ?_⟩
  · intro first second firstInWindow secondInWindow
    exact Guid.ticksAt_sorted firstInWindow secondInWindow
  · intro first second firstInWindow secondInWindow
    rw [← SqlGuid.nativeReading_toGuid] at firstInWindow secondInWindow
    rw [SqlGuid.le_iff_toGuid_le, SqlGuid.lt_iff_toGuid_lt]
    exact Guid.ticksAt_sorted firstInWindow secondInWindow

/-- Two ticks in a row of 1997. The other half of the earlier identifier has the greatest bytes,
that of the later one the least. -/
theorem sorted_identifiers_of_neighbouring_ticks :
    let now : Ticks := ⟨638712864000000000⟩
    let first : Guid :=
      ⟨#v[8, 190, 53, 169, 129, 59, 97, 78, 255, 255, 255, 255, 255, 255, 255, 255]⟩
    let second : Guid := ⟨#v[8, 190, 53, 169, 129, 59, 97, 79, 0, 0, 0, 0, 0, 0, 0, 0]⟩
    let sqlFirst : SqlGuid :=
      ⟨⟨#v[255, 255, 255, 255, 255, 255, 255, 255, 97, 78, 8, 190, 53, 169, 129, 59]⟩⟩
    let sqlSecond : SqlGuid := ⟨⟨#v[0, 0, 0, 0, 0, 0, 0, 0, 97, 79, 8, 190, 53, 169, 129, 59]⟩⟩
    (first.nativeReading.InWindow now ∧ second.nativeReading.InWindow now ∧ first ≤ second ∧
      ∃ firstTicks secondTicks,
        first.ticksAt now = some firstTicks ∧ second.ticksAt now = some secondTicks ∧
          firstTicks ≤ secondTicks) ∧
    sqlFirst.guid.sqlServerReading.InWindow now ∧ sqlSecond.guid.sqlServerReading.InWindow now ∧
      sqlFirst.toGuid.ticksAt now = some ⟨630000000012345678⟩ ∧
      sqlSecond.toGuid.ticksAt now = some ⟨630000000012345679⟩ ∧ sqlFirst < sqlSecond := by
  intro now first second sqlFirst sqlSecond
  obtain ⟨native, sqlServer⟩ := sorted_identifiers_carry_sorted_ticks now
  have firstInWindow : first.nativeReading.InWindow now := by decide +kernel
  have secondInWindow : second.nativeReading.InWindow now := by decide +kernel
  have sqlFirstInWindow : sqlFirst.guid.sqlServerReading.InWindow now := by decide +kernel
  have sqlSecondInWindow : sqlSecond.guid.sqlServerReading.InWindow now := by decide +kernel
  refine ⟨⟨firstInWindow, secondInWindow, ?_⟩, sqlFirstInWindow, sqlSecondInWindow, ?_⟩
  · have sorted : first ≤ second := by
      rw [Guid.le_iff_toNat_le]
      decide +kernel
    obtain ⟨firstTicks, secondTicks, firstCarried, secondCarried, forward, -⟩ :=
      native first second firstInWindow secondInWindow
    exact ⟨sorted, firstTicks, secondTicks, firstCarried, secondCarried, forward sorted⟩
  · have firstCarried : sqlFirst.toGuid.ticksAt now = some ⟨630000000012345678⟩ := by decide +kernel
    have secondCarried : sqlSecond.toGuid.ticksAt now = some ⟨630000000012345679⟩ := by
      decide +kernel
    obtain ⟨firstTicks, secondTicks, firstRead, secondRead, -, backward⟩ :=
      sqlServer sqlFirst sqlSecond sqlFirstInWindow sqlSecondInWindow
    rw [firstCarried, Option.some_inj] at firstRead
    rw [secondCarried, Option.some_inj] at secondRead
    subst firstRead secondRead
    exact ⟨firstCarried, secondCarried, backward (by decide)⟩

end TimeOrderedGuid
