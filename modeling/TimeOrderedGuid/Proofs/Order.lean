import TimeOrderedGuid.Bytes.Number
import TimeOrderedGuid.Guid.Sql

namespace TimeOrderedGuid

namespace Bytes

variable {length : Nat}

private theorem compare_spelled {first second : List UInt8} (start : Nat)
    (sameLength : first.length = second.length) :
    compare first second = compare (spelled start first) (spelled start second) := by
  induction first generalizing second start with
  | nil =>
    have empty := List.length_eq_zero_iff.mp sameLength.symm
    subst empty
    exact (Nat.compare_eq_eq.mpr rfl).symm
  | cons byte first ih =>
    cases second with
    | nil => cases sameLength
    | cons other second =>
      have tails : first.length = second.length := Nat.succ.inj sameLength
      rw [List.compare_cons_cons, spelled_cons, spelled_cons]
      rcases Nat.lt_trichotomy byte.toNat other.toNat with less | same | more
      · have heads : compare byte other = .lt :=
          Std.compare_eq_lt.mpr (UInt8.lt_iff_toNat_lt.mpr less)
        rw [heads]
        exact (Nat.compare_eq_lt.mpr (spelled_lt_of_start_lt tails (by omega))).symm
      · have bytes := UInt8.toNat_inj.mp same
        subst bytes
        rw [Std.ReflOrd.compare_self]
        exact ih (start * 256 + byte.toNat) tails
      · have heads : compare byte other = .gt :=
          Std.compare_eq_gt.mpr (UInt8.lt_iff_toNat_lt.mpr more)
        rw [heads]
        exact (Nat.compare_eq_gt.mpr (spelled_lt_of_start_lt tails.symm (by omega))).symm

/-- Strings of one length compare byte by byte as the numbers that they spell. -/
theorem compare_eq_compare_toNat (first second : Bytes length) :
    compare first second = compare (toNat first) (toNat second) := by
  rw [Vector.compare_eq_compare_toList]
  exact compare_spelled 0 (by simp)

end Bytes

namespace Guid

theorem compare_eq_compare_toNat (first second : Guid) :
    compare first second = compare first.toNat second.toNat :=
  Bytes.compare_eq_compare_toNat first.bytes second.bytes

theorem lt_iff_toNat_lt {first second : Guid} : first < second ↔ first.toNat < second.toNat := by
  change compare first second = .lt ↔ _
  rw [compare_eq_compare_toNat, Nat.compare_eq_lt]

theorem le_iff_toNat_le {first second : Guid} : first ≤ second ↔ first.toNat ≤ second.toNat := by
  change (compare first second).isLE ↔ _
  rw [compare_eq_compare_toNat, Nat.isLE_compare]

end Guid

namespace SqlGuid

theorem bytes_toGuid (sqlGuid : SqlGuid) : sqlGuid.toGuid.bytes = sqlGuid.sortKey :=
  ByteTable.gather_gather_eq (by decide) sqlGuid.guid.toMemory

theorem compare_eq_compare_toGuid (first second : SqlGuid) :
    compare first second = compare first.toGuid second.toGuid := by
  rw [SqlGuid.compare_eq, Guid.compare_eq, bytes_toGuid, bytes_toGuid]

theorem lt_iff_toGuid_lt {first second : SqlGuid} :
    first < second ↔ first.toGuid < second.toGuid := by
  change compare first second = .lt ↔ compare first.toGuid second.toGuid = .lt
  rw [compare_eq_compare_toGuid]

theorem le_iff_toGuid_le {first second : SqlGuid} :
    first ≤ second ↔ first.toGuid ≤ second.toGuid := by
  change (compare first second).isLE ↔ (compare first.toGuid second.toGuid).isLE
  rw [compare_eq_compare_toGuid]

end SqlGuid

/-- One identifier is less than another as an order compares them. -/
def SortOrder.Precedes : SortOrder → Guid → Guid → Prop
  | .native, first, second => first < second
  | .sqlServer, first, second => SqlGuid.mk first < SqlGuid.mk second

/-- Conversion in either direction keeps the place of an identifier among all others. -/
theorem conversions_preserve_compare :
    (∀ first second : Guid, compare first second = compare first.toSqlGuid second.toSqlGuid) ∧
      ∀ first second : SqlGuid, compare first second = compare first.toGuid second.toGuid := by
  refine ⟨?_, SqlGuid.compare_eq_compare_toGuid⟩
  intro first second
  rw [SqlGuid.compare_eq_compare_toGuid, Guid.toGuid_toSqlGuid, Guid.toGuid_toSqlGuid]

end TimeOrderedGuid
