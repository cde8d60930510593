import Mathlib.Tactic.IntervalCases
import TimeOrderedGuid.Issue.Request
import TimeOrderedGuid.Proofs.Order

namespace TimeOrderedGuid

/-- Reading order turns each field of the memory layout around and moves none of them. -/
theorem Bytes.gather_memoryLayout (first : Bytes 4) (second third : Bytes 2) (rest : Bytes 8) :
    Bytes.gather (Bytes.join (Bytes.join first (Bytes.join second third : Bytes 4) : Bytes 8) rest)
        ByteTable.memoryLayout =
      Bytes.join first.reverse
        (Bytes.join second.reverse (Bytes.join third.reverse rest : Bytes 10) : Bytes 12) := by
  apply Vector.ext
  intro place inside
  simp only [Bytes.getElem_gather, Fin.getElem_fin, Bytes.getElem_join, Vector.getElem_reverse]
  interval_cases place <;> rfl

theorem Guid.ofMemory_injective {first second : Bytes 16}
    (same : Guid.ofMemory first = Guid.ofMemory second) : first = second := by
  have memories := congrArg Guid.toMemory same
  rwa [Guid.toMemory_ofMemory, Guid.toMemory_ofMemory] at memories

namespace Ticks

theorem bits_lt (ticks : Ticks) : ticks.bits < 2 ^ 64 := ticks.count.toUInt64.toNat_lt

theorem bits_injective {first second : Ticks} (same : first.bits = second.bits) :
    first = second := by
  have counts : first.count.toUInt64 = second.count.toUInt64 := UInt64.toNat_inj.mp same
  cases first
  cases second
  exact congrArg (fun bits : UInt64 => Ticks.mk bits.toInt64) counts

theorem bits_of_nonnegative {ticks : Ticks} (nonnegative : 0 ≤ ticks.toInt) :
    (ticks.bits : Int) = ticks.toInt := by
  have notNegative : (0 : Int64) ≤ ticks.count := Int64.le_iff_toInt_le.mpr nonnegative
  rw [bits, Int64.toNat_toUInt64_of_le notNegative]
  exact Int.toNat_of_nonneg nonnegative

theorem toNat_ofMemory_encode (ticks : Ticks) (origin : Bytes 8) :
    (Guid.ofMemory (Bytes.join ticks.encode origin)).toNat =
      ticks.bits * 2 ^ 64 + Bytes.toNat origin := by
  have small := ticks.bits_lt
  unfold Guid.toNat Guid.ofMemory Ticks.encode
  rw [Bytes.gather_memoryLayout]
  simp only [Bytes.ofNatReversed, Vector.reverse_reverse, Bytes.toNat_join, Bytes.toNat_ofNat]
  omega

/-- In text order the ticks are the first eight bytes, the most significant byte first, whatever
stands behind them. -/
theorem bytes_ofMemory_encode (ticks : Ticks) (origin : Bytes 8) :
    (Guid.ofMemory (Bytes.join ticks.encode origin)).bytes =
      Bytes.join (Bytes.ofNat 8 ticks.bits) origin := by
  have small := ticks.bits_lt
  have spelled := ticks.toNat_ofMemory_encode origin
  unfold Guid.toNat at spelled
  apply Bytes.toNat_injective
  rw [spelled, Bytes.toNat_join, Bytes.toNat_ofNat]
  omega

end Ticks

theorem Discriminator.toNat_lt (discriminator : Discriminator) : discriminator.toNat < 2 ^ 40 :=
  Bytes.toNat_lt discriminator.bytes

theorem Discriminator.toNat_injective {first second : Discriminator}
    (same : first.toNat = second.toNat) : first = second := by
  cases first
  cases second
  exact congrArg Discriminator.mk (Bytes.toNat_injective same)

theorem Serial.toNat_ofCount (count : UInt32) :
    (Serial.ofCount count).toNat = count.toNat % 2 ^ 24 :=
  BitVec.toNat_setWidth 24 count.toBitVec

theorem Fields.toNat_ofMemory (fields : Fields) :
    (Guid.ofMemory fields.toMemory).toNat =
      fields.ticks.bits * 2 ^ 64 + fields.discriminator.toNat * 2 ^ 24 + fields.serial.toNat := by
  have small := fields.serial.isLt
  unfold Fields.toMemory Discriminator.toNat
  rw [Ticks.toNat_ofMemory_encode, Bytes.toNat_join, Bytes.toNat_ofNat]
  omega

theorem Fields.toMemory_injective {first second : Fields}
    (same : first.toMemory = second.toMemory) : first = second := by
  have numbers := congrArg (fun memory => (Guid.ofMemory memory).toNat) same
  simp only [Fields.toNat_ofMemory] at numbers
  have firstDiscriminator := first.discriminator.toNat_lt
  have secondDiscriminator := second.discriminator.toNat_lt
  have firstSerial := first.serial.isLt
  have secondSerial := second.serial.isLt
  have ticks : first.ticks = second.ticks := Ticks.bits_injective (by omega)
  have discriminators : first.discriminator = second.discriminator :=
    Discriminator.toNat_injective (by omega)
  have serials : first.serial = second.serial := BitVec.eq_of_toNat_eq (by omega)
  cases first
  cases second
  cases ticks
  cases discriminators
  cases serials
  rfl

theorem SortOrder.nativeForm_arrange (order : SortOrder) (memory : Bytes 16) :
    (Issued.guid (Guid.ofMemory (order.arrange memory))).nativeForm order =
      Guid.ofMemory memory := by
  cases order with
  | native => rfl
  | sqlServer => simp [Issued.nativeForm, SqlGuid.toGuid, SortOrder.arrange]

/-- Either order compares what identifiers spell once they are brought to native order. -/
theorem SortOrder.precedes_iff (order : SortOrder) {first second : Guid} :
    order.Precedes first second ↔
      ((Issued.guid first).nativeForm order).toNat <
        ((Issued.guid second).nativeForm order).toNat := by
  cases order with
  | native => exact Guid.lt_iff_toNat_lt
  | sqlServer => exact SqlGuid.lt_iff_toGuid_lt.trans Guid.lt_iff_toNat_lt

instance (order : SortOrder) : IsTrans Guid order.Precedes where
  trans first second third earlier later := by
    rw [SortOrder.precedes_iff] at earlier later ⊢
    exact Nat.lt_trans earlier later

namespace Generator

variable (generator : Generator)

theorem toNat_assemble (ticks : Ticks) (count : UInt32) :
    (Guid.ofMemory (generator.assemble ticks count)).toNat =
      ticks.bits * 2 ^ 64 + generator.discriminator.toNat * 2 ^ 24 + count.toNat % 2 ^ 24 := by
  unfold assemble
  rw [Fields.toNat_ofMemory, Serial.toNat_ofCount]

theorem leading_assemble (ticks : Ticks) (count : UInt32) :
    Bytes.slice (Guid.ofMemory (generator.assemble ticks count)).bytes 0 8 =
      Bytes.ofNat 8 ticks.bits := by
  rw [assemble, Fields.toMemory, Ticks.bytes_ofMemory_encode, Bytes.slice_join_head]

theorem nativeForm_identifier (ticks : Ticks) (count : UInt32) :
    (Issued.guid (generator.identifier ticks count)).nativeForm generator.order =
      Guid.ofMemory (generator.assemble ticks count) :=
  generator.order.nativeForm_arrange _

/-- The identifiers of one generator differ by their ticks and by the low 24 bits of their counts.
-/
theorem identifier_eq_iff {ticks other : Ticks} {count later : UInt32} :
    generator.identifier ticks count = generator.identifier other later ↔
      ticks = other ∧ count.toNat % 2 ^ 24 = later.toNat % 2 ^ 24 := by
  constructor
  · intro same
    have forms := congrArg (fun guid => (Issued.guid guid).nativeForm generator.order) same
    simp only [nativeForm_identifier] at forms
    have fields := Fields.toMemory_injective (Guid.ofMemory_injective forms)
    have serials := congrArg (fun fields => fields.serial.toNat) fields
    simp only [Serial.toNat_ofCount] at serials
    exact ⟨congrArg Fields.ticks fields, serials⟩
  · rintro ⟨rfl, serials⟩
    have same : Serial.ofCount count = Serial.ofCount later := by
      apply BitVec.eq_of_toNat_eq
      rw [Serial.toNat_ofCount, Serial.toNat_ofCount, serials]
    simp only [identifier, assemble, same]

/-- The identifiers of one generator are in the order of their ticks, and for the same ticks in the
order of the low 24 bits of their counts. -/
theorem identifier_precedes_iff {ticks other : Ticks} {count later : UInt32} :
    generator.order.Precedes (generator.identifier ticks count)
        (generator.identifier other later) ↔
      ticks.bits < other.bits ∨
        ticks.bits = other.bits ∧ count.toNat % 2 ^ 24 < later.toNat % 2 ^ 24 := by
  rw [SortOrder.precedes_iff, nativeForm_identifier, nativeForm_identifier, toNat_assemble,
    toNat_assemble]
  have firstSmall := Nat.mod_lt count.toNat (by decide : 0 < 2 ^ 24)
  have secondSmall := Nat.mod_lt later.toNat (by decide : 0 < 2 ^ 24)
  omega

end Generator

end TimeOrderedGuid
