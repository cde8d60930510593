import TimeOrderedGuid.Proofs.Reading

namespace TimeOrderedGuid

namespace Guid

/-- The fields that any identifier holds, taken for one in native order. -/
def fields (guid : Guid) : Fields where
  ticks := guid.nativeReading
  discriminator := ⟨guid.toMemory.slice 8 5⟩
  serial := BitVec.ofNat 24 (Bytes.toNat (guid.toMemory.slice 13 3))

@[simp]
theorem toMemory_fields (guid : Guid) : guid.fields.toMemory = guid.toMemory := by
  have small : Bytes.toNat (guid.toMemory.slice 13 3) < 2 ^ 24 := Bytes.toNat_lt _
  have serial : guid.fields.serial.toNat = Bytes.toNat (guid.toMemory.slice 13 3) := by
    rw [fields, BitVec.toNat_ofNat, Nat.mod_eq_of_lt small]
  rw [Fields.toMemory, serial, Bytes.ofNat_toNat]
  simp only [fields, nativeReading, Ticks.encode_decode]
  rw [Bytes.join_slice_slice guid.toMemory 8 (rfl : 5 + 3 = 8) (by decide) (by decide) (by decide),
    Bytes.join_slice guid.toMemory (rfl : 8 + 8 = 16)]

@[simp]
theorem fields_ofMemory (fields : Fields) : (ofMemory fields.toMemory).fields = fields := by
  apply Fields.toMemory_injective
  rw [toMemory_fields, toMemory_ofMemory]

end Guid

theorem Serial.exists_seed (serial : Serial) :
    ∃ seed : UInt32, Serial.ofCount (seed + 1) = serial := by
  refine ⟨UInt32.ofNat serial.toNat - 1, BitVec.eq_of_toNat_eq ?_⟩
  have small := serial.isLt
  rw [UInt32.sub_add_cancel, Serial.toNat_ofCount, UInt32.toNat_ofNat']
  omega

namespace SortOrder

variable {order : SortOrder} {ticks : Ticks} {guid : Guid}

/-- Some generator in this order issues the identifier for the ticks, as its first. -/
def Emits (order : SortOrder) (ticks : Ticks) (guid : Guid) : Prop :=
  ∃ discriminator seed,
    (Generator.issue { order, discriminator, count := seed } ticks).1 = guid

theorem arrange_nativeForm (order : SortOrder) (guid : Guid) :
    Guid.ofMemory (order.arrange ((Issued.guid guid).nativeForm order).toMemory) = guid := by
  cases order with
  | native => exact Guid.ofMemory_toMemory guid
  | sqlServer => simp [Issued.nativeForm, SqlGuid.toGuid, arrange]

/-- An order emits each identifier for the ticks that it leads with in native order, and for no
others. -/
theorem emits_iff :
    order.Emits ticks guid ↔ ((Issued.guid guid).nativeForm order).nativeReading = ticks := by
  constructor
  · rintro ⟨discriminator, seed, rfl⟩
    let generator : Generator := { order, discriminator, count := seed }
    have form := generator.nativeForm_identifier ticks (seed + 1)
    exact (congrArg Guid.nativeReading form).trans (generator.nativeReading_assemble ticks _)
  · rintro rfl
    -- The generator is made of what the identifier holds, one count before its serial number.
    let native := (Issued.guid guid).nativeForm order
    obtain ⟨seed, serial⟩ := Serial.exists_seed native.fields.serial
    let generator : Generator :=
      { order, discriminator := native.fields.discriminator, count := seed }
    have assembled : generator.assemble native.nativeReading (seed + 1) = native.toMemory := by
      rw [Generator.assemble, serial]
      exact native.toMemory_fields
    refine ⟨native.fields.discriminator, seed, ?_⟩
    change generator.identifier native.nativeReading (seed + 1) = guid
    rw [Generator.identifier, assembled]
    exact order.arrange_nativeForm guid

theorem native_emits_iff : SortOrder.native.Emits ticks guid ↔ guid.nativeReading = ticks :=
  emits_iff

theorem sqlServer_emits_iff :
    SortOrder.sqlServer.Emits ticks guid ↔ guid.sqlServerReading = ticks := by
  rw [emits_iff, Issued.nativeForm, SqlGuid.nativeReading_toGuid]

end SortOrder

/-- An identifier carries ticks exactly if they lie in the window and either native order emits it
for them, or SQL Server order does and native order emits it for no ticks in the window. -/
theorem Guid.ticksAt_eq_some_iff_emits (guid : Guid) (now ticks : Ticks) :
    guid.ticksAt now = some ticks ↔
      ticks.InWindow now ∧
        (SortOrder.native.Emits ticks guid ∨
          SortOrder.sqlServer.Emits ticks guid ∧
            ¬ ∃ other, other.InWindow now ∧ SortOrder.native.Emits other guid) := by
  have nativeInWindow : (∃ other, other.InWindow now ∧ SortOrder.native.Emits other guid) ↔
      guid.nativeReading.InWindow now := by
    simp only [SortOrder.native_emits_iff]
    constructor
    · rintro ⟨other, inWindow, rfl⟩
      exact inWindow
    · intro inWindow
      exact ⟨_, inWindow, rfl⟩
  rw [Guid.ticksAt_eq_some_iff, SortOrder.native_emits_iff, SortOrder.sqlServer_emits_iff,
    nativeInWindow]

end TimeOrderedGuid
