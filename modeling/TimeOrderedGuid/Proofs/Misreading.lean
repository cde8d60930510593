import TimeOrderedGuid.Proofs.Reading

namespace TimeOrderedGuid

namespace Ticks

/-- The count whose two's complement eight bytes spell, the most significant first. -/
def spelledBy (bytes : Bytes 8) : Ticks := ofBits (Bytes.toNat bytes)

@[simp]
theorem bits_spelledBy (bytes : Bytes 8) : (spelledBy bytes).bits = Bytes.toNat bytes := by
  have small : Bytes.toNat bytes < 2 ^ 64 := Bytes.toNat_lt bytes
  rw [spelledBy, bits_ofBits, Nat.mod_eq_of_lt small]

theorem decode_slice (memory : Bytes 16) :
    decode (memory.slice 0 8) = spelledBy (memory.gather #v[3, 2, 1, 0, 5, 4, 7, 6]) := by
  have fields : memory.gather #v[3, 2, 1, 0, 5, 4, 7, 6] =
      Bytes.join (memory.slice 0 4).reverse
        (Bytes.join (memory.slice 4 2).reverse (memory.slice 6 2).reverse : Bytes 4) := by
    apply Vector.ext
    intro place inside
    simp only [Bytes.getElem_gather, Fin.getElem_fin, Bytes.getElem_join, Vector.getElem_reverse,
      Bytes.getElem_slice]
    interval_cases place <;> rfl
  have number : Bytes.toNat (memory.gather #v[3, 2, 1, 0, 5, 4, 7, 6]) =
      Bytes.toNatReversed (memory.slice 0 4) * 0x100000000 +
        Bytes.toNatReversed (memory.slice 4 2) * 0x10000 +
          Bytes.toNatReversed (memory.slice 6 2) := by
    rw [fields, Bytes.toNat_join, Bytes.toNat_join]
    unfold Bytes.toNatReversed
    omega
  rw [spelledBy, number]
  rfl

end Ticks

namespace Guid

theorem nativeReading_eq_spelledBy (guid : Guid) :
    guid.nativeReading = Ticks.spelledBy (guid.bytes.slice 0 8) := by
  have turned : guid.toMemory.gather #v[3, 2, 1, 0, 5, 4, 7, 6] =
      guid.bytes.gather #v[0, 1, 2, 3, 4, 5, 6, 7] :=
    ByteTable.gather_gather_eq (by decide) guid.bytes
  have leading : guid.bytes.gather #v[0, 1, 2, 3, 4, 5, 6, 7] = guid.bytes.slice 0 8 := by
    apply Vector.ext
    intro place inside
    simp only [Bytes.getElem_gather, Fin.getElem_fin, Bytes.getElem_slice]
    interval_cases place <;> rfl
  rw [nativeReading, Ticks.decode_slice, turned, leading]

theorem sqlServerReading_eq_spelledBy (guid : Guid) :
    guid.sqlServerReading =
      Ticks.spelledBy (guid.bytes.gather #v[10, 11, 12, 13, 14, 15, 8, 9]) := by
  have moved : (toNativeOrder guid.toMemory).gather #v[3, 2, 1, 0, 5, 4, 7, 6] =
      guid.toMemory.gather #v[10, 11, 12, 13, 14, 15, 8, 9] :=
    ByteTable.gather_gather_eq (by decide) guid.toMemory
  have untouched : guid.toMemory.gather #v[10, 11, 12, 13, 14, 15, 8, 9] =
      guid.bytes.gather #v[10, 11, 12, 13, 14, 15, 8, 9] :=
    ByteTable.gather_gather_eq (by decide) guid.bytes
  rw [sqlServerReading, Ticks.decode_slice, moved, untouched]

end Guid

namespace SqlGuid

/-- Taken for one in SQL Server order once more, an identifier that was brought to native order is
read from the bytes in front, which no generator lays out in that order. -/
theorem sqlServerReading_toGuid (sqlGuid : SqlGuid) :
    sqlGuid.toGuid.sqlServerReading =
      Ticks.spelledBy (sqlGuid.guid.bytes.gather #v[5, 4, 3, 2, 1, 0, 7, 6]) := by
  have moved : sqlGuid.toGuid.bytes.gather #v[10, 11, 12, 13, 14, 15, 8, 9] =
      sqlGuid.guid.toMemory.gather #v[4, 5, 0, 1, 2, 3, 6, 7] := by
    rw [bytes_toGuid]
    exact ByteTable.gather_gather_eq (by decide) sqlGuid.guid.toMemory
  have turned : sqlGuid.guid.toMemory.gather #v[4, 5, 0, 1, 2, 3, 6, 7] =
      sqlGuid.guid.bytes.gather #v[5, 4, 3, 2, 1, 0, 7, 6] :=
    ByteTable.gather_gather_eq (by decide) sqlGuid.guid.bytes
  rw [Guid.sqlServerReading_eq_spelledBy, moved, turned]

/-- An identifier of SQL Server carries the ticks that it leads with in native order, or nothing if
they lie outside the window. The one exception are ticks in the window that its first six bytes,
from the last to the first, and the next two, turned around, spell in their place. -/
theorem ticksAt_exact_iff (sqlGuid : SqlGuid) (now : Ticks) :
    let reading := Ticks.decode ((toNativeOrder sqlGuid.guid.toMemory).slice 0 8)
    let stray := Ticks.spelledBy (sqlGuid.guid.bytes.gather #v[5, 4, 3, 2, 1, 0, 7, 6])
    (sqlGuid.toGuid.ticksAt now = (if reading.InWindow now then some reading else none) ↔
      reading.InWindow now ∨ ¬ stray.InWindow now) ∧
    sqlGuid.toGuid.ticksAt now =
      if reading.InWindow now then some reading
      else if stray.InWindow now then some stray
      else none := by
  intro reading stray
  have carried : sqlGuid.toGuid.ticksAt now =
      if reading.InWindow now then some reading
      else if stray.InWindow now then some stray
      else none := by
    rw [Guid.ticksAt, nativeReading_toGuid, sqlServerReading_toGuid]
    rfl
  refine ⟨?_, carried⟩
  rw [carried]
  by_cases read : reading.InWindow now
  · rw [if_pos read, if_pos read]
    exact iff_of_true rfl (.inl read)
  · rw [if_neg read, if_neg read]
    by_cases strays : stray.InWindow now
    · rw [if_pos strays]
      refine iff_of_false (Option.some_ne_none stray) ?_
      rintro (inWindow | outside)
      · exact read inWindow
      · exact outside strays
    · rw [if_neg strays]
      exact iff_of_true rfl (.inr strays)

/-- An identifier in SQL Server order for ticks before 1970. As it stands it is read as one of 2006,
and brought to native order as one of 2024. -/
theorem sqlServer_order_read_as_other :
    let generator : Generator :=
      { order := .sqlServer, discriminator := ⟨#v[0x1d, 0x27, 0x08, 0xdc, 0x2a]⟩
        count := 0x5bc807 }
    let guid := (generator.issue ⟨0⟩).1
    let sqlGuid : SqlGuid := ⟨guid⟩
    let now : Ticks := ⟨638712864000000000⟩
    let reading := Ticks.decode ((toNativeOrder sqlGuid.guid.toMemory).slice 0 8)
    reading = ⟨0⟩ ∧ ¬ reading.InWindow now ∧ guid.ticksAt now = some ⟨632855987283830557⟩ ∧
      sqlGuid.toGuid.ticksAt now = some ⟨638431820866133287⟩ := by
  decide +kernel

end SqlGuid

theorem Serial.bytes_ofCount (count : UInt32) :
    Bytes.ofNat 3 (Serial.ofCount count).toNat = Bytes.ofNat 3 count.toNat := by
  apply Bytes.toNat_injective
  rw [Serial.toNat_ofCount, Bytes.toNat_ofNat, Bytes.toNat_ofNat]
  exact Nat.mod_mod _ _

/-- What the bytes behind the ticks spell to the reading for the other order. The native reading
takes those of an identifier in SQL Server order from the last to the first; the SQL Server reading
takes those of an identifier in native order from the third to the last, and then the first two. -/
def SortOrder.strayTicks : SortOrder → Bytes 8 → Ticks
  | .native, origin => Ticks.spelledBy (origin.gather #v[2, 3, 4, 5, 6, 7, 0, 1])
  | .sqlServer, origin => Ticks.spelledBy (origin.gather #v[7, 6, 5, 4, 3, 2, 1, 0])

namespace Generator

variable (generator : Generator)

def origin (count : UInt32) : Bytes 8 :=
  generator.discriminator.bytes ++ Bytes.ofNat 3 count.toNat

theorem assemble_eq_join (ticks : Ticks) (count : UInt32) :
    generator.assemble ticks count = Bytes.join ticks.encode (generator.origin count) := by
  rw [assemble, Fields.toMemory, Serial.bytes_ofCount]
  rfl

theorem decode_gather_assemble {table : ByteTable} {behind : Vector (Fin 8) 8}
    (brings : ∀ place : Fin 8,
      (table.get ((#v[3, 2, 1, 0, 5, 4, 7, 6] : Vector (Fin 16) 8).get place)).val =
        8 + (behind.get place).val) (ticks : Ticks) (count : UInt32) :
    Ticks.decode (((generator.assemble ticks count).gather table).slice 0 8) =
      Ticks.spelledBy ((generator.origin count).gather behind) := by
  rw [Ticks.decode_slice, Bytes.gather_gather, assemble_eq_join]
  congr 1
  apply Bytes.gather_join_behind
  intro place
  exact (congrArg Fin.val (Vector.getElem_map _ _)).trans (brings place)

theorem readings_of_native (native : generator.order = .native) (ticks : Ticks) (count : UInt32) :
    (generator.identifier ticks count).nativeReading = ticks ∧
      (generator.identifier ticks count).sqlServerReading =
        generator.order.strayTicks (generator.origin count) := by
  have standing : generator.identifier ticks count =
      Guid.ofMemory (generator.assemble ticks count) := by
    rw [identifier, native, SortOrder.arrange]
  rw [standing, native]
  refine ⟨generator.nativeReading_assemble ticks count, ?_⟩
  rw [Guid.sqlServerReading, Guid.toMemory_ofMemory]
  exact generator.decode_gather_assemble (by decide) ticks count

theorem readings_of_sqlServer (sqlServer : generator.order = .sqlServer) (ticks : Ticks)
    (count : UInt32) :
    (generator.identifier ticks count).nativeReading =
        generator.order.strayTicks (generator.origin count) ∧
      (generator.identifier ticks count).sqlServerReading = ticks := by
  have arranged : generator.identifier ticks count =
      Guid.ofMemory (toSqlServerOrder (generator.assemble ticks count)) := by
    rw [identifier, sqlServer, SortOrder.arrange]
  rw [arranged, sqlServer]
  refine ⟨?_, ?_⟩
  · rw [Guid.nativeReading, Guid.toMemory_ofMemory]
    exact generator.decode_gather_assemble (by decide) ticks count
  · have reading := generator.nativeReading_assemble ticks count
    rw [Guid.nativeReading, Guid.toMemory_ofMemory] at reading
    rw [Guid.sqlServerReading, Guid.toMemory_ofMemory, toNativeOrder_toSqlServerOrder, reading]

/-- An identifier that was issued for ticks outside the window does not carry them. It carries what
the bytes behind the ticks spell to the reading for the other order, if that lies in the window, and
otherwise nothing. -/
theorem ticksAt_issue_of_outside {ticks now : Ticks}
    (outside : ticks < Ticks.unixEpoch ∨ now < ticks) :
    let carried := (generator.issue ticks).1.ticksAt now
    let stray := generator.order.strayTicks (generator.origin (generator.count + 1))
    carried = (if stray.InWindow now then some stray else none) ∧ carried ≠ some ticks := by
  intro carried stray
  have notInWindow : ¬ ticks.InWindow now := by
    rintro ⟨notBefore, notAfter⟩
    rw [Ticks.le_iff_toInt_le] at notBefore notAfter
    rw [Ticks.lt_iff_toInt_lt, Ticks.lt_iff_toInt_lt] at outside
    omega
  have read : carried = if stray.InWindow now then some stray else none := by
    change (generator.identifier ticks (generator.count + 1)).ticksAt now = _
    rw [Guid.ticksAt]
    cases order : generator.order with
    | native =>
      obtain ⟨native, sqlServer⟩ := generator.readings_of_native order ticks (generator.count + 1)
      rw [native, sqlServer, if_neg notInWindow]
    | sqlServer =>
      obtain ⟨native, sqlServer⟩ :=
        generator.readings_of_sqlServer order ticks (generator.count + 1)
      rw [native, sqlServer, if_neg notInWindow]
  refine ⟨read, ?_⟩
  rw [read]
  split
  · rename_i inWindow
    intro same
    rw [Option.some.inj same] at inWindow
    exact notInWindow inWindow
  · exact (Option.some_ne_none ticks).symm

/-- An identifier in native order for ticks before 1970 carries ticks of 2024, which its
discriminator and its serial number spell. -/
theorem native_order_reads_stray :
    let generator : Generator :=
      { order := .native, discriminator := ⟨#v[0x1d, 0x27, 0x08, 0xdc, 0x2a]⟩, count := 0x5b6f3d }
    let now : Ticks := ⟨638712864000000000⟩
    (⟨0⟩ : Ticks) < Ticks.unixEpoch ∧
      (generator.issue ⟨0⟩).1.ticksAt now = some ⟨638431819376500007⟩ := by
  decide +kernel

/-- Two identifiers in SQL Server order for ticks after the present: the one carries what its serial
number and its discriminator spell, ticks of 1998, and the next carries nothing. -/
theorem ticksAt_issue_of_after_present :
    let generator : Generator :=
      { order := .sqlServer, discriminator := ⟨#v[0xaa, 0xaa, 0xaa, 0xaa, 0xaa]⟩, count := 0xc007 }
    let now : Ticks := ⟨638712864000000000⟩
    let later : Ticks := ⟨638712864000000001⟩
    now < later ∧ (generator.issue later).1.ticksAt now = some ⟨630504680839621290⟩ ∧
      ((generator.issue later).2.issue later).1.ticksAt now = none := by
  intro generator now later
  have after : now < later := by decide
  have first := (generator.ticksAt_issue_of_outside (.inr after)).1
  have second := ((generator.issue later).2.ticksAt_issue_of_outside (.inr after)).1
  refine ⟨after, ?_, ?_⟩
  · rw [first]
    decide +kernel
  · rw [second]
    decide +kernel

end Generator

end TimeOrderedGuid
