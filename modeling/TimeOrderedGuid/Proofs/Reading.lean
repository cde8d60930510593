import TimeOrderedGuid.Guid.Reading
import TimeOrderedGuid.Proofs.Admission

namespace TimeOrderedGuid

namespace Ticks

theorem bits_ofBits (number : Nat) : (ofBits number).bits = number % 2 ^ 64 := by
  unfold ofBits bits
  simp

@[simp]
theorem decode_encode (ticks : Ticks) : decode ticks.encode = ticks := by
  have small := ticks.bits_lt
  apply bits_injective
  unfold decode encode
  rw [bits_ofBits, Bytes.slice_join_head, Bytes.slice_join_later _ _ _ 0 2 (by decide) (by decide),
    Bytes.slice_join_later _ _ _ 2 2 (by decide) (by decide), Bytes.slice_join_head,
    Bytes.slice_join_tail]
  simp only [Bytes.toNatReversed_ofNatReversed, Nat.shiftRight_eq_div_pow]
  omega

@[simp]
theorem encode_decode (memory : Bytes 8) : (decode memory).encode = memory := by
  have high := Bytes.toNatReversed_lt (memory.slice 0 4)
  have middle := Bytes.toNatReversed_lt (memory.slice 4 2)
  have low := Bytes.toNatReversed_lt (memory.slice 6 2)
  have bits := bits_ofBits (Bytes.toNatReversed (memory.slice 0 4) * 0x100000000 +
    Bytes.toNatReversed (memory.slice 4 2) * 0x10000 + Bytes.toNatReversed (memory.slice 6 2))
  have highField : Bytes.ofNatReversed 4 ((decode memory).bits >>> 32) = memory.slice 0 4 := by
    apply Bytes.ofNatReversed_eq
    rw [decode, bits, Nat.shiftRight_eq_div_pow]
    omega
  have middleField : Bytes.ofNatReversed 2 ((decode memory).bits >>> 16) = memory.slice 4 2 := by
    apply Bytes.ofNatReversed_eq
    rw [decode, bits, Nat.shiftRight_eq_div_pow]
    omega
  have lowField : Bytes.ofNatReversed 2 (decode memory).bits = memory.slice 6 2 := by
    apply Bytes.ofNatReversed_eq
    rw [decode, bits]
    omega
  rw [encode, highField, middleField, lowField,
    Bytes.join_slice_slice memory 4 (rfl : 2 + 2 = 4) (by decide) (by decide) (by decide),
    Bytes.join_slice memory (rfl : 4 + 4 = 8)]

end Ticks

namespace Guid

theorem nativeReading_ofMemory_encode (ticks : Ticks) (origin : Bytes 8) :
    (ofMemory (Bytes.join ticks.encode origin)).nativeReading = ticks := by
  unfold nativeReading
  rw [toMemory_ofMemory, Bytes.slice_join_head, Ticks.decode_encode]

theorem ticksAt_of_nativeReading {guid : Guid} {now : Ticks}
    (inWindow : guid.nativeReading.InWindow now) : guid.ticksAt now = some guid.nativeReading :=
  if_pos inWindow

/-- An identifier carries ticks in the window that either reading gives, the SQL Server reading only
where the native reading gives none. -/
theorem ticksAt_eq_some_iff {guid : Guid} {now ticks : Ticks} :
    guid.ticksAt now = some ticks ↔
      ticks.InWindow now ∧
        (guid.nativeReading = ticks ∨
          guid.sqlServerReading = ticks ∧ ¬ guid.nativeReading.InWindow now) := by
  unfold ticksAt
  by_cases native : guid.nativeReading.InWindow now
  · rw [if_pos native, Option.some_inj]
    constructor
    · rintro rfl
      exact ⟨native, .inl rfl⟩
    · rintro ⟨-, read | ⟨-, outside⟩⟩
      · exact read
      · exact absurd native outside
  · rw [if_neg native]
    by_cases sqlServer : guid.sqlServerReading.InWindow now
    · rw [if_pos sqlServer, Option.some_inj]
      constructor
      · rintro rfl
        exact ⟨sqlServer, .inr ⟨rfl, native⟩⟩
      · rintro ⟨inWindow, rfl | ⟨read, -⟩⟩
        · exact absurd inWindow native
        · exact read
    · rw [if_neg sqlServer]
      refine iff_of_false (Option.some_ne_none ticks).symm ?_
      rintro ⟨inWindow, rfl | ⟨rfl, -⟩⟩
      · exact native inWindow
      · exact sqlServer inWindow

theorem ticksAt_eq_none_iff {guid : Guid} {now : Ticks} :
    guid.ticksAt now = none ↔
      ¬ guid.nativeReading.InWindow now ∧ ¬ guid.sqlServerReading.InWindow now := by
  unfold ticksAt
  by_cases native : guid.nativeReading.InWindow now
  · rw [if_pos native]
    exact iff_of_false (Option.some_ne_none _) fun neither => neither.1 native
  · rw [if_neg native]
    by_cases sqlServer : guid.sqlServerReading.InWindow now
    · rw [if_pos sqlServer]
      exact iff_of_false (Option.some_ne_none _) fun neither => neither.2 sqlServer
    · rw [if_neg sqlServer]
      exact iff_of_true rfl ⟨native, sqlServer⟩

end Guid

theorem SqlGuid.nativeReading_toGuid (sqlGuid : SqlGuid) :
    sqlGuid.toGuid.nativeReading = sqlGuid.guid.sqlServerReading := by
  rw [toGuid, Guid.nativeReading, Guid.toMemory_ofMemory, Guid.sqlServerReading]

namespace Generator

variable (generator : Generator)

theorem nativeReading_assemble (ticks : Ticks) (count : UInt32) :
    (Guid.ofMemory (generator.assemble ticks count)).nativeReading = ticks :=
  Guid.nativeReading_ofMemory_encode ticks _

theorem ticksAt_assemble {ticks now : Ticks} (count : UInt32) (inWindow : ticks.InWindow now) :
    (Guid.ofMemory (generator.assemble ticks count)).ticksAt now = some ticks := by
  have reading := generator.nativeReading_assemble ticks count
  rw [Guid.ticksAt_of_nativeReading (by rwa [reading]), reading]

/-- What a call for an instant got carries the ticks of the instant, which lie in the window of the
call. -/
theorem ticksAt_of_served {request : Request} {instant : Instant} {clock : Ticks} {issued : Issued}
    (succeeded : (generator.serve request).1 = .ok issued)
    (dated : request.resolve = (Timestamp.utc instant).embeddableTicks clock) :
    (Ticks.ofInstant instant).InWindow clock ∧
      ∀ now, Ticks.ofInstant instant ≤ now →
        (issued.nativeForm generator.order).ticksAt now = some (Ticks.ofInstant instant) := by
  obtain ⟨ticks, resolved, assembled⟩ := generator.serve_nativeForm succeeded
  rw [dated] at resolved
  obtain ⟨_, ⟨⟩, rfl, inWindow⟩ := Timestamp.embeddableTicks_eq_ok_iff.mp resolved
  refine ⟨inWindow, ?_⟩
  intro now notBefore
  rw [assembled]
  exact generator.ticksAt_assemble _ ⟨inWindow.1, notBefore⟩

/-- An instant that either call accepts is read back tick for tick from what the call gives, in
native order and at any time from the instant on. Its ticks lead back to the start of its tick
exactly if the instant lies within the range of ticks, and it does unless the clock itself stands at
the end of that range. -/
theorem accepted_instants_read_back (instant : Instant) (clock : Ticks) :
    let ticks := Ticks.ofInstant instant
    let result := (generator.issueAt (.utc instant) clock).1
    let sqlResult := (generator.issueSqlAt (.utc instant) clock).1
    (∀ now, ticks ≤ now →
      (∀ guid, result = .ok guid →
        (generator.order = .native → guid.ticksAt now = some ticks) ∧
        (generator.order = .sqlServer → (SqlGuid.mk guid).toGuid.ticksAt now = some ticks)) ∧
      ∀ sqlGuid, sqlResult = .ok sqlGuid → sqlGuid.toGuid.ticksAt now = some ticks) ∧
    ((∃ guid, result = .ok guid) ∨ (∃ sqlGuid, sqlResult = .ok sqlGuid) →
      (clock.toInt < 0x7fffffffffffffff → ticks.toInstant? = some instant.startOfTick) ∧
      (ticks.toInstant? = some instant.startOfTick ↔
        instant.wholeTicks ≤ 0x7fffffffffffffff)) := by
  intro ticks result sqlResult
  have read (guid : Guid) (accepted : result = .ok guid) :=
    generator.ticksAt_of_served (generator.serve_of_issueAt accepted) rfl
  have sqlRead (sqlGuid : SqlGuid) (accepted : sqlResult = .ok sqlGuid) :=
    generator.ticksAt_of_served (generator.serve_of_issueSqlAt accepted) rfl
  refine ⟨?_, ?_⟩
  · intro now notBefore
    refine ⟨?_, fun sqlGuid accepted => (sqlRead sqlGuid accepted).2 now notBefore⟩
    intro guid accepted
    have carried := (read guid accepted).2 now notBefore
    refine ⟨?_, ?_⟩
    · intro native
      rwa [native] at carried
    · intro sqlServer
      rwa [sqlServer] at carried
  · intro accepted
    have inWindow : ticks.InWindow clock := by
      rcases accepted with ⟨guid, accepted⟩ | ⟨sqlGuid, accepted⟩
      · exact (read guid accepted).1
      · exact (sqlRead sqlGuid accepted).1
    rw [Ticks.toInstant?_ofInstant_iff]
    exact ⟨Ticks.toInt_ofInstant_of_inWindow inWindow, Ticks.toInt_ofInstant_eq_iff inWindow.1⟩

/-- A leap second of 2008 in an identifier in SQL Server order. The bytes of its discriminator and
its count also read as ticks of 1998, which native order brings out of their way. -/
theorem accepted_leap_second_reads_back :
    let generator : Generator :=
      { order := .sqlServer, discriminator := ⟨#v[0xaa, 0xaa, 0xaa, 0xaa, 0xaa]⟩, count := 0xc007 }
    let leap : Instant := { seconds := 1230767999, nanos := 1500000000 }
    let clock : Ticks := ⟨634109904000000000⟩
    let guid : Guid := ⟨#v[8, 192, 0, 170, 170, 170, 170, 170, 63, 255, 8, 203, 57, 187, 6, 30]⟩
    (generator.issueAt (.utc leap) clock).1 = .ok guid ∧ Ticks.ofInstant leap ≤ clock ∧
      clock.toInt < 0x7fffffffffffffff ∧
      guid.ticksAt clock = some ⟨630504680839621290⟩ ∧
      (SqlGuid.mk guid).toGuid.ticksAt clock = some (Ticks.ofInstant leap) ∧
      (Ticks.ofInstant leap).toInstant? = some { seconds := 1230767999, nanos := 999999900 } := by
  intro generator leap clock guid
  have accepted : (generator.issueAt (.utc leap) clock).1 = .ok guid := by decide +kernel
  have notBefore : Ticks.ofInstant leap ≤ clock := by decide
  have inRange : clock.toInt < 0x7fffffffffffffff := by decide
  have misread : guid.ticksAt clock = some ⟨630504680839621290⟩ := by decide +kernel
  obtain ⟨reads, leadsBack⟩ := accepted_instants_read_back generator leap clock
  refine ⟨accepted, notBefore, inRange, misread, ?_, ?_⟩
  · exact ((reads clock notBefore).1 guid accepted).2 rfl
  · exact (leadsBack (.inl ⟨guid, accepted⟩)).1 inRange

/-- The last second of the calendar, while the clock shows it. The ticks of both are cut off at the
end of the range, so that the second is accepted, and they lead to an instant of the year 29228. -/
theorem latest_instant_leads_elsewhere :
    let generator : Generator :=
      { order := .native, discriminator := ⟨#v[1, 2, 3, 4, 5]⟩, count := 0xffffff }
    let latest : Instant := { seconds := Instant.lastSecond, nanos := 0 }
    let clock := Ticks.ofInstant latest
    let guid : Guid :=
      ⟨#v[127, 255, 255, 255, 255, 255, 255, 255, 1, 2, 3, 4, 5, 0, 0, 0]⟩
    (generator.issueAt (.utc latest) clock).1 = .ok guid ∧
      clock.toInt = 0x7fffffffffffffff ∧ latest.wholeTicks = 82724024735990000000 ∧
      clock.toInstant? = some { seconds := 860201606885, nanos := 477580700 } ∧
      clock.toInstant? ≠ some latest.startOfTick := by
  intro generator latest clock guid
  have accepted : (generator.issueAt (.utc latest) clock).1 = .ok guid := by decide +kernel
  refine ⟨accepted, by decide, by decide, by decide, by decide⟩

end Generator

end TimeOrderedGuid
