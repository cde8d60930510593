import TimeOrderedGuid.Proofs.Admission
import TimeOrderedGuid.Proofs.Rearrangement

namespace TimeOrderedGuid

theorem Guid.isNil_iff {guid : Guid} : guid.isNil = true ↔ ∀ byte ∈ guid.bytes, byte = 0 := by
  rw [isNil, beq_iff_eq]
  exact Bytes.toNat_eq_zero_iff

theorem SqlGuid.isNil_toGuid (sqlGuid : SqlGuid) : sqlGuid.toGuid.isNil = sqlGuid.isNil := by
  have moved := sqlGuid.toGuid_perm
  rw [isNil, Bool.eq_iff_iff, Guid.isNil_iff, Guid.isNil_iff]
  simp only [← Vector.mem_toList_iff, moved.mem_iff]

theorem Issued.isNil_nativeForm (order : SortOrder) (issued : Issued) :
    (issued.nativeForm order).isNil = issued.bytesAsGuid.isNil := by
  cases issued with
  | guid identifier =>
    cases order with
    | native => rfl
    | sqlServer => exact SqlGuid.isNil_toGuid ⟨identifier⟩
  | sqlGuid identifier => exact identifier.isNil_toGuid

theorem Ticks.bits_eq_zero_iff {ticks : Ticks} : ticks.bits = 0 ↔ ticks = ⟨0⟩ := by
  constructor
  · intro zero
    exact bits_injective zero
  · rintro rfl
    rfl

theorem Discriminator.toNat_eq_zero_iff {discriminator : Discriminator} :
    discriminator.toNat = 0 ↔ ∀ byte ∈ discriminator.bytes, byte = 0 :=
  Bytes.toNat_eq_zero_iff

theorem Timestamp.ne_zero_of_embeddable {timestamp : Timestamp} {now ticks : Ticks}
    (admitted : timestamp.embeddableTicks now = .ok ticks) : ticks ≠ ⟨0⟩ := by
  obtain ⟨-, -, -, inWindow⟩ := embeddableTicks_eq_ok_iff.mp admitted
  rintro rfl
  exact absurd inWindow.1 (by decide)

namespace Generator

variable (generator : Generator)

theorem serve_isNil_iff {request : Request} {ticks : Ticks} {issued : Issued}
    (resolved : request.resolve = .ok ticks)
    (succeeded : (generator.serve request).1 = .ok issued) :
    issued.bytesAsGuid.isNil = true ↔
      ticks = ⟨0⟩ ∧ (∀ byte ∈ generator.discriminator.bytes, byte = 0) ∧
        2 ^ 24 ∣ generator.count.toNat + 1 := by
  obtain ⟨embedded, same, layout⟩ := generator.serve_layout succeeded
  cases resolved.symm.trans same
  rw [← issued.isNil_nativeForm generator.order, Guid.isNil, beq_iff_eq, layout,
    ← Ticks.bits_eq_zero_iff, ← Discriminator.toNat_eq_zero_iff]
  omega

/-- The wrap of the running count at 32 bits does not hide that of the serial number. -/
theorem issue_after_isNil_iff (issues : Nat) (ticks : Ticks) :
    ((generator.after issues).issue ticks).1.isNil = true ↔
      ticks = ⟨0⟩ ∧ (∀ byte ∈ generator.discriminator.bytes, byte = 0) ∧
        2 ^ 24 ∣ generator.count.toNat + (issues + 1) := by
  let reached := generator.after issues
  have resolved : (Request.ofTicks ticks).resolve = .ok ticks := rfl
  have served : (reached.serve (.ofTicks ticks)).1 = .ok (.guid (reached.issue ticks).1) := rfl
  have serial : reached.count.toNat % 2 ^ 24 = (generator.count.toNat + issues) % 2 ^ 24 :=
    generator.toNat_count_after_mod issues
  have wraps : 2 ^ 24 ∣ reached.count.toNat + 1 ↔
      2 ^ 24 ∣ generator.count.toNat + (issues + 1) := by
    omega
  rw [← wraps]
  exact reached.serve_isNil_iff resolved served

theorem serve_isNil_of_ne_zero {request : Request} {ticks : Ticks} {issued : Issued}
    (resolved : request.resolve = .ok ticks) (notZero : ticks ≠ ⟨0⟩)
    (succeeded : (generator.serve request).1 = .ok issued) :
    issued.bytesAsGuid.isNil = false := by
  rw [← Bool.not_eq_true, generator.serve_isNil_iff resolved succeeded]
  exact fun zeros => notZero zeros.1

theorem serve_isNil_of_dated {request : Request} {timestamp : Timestamp} {now : Ticks}
    {issued : Issued} (dated : request.resolve = timestamp.embeddableTicks now)
    (succeeded : (generator.serve request).1 = .ok issued) :
    issued.bytesAsGuid.isNil = false := by
  obtain ⟨ticks, resolved, -⟩ := generator.serve_nativeForm succeeded
  have notZero := Timestamp.ne_zero_of_embeddable (dated.symm.trans resolved)
  exact generator.serve_isNil_of_ne_zero resolved notZero succeeded

/-- After any history, the next identifier for ticks is nil exactly if the ticks are zero, all bytes
of the discriminator are zero, and the serial number of the call wraps to zero. What a dated call
gives, and what a record is given while the clock does not stand at zero, is never nil, and a record
that has it needs no other. -/
theorem nil_only_of_zeros (requests : List Request) :
    let reached := (generator.serveAll requests).2
    let call := successes (generator.serveAll requests).1 + 1
    (∀ ticks, (reached.issue ticks).1.isNil = true ↔
      ticks = ⟨0⟩ ∧ (∀ byte ∈ generator.discriminator.bytes, byte = 0) ∧
        2 ^ 24 ∣ generator.count.toNat + call) ∧
    (∀ timestamp now guid, (reached.issueAt timestamp now).1 = .ok guid →
      guid.isNil = false ∧ needsIdentifier (some guid) = false) ∧
    (∀ timestamp now sqlGuid, (reached.issueSqlAt timestamp now).1 = .ok sqlGuid →
      sqlGuid.isNil = false ∧ needsIdentifier (some sqlGuid.guid) = false) ∧
    ∀ now, now ≠ ⟨0⟩ →
      ∃ guid, (reached.serve (.assigned now)).1 = .ok (.guid guid) ∧
        guid.isNil = false ∧ needsIdentifier (some guid) = false := by
  intro reached call
  have kept {guid : Guid} (assigned : guid.isNil = false) :
      guid.isNil = false ∧ needsIdentifier (some guid) = false := ⟨assigned, assigned⟩
  refine ⟨?_, ?_, ?_, ?_⟩
  · intro ticks
    have moved : reached = generator.after (successes (generator.serveAll requests).1) :=
      generator.serveAll_next requests
    rw [moved]
    exact generator.issue_after_isNil_iff _ ticks
  · intro timestamp now guid accepted
    exact kept (reached.serve_isNil_of_dated rfl (reached.serve_of_issueAt accepted))
  · intro timestamp now sqlGuid accepted
    exact kept (reached.serve_isNil_of_dated rfl (reached.serve_of_issueSqlAt accepted))
  · intro now notZero
    have resolved : (Request.assigned now).resolve = .ok now := rfl
    have served : (reached.serve (.assigned now)).1 = .ok (.guid (reached.issue now).1) := rfl
    exact ⟨_, served, kept (reached.serve_isNil_of_ne_zero resolved notZero served)⟩

/-- A generator without a discriminator whose third identifier has a serial number that wrapped to
zero: nil if it is for zero ticks, and assigned if it is for the start of 1970 or for a clock that
stands one tick before zero. -/
theorem nil_only_of_zeros_at_wrap :
    let generator : Generator :=
      { order := .sqlServer, discriminator := ⟨#v[0, 0, 0, 0, 0]⟩, count := 0xfffffd }
    let refused : Request := .dated (.unspecified ⟨{ seconds := 0, nanos := 0 }⟩) ⟨0⟩
    let requests : List Request := [.ofTicks ⟨5⟩, refused, .sqlCurrent Ticks.unixEpoch]
    let reached := (generator.serveAll requests).2
    let epoch : Timestamp := .utc { seconds := 0, nanos := 0 }
    let guid : Guid := ⟨#v[0, 0, 0, 0, 0, 0, 0, 0, 128, 0, 8, 159, 127, 245, 247, 181]⟩
    (reached.issue ⟨0⟩).1.isNil = true ∧
      (reached.issueAt epoch Ticks.unixEpoch).1 = .ok guid ∧ guid.isNil = false ∧
      (reached.issueSqlAt epoch Ticks.unixEpoch).1 = .ok ⟨guid⟩ ∧
        needsIdentifier (some guid) = false ∧
      (⟨-1⟩ : Ticks) ≠ ⟨0⟩ ∧
        ∃ other, (reached.serve (.assigned ⟨-1⟩)).1 = .ok (.guid other) ∧
          needsIdentifier (some other) = false := by
  intro generator refused requests reached epoch guid
  have accepted : (reached.issueAt epoch Ticks.unixEpoch).1 = .ok guid := by decide +kernel
  have sqlAccepted : (reached.issueSqlAt epoch Ticks.unixEpoch).1 = .ok ⟨guid⟩ := by decide +kernel
  have notZero : (⟨-1⟩ : Ticks) ≠ ⟨0⟩ := by decide
  obtain ⟨nil, dated, sqlDated, assigned⟩ := nil_only_of_zeros generator requests
  refine ⟨?_, accepted, (dated _ _ guid accepted).1, sqlAccepted, (sqlDated _ _ _ sqlAccepted).2,
    notZero, ?_⟩
  · exact (nil ⟨0⟩).mpr ⟨rfl, Discriminator.toNat_eq_zero_iff.mp rfl, by decide⟩
  · obtain ⟨other, given, -, kept⟩ := assigned ⟨-1⟩ notZero
    exact ⟨other, given, kept⟩

end Generator

end TimeOrderedGuid
