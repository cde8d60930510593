import TimeOrderedGuid.Proofs.Emission

namespace TimeOrderedGuid

theorem Discriminator.ofHost_eq_iff {host : String} {first second : Option UInt32} :
    ofHost host first = ofHost host second ↔
      (first.getD 0).toNat % 2 ^ 16 = (second.getD 0).toNat % 2 ^ 16 := by
  constructor
  · intro same
    have tails := congrArg (fun discriminator => Bytes.slice discriminator.bytes 3 2) same
    simp only [ofHost, Bytes.slice_join_tail] at tails
    have numbers := congrArg Bytes.toNat tails
    rwa [Bytes.toNat_ofNat, Bytes.toNat_ofNat] at numbers
  · intro agree
    have tails : Bytes.ofNat 2 (first.getD 0).toNat = Bytes.ofNat 2 (second.getD 0).toNat := by
      apply Bytes.toNat_injective
      rw [Bytes.toNat_ofNat, Bytes.toNat_ofNat]
      exact agree
    rw [ofHost, ofHost, tails]

namespace Generator

theorem discriminator_of_served {generator : Generator} {requests : List Request}
    {issued : Issued} (served : .ok issued ∈ (generator.serveAll requests).1) :
    (issued.nativeForm generator.order).fields.discriminator = generator.discriminator := by
  obtain ⟨place, found⟩ := List.mem_iff_getElem?.mp served
  obtain ⟨request, -, succeeded⟩ := generator.serveAll_getElem? found
  obtain ⟨ticks, -, assembled⟩ := serve_nativeForm _ succeeded
  -- Issuing moves the count and nothing else, so the order is that of the generator at first.
  change issued.nativeForm generator.order = _ at assembled
  rw [assembled, assemble, Guid.fields_ofMemory]
  rfl

/-- On one host, process numbers give the same discriminator exactly if they agree in the low 16
bits. Generators of one order with different discriminators never give the same identifier, from
whatever counts they start and whatever histories they serve; what they give stays apart in native
order too. -/
theorem processes_never_collide :
    (∀ (host : String) (first second : Option UInt32),
      Discriminator.ofHost host first = Discriminator.ofHost host second ↔
        (first.getD 0).toNat % 2 ^ 16 = (second.getD 0).toNat % 2 ^ 16) ∧
    ∀ first second : Generator, first.order = second.order →
      first.discriminator ≠ second.discriminator →
      ∀ (requests others : List Request) (issued other : Issued),
        .ok issued ∈ (first.serveAll requests).1 → .ok other ∈ (second.serveAll others).1 →
        issued ≠ other ∧ issued.nativeForm first.order ≠ other.nativeForm second.order := by
  refine ⟨fun host first second => Discriminator.ofHost_eq_iff, ?_⟩
  intro first second sameOrder different requests others issued other served otherServed
  have apart : issued.nativeForm first.order ≠ other.nativeForm second.order := by
    intro same
    apply different
    rw [← discriminator_of_served served, ← discriminator_of_served otherServed, same]
  refine ⟨?_, apart⟩
  rintro rfl
  rw [sameOrder] at apart
  exact apart rfl

/-- Two processes of one host, the second without a number, issue for the same ticks and with serial
numbers that agree, as the second count wraps at 32 bits. -/
theorem processes_never_collide_past_wrap :
    let host := "db-01"
    let first : Generator :=
      { order := .sqlServer, discriminator := .ofHost host (some 0x12345), count := 0xffffff }
    let second : Generator :=
      { order := .sqlServer, discriminator := .ofHost host none, count := 0xffffffff }
    first.discriminator = .ofHost host (some 0x2345) ∧
      first.discriminator ≠ second.discriminator ∧
      (first.issue Ticks.unixEpoch).1 ≠ (second.issue Ticks.unixEpoch).1 := by
  intro host first second
  obtain ⟨processes, generators⟩ := processes_never_collide
  have different : first.discriminator ≠ second.discriminator := by
    intro same
    exact absurd ((processes host (some 0x12345) none).mp same) (by decide)
  refine ⟨(processes host (some 0x12345) (some 0x2345)).mpr (by decide), different, ?_⟩
  intro same
  let requests : List Request := [.ofTicks Ticks.unixEpoch]
  have served : .ok (.guid (first.issue Ticks.unixEpoch).1) ∈ (first.serveAll requests).1 :=
    List.mem_singleton.mpr rfl
  have otherServed : .ok (.guid (second.issue Ticks.unixEpoch).1) ∈ (second.serveAll requests).1 :=
    List.mem_singleton.mpr rfl
  have apart := generators first second rfl different requests requests _ _ served otherServed
  exact apart.1 (congrArg Issued.guid same)

end Generator

end TimeOrderedGuid
