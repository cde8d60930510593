import TimeOrderedGuid.Proofs.Reading

/-! What an identifier carries while the clock advances. The window only grows, so that a reading in
it stays there. An identifier therefore never loses ticks that it carries. It may exchange them
once, when the clock passes its native reading, which goes before the other one from then on. -/

namespace TimeOrderedGuid

namespace Ticks

variable {ticks earlier later : Ticks}

theorem InWindow.kept (inWindow : ticks.InWindow earlier) (notBefore : earlier ≤ later) :
    ticks.InWindow later :=
  ⟨inWindow.1, inWindow.2.trans notBefore⟩

theorem InWindow.passed (inWindow : ticks.InWindow later) (outside : ¬ ticks.InWindow earlier) :
    earlier < ticks ∧ ticks ≤ later := by
  refine ⟨?_, inWindow.2⟩
  by_contra notAfter
  exact outside ⟨inWindow.1, not_lt.mp notAfter⟩

end Ticks

namespace Guid

variable {guid : Guid} {earlier later : Ticks}

theorem isSome_ticksAt_iff {now : Ticks} :
    (guid.ticksAt now).isSome ↔
      guid.nativeReading.InWindow now ∨ guid.sqlServerReading.InWindow now := by
  rw [Option.isSome_iff_ne_none, ne_eq, ticksAt_eq_none_iff, not_and_or, not_not, not_not]

theorem isSome_ticksAt_later (notBefore : earlier ≤ later)
    (present : (guid.ticksAt earlier).isSome) : (guid.ticksAt later).isSome := by
  rw [isSome_ticksAt_iff] at present ⊢
  rcases present with native | sqlServer
  · exact .inl (native.kept notBefore)
  · exact .inr (sqlServer.kept notBefore)

/-- Ticks give way to others only when the clock passes the native reading. They are those of the
SQL Server reading. -/
theorem ticksAt_exchanged {first second : Ticks} (notBefore : earlier ≤ later)
    (before : guid.ticksAt earlier = some first) (after : guid.ticksAt later = some second)
    (different : first ≠ second) :
    (earlier < guid.nativeReading ∧ guid.nativeReading ≤ later) ∧
      first = guid.sqlServerReading ∧ second = guid.nativeReading := by
  obtain ⟨firstInWindow, readBefore⟩ := ticksAt_eq_some_iff.mp before
  obtain ⟨secondInWindow, readAfter⟩ := ticksAt_eq_some_iff.mp after
  rcases readBefore with rfl | ⟨rfl, outside⟩
  · -- The native reading stays in the window and goes first, so that nothing takes its place.
    have stays := ticksAt_of_nativeReading (firstInWindow.kept notBefore)
    exact absurd (Option.some.inj (stays.symm.trans after)) different
  · rcases readAfter with rfl | ⟨same, -⟩
    · exact ⟨secondInWindow.passed outside, rfl, rfl⟩
    · exact absurd same different

/-- As the clock makes a step, ticks that an identifier carries give way to something else. -/
def ChangesAt (guid : Guid) (clock : Nat → Ticks) (step : Nat) : Prop :=
  (guid.ticksAt (clock step)).isSome ∧
    guid.ticksAt (clock (step + 1)) ≠ guid.ticksAt (clock step)

theorem ChangesAt.passes {clock : Nat → Ticks} {step : Nat} (changes : guid.ChangesAt clock step)
    (notBefore : clock step ≤ clock (step + 1)) :
    clock step < guid.nativeReading ∧ guid.nativeReading ≤ clock (step + 1) := by
  obtain ⟨present, gaveWay⟩ := changes
  obtain ⟨first, before⟩ := Option.isSome_iff_exists.mp present
  obtain ⟨second, after⟩ := Option.isSome_iff_exists.mp (isSome_ticksAt_later notBefore present)
  have different : first ≠ second := by
    rintro rfl
    exact gaveWay (after.trans before.symm)
  exact (ticksAt_exchanged notBefore before after different).1

theorem ChangesAt.not_before {clock : Nat → Ticks} (rises : ∀ step, clock step ≤ clock (step + 1))
    {step other : Nat} (changes : guid.ChangesAt clock step)
    (changesOther : guid.ChangesAt clock other) : ¬ step < other := by
  intro before
  have passed := (changes.passes (rises step)).2
  have notPassed := (changesOther.passes (rises other)).1
  have between : clock (step + 1) ≤ clock other := monotone_nat_of_le_succ rises before
  exact absurd (passed.trans between) (not_le.mpr notPassed)

/-- As the clock advances, an identifier that carries ticks does not lose them. If it exchanges
them, then the clock has passed its native reading, and that one takes the place of the SQL Server
reading. Along a clock that never goes back, an identifier therefore carries ticks from some step
on, if at all, and exchanges them in one step at most. -/
theorem ticksAt_settles (guid : Guid) :
    (∀ earlier later : Ticks, earlier ≤ later →
      ((guid.ticksAt earlier).isSome → (guid.ticksAt later).isSome) ∧
      ∀ first second, guid.ticksAt earlier = some first → guid.ticksAt later = some second →
        first ≠ second →
          (earlier < guid.nativeReading ∧ guid.nativeReading ≤ later) ∧
            first = guid.sqlServerReading ∧ second = guid.nativeReading) ∧
    ∀ clock : Nat → Ticks, (∀ step, clock step ≤ clock (step + 1)) →
      (∀ start step, start ≤ step →
        (guid.ticksAt (clock start)).isSome → (guid.ticksAt (clock step)).isSome) ∧
      {step | guid.ChangesAt clock step}.Subsingleton := by
  refine ⟨?_, ?_⟩
  · intro earlier later notBefore
    exact ⟨isSome_ticksAt_later notBefore, fun _ _ => ticksAt_exchanged notBefore⟩
  · intro clock rises
    refine ⟨?_, ?_⟩
    · intro start step notBefore
      exact isSome_ticksAt_later (monotone_nat_of_le_succ rises notBefore)
    · intro step changes other changesOther
      exact Nat.le_antisymm (Nat.not_lt.mp (changesOther.not_before rises changes))
        (Nat.not_lt.mp (changes.not_before rises changesOther))

/-- An identifier that carries nothing at first, then ticks of 1997, and from some moment in 2029 on
those of its native reading. -/
theorem ticksAt_settles_in_2029 :
    let guid : Guid := ⟨#v[8, 225, 188, 155, 245, 121, 127, 177, 97, 78, 8, 190, 53, 169, 129, 59]⟩
    let clock (step : Nat) : Ticks :=
      match step with
      | 0 => ⟨630000000012345677⟩
      | 1 => ⟨640000000087654320⟩
      | _ => ⟨640000000087654321⟩
    (∀ step, clock step ≤ clock (step + 1)) ∧ guid.ticksAt (clock 0) = none ∧
      guid.ticksAt (clock 1) = some ⟨630000000012345678⟩ ∧
      guid.ticksAt (clock 2) = some ⟨640000000087654321⟩ ∧
      ⟨630000000012345678⟩ = guid.sqlServerReading ∧ ⟨640000000087654321⟩ = guid.nativeReading ∧
      ∀ step, guid.ChangesAt clock step → step = 1 := by
  intro guid clock
  have rises : ∀ step, clock step ≤ clock (step + 1) := by
    intro step
    match step with
    | 0 => decide
    | 1 => decide
    | _ + 2 => exact Int.le_refl _
  have before : guid.ticksAt (clock 1) = some ⟨630000000012345678⟩ := by decide +kernel
  have after : guid.ticksAt (clock 2) = some ⟨640000000087654321⟩ := by decide +kernel
  obtain ⟨acrossClocks, alongClocks⟩ := ticksAt_settles guid
  obtain ⟨-, first, second⟩ :=
    (acrossClocks (clock 1) (clock 2) (rises 1)).2 _ _ before after (by decide)
  refine ⟨rises, by decide +kernel, before, after, first, second, ?_⟩
  intro step changes
  have changesInOne : guid.ChangesAt clock 1 := by
    unfold ChangesAt
    decide +kernel
  exact (alongClocks clock rises).2 changes changesInOne

end Guid

end TimeOrderedGuid
