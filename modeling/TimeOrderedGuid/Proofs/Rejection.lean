import Mathlib.Data.Int.Interval
import Mathlib.Data.Set.Card
import TimeOrderedGuid.Proofs.Misreading

/-! How many identifiers carry nothing. Each reading takes one half of an identifier, and every half
spells ticks of its own, so that the two readings of all identifiers run through all pairs of ticks.
An identifier is rejected if both of its readings lie outside the window. -/

namespace TimeOrderedGuid

namespace Bytes

theorem gather_bijective {length : Nat} {there : Vector (Fin length) length}
    (back : Vector (Fin length) length)
    (returns : ∀ place : Fin length, there.get (back.get place) = place)
    (departs : ∀ place : Fin length, back.get (there.get place) = place) :
    Function.Bijective fun bytes : Bytes length => bytes.gather there := by
  apply Function.bijective_iff_has_inverse.mpr
  exact ⟨fun bytes => bytes.gather back, gather_gather_cancel returns, gather_gather_cancel departs⟩

end Bytes

namespace Ticks

theorem spelledBy_bijective : Function.Bijective spelledBy := by
  constructor
  · intro first second same
    have bits := congrArg Ticks.bits same
    rw [bits_spelledBy, bits_spelledBy] at bits
    exact Bytes.toNat_injective bits
  · intro ticks
    refine ⟨Bytes.ofNat 8 ticks.bits, bits_injective ?_⟩
    rw [bits_spelledBy, Bytes.toNat_ofNat]
    exact Nat.mod_eq_of_lt ticks.bits_lt

theorem ncard_between {low high : Int} (lowInRange : -0x8000000000000000 ≤ low)
    (highInRange : high < 0x8000000000000000) :
    {ticks : Ticks | low ≤ ticks.toInt ∧ ticks.toInt ≤ high}.ncard = (high + 1 - low).toNat := by
  have injective : Function.Injective toInt := fun _ _ same => Ticks.ext same
  have reached : (Finset.Icc low high : Set Int) ⊆ Set.range toInt := by
    intro count inside
    rw [Finset.mem_coe, Finset.mem_Icc] at inside
    refine ⟨saturate count, ?_⟩
    rw [toInt_saturate]
    omega
  have preimage : {ticks : Ticks | low ≤ ticks.toInt ∧ ticks.toInt ≤ high} =
      Set.preimage toInt (Finset.Icc low high) := by
    ext ticks
    rw [Set.mem_ofPred_eq, Set.mem_preimage, Finset.mem_coe, Finset.mem_Icc]
  rw [preimage, Set.ncard_preimage_of_injective_subset_range injective reached,
    Set.ncard_coe_finset, Int.card_Icc]

theorem ncard_univ : (Set.univ : Set Ticks).ncard = 2 ^ 64 := by
  have all : (Set.univ : Set Ticks) =
      {ticks | -0x8000000000000000 ≤ ticks.toInt ∧ ticks.toInt ≤ 0x7fffffffffffffff} := by
    ext ticks
    have bounds := ticks.toInt_bounds
    rw [Set.mem_ofPred_eq]
    exact iff_of_true trivial (by omega)
  rw [all, ncard_between (by decide) (by decide)]
  rfl

/-- Outside the window are all ticks but those from 1970 to the present; a window that ends before
1970 is empty. -/
theorem ncard_outside (now : Ticks) :
    ({ticks : Ticks | ¬ ticks.InWindow now}.ncard : Int) =
      2 ^ 64 - max 0 (now.toInt - unixEpoch.toInt + 1) := by
  have finite : (Set.univ : Set Ticks).Finite := by
    apply Set.finite_of_ncard_ne_zero
    rw [ncard_univ]
    decide
  have nowBounds := now.toInt_bounds
  have epochBounds := unixEpoch.toInt_bounds
  have inside : {ticks : Ticks | ticks.InWindow now}.ncard =
      (now.toInt + 1 - unixEpoch.toInt).toNat := ncard_between epochBounds.1 nowBounds.2
  have parts := Set.ncard_add_ncard_compl {ticks : Ticks | ticks.InWindow now}
    (finite.subset (Set.subset_univ _)) (finite.subset (Set.subset_univ _))
  rw [inside, ← Set.ncard_univ, ncard_univ, Set.compl_ofPred] at parts
  omega

end Ticks

namespace Guid

/-- The second half of an identifier holds what the SQL Server reading takes for ticks. -/
theorem sqlServerReading_eq_strayTicks (guid : Guid) :
    guid.sqlServerReading = SortOrder.native.strayTicks (guid.bytes.slice 8 8) := by
  have halves := Bytes.join_slice guid.bytes (rfl : 8 + 8 = 16) (by decide) (by decide)
  have behind : guid.bytes.gather #v[10, 11, 12, 13, 14, 15, 8, 9] =
      (guid.bytes.slice 8 8).gather #v[2, 3, 4, 5, 6, 7, 0, 1] := by
    conv_lhs => rw [← halves]
    exact Bytes.gather_join_behind _ _ _ (by decide)
  rw [sqlServerReading_eq_spelledBy, behind]
  rfl

def readings (guid : Guid) : Ticks × Ticks := (guid.nativeReading, guid.sqlServerReading)

end Guid

theorem SortOrder.strayTicks_native_bijective : Function.Bijective SortOrder.native.strayTicks :=
  Ticks.spelledBy_bijective.comp
    (Bytes.gather_bijective #v[6, 7, 0, 1, 2, 3, 4, 5] (by decide) (by decide))

namespace Guid

/-- Every two counts of ticks are the readings of exactly one identifier. -/
theorem readings_bijective : Function.Bijective readings := by
  constructor
  · intro first second same
    have native := congrArg Prod.fst same
    have sqlServer := congrArg Prod.snd same
    simp only [readings, nativeReading_eq_spelledBy,
      sqlServerReading_eq_strayTicks] at native sqlServer
    have fronts := Ticks.spelledBy_bijective.injective native
    have backs := SortOrder.strayTicks_native_bijective.injective sqlServer
    apply Guid.ext
    rw [← Bytes.join_slice first.bytes (rfl : 8 + 8 = 16) (by decide) (by decide), fronts, backs,
      Bytes.join_slice second.bytes (rfl : 8 + 8 = 16)]
  · rintro ⟨native, sqlServer⟩
    obtain ⟨front, rfl⟩ := Ticks.spelledBy_bijective.surjective native
    obtain ⟨back, rfl⟩ := SortOrder.strayTicks_native_bijective.surjective sqlServer
    refine ⟨⟨Bytes.join front back⟩, ?_⟩
    rw [readings, nativeReading_eq_spelledBy, sqlServerReading_eq_strayTicks,
      Bytes.slice_join_head, Bytes.slice_join_tail]

theorem ncard_readings (native sqlServer : Set Ticks) :
    {guid : Guid | guid.nativeReading ∈ native ∧ guid.sqlServerReading ∈ sqlServer}.ncard =
      native.ncard * sqlServer.ncard := by
  have reached : native ×ˢ sqlServer ⊆ Set.range readings := by
    rw [readings_bijective.surjective.range_eq]
    exact Set.subset_univ _
  rw [← Set.ncard_prod,
    ← Set.ncard_preimage_of_injective_subset_range readings_bijective.injective reached]
  rfl

theorem ncard_univ : (Set.univ : Set Guid).ncard = 2 ^ 128 := by
  have all := ncard_readings Set.univ Set.univ
  rw [Ticks.ncard_univ] at all
  simpa only [Set.mem_univ, and_self, Set.ofPred_true, ← Nat.pow_add] using all

/-- The two readings take one half of an identifier each, and each half runs through all ticks. An
identifier is rejected exactly if both readings lie outside the window, which settles how many of
all identifiers are. -/
theorem rejected_at_exact_rate (now : Ticks) :
    (Function.Bijective Ticks.spelledBy ∧ Function.Bijective SortOrder.native.strayTicks ∧
      ∀ guid : Guid,
        guid.nativeReading = Ticks.spelledBy (guid.bytes.slice 0 8) ∧
          guid.sqlServerReading = SortOrder.native.strayTicks (guid.bytes.slice 8 8)) ∧
    (∀ guid : Guid, guid.ticksAt now = none ↔
      ¬ guid.nativeReading.InWindow now ∧ ¬ guid.sqlServerReading.InWindow now) ∧
    (Set.univ : Set Guid).ncard = 2 ^ 128 ∧
    ({guid : Guid | guid.ticksAt now = none}.ncard : Int) =
      (2 ^ 64 - max 0 (now.toInt - Ticks.unixEpoch.toInt + 1)) ^ 2 := by
  refine ⟨⟨Ticks.spelledBy_bijective, SortOrder.strayTicks_native_bijective, ?_⟩,
    fun _ => ticksAt_eq_none_iff, ncard_univ, ?_⟩
  · intro guid
    exact ⟨guid.nativeReading_eq_spelledBy, guid.sqlServerReading_eq_strayTicks⟩
  · have rejected : {guid : Guid | guid.ticksAt now = none} =
        {guid | guid.nativeReading ∈ {ticks : Ticks | ¬ ticks.InWindow now} ∧
          guid.sqlServerReading ∈ {ticks : Ticks | ¬ ticks.InWindow now}} := by
      ext guid
      exact ticksAt_eq_none_iff
    rw [rejected, ncard_readings, Nat.cast_mul, Ticks.ncard_outside, sq]

end Guid

end TimeOrderedGuid
