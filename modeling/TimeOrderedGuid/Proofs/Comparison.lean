import Mathlib.Data.Finset.Card
import Mathlib.Data.Finset.Dedup
import TimeOrderedGuid.Guid.Listing
import TimeOrderedGuid.Proofs.Order

/-! The comparison of SQL Server is a linear order. It reads every byte of an identifier, so that it
tells apart what differs in any of them, and an ordered collection keeps as many identifiers as one
that goes by equality. The laws of the lists hold for any type with a lawful comparison. -/

namespace TimeOrderedGuid

namespace Listing

variable {Item : Type}

theorem nodup_eraseDups [BEq Item] [LawfulBEq Item] (items : List Item) :
    items.eraseDups.Nodup := by
  match items with
  | [] => exact .nil
  | first :: rest =>
    rw [List.eraseDups_cons, List.nodup_cons]
    refine ⟨?_, nodup_eraseDups (rest.filter fun other => !other == first)⟩
    intro member
    have different := (List.mem_filter.mp (List.mem_eraseDups.mp member)).2
    simp at different
termination_by items.length
decreasing_by exact Nat.lt_succ_of_le (List.length_filter_le _ rest)

theorem countUnequal_eq_card [BEq Item] [LawfulBEq Item] [DecidableEq Item] (items : List Item) :
    countUnequal items = items.toFinset.card := by
  have members : items.eraseDups.toFinset = items.toFinset := by
    ext item
    rw [List.mem_toFinset, List.mem_toFinset, List.mem_eraseDups]
  rw [countUnequal, ← members, List.toFinset_card_of_nodup (nodup_eraseDups items)]

variable [Ord Item]

theorem mem_sorted {item : Item} {items : List Item} : item ∈ sorted items ↔ item ∈ items :=
  List.mem_mergeSort

theorem sorted_ascends [Std.TransOrd Item] (items : List Item) :
    (sorted items).Pairwise fun first second => (compare first second).isLE := by
  apply List.pairwise_mergeSort
  · intro first second third
    exact Std.TransCmp.isLE_trans
  · intro first second
    have swapped : compare second first = (compare first second).swap := Std.OrientedCmp.eq_swap
    rw [swapped]
    cases compare first second <;> rfl

variable [Std.LawfulEqOrd Item]

/-- A dropped item is equal to the one after it, which stays. -/
theorem mem_dropRepeats {item : Item} {items : List Item} :
    item ∈ dropRepeats items ↔ item ∈ items := by
  induction items with
  | nil => exact Iff.rfl
  | cons first rest ih =>
    cases rest with
    | nil => exact Iff.rfl
    | cons second rest =>
      rw [dropRepeats]
      split
      · rename_i same
        have equal : first = second :=
          Std.LawfulEqCmp.eq_of_compare (Ordering.isEq_iff_eq_eq.mp same)
        rw [ih, equal]
        simp
      · rw [List.mem_cons, ih, ← List.mem_cons]

theorem dropRepeats_ascends [Std.TransOrd Item] {items : List Item}
    (ascends : items.Pairwise fun first second => (compare first second).isLE) :
    (dropRepeats items).Pairwise fun first second => compare first second = .lt := by
  induction items with
  | nil => exact .nil
  | cons first rest ih =>
    obtain ⟨least, ascendsRest⟩ := List.pairwise_cons.mp ascends
    cases rest with
    | nil => exact List.pairwise_singleton _ _
    | cons second rest =>
      rw [dropRepeats]
      split
      · exact ih ascendsRest
      · rename_i different
        have before : compare first second = .lt := by
          have notAfter := least second List.mem_cons_self
          cases outcome : compare first second with
          | lt => rfl
          | eq => simp [outcome] at different
          | gt => simp [outcome] at notAfter
        -- What stays is before its neighbour, and the neighbour is not after the rest.
        refine List.pairwise_cons.mpr ⟨?_, ih ascendsRest⟩
        intro item member
        rcases List.mem_cons.mp (mem_dropRepeats.mp member) with rfl | later
        · exact before
        · have notAfter := (List.pairwise_cons.mp ascendsRest).1 item later
          exact Std.TransCmp.lt_of_lt_of_isLE before notAfter

theorem countDistinct_eq_card [Std.TransOrd Item] [DecidableEq Item] (items : List Item) :
    countDistinct items = items.toFinset.card := by
  have nodup : (dropRepeats (sorted items)).Nodup := by
    refine (dropRepeats_ascends (sorted_ascends items)).imp ?_
    rintro first _ before rfl
    rw [Std.ReflOrd.compare_self] at before
    cases before
  have members : (dropRepeats (sorted items)).toFinset = items.toFinset := by
    ext item
    rw [List.mem_toFinset, List.mem_toFinset, mem_dropRepeats, mem_sorted]
  rw [countDistinct, ← members, List.toFinset_card_of_nodup nodup]

end Listing

namespace SqlGuid

/-- No byte is left out of the comparison. -/
theorem sortKey_injective {first second : SqlGuid} (same : first.sortKey = second.sortKey) :
    first = second := by
  have converted : first.toGuid = second.toGuid := by
    apply Guid.ext
    rw [bytes_toGuid, bytes_toGuid, same]
  rw [← first.toSqlGuid_toGuid, converted, toSqlGuid_toGuid]

instance : Std.TransOrd SqlGuid := inferInstanceAs (Std.TransCmp (compareOn sortKey))

instance : Std.LawfulEqOrd SqlGuid where
  compare_self := by
    intro sqlGuid
    rw [compare_eq]
    exact Std.ReflCmp.compare_self
  eq_of_compare := by
    intro first second same
    rw [compare_eq] at same
    exact sortKey_injective (Std.LawfulEqCmp.eq_of_compare same)

theorem lt_iff_partialCompare? {first second : SqlGuid} :
    first < second ↔ first.partialCompare? second = some .lt := by
  rw [partialCompare?, Option.some_inj]
  exact Iff.rfl

theorem le_iff_partialCompare? {first second : SqlGuid} :
    first ≤ second ↔
      first.partialCompare? second = some .lt ∨ first.partialCompare? second = some .eq := by
  rw [partialCompare?, Option.some_inj, Option.some_inj]
  change (compare first second).isLE ↔ _
  cases compare first second <;> decide

/-- Identifiers of SQL Server compare by their bytes in text order, taken from the last group to the
first and, in the last two groups alone, from left to right. This is a linear order under which only
equal identifiers are equal, and all that compares them agrees. The identifiers of a list that
differ under it are therefore as many as those that differ. -/
theorem comparison_lawful :
    let significance : ByteTable := #v[10, 11, 12, 13, 14, 15, 8, 9, 7, 6, 5, 4, 3, 2, 1, 0]
    (∀ first second : SqlGuid,
      compare first second =
        compare (first.guid.bytes.gather significance).toList
          (second.guid.bytes.gather significance).toList) ∧
    Std.IsLinearOrder SqlGuid ∧
    (∀ first second : SqlGuid,
      compare second first = (compare first second).swap ∧
      (compare first second = .eq ↔ first = second) ∧
      first.partialCompare? second = some (compare first second) ∧
      (first < second ↔ first.partialCompare? second = some .lt) ∧
      (first ≤ second ↔
        first.partialCompare? second = some .lt ∨ first.partialCompare? second = some .eq)) ∧
    ∀ items : List SqlGuid,
      Listing.countDistinct items = Listing.countUnequal items ∧
        Listing.countUnequal items = items.toFinset.card := by
  intro significance
  refine ⟨?_, .of_ord, ?_, ?_⟩
  · intro first second
    have key (sqlGuid : SqlGuid) : sqlGuid.sortKey = sqlGuid.guid.bytes.gather significance :=
      ByteTable.gather_gather_eq (by decide) sqlGuid.guid.bytes
    rw [compare_eq, key, key, Vector.compare_eq_compare_toList]
  · intro first second
    exact ⟨Std.OrientedCmp.eq_swap, Std.LawfulEqCmp.compare_eq_iff_eq, rfl,
      lt_iff_partialCompare?, le_iff_partialCompare?⟩
  · intro items
    refine ⟨?_, Listing.countUnequal_eq_card items⟩
    rw [Listing.countDistinct_eq_card, Listing.countUnequal_eq_card]

end SqlGuid

end TimeOrderedGuid
