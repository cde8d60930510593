import TimeOrderedGuid.Proofs.Order
import TimeOrderedGuid.Proofs.TextForm

namespace TimeOrderedGuid

/-- Comparisons by equality and precedence come out alike where these do. -/
theorem compareOfLessAndEq_congr {Item View : Type} [LT Item] [DecidableEq Item] [LT View]
    [DecidableEq View] {first second : Item} {firstView secondView : View}
    [Decidable (first < second)] [Decidable (firstView < secondView)]
    (precedes : first < second ↔ firstView < secondView)
    (same : first = second ↔ firstView = secondView) :
    compareOfLessAndEq first second = compareOfLessAndEq firstView secondView := by
  simp only [compareOfLessAndEq, precedes, same]

namespace Listing

variable {Item View : Type} [Ord Item] [Ord View] {first second : List Item}

theorem compare_append_append (sameLength : first.length = second.length)
    (firstRest secondRest : List Item) :
    compare (first ++ firstRest) (second ++ secondRest) =
      (compare first second).then (compare firstRest secondRest) := by
  induction first generalizing second with
  | nil =>
    rw [List.length_eq_zero_iff.mp sameLength.symm]
    rfl
  | cons item first ih =>
    cases second with
    | nil => cases sameLength
    | cons other second =>
      have tails : first.length = second.length := Nat.succ.inj sameLength
      rw [List.cons_append, List.cons_append, List.compare_cons_cons, List.compare_cons_cons,
        ih tails, Ordering.then_assoc]

theorem compare_map_map {view : Item → View}
    (kept : ∀ item ∈ first, ∀ other ∈ second,
      compare (view item) (view other) = compare item other) :
    compare (first.map view) (second.map view) = compare first second := by
  induction first generalizing second with
  | nil => cases second <;> rfl
  | cons item first ih =>
    cases second with
    | nil => rfl
    | cons other second =>
      have heads := kept item List.mem_cons_self other List.mem_cons_self
      have tails := ih fun item member other otherMember =>
        kept item (List.mem_cons_of_mem _ member) other (List.mem_cons_of_mem _ otherMember)
      rw [List.map_cons, List.map_cons, List.compare_cons_cons, List.compare_cons_cons, heads,
        tails]

end Listing

namespace Hex

theorem compare_digit (first second : Fin 16) :
    compare (digit first) (digit second) = compare first second := by
  revert first second
  decide

theorem compare_toNat (first second : UInt8) :
    compare first.toNat second.toNat = compare first second :=
  compareOfLessAndEq_congr UInt8.lt_iff_toNat_lt.symm UInt8.toNat_inj

theorem compare_halves (first second : UInt8) :
    (compare (highHalf first) (highHalf second)).then
      (compare (lowHalf first) (lowHalf second)) = compare first second := by
  rw [← compare_toNat]
  change (compare (first.toNat / 16) (second.toNat / 16)).then
    (compare (first.toNat % 16) (second.toNat % 16)) = _
  rcases Nat.lt_trichotomy (first.toNat / 16) (second.toNat / 16) with less | high | more
  · have before : first.toNat < second.toNat := by omega
    rw [Nat.compare_eq_lt.mpr less, Nat.compare_eq_lt.mpr before]
    rfl
  · rw [Nat.compare_eq_eq.mpr high, Ordering.eq_then]
    rcases Nat.lt_trichotomy (first.toNat % 16) (second.toNat % 16) with less | low | more
    · have before : first.toNat < second.toNat := by omega
      rw [Nat.compare_eq_lt.mpr less, Nat.compare_eq_lt.mpr before]
    · have equal : first.toNat = second.toNat := by omega
      rw [Nat.compare_eq_eq.mpr low, Nat.compare_eq_eq.mpr equal]
    · have behind : second.toNat < first.toNat := by omega
      rw [Nat.compare_eq_gt.mpr more, Nat.compare_eq_gt.mpr behind]
  · have behind : second.toNat < first.toNat := by omega
    rw [Nat.compare_eq_gt.mpr more, Nat.compare_eq_gt.mpr behind]
    rfl

theorem compare_ofBytes {first second : List UInt8} (sameLength : first.length = second.length) :
    compare (ofBytes first) (ofBytes second) = compare first second := by
  induction first generalizing second with
  | nil =>
    rw [List.length_eq_zero_iff.mp sameLength.symm]
    rfl
  | cons byte first ih =>
    cases second with
    | nil => cases sameLength
    | cons other second =>
      have tails : first.length = second.length := Nat.succ.inj sameLength
      rw [ofBytes_cons, ofBytes_cons, List.compare_cons_cons, List.compare_cons_cons,
        List.compare_cons_cons, compare_digit, compare_digit, ih tails, ← Ordering.then_assoc,
        compare_halves]

theorem ascii_of_mem_ofBytes {character : Char} {bytes : List UInt8}
    (member : character ∈ ofBytes bytes) : character.val ≤ 127 := by
  have ascii (half : Fin 16) : (digit half).val ≤ 127 := by
    revert half
    decide
  obtain ⟨byte, -, inPair⟩ := List.mem_flatMap.mp member
  rcases List.mem_cons.mp inPair with rfl | inRest
  · exact ascii (highHalf byte)
  · rw [List.mem_singleton.mp inRest]
    exact ascii (lowHalf byte)

end Hex

namespace Guid.Text

/-- Bytes that fill the groups are written in the order in which they compare. -/
theorem compare_writeGroups {widths : List Nat} {first second : List UInt8}
    (firstLength : first.length = widths.sum) (secondLength : second.length = widths.sum) :
    compare (writeGroups widths first) (writeGroups widths second) = compare first second := by
  induction widths generalizing first second with
  | nil =>
    rw [List.length_eq_zero_iff.mp firstLength, List.length_eq_zero_iff.mp secondLength]
    rfl
  | cons width widths ih =>
    rw [List.sum_cons] at firstLength secondLength
    have fronts : (first.take width).length = (second.take width).length := by
      rw [List.length_take, List.length_take, firstLength, secondLength]
    cases widths with
    | nil =>
      rw [List.sum_nil, Nat.add_zero] at firstLength secondLength
      rw [writeGroups, writeGroups, Hex.compare_ofBytes fronts,
        List.take_of_length_le (Nat.le_of_eq firstLength),
        List.take_of_length_le (Nat.le_of_eq secondLength)]
    | cons next widths =>
      -- Groups of one width put the hyphens behind them at one place, where they decide nothing.
      have digits : (Hex.ofBytes (first.take width)).length =
          (Hex.ofBytes (second.take width)).length := by
        rw [Hex.length_ofBytes, Hex.length_ofBytes, fronts]
      have firstRest : (first.drop width).length = (next :: widths).sum := by
        rw [List.length_drop]
        omega
      have secondRest : (second.drop width).length = (next :: widths).sum := by
        rw [List.length_drop]
        omega
      rw [writeGroups_cons_cons, writeGroups_cons_cons, Listing.compare_append_append digits,
        List.compare_cons_cons, Std.ReflOrd.compare_self, Ordering.eq_then,
        ih firstRest secondRest, Hex.compare_ofBytes fronts,
        ← Listing.compare_append_append fronts, List.take_append_drop, List.take_append_drop]

theorem ascii_of_mem_writeGroups {character : Char} {widths : List Nat} {bytes : List UInt8}
    (member : character ∈ writeGroups widths bytes) : character.val ≤ 127 := by
  induction widths generalizing bytes with
  | nil => cases member
  | cons width widths ih =>
    cases widths with
    | nil => exact Hex.ascii_of_mem_ofBytes member
    | cons next widths =>
      rw [writeGroups_cons_cons, List.mem_append, List.mem_cons] at member
      rcases member with inGroup | rfl | inRest
      · exact Hex.ascii_of_mem_ofBytes inGroup
      · decide
      · exact ih inRest

theorem compare_eq_compare_toList (first second : String) :
    compare first second = compare first.toList second.toList := by
  have precedes {first second : List Char} : compare first second = .lt ↔ first < second := by
    induction first generalizing second with
    | nil => cases second <;> simp
    | cons character first ih =>
      cases second with
      | nil => simp
      | cons other second =>
        rw [List.compare_cons_cons, Ordering.then_eq_lt, List.cons_lt_cons_iff, ih,
          Std.LawfulEqCmp.compare_eq_iff_eq]
        exact or_congr_left compareOfLessAndEq_eq_lt
  have lawful : Std.LawfulLTOrd (List Char) := { eq_lt_iff_lt := precedes }
  have lists : compare first.toList second.toList =
      compareOfLessAndEq first.toList second.toList := Std.LawfulLTCmp.eq_compareOfLessAndEq _ _
  rw [lists]
  exact compareOfLessAndEq_congr Iff.rfl String.toList_inj.symm

/-- Each ASCII character takes up one byte, which is its code point. -/
theorem utf8_of_ascii {characters : List Char}
    (ascii : ∀ character ∈ characters, character.val ≤ 127) :
    (String.ofList characters).toUTF8.data.toList =
      characters.map fun character => character.val.toUInt8 := by
  have encoded : characters.flatMap String.utf8EncodeChar =
      characters.map fun character => character.val.toUInt8 := by
    induction characters with
    | nil => rfl
    | cons character characters ih =>
      have single : character.utf8Size = 1 :=
        Char.utf8Size_eq_one_iff.mpr (ascii character List.mem_cons_self)
      have rest := ih fun other member => ascii other (List.mem_cons_of_mem _ member)
      rw [List.flatMap_cons, String.utf8EncodeChar_eq_singleton single, rest, List.map_cons,
        List.singleton_append]
  rw [String.toUTF8, String.toByteArray_ofList, List.utf8Encode, List.data_toByteArray, encoded]

theorem compare_codes {first second : Char} (firstAscii : first.val ≤ 127)
    (secondAscii : second.val ≤ 127) :
    compare first.val.toUInt8 second.val.toUInt8 = compare first second := by
  have firstSmall : first.val.toNat ≤ 127 := UInt32.le_iff_toNat_le.mp firstAscii
  have secondSmall : second.val.toNat ≤ 127 := UInt32.le_iff_toNat_le.mp secondAscii
  refine compareOfLessAndEq_congr ?_ ?_
  · rw [UInt8.lt_iff_toNat_lt, Char.lt_def, UInt32.lt_iff_toNat_lt, UInt32.toNat_toUInt8,
      UInt32.toNat_toUInt8]
    omega
  · rw [← UInt8.toNat_inj, ← Char.val_inj, ← UInt32.toNat_inj, UInt32.toNat_toUInt8,
      UInt32.toNat_toUInt8]
    omega

end Guid.Text

namespace Guid

theorem toList_text (guid : Guid) :
    guid.text.toList = Text.writeGroups Text.groupWidths guid.bytes.toList := String.toList_ofList

theorem compare_toList_text (first second : Guid) :
    compare first.text.toList second.text.toList = compare first second := by
  have filled (guid : Guid) : guid.bytes.toList.length = Text.groupWidths.sum :=
    guid.bytes.length_toList
  rw [toList_text, toList_text, Text.compare_writeGroups (filled first) (filled second),
    compare_eq, Vector.compare_eq_compare_toList]

/-- The number, the bytes and the text of identifiers in native order compare as they do; the text
does so by its characters and by the bytes that encode them. -/
theorem views_compare_alike (first second : Guid) :
    compare first second = compare first.toNat second.toNat ∧
      compare first second = compare first.bytes.toList second.bytes.toList ∧
      compare first second = compare first.text second.text ∧
      compare first second =
        compare first.text.toUTF8.data.toList second.text.toUTF8.data.toList := by
  refine ⟨compare_eq_compare_toNat first second, Vector.compare_eq_compare_toList, ?_, ?_⟩
  · rw [Text.compare_eq_compare_toList, compare_toList_text]
  · have ascii (guid : Guid) : ∀ character ∈ Text.writeGroups Text.groupWidths guid.bytes.toList,
        character.val ≤ 127 := fun _ => Text.ascii_of_mem_writeGroups
    rw [text, text, Text.utf8_of_ascii (ascii first), Text.utf8_of_ascii (ascii second),
      Listing.compare_map_map, ← toList_text, ← toList_text, compare_toList_text]
    intro character member other otherMember
    exact Text.compare_codes (ascii first character member) (ascii second other otherMember)

end Guid

end TimeOrderedGuid
