import Mathlib.Tactic.IntervalCases
import TimeOrderedGuid.Guid.Text

/-! The texts that stand for an identifier. Writing gives one of them; reading accepts it, and
besides it only the texts that differ from it in the case of digits. -/

namespace TimeOrderedGuid

namespace Hex

/-- Brings the letters among the digits to lowercase, and leaves every other character. -/
def lowered : Char → Char
  | 'A' => 'a'
  | 'B' => 'b'
  | 'C' => 'c'
  | 'D' => 'd'
  | 'E' => 'e'
  | 'F' => 'f'
  | character => character

theorem lowered_eq_hyphen_iff {character : Char} : lowered character = '-' ↔ character = '-' := by
  unfold lowered
  split
  case h_7 => rfl
  all_goals decide

/-- Whether all letters are lowered or only those up to `F`, the same characters become digits. -/
theorem digit_eq_toLower_iff {half : Fin 16} {character : Char} :
    digit half = character.toLower ↔ lowered character = digit half := by
  by_cases uppercase : 'A'.val ≤ character.val ∧ character.val ≤ 'Z'.val
  · -- Only finitely many characters are changed at all.
    have place : ∃ letter : Fin 26, character = Char.ofNat ('A'.toNat + letter.val) := by
      have notBefore : 'A'.toNat ≤ character.toNat := uppercase.1
      have notAfter : character.toNat ≤ 'Z'.toNat := uppercase.2
      have origin : 'A'.toNat = 65 := rfl
      have last : 'Z'.toNat = 90 := rfl
      refine ⟨⟨character.toNat - 'A'.toNat, by omega⟩, ?_⟩
      rw [Nat.add_sub_cancel' notBefore, Char.ofNat_toNat]
    obtain ⟨letter, rfl⟩ := place
    clear uppercase
    revert letter half
    decide
  · have unchanged : character.toLower = character := dif_neg uppercase
    have kept : lowered character = character := by
      unfold lowered
      split
      case h_7 => rfl
      all_goals exact absurd (by decide) uppercase
    rw [unchanged, kept]
    exact eq_comm

theorem digitValue?_eq_some_iff_lowered {character : Char} {half : Fin 16} :
    digitValue? character = some half ↔ lowered character = digit half :=
  digitValue?_eq_some_iff.trans digit_eq_toLower_iff

theorem byte?_eq_some_iff {high low : Char} {byte : UInt8} :
    byte? high low = some byte ↔ [lowered high, lowered low] = pair byte := by
  constructor
  · intro read
    obtain ⟨first, readFirst, rest⟩ := Option.bind_eq_some_iff.mp read
    obtain ⟨second, readSecond, same⟩ := Option.bind_eq_some_iff.mp rest
    cases same
    rw [pair, highHalf_ofNat, lowHalf_ofNat, digitValue?_eq_some_iff_lowered.mp readFirst,
      digitValue?_eq_some_iff_lowered.mp readSecond]
  · intro same
    injection same with first rest
    injection rest with second
    rw [byte?, digitValue?_eq_some_iff_lowered.mpr first,
      digitValue?_eq_some_iff_lowered.mpr second]
    exact congrArg some (ofNat_halves byte)

/-- A text is read as the bytes whose digits it consists of, in either case. -/
theorem toBytes?_eq_some_iff {text : List Char} {bytes : List UInt8} :
    toBytes? text = some bytes ↔ text.map lowered = ofBytes bytes := by
  fun_induction toBytes? text generalizing bytes with
  | case1 =>
    cases bytes with
    | nil => exact iff_of_true rfl rfl
    | cons byte bytes => exact iff_of_false nofun nofun
  | case2 character =>
    cases bytes with
    | nil => exact iff_of_false nofun nofun
    | cons byte bytes => simp [ofBytes_cons]
  | case3 high low rest ih =>
    rw [Option.bind_eq_bind, Option.bind_eq_some_iff]
    simp only [Option.bind_eq_bind, Option.bind_eq_some_iff, byte?_eq_some_iff, ih]
    constructor
    · rintro ⟨byte, digits, later, written, same⟩
      cases same
      rw [List.map_cons, List.map_cons, written]
      exact congrArg (· ++ ofBytes later) digits
    · intro written
      cases bytes with
      | nil => cases written
      | cons byte bytes =>
        injection written with first written
        injection written with second written
        exact ⟨byte, by rw [first, second]; rfl, bytes, written, rfl⟩

theorem lowered_digit (half : Fin 16) : lowered (digit half) = digit half := by
  revert half
  decide

theorem map_lowered_ofBytes (bytes : List UInt8) : (ofBytes bytes).map lowered = ofBytes bytes := by
  induction bytes with
  | nil => rfl
  | cons byte bytes ih => simp only [ofBytes_cons, List.map_cons, lowered_digit, ih]

end Hex

namespace Guid.Text

theorem writeGroups_cons_cons (width next : Nat) (widths : List Nat) (bytes : List UInt8) :
    writeGroups (width :: next :: widths) bytes =
      Hex.ofBytes (bytes.take width) ++ '-' :: writeGroups (next :: widths) (bytes.drop width) :=
  rfl

theorem map_lowered_writeGroups (widths : List Nat) (bytes : List UInt8) :
    (writeGroups widths bytes).map Hex.lowered = writeGroups widths bytes := by
  induction widths generalizing bytes with
  | nil => rfl
  | cons width widths ih =>
    cases widths with
    | nil => exact Hex.map_lowered_ofBytes _
    | cons next widths =>
      rw [writeGroups_cons_cons, List.map_append, List.map_cons, Hex.map_lowered_ofBytes, ih,
        Hex.lowered_eq_hyphen_iff.mpr rfl]

theorem readGroup?_eq_some_iff {width : Nat} {text rest : List Char} {bytes : List UInt8} :
    readGroup? width text = some (bytes, rest) ↔
      bytes.length = width ∧
        ∃ front, text = front ++ rest ∧ front.map Hex.lowered = Hex.ofBytes bytes := by
  rw [readGroup?, Option.bind_eq_bind, Option.bind_eq_some_iff]
  constructor
  · rintro ⟨group, read, ended⟩
    split at ended
    · rename_i length
      cases ended
      exact ⟨length, _, (List.take_append_drop _ text).symm, Hex.toBytes?_eq_some_iff.mp read⟩
    · cases ended
  · rintro ⟨rfl, front, rfl, written⟩
    have length : front.length = 2 * bytes.length := by
      rw [← Hex.length_ofBytes, ← written, List.length_map]
    refine ⟨bytes, ?_, ?_⟩
    · rw [List.take_left' length]
      exact Hex.toBytes?_eq_some_iff.mpr written
    · rw [if_pos rfl, List.drop_left' length]

theorem readGroups?_singleton {width : Nat} {text : List Char} {bytes : List UInt8} :
    readGroups? [width] text = some bytes ↔ readGroup? width text = some (bytes, []) := by
  rw [readGroups?, Option.bind_eq_bind, Option.bind_eq_some_iff]
  constructor
  · rintro ⟨⟨group, rest⟩, read, ended⟩
    cases rest with
    | nil =>
      cases ended
      exact read
    | cons character rest => cases ended
  · intro read
    exact ⟨(bytes, []), read, rfl⟩

theorem readGroups?_cons_cons {width next : Nat} {widths : List Nat} {text : List Char}
    {bytes : List UInt8} :
    readGroups? (width :: next :: widths) text = some bytes ↔
      ∃ group others rest, readGroup? width text = some (group, '-' :: rest) ∧
        readGroups? (next :: widths) rest = some others ∧ group ++ others = bytes := by
  constructor
  · intro read
    obtain ⟨⟨group, rest⟩, readFirst, read⟩ := Option.bind_eq_some_iff.mp read
    dsimp only at read
    split at read
    · rename_i rest
      obtain ⟨others, readOthers, same⟩ := Option.bind_eq_some_iff.mp read
      cases same
      exact ⟨group, others, rest, readFirst, readOthers, rfl⟩
    · cases read
  · rintro ⟨group, others, rest, readFirst, readOthers, rfl⟩
    simp only [readGroups?, readFirst, readOthers, Option.bind_eq_bind, Option.bind_some,
      Option.pure_def]

/-- Groups are read from the text that is written for their bytes, in either case, and from no
other text. -/
theorem readGroups?_eq_some_iff {widths : List Nat} {text : List Char} {bytes : List UInt8} :
    readGroups? widths text = some bytes ↔
      bytes.length = widths.sum ∧ text.map Hex.lowered = writeGroups widths bytes := by
  induction widths generalizing text bytes with
  | nil =>
    cases text with
    | nil => simp [readGroups?, writeGroups, eq_comm]
    | cons character text => simp [readGroups?, writeGroups]
  | cons width widths ih =>
    cases widths with
    | nil =>
      rw [readGroups?_singleton, readGroup?_eq_some_iff, List.sum_singleton, writeGroups]
      refine and_congr_right fun length => ?_
      rw [List.take_of_length_le (Nat.le_of_eq length)]
      simp
    | cons next widths =>
      rw [readGroups?_cons_cons]
      constructor
      · rintro ⟨group, others, rest, readFirst, readOthers, rfl⟩
        obtain ⟨rfl, front, rfl, written⟩ := readGroup?_eq_some_iff.mp readFirst
        obtain ⟨length, otherWritten⟩ := ih.mp readOthers
        refine ⟨?_, ?_⟩
        · rw [List.length_append, List.sum_cons, length]
        · rw [writeGroups_cons_cons, List.take_left, List.drop_left, ← written, ← otherWritten,
            List.map_append, List.map_cons, Hex.lowered_eq_hyphen_iff.mpr rfl]
      · rintro ⟨length, written⟩
        obtain ⟨front, back, rfl, frontWritten, backWritten⟩ := List.map_eq_append_iff.mp written
        obtain ⟨hyphen, rest, rfl, isHyphen, otherWritten⟩ := List.map_eq_cons_iff.mp backWritten
        rw [List.sum_cons] at length
        have firstLength : (bytes.take width).length = width := by
          rw [List.length_take]
          omega
        have otherLength : (bytes.drop width).length = (next :: widths).sum := by
          rw [List.length_drop]
          omega
        rw [Hex.lowered_eq_hyphen_iff.mp isHyphen]
        refine ⟨bytes.take width, bytes.drop width, rest, ?_, ih.mpr ⟨otherLength, otherWritten⟩,
          List.take_append_drop width bytes⟩
        exact readGroup?_eq_some_iff.mpr ⟨firstLength, front, rfl, frontWritten⟩

end Guid.Text

namespace Guid

theorem of_found_eq_ok_iff {Error : Type} {found : Option (Bytes 16)} {failure : Error}
    {guid : Guid} :
    (match found with
      | some bytes => Except.ok (Guid.mk bytes)
      | none => .error failure) = .ok guid ↔ found = some guid.bytes := by
  cases found with
  | none => exact iff_of_false nofun nofun
  | some bytes =>
    rw [Except.ok.injEq, Option.some_inj]
    exact ⟨congrArg Guid.bytes, Guid.ext⟩

theorem ofText_eq_ok_iff_readGroups? {text : String} {guid : Guid} :
    ofText text = .ok guid ↔
      Text.readGroups? Text.groupWidths text.toList = some guid.bytes.toList := by
  refine of_found_eq_ok_iff.trans ?_
  rw [Option.bind_eq_bind, Option.bind_eq_some_iff]
  simp only [Bytes.ofList?_eq_some_iff, exists_eq_right']

theorem ofText_eq_ok_iff {text : String} {guid : Guid} :
    ofText text = .ok guid ↔ text.map Hex.lowered = guid.text := by
  have length : guid.bytes.toList.length = Text.groupWidths.sum := by
    rw [Vector.length_toList]
    rfl
  rw [ofText_eq_ok_iff_readGroups?, Text.readGroups?_eq_some_iff, ← String.toList_inj,
    String.toList_map, Guid.text, String.toList_ofList]
  exact and_iff_right length

theorem ofText_text (guid : Guid) : ofText guid.text = .ok guid := by
  rw [ofText_eq_ok_iff, ← String.toList_inj, String.toList_map, text, String.toList_ofList,
    Text.map_lowered_writeGroups]

theorem ofText_eq_error_iff {text : String} :
    ofText text = .error .malformed ↔ ∀ guid : Guid, text.map Hex.lowered ≠ guid.text := by
  simp only [ne_eq, ← ofText_eq_ok_iff]
  cases ofText text with
  | ok guid => exact iff_of_false nofun fun never => never guid rfl
  | error error =>
    cases error
    exact iff_of_true rfl fun guid => nofun

def Text.hyphenPlaces : List Nat := [8, 13, 18, 23]

/-- The place of the first digit of the byte at an index, behind the digits of the bytes before it
and the hyphens behind the 4th, 6th, 8th and 10th byte. -/
def Text.digitPlace (index : Nat) : Nat := 2 * index + [4, 6, 8, 10].countP (· ≤ index)

/-- The written form: 36 characters, which are hyphens at their places and elsewhere the lowercase
digits of the bytes in order, the high half of each byte first. -/
structure WrittenForm (guid : Guid) (text : String) : Prop where
  length : text.length = 36
  hyphens : ∀ place ∈ Text.hyphenPlaces, text.toList[place]? = some '-'
  highDigits : ∀ index : Fin 16,
    text.toList[Text.digitPlace index]? =
      "0123456789abcdef".toList[guid.bytes[index].toNat / 16]?
  lowDigits : ∀ index : Fin 16,
    text.toList[Text.digitPlace index + 1]? =
      "0123456789abcdef".toList[guid.bytes[index].toNat % 16]?

theorem Text.place_cases : ∀ place < 36, place ∈ hyphenPlaces ∨
    ∃ index : Fin 16, place = digitPlace index ∨ place = digitPlace index + 1 := by
  decide

theorem WrittenForm.unique {guid : Guid} {first second : String}
    (written : guid.WrittenForm first) (other : guid.WrittenForm second) : first = second := by
  apply String.toList_inj.mp
  apply List.ext_getElem?
  intro place
  by_cases inside : place < 36
  · rcases Text.place_cases place inside with hyphen | ⟨index, rfl | rfl⟩
    · rw [written.hyphens place hyphen, other.hyphens place hyphen]
    · rw [written.highDigits index, other.highDigits index]
    · rw [written.lowDigits index, other.lowDigits index]
  · have firstLength := written.length
    have secondLength := other.length
    rw [← String.length_toList] at firstLength secondLength
    rw [List.getElem?_eq_none (by omega), List.getElem?_eq_none (by omega)]

theorem writtenForm_text (guid : Guid) : guid.WrittenForm guid.text := by
  have bytes : guid.bytes.toList = [guid.bytes[0], guid.bytes[1], guid.bytes[2], guid.bytes[3],
      guid.bytes[4], guid.bytes[5], guid.bytes[6], guid.bytes[7], guid.bytes[8], guid.bytes[9],
      guid.bytes[10], guid.bytes[11], guid.bytes[12], guid.bytes[13], guid.bytes[14],
      guid.bytes[15]] := by
    apply List.ext_getElem (by simp)
    intro place inside _
    have small : place < 16 := by simpa using inside
    interval_cases place <;> rfl
  have characters : guid.text.toList = Text.writeGroups Text.groupWidths guid.bytes.toList :=
    String.toList_ofList
  have digit (half : Fin 16) : "0123456789abcdef".toList[half.val]? = some (Hex.digit half) := by
    revert half
    decide
  rw [bytes] at characters
  constructor
  · rw [← String.length_toList, characters]
    rfl
  · intro place member
    simp only [Text.hyphenPlaces, List.mem_cons, List.not_mem_nil, or_false] at member
    rw [characters]
    rcases member with rfl | rfl | rfl | rfl <;> rfl
  · rintro ⟨index, inside⟩
    rw [characters]
    refine Eq.trans ?_ (digit (Hex.highHalf guid.bytes[index])).symm
    interval_cases index <;> rfl
  · rintro ⟨index, inside⟩
    rw [characters]
    refine Eq.trans ?_ (digit (Hex.lowHalf guid.bytes[index])).symm
    interval_cases index <;> rfl

theorem writtenForm_iff {guid : Guid} {text : String} :
    guid.WrittenForm text ↔ text = guid.text := by
  constructor
  · intro written
    exact written.unique guid.writtenForm_text
  · rintro rfl
    exact guid.writtenForm_text

end Guid

namespace SqlGuid

variable {Error : Type} {result : Except Error Guid}

theorem map_mk_eq_ok_iff {sqlGuid : SqlGuid} :
    result.map SqlGuid.mk = .ok sqlGuid ↔ result = .ok sqlGuid.guid := by
  cases result with
  | ok guid =>
    constructor
    · intro wrapped
      cases wrapped
      rfl
    · intro same
      cases same
      rfl
  | error error => exact iff_of_false nofun nofun

theorem map_mk_eq_error_iff {error : Error} :
    result.map SqlGuid.mk = .error error ↔ result = .error error := by
  cases result with
  | ok guid => exact iff_of_false nofun nofun
  | error other =>
    change Except.error other = Except.error error ↔ _
    rw [Except.error.injEq, Except.error.injEq]

end SqlGuid

/-- The text of an identifier is the one text of the written form, and is read as the identifier.
Any text is read as the identifier whose text it is once its digits are lowered, and refused if it
is no identifier's; identifiers of SQL Server are read from the same texts, with the same bytes. -/
theorem reads_exactly_written_texts :
    (∀ guid : Guid,
      (∀ text, guid.WrittenForm text ↔ text = guid.text) ∧ Guid.ofText guid.text = .ok guid) ∧
    ∀ text : String,
      (∀ guid, Guid.ofText text = .ok guid ↔ text.map Hex.lowered = guid.text) ∧
      (Guid.ofText text = .error .malformed ↔
        ∀ guid : Guid, text.map Hex.lowered ≠ guid.text) ∧
      (∀ sqlGuid, SqlGuid.ofText text = .ok sqlGuid ↔ Guid.ofText text = .ok sqlGuid.guid) ∧
      (SqlGuid.ofText text = .error .malformed ↔ Guid.ofText text = .error .malformed) := by
  refine ⟨fun guid => ⟨fun text => Guid.writtenForm_iff, guid.ofText_text⟩, ?_⟩
  intro text
  refine ⟨fun guid => Guid.ofText_eq_ok_iff, Guid.ofText_eq_error_iff, ?_, ?_⟩
  · intro sqlGuid
    exact SqlGuid.map_mk_eq_ok_iff
  · exact SqlGuid.map_mk_eq_error_iff

end TimeOrderedGuid
