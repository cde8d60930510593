import TimeOrderedGuid.Guid.Encoding
import TimeOrderedGuid.Proofs.TextForm

namespace TimeOrderedGuid

/-- What a delivered value says, if it is a text or a byte string; a character is a text. -/
def Token.payload? : Token → Option Payload
  | .text spelled | .borrowedText spelled | .ownedText spelled => some (.text spelled)
  | .character single => some (.text (String.singleton single))
  | .bytes octets | .borrowedBytes octets | .ownedBytes octets => some (.bytes octets)
  | .foreign _ => none

/-- What a format delivers when it is asked for what its kind would have been handed. -/
def Source.token (source : Source) : Token :=
  source.deliver (match source.format with | .readable => .text | .compact => .bytes)

namespace Guid

theorem ofSource_eq (source : Source) : ofSource source = ofToken source.token := by
  unfold ofSource Source.token
  cases source.format <;> rfl

def ofPayload : Payload → Except DecodeError Guid
  | .text text => ofDeliveredText text
  | .bytes bytes => ofDeliveredBytes bytes

theorem ofToken_eq_ok_iff {token : Token} {guid : Guid} :
    ofToken token = .ok guid ↔
      ∃ payload, token.payload? = some payload ∧ ofPayload payload = .ok guid := by
  have delivered {payload : Payload} (told : token.payload? = some payload)
      (read : ofToken token = ofPayload payload) :
      ofToken token = .ok guid ↔
        ∃ payload, token.payload? = some payload ∧ ofPayload payload = .ok guid := by
    simp only [told, read, Option.some_inj, exists_eq_left']
  cases token with
  | text text => exact delivered rfl rfl
  | borrowedText text => exact delivered rfl rfl
  | ownedText text => exact delivered rfl rfl
  | character character => exact delivered rfl rfl
  | bytes bytes => exact delivered rfl rfl
  | borrowedBytes bytes => exact delivered rfl rfl
  | ownedBytes bytes => exact delivered rfl rfl
  | foreign value =>
    refine iff_of_false nofun ?_
    rintro ⟨payload, told, -⟩
    cases told

theorem ofDeliveredText_eq_ok_iff {text : String} {guid : Guid} :
    ofDeliveredText text = .ok guid ↔ ofText text = .ok guid := by
  unfold ofDeliveredText
  cases ofText text with
  | ok read =>
    change Except.ok read = Except.ok guid ↔ _
    rw [Except.ok.injEq, Except.ok.injEq]
  | error error => exact iff_of_false nofun nofun

theorem ofDeliveredBytes_eq_ok_iff {bytes : List UInt8} {guid : Guid} :
    ofDeliveredBytes bytes = .ok guid ↔ guid.bytes.toList = bytes :=
  of_found_eq_ok_iff.trans Bytes.ofList?_eq_some_iff

theorem ofPayload_toPayload (guid : Guid) (format : DataFormat) :
    ofPayload (guid.toPayload format) = .ok guid := by
  cases format with
  | readable => exact ofDeliveredText_eq_ok_iff.mpr guid.ofText_text
  | compact => exact ofDeliveredBytes_eq_ok_iff.mpr rfl

theorem ofSource_of_payload {guid : Guid} {written : DataFormat} {source : Source}
    (handed : source.token.payload? = some (guid.toPayload written)) :
    ofSource source = .ok guid := by
  rw [ofSource_eq, ofToken_eq_ok_iff]
  exact ⟨_, handed, guid.ofPayload_toPayload written⟩

theorem ofSource_eq_ok_iff {source : Source} {guid : Guid} :
    ofSource source = .ok guid ↔
      (∃ text, source.token.payload? = some (.text text) ∧ ofText text = .ok guid) ∨
        ∃ bytes, source.token.payload? = some (.bytes bytes) ∧ bytes.length = 16 ∧
          guid.bytes.toList = bytes := by
  rw [ofSource_eq, ofToken_eq_ok_iff]
  constructor
  · rintro ⟨payload, told, read⟩
    cases payload with
    | text text => exact .inl ⟨text, told, ofDeliveredText_eq_ok_iff.mp read⟩
    | bytes bytes =>
      have spelled := ofDeliveredBytes_eq_ok_iff.mp read
      have length : bytes.length = 16 := by rw [← spelled, Vector.length_toList]
      exact .inr ⟨bytes, told, length, spelled⟩
  · rintro (⟨text, told, read⟩ | ⟨bytes, told, -, spelled⟩)
    · exact ⟨_, told, ofDeliveredText_eq_ok_iff.mpr read⟩
    · exact ⟨_, told, ofDeliveredBytes_eq_ok_iff.mpr spelled⟩

end Guid

namespace SqlGuid

theorem ofSource_eq_ok_iff {source : Source} {sqlGuid : SqlGuid} :
    ofSource source = .ok sqlGuid ↔ Guid.ofSource source = .ok sqlGuid.guid :=
  map_mk_eq_ok_iff

end SqlGuid

/-- A value that a format of either kind delivers is read as an identifier exactly if it is a text
that is read as that identifier or a string of sixteen bytes, which are then its bytes; and it is
read as an identifier of SQL Server with the same bytes. What either kind of identifier is written
as in either kind of format is read back with the same bytes, as either kind of identifier, from
either kind of format. -/
theorem formats_read_two_representations :
    (∀ (source : Source) (guid : Guid),
      Guid.ofSource source = .ok guid ↔
        (∃ text, source.token.payload? = some (.text text) ∧ Guid.ofText text = .ok guid) ∨
          ∃ bytes, source.token.payload? = some (.bytes bytes) ∧ bytes.length = 16 ∧
            guid.bytes.toList = bytes) ∧
    (∀ (source : Source) (sqlGuid : SqlGuid),
      SqlGuid.ofSource source = .ok sqlGuid ↔ Guid.ofSource source = .ok sqlGuid.guid) ∧
    ∀ (written : DataFormat) (source : Source),
      (∀ guid : Guid, source.token.payload? = some (guid.toPayload written) →
        Guid.ofSource source = .ok guid ∧ SqlGuid.ofSource source = .ok ⟨guid⟩) ∧
      ∀ sqlGuid : SqlGuid, source.token.payload? = some (sqlGuid.toPayload written) →
        Guid.ofSource source = .ok sqlGuid.guid ∧ SqlGuid.ofSource source = .ok sqlGuid := by
  have back {guid : Guid} {written : DataFormat} {source : Source}
      (handed : source.token.payload? = some (guid.toPayload written)) :
      Guid.ofSource source = .ok guid ∧ SqlGuid.ofSource source = .ok ⟨guid⟩ := by
    have read := Guid.ofSource_of_payload handed
    exact ⟨read, SqlGuid.ofSource_eq_ok_iff.mpr read⟩
  refine ⟨fun source guid => Guid.ofSource_eq_ok_iff,
    fun source sqlGuid => SqlGuid.ofSource_eq_ok_iff, ?_⟩
  intro written source
  exact ⟨fun guid handed => back handed, fun sqlGuid handed => back handed⟩

/-- An identifier of SQL Server that was written as bytes comes back from a readable format, which
is asked for a text and delivers the bytes all the same. -/
theorem formats_read_bytes_from_readable :
    let guid : Guid := ⟨#v[8, 220, 42, 91, 111, 62, 29, 39, 156, 65, 123, 3, 232, 161, 240, 194]⟩
    let written : SqlGuid := ⟨guid⟩
    let source : Source :=
      { format := .readable, deliver := fun _ => .ownedBytes guid.bytes.toList }
    source.token.payload? = some (written.toPayload .compact) ∧
      Guid.ofSource source = .ok guid ∧ SqlGuid.ofSource source = .ok written := by
  intro guid written source
  have handed : source.token.payload? = some (written.toPayload .compact) := rfl
  exact ⟨handed, (formats_read_two_representations.2.2 .compact source).2 written handed⟩

end TimeOrderedGuid
