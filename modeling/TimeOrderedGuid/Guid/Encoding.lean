import TimeOrderedGuid.Guid.Text

/-! Identifiers in data formats. A readable format is handed the text and a compact one the bytes.
On the way back a format may deliver any kind of value whatever it was asked for, and a text and a
byte string are both accepted in either format. -/

namespace TimeOrderedGuid

inductive DataFormat where
  | readable
  | compact
deriving DecidableEq

/-- What a format is handed for an identifier. -/
inductive Payload where
  | text (text : String)
  | bytes (bytes : List UInt8)
deriving DecidableEq

inductive ForeignValue where
  | signed (number : Int)
  | unsigned (number : Nat)
  /-- An integer that its format delivers at 128 bits. -/
  | wideSigned (number : Int)
  | wideUnsigned (number : Nat)
  /-- A floating-point number, given by its numeral with the decimal point. -/
  | real (numeral : String)
  | boolean (value : Bool)
  | unit
  | absent
  | present
  | newtype
  | sequence
  | map
  | enumeration
deriving DecidableEq

/-- The value in words; whether an option is filled is not told. -/
def ForeignValue.description : ForeignValue → String
  | .signed number => "integer `" ++ toString number ++ "`"
  | .unsigned number => "integer `" ++ toString number ++ "`"
  | .wideSigned number => "integer `" ++ toString number ++ "` as i128"
  | .wideUnsigned number => "integer `" ++ toString number ++ "` as u128"
  | .real numeral => "floating point `" ++ numeral ++ "`"
  | .boolean value => "boolean `" ++ toString value ++ "`"
  | .unit => "unit value"
  | .absent | .present => "Option value"
  | .newtype => "newtype struct"
  | .sequence => "sequence"
  | .map => "map"
  | .enumeration => "enum"

/-- A value as a format delivers it: texts and byte strings are lent for the call, lent from the
input, or handed over for keeps. -/
inductive Token where
  | text (text : String)
  | borrowedText (text : String)
  | ownedText (text : String)
  /-- A single character, which counts as a text. -/
  | character (character : Char)
  | bytes (bytes : List UInt8)
  | borrowedBytes (bytes : List UInt8)
  | ownedBytes (bytes : List UInt8)
  | foreign (value : ForeignValue)
deriving DecidableEq

/-- What a reader asks a format for; the format may deliver something else. -/
inductive Wanted where
  | text
  | bytes
deriving DecidableEq

structure Source where
  format : DataFormat
  deliver : Wanted → Token

inductive DecodeError where
  | text (error : TextError)
  | wrongLength
  | wrongKind (value : ForeignValue)
deriving DecidableEq

def DecodeError.message : DecodeError → String
  | .text error => error.message
  | .wrongLength => "could not convert slice to array"
  | .wrongKind value =>
    "invalid type: " ++ value.description ++ ", expected a GUID representation"

namespace Guid

def toPayload (guid : Guid) : DataFormat → Payload
  | .readable => .text guid.text
  | .compact => .bytes guid.bytes.toList

def ofDeliveredText (text : String) : Except DecodeError Guid :=
  (Guid.ofText text).mapError .text

def ofDeliveredBytes (bytes : List UInt8) : Except DecodeError Guid :=
  match Bytes.ofList? 16 bytes with
  | some bytes => .ok ⟨bytes⟩
  | none => .error .wrongLength

def ofToken : Token → Except DecodeError Guid
  | .text text | .borrowedText text | .ownedText text => ofDeliveredText text
  | .character character => ofDeliveredText (String.singleton character)
  | .bytes bytes | .borrowedBytes bytes | .ownedBytes bytes => ofDeliveredBytes bytes
  | .foreign value => .error (.wrongKind value)

/-- Asks a format for what it would have been handed, and accepts either kind. -/
def ofSource (source : Source) : Except DecodeError Guid :=
  match source.format with
  | .readable => ofToken (source.deliver .text)
  | .compact => ofToken (source.deliver .bytes)

end Guid

namespace SqlGuid

def toPayload (sqlGuid : SqlGuid) (format : DataFormat) : Payload := sqlGuid.guid.toPayload format

def ofSource (source : Source) : Except DecodeError SqlGuid :=
  (Guid.ofSource source).map SqlGuid.mk

end SqlGuid

end TimeOrderedGuid
