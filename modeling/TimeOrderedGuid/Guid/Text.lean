import TimeOrderedGuid.Bytes.Hex
import TimeOrderedGuid.Guid.Sql

/-! The text of an identifier: its bytes in hexadecimal, in five groups of 4, 2, 2, 2 and 6 bytes
with a hyphen between neighbours. Writing uses lowercase digits; reading takes letters in either
case and nothing else beyond the written form. -/

namespace TimeOrderedGuid

namespace Guid.Text

def groupWidths : List Nat := [4, 2, 2, 2, 6]

/-- Groups of the given widths, with a hyphen between neighbours. -/
def writeGroups : List Nat → List UInt8 → List Char
  | [], _ => []
  | [width], bytes => Hex.ofBytes (bytes.take width)
  | width :: widths, bytes =>
    Hex.ofBytes (bytes.take width) ++ '-' :: writeGroups widths (bytes.drop width)

/-- A group of the given width at the start of a text, and the text after it. -/
def readGroup? (width : Nat) (text : List Char) : Option (List UInt8 × List Char) := do
  let bytes ← Hex.toBytes? (text.take (2 * width))
  if bytes.length = width then some (bytes, text.drop (2 * width)) else none

/-- The bytes of a text that consists of groups of the given widths with a hyphen between
neighbours, and of nothing more. -/
def readGroups? : List Nat → List Char → Option (List UInt8)
  | [], rest => if rest.isEmpty then some [] else none
  | [width], text => do
    let (bytes, rest) ← readGroup? width text
    if rest.isEmpty then some bytes else none
  | width :: widths, text => do
    let (bytes, rest) ← readGroup? width text
    match rest with
    | '-' :: rest => return bytes ++ (← readGroups? widths rest)
    | _ => none

end Guid.Text

/-- The one way in which a text fails to be an identifier. -/
inductive TextError where
  | malformed
deriving DecidableEq

def TextError.message : TextError → String
  | .malformed => "invalid string representation"

namespace Guid

def text (guid : Guid) : String :=
  String.ofList (Text.writeGroups Text.groupWidths guid.bytes.toList)

instance : ToString Guid := ⟨text⟩

def ofText (text : String) : Except TextError Guid :=
  match Text.readGroups? Text.groupWidths text.toList >>= Bytes.ofList? 16 with
  | some bytes => .ok ⟨bytes⟩
  | none => .error .malformed

def inspect (guid : Guid) : String := "Guid(" ++ Bytes.inspect guid.bytes ++ ")"

end Guid

namespace SqlGuid

def text (sqlGuid : SqlGuid) : String := sqlGuid.guid.text

instance : ToString SqlGuid := ⟨text⟩

/-- The identifier whose bytes a text spells as they stand. -/
def ofText (text : String) : Except TextError SqlGuid := (Guid.ofText text).map SqlGuid.mk

def inspect (sqlGuid : SqlGuid) : String := "SqlGuid(" ++ sqlGuid.guid.inspect ++ ")"

end SqlGuid

end TimeOrderedGuid
