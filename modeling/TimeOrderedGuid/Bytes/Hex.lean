import TimeOrderedGuid.Bytes.Basic

namespace TimeOrderedGuid.Hex

/-- The digits in ascending order, of value and of code point alike. -/
def digits : Vector Char 16 :=
  #v['0', '1', '2', '3', '4', '5', '6', '7', '8', '9', 'a', 'b', 'c', 'd', 'e', 'f']

def digit (half : Fin 16) : Char := digits[half]

/-- The half byte that a digit stands for; a letter counts in either case. -/
def digitValue? (character : Char) : Option (Fin 16) :=
  (List.finRange 16).find? fun half => digit half == character.toLower

def highHalf (byte : UInt8) : Fin 16 :=
  ⟨byte.toNat / 16, by have := byte.toNat_lt; omega⟩

def lowHalf (byte : UInt8) : Fin 16 :=
  ⟨byte.toNat % 16, Nat.mod_lt _ (by decide)⟩

def pair (byte : UInt8) : List Char := [digit (highHalf byte), digit (lowHalf byte)]

def byte? (high low : Char) : Option UInt8 := do
  let high ← digitValue? high
  let low ← digitValue? low
  return UInt8.ofNat (high.val * 16 + low.val)

def ofBytes (bytes : List UInt8) : List Char := bytes.flatMap pair

/-- The bytes that a text of digits spells, if it holds whole pairs of digits and nothing else. -/
def toBytes? : List Char → Option (List UInt8)
  | [] => some []
  | [_] => none
  | high :: low :: rest => do
    let byte ← byte? high low
    let bytes ← toBytes? rest
    return byte :: bytes

theorem digit_injective {first second : Fin 16} (same : digit first = digit second) :
    first = second := by
  revert first second
  decide

/-- A character is a digit exactly when it is one after lowering its case. -/
theorem digitValue?_eq_some_iff {character : Char} {half : Fin 16} :
    digitValue? character = some half ↔ digit half = character.toLower := by
  unfold digitValue?
  constructor
  · intro found
    simpa using List.find?_some found
  · intro same
    cases found : (List.finRange 16).find? fun half => digit half == character.toLower with
    | none =>
      have never := List.find?_eq_none.mp found half (List.mem_finRange half)
      simp [same] at never
    | some other =>
      have otherSame : digit other = character.toLower := by simpa using List.find?_some found
      rw [digit_injective (otherSame.trans same.symm)]

theorem ofNat_halves (byte : UInt8) :
    UInt8.ofNat ((highHalf byte).val * 16 + (lowHalf byte).val) = byte := by
  have whole : byte.toNat / 16 * 16 + byte.toNat % 16 = byte.toNat := by omega
  simp only [highHalf, lowHalf, whole]
  exact UInt8.ofNat_toNat

theorem highHalf_ofNat (high low : Fin 16) :
    highHalf (UInt8.ofNat (high.val * 16 + low.val)) = high := by
  apply Fin.ext
  simp only [highHalf, UInt8.toNat_ofNat']
  omega

theorem lowHalf_ofNat (high low : Fin 16) :
    lowHalf (UInt8.ofNat (high.val * 16 + low.val)) = low := by
  apply Fin.ext
  simp only [lowHalf, UInt8.toNat_ofNat']
  omega

theorem ofBytes_cons (byte : UInt8) (bytes : List UInt8) :
    ofBytes (byte :: bytes) = digit (highHalf byte) :: digit (lowHalf byte) :: ofBytes bytes := rfl

theorem length_ofBytes (bytes : List UInt8) : (ofBytes bytes).length = 2 * bytes.length := by
  induction bytes with
  | nil => rfl
  | cons byte bytes ih =>
    rw [ofBytes_cons, List.length_cons, List.length_cons, List.length_cons, ih]
    omega

end TimeOrderedGuid.Hex
