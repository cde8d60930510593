import TimeOrderedGuid.Guid.Arrangement

namespace TimeOrderedGuid

/-- A globally unique identifier: sixteen bytes in the order of the text form. -/
structure Guid where
  bytes : Bytes 16
deriving DecidableEq

namespace Guid

/-- The identifier of zeros, which marks what has not been assigned. -/
protected def nil : Guid := ⟨Vector.replicate 16 0⟩

protected def max : Guid := ⟨Vector.replicate 16 255⟩

instance : Inhabited Guid := ⟨Guid.nil⟩

instance : Ord Guid := ⟨compareOn Guid.bytes⟩

instance : LT Guid := ltOfOrd

instance : LE Guid := leOfOrd

/-- The identifier whose memory layout these bytes are. -/
def ofMemory (memory : Bytes 16) : Guid := ⟨memory.gather ByteTable.memoryLayout⟩

def toMemory (guid : Guid) : Bytes 16 := guid.bytes.gather ByteTable.memoryLayout

def toNat (guid : Guid) : Nat := Bytes.toNat guid.bytes

/-- The identifier that spells the low 128 bits of a number. -/
def ofNat (number : Nat) : Guid := ⟨Bytes.ofNat 16 number⟩

/-- An identifier is nil when the number it spells is zero. -/
def isNil (guid : Guid) : Bool := guid.toNat == 0

theorem compare_eq (first second : Guid) :
    compare first second = compare first.bytes second.bytes := rfl

@[ext]
theorem ext {first second : Guid} (same : first.bytes = second.bytes) : first = second := by
  cases first
  cases second
  exact congrArg Guid.mk same

@[simp]
theorem ofMemory_toMemory (guid : Guid) : ofMemory guid.toMemory = guid :=
  Guid.ext (Bytes.gather_gather_cancel (by decide) guid.bytes)

@[simp]
theorem toMemory_ofMemory (memory : Bytes 16) : (ofMemory memory).toMemory = memory :=
  Bytes.gather_gather_cancel (by decide) memory

end Guid

end TimeOrderedGuid
