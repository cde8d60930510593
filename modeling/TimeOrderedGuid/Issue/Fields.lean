import TimeOrderedGuid.Guid.Basic
import TimeOrderedGuid.Issue.Discriminator
import TimeOrderedGuid.Time.Ticks

namespace TimeOrderedGuid

abbrev Serial := BitVec 24

/-- The low 24 bits of a running count. -/
def Serial.ofCount (count : UInt32) : Serial := count.toBitVec.setWidth 24

structure Fields where
  ticks : Ticks
  discriminator : Discriminator
  serial : Serial
deriving DecidableEq

/-- The fields in native order, in memory layout: the ticks, then the discriminator, then the serial
number with its most significant byte first. -/
def Fields.toMemory (fields : Fields) : Bytes 16 :=
  let origin : Bytes 8 :=
    Bytes.join fields.discriminator.bytes (Bytes.ofNat 3 fields.serial.toNat)
  Bytes.join fields.ticks.encode origin

end TimeOrderedGuid
