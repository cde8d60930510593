import TimeOrderedGuid.Bytes.Sha512

namespace TimeOrderedGuid

/-- Five bytes that stand for a machine and a process. -/
structure Discriminator where
  bytes : Bytes 5
deriving DecidableEq

namespace Discriminator

instance : Inhabited Discriminator := ⟨⟨Vector.replicate 5 0⟩⟩

def toNat (discriminator : Discriminator) : Nat := Bytes.toNat discriminator.bytes

/-- The first three bytes of the hash of the host name, and the low 16 bits of the process number
with the most significant byte first. A missing process number counts as zero. -/
def ofHost (host : String) (processId : Option UInt32) : Discriminator :=
  ⟨Bytes.join (Bytes.slice (Sha512.digest host.toUTF8.toList) 0 3)
    (Bytes.ofNat 2 (processId.getD 0).toNat)⟩

def inspect (discriminator : Discriminator) : String :=
  "Discriminator(" ++ Bytes.inspect discriminator.bytes ++ ")"

end Discriminator

end TimeOrderedGuid
