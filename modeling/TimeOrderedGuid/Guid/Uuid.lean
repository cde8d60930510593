import TimeOrderedGuid.Guid.Sql

namespace TimeOrderedGuid

/-- A universally unique identifier: sixteen bytes in network order. -/
structure Uuid where
  octets : Bytes 16
deriving DecidableEq

def Guid.toUuid (guid : Guid) : Uuid := ⟨guid.bytes⟩

def Guid.ofUuid (uuid : Uuid) : Guid := ⟨uuid.octets⟩

def SqlGuid.toUuid (sqlGuid : SqlGuid) : Uuid := sqlGuid.guid.toUuid

def SqlGuid.ofUuid (uuid : Uuid) : SqlGuid := ⟨Guid.ofUuid uuid⟩

end TimeOrderedGuid
