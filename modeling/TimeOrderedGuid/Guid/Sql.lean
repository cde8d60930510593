import TimeOrderedGuid.Guid.Basic

namespace TimeOrderedGuid

/-- An identifier that compares as SQL Server compares it. -/
structure SqlGuid where
  guid : Guid
deriving DecidableEq

namespace SqlGuid

protected def nil : SqlGuid := ⟨Guid.nil⟩

instance : Inhabited SqlGuid := ⟨SqlGuid.nil⟩

/-- The bytes in the order in which SQL Server compares them. -/
def sortKey (sqlGuid : SqlGuid) : Bytes 16 :=
  sqlGuid.guid.toMemory.gather ByteTable.sqlServerSignificance

instance : Ord SqlGuid := ⟨compareOn sortKey⟩

instance : LT SqlGuid := ltOfOrd

instance : LE SqlGuid := leOfOrd

/-- The comparison of a type in which not all values need to compare; of these, all do. -/
def partialCompare? (first second : SqlGuid) : Option Ordering := some (compare first second)

/-- The identifier whose native order is at the same place; its bytes are moved. -/
def toGuid (sqlGuid : SqlGuid) : Guid := Guid.ofMemory (toNativeOrder sqlGuid.guid.toMemory)

def isNil (sqlGuid : SqlGuid) : Bool := sqlGuid.guid.isNil

theorem compare_eq (first second : SqlGuid) :
    compare first second = compare first.sortKey second.sortKey := rfl

end SqlGuid

/-- The identifier whose SQL Server order is at the same place; its bytes are moved. -/
def Guid.toSqlGuid (guid : Guid) : SqlGuid :=
  ⟨Guid.ofMemory (toSqlServerOrder guid.toMemory)⟩

@[simp]
theorem Guid.toGuid_toSqlGuid (guid : Guid) : guid.toSqlGuid.toGuid = guid := by
  simp [Guid.toSqlGuid, SqlGuid.toGuid]

@[simp]
theorem SqlGuid.toSqlGuid_toGuid (sqlGuid : SqlGuid) : sqlGuid.toGuid.toSqlGuid = sqlGuid := by
  simp [Guid.toSqlGuid, SqlGuid.toGuid]

end TimeOrderedGuid
