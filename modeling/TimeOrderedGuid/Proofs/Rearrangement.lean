import TimeOrderedGuid.Guid.Sql

namespace TimeOrderedGuid

/-- A table that names every position once moves the bytes, and neither loses nor repeats any. -/
theorem Bytes.gather_perm {length : Nat} {table : Vector (Fin length) length}
    (permutes : table.toList.Perm (List.finRange length)) (bytes : Bytes length) :
    (bytes.gather table).toList.Perm bytes.toList := by
  have inPlace : (List.finRange length).map (fun position => bytes[position]) = bytes.toList := by
    apply List.ext_getElem
    · simp
    · intro place _ _
      simp
  have moved := permutes.map fun position => bytes[position]
  rwa [inPlace, ← Vector.toList_map] at moved

theorem toSqlServerOrder_perm (memory : Bytes 16) :
    (toSqlServerOrder memory).toList.Perm memory.toList :=
  Bytes.gather_perm (by decide) memory

theorem toNativeOrder_perm (memory : Bytes 16) :
    (toNativeOrder memory).toList.Perm memory.toList :=
  Bytes.gather_perm (by decide) memory

namespace Guid

theorem toMemory_perm (guid : Guid) : guid.toMemory.toList.Perm guid.bytes.toList :=
  Bytes.gather_perm (by decide) guid.bytes

theorem ofMemory_perm (memory : Bytes 16) : (ofMemory memory).bytes.toList.Perm memory.toList :=
  Bytes.gather_perm (by decide) memory

theorem toSqlGuid_perm (guid : Guid) :
    guid.toSqlGuid.guid.bytes.toList.Perm guid.bytes.toList := by
  have arranged := (toSqlServerOrder_perm guid.toMemory).trans guid.toMemory_perm
  exact (ofMemory_perm _).trans arranged

end Guid

theorem SqlGuid.toGuid_perm (sqlGuid : SqlGuid) :
    sqlGuid.toGuid.bytes.toList.Perm sqlGuid.guid.bytes.toList := by
  have arranged := (toNativeOrder_perm sqlGuid.guid.toMemory).trans sqlGuid.guid.toMemory_perm
  exact (Guid.ofMemory_perm _).trans arranged

/-- Arranging bytes for one order and then for the other leads back to them, whichever comes first,
and so does converting an identifier and converting it back. Neither changes anything but the places
of the bytes. -/
theorem arrangements_undo_each_other :
    (∀ memory : Bytes 16,
      toNativeOrder (toSqlServerOrder memory) = memory ∧
        toSqlServerOrder (toNativeOrder memory) = memory ∧
        (toSqlServerOrder memory).toList.Perm memory.toList ∧
        (toNativeOrder memory).toList.Perm memory.toList) ∧
    (∀ guid : Guid,
      guid.toSqlGuid.toGuid = guid ∧
        guid.toSqlGuid.guid.bytes.toList.Perm guid.bytes.toList) ∧
    ∀ sqlGuid : SqlGuid,
      sqlGuid.toGuid.toSqlGuid = sqlGuid ∧
        sqlGuid.toGuid.bytes.toList.Perm sqlGuid.guid.bytes.toList := by
  refine ⟨?_, ?_, ?_⟩
  · intro memory
    exact ⟨toNativeOrder_toSqlServerOrder memory, toSqlServerOrder_toNativeOrder memory,
      toSqlServerOrder_perm memory, toNativeOrder_perm memory⟩
  · intro guid
    exact ⟨guid.toGuid_toSqlGuid, guid.toSqlGuid_perm⟩
  · intro sqlGuid
    exact ⟨sqlGuid.toSqlGuid_toGuid, sqlGuid.toGuid_perm⟩

end TimeOrderedGuid
