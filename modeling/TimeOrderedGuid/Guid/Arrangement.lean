import TimeOrderedGuid.Bytes.Basic

namespace TimeOrderedGuid

abbrev ByteTable := Vector (Fin 16) 16

namespace ByteTable

/-- From the order of the text to the memory layout and back: the field of four bytes that leads and
the two fields of two bytes after it are turned around. -/
def memoryLayout : ByteTable := #v[3, 2, 1, 0, 5, 4, 7, 6, 8, 9, 10, 11, 12, 13, 14, 15]

def toSqlServer : ByteTable := #v[12, 13, 14, 15, 10, 11, 8, 9, 7, 6, 3, 2, 1, 0, 5, 4]

def toNative : ByteTable := #v[13, 12, 11, 10, 15, 14, 9, 8, 6, 7, 4, 5, 0, 1, 2, 3]

/-- The positions as SQL Server compares them, the most significant first. -/
def sqlServerSignificance : ByteTable :=
  #v[10, 11, 12, 13, 14, 15, 8, 9, 6, 7, 4, 5, 0, 1, 2, 3]

theorem gather_gather_eq {width : Nat} {first : ByteTable} {second both : Vector (Fin 16) width}
    (composed : ∀ place : Fin width, first.get (second.get place) = both.get place)
    (bytes : Bytes 16) : (bytes.gather first).gather second = bytes.gather both := by
  have tables : second.map (fun position => first[position]) = both := by
    apply Vector.ext
    intro place inside
    rw [Vector.getElem_map]
    exact composed ⟨place, inside⟩
  rw [Bytes.gather_gather, tables]

end ByteTable

/-- Moves bytes in native order to where SQL Server compares them. -/
def toSqlServerOrder (memory : Bytes 16) : Bytes 16 := memory.gather ByteTable.toSqlServer

/-- Moves bytes in SQL Server order to where native order compares them. -/
def toNativeOrder (memory : Bytes 16) : Bytes 16 := memory.gather ByteTable.toNative

inductive SortOrder where
  /-- Byte by byte in the order of the text. -/
  | native
  /-- As SQL Server compares them. -/
  | sqlServer
deriving DecidableEq, Inhabited

def SortOrder.arrange : SortOrder → Bytes 16 → Bytes 16
  | .native, memory => memory
  | .sqlServer, memory => toSqlServerOrder memory

@[simp]
theorem toNativeOrder_toSqlServerOrder (memory : Bytes 16) :
    toNativeOrder (toSqlServerOrder memory) = memory :=
  Bytes.gather_gather_cancel (by decide) memory

@[simp]
theorem toSqlServerOrder_toNativeOrder (memory : Bytes 16) :
    toSqlServerOrder (toNativeOrder memory) = memory :=
  Bytes.gather_gather_cancel (by decide) memory

end TimeOrderedGuid
