import TimeOrderedGuid.Guid.Sql
import TimeOrderedGuid.Time.Ticks

namespace TimeOrderedGuid

namespace Guid

def nativeReading (guid : Guid) : Ticks := Ticks.decode (guid.toMemory.slice 0 8)

/-- The ticks in the first eight bytes after moving them from SQL Server order to native order. -/
def sqlServerReading (guid : Guid) : Ticks :=
  Ticks.decode ((toNativeOrder guid.toMemory).slice 0 8)

/-- The ticks that an identifier carries as of `now`: the first of the two readings that lies in the
window, if one does. -/
def ticksAt (guid : Guid) (now : Ticks) : Option Ticks :=
  if guid.nativeReading.InWindow now then
    some guid.nativeReading
  else if guid.sqlServerReading.InWindow now then
    some guid.sqlServerReading
  else
    none

def instantAt (guid : Guid) (now : Ticks) : Option Instant :=
  (guid.ticksAt now).bind Ticks.toInstant?

end Guid

namespace SqlGuid

def ticksAt (sqlGuid : SqlGuid) (now : Ticks) : Option Ticks := sqlGuid.toGuid.ticksAt now

def instantAt (sqlGuid : SqlGuid) (now : Ticks) : Option Instant := sqlGuid.toGuid.instantAt now

end SqlGuid

end TimeOrderedGuid
