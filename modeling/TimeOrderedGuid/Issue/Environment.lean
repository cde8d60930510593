import Std.Time.DateTime.Timestamp
import TimeOrderedGuid.Issue.Request

namespace TimeOrderedGuid.Environment

def currentInstant : IO Instant := do
  let sinceUnixEpoch := (← Std.Time.Timestamp.now).toNanosecondsSinceUnixEpoch
  match Instant.ofNanoseconds? sinceUnixEpoch.val with
  | some instant => return instant
  | none => throw (IO.userError "the system clock is outside the calendar")

def currentTicks : IO Ticks := return Ticks.ofInstant (← currentInstant)

def systemFile? (path : String) : IO (Option String) := do
  try
    return some (← IO.FS.readFile path)
  catch _ =>
    return none

/-- The host name, or the empty text if it cannot be read. -/
def hostName : IO String := do
  let name ← systemFile? "/proc/sys/kernel/hostname"
  return (name.getD "").trimAsciiEnd.toString

/-- The number of this process, if it can be read. -/
def processId? : IO (Option UInt32) := do
  let status ← systemFile? "/proc/self/stat"
  let number := status.bind fun text => (text.takeWhile Char.isDigit).toString.toNat?
  return number.map UInt32.ofNat

def discriminator : IO Discriminator := return Discriminator.ofHost (← hostName) (← processId?)

/-- A random count below the limit; the clock stands in where the system offers no randomness. -/
def firstCount : IO UInt32 := do
  let number ←
    try
      let bytes ← IO.getRandomBytes 4
      pure (bytes.toList.foldl (fun number byte => number * 256 + byte.toNat) 0)
    catch _ => IO.monoNanosNow
  return UInt32.ofNat (number % firstCountLimit)

def generator (order : SortOrder) : IO Generator := do
  return { order, discriminator := ← discriminator, count := ← firstCount }

def serveNow (generator : Generator) (request : Ticks → Request) :
    IO (Except IssueError Issued × Generator) :=
  return generator.serve (request (← currentTicks))

end TimeOrderedGuid.Environment
