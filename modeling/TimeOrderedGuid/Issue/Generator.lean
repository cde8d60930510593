import TimeOrderedGuid.Guid.Sql
import TimeOrderedGuid.Issue.Fields
import TimeOrderedGuid.Time.Timestamp

/-! Generators of time-ordered identifiers. A generator counts what it issues; each operation
returns the generator to go on with. The clock is an argument, so that issue is a function of what
is asked and when. The count is taken only once nothing can fail any more. -/

namespace TimeOrderedGuid

/-- A generator: the order and the discriminator of what it issues, and a running count. -/
structure Generator where
  order : SortOrder
  discriminator : Discriminator
  count : UInt32
deriving DecidableEq

/-- The first counts that may be drawn lie below this bound, so that a generator issues at least as
many identifiers again before its serial numbers wrap. -/
def Environment.firstCountLimit : Nat := 0x800000

inductive IssueError where
  | invalidTimestamp (cause : InvalidTimestamp)
deriving DecidableEq

namespace IssueError

def message : IssueError → String
  | .invalidTimestamp cause => "invalid timestamp: " ++ cause.message

def causeMessage : IssueError → String
  | .invalidTimestamp cause => cause.message

def inspect : IssueError → String
  | .invalidTimestamp cause => "InvalidTimestamp(" ++ cause.inspect ++ ")"

end IssueError

namespace Generator

/-- Advances the running count, which wraps at 32 bits, and hands out its new value. -/
def take (generator : Generator) : UInt32 × Generator :=
  (generator.count + 1, { generator with count := generator.count + 1 })

/-- The bytes in native order, in memory layout, for a count that was handed out. -/
def assemble (generator : Generator) (ticks : Ticks) (count : UInt32) : Bytes 16 :=
  Fields.toMemory
    { ticks, discriminator := generator.discriminator, serial := Serial.ofCount count }

def identifier (generator : Generator) (ticks : Ticks) (count : UInt32) : Guid :=
  Guid.ofMemory (generator.order.arrange (generator.assemble ticks count))

/-- Issues an identifier in the generator's order; any ticks will do. -/
def issue (generator : Generator) (ticks : Ticks) : Guid × Generator :=
  let (count, next) := generator.take
  (generator.identifier ticks count, next)

/-- Issues an identifier in SQL Server order, whatever the generator's order. -/
def issueSql (generator : Generator) (ticks : Ticks) : SqlGuid × Generator :=
  let (count, next) := generator.take
  ((Guid.ofMemory (generator.assemble ticks count)).toSqlGuid, next)

def issueAt (generator : Generator) (timestamp : Timestamp) (now : Ticks) :
    Except IssueError Guid × Generator :=
  match timestamp.embeddableTicks now with
  | .ok ticks =>
    let (guid, next) := generator.issue ticks
    (.ok guid, next)
  | .error cause => (.error (.invalidTimestamp cause), generator)

def issueSqlAt (generator : Generator) (timestamp : Timestamp) (now : Ticks) :
    Except IssueError SqlGuid × Generator :=
  match timestamp.embeddableTicks now with
  | .ok ticks =>
    let (sqlGuid, next) := generator.issueSql ticks
    (.ok sqlGuid, next)
  | .error cause => (.error (.invalidTimestamp cause), generator)

def issueAll (generator : Generator) : List Ticks → List Guid × Generator
  | [] => ([], generator)
  | ticks :: rest =>
    let (guid, next) := generator.issue ticks
    let (guids, last) := next.issueAll rest
    (guid :: guids, last)

end Generator

end TimeOrderedGuid
