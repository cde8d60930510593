import TimeOrderedGuid.Issue.Feed

/-! The ways to ask a generator for an identifier, as data, so that histories of a generator are
lists of requests. Each request that depends on the time carries the clock reading it is served
at. -/

namespace TimeOrderedGuid

inductive Request where
  | ofTicks (ticks : Ticks)
  /-- For a timestamp, if it is admitted. -/
  | dated (timestamp : Timestamp) (now : Ticks)
  /-- For a timestamp, if it is admitted, in SQL Server order. -/
  | sqlDated (timestamp : Timestamp) (now : Ticks)
  | current (now : Ticks)
  /-- For the present, in SQL Server order. -/
  | sqlCurrent (now : Ticks)
  /-- For a record that has no identifier yet. -/
  | assigned (now : Ticks)
  /-- From a reader of the generator's feed. -/
  | drawn (feed : Feed) (now : Ticks)

inductive Issued where
  | guid (identifier : Guid)
  | sqlGuid (identifier : SqlGuid)
deriving DecidableEq

/-- The identifier brought to native order, given the order of the generator that issued it. -/
def Issued.nativeForm (order : SortOrder) : Issued → Guid
  | .guid identifier =>
    match order with
    | .native => identifier
    | .sqlServer => (SqlGuid.mk identifier).toGuid
  | .sqlGuid identifier => identifier.toGuid

def Issued.bytesAsGuid : Issued → Guid
  | .guid identifier => identifier
  | .sqlGuid identifier => identifier.guid

/-- Whether a record with this identifier still needs one: it has none, or a nil one. -/
def needsIdentifier (identifier : Option Guid) : Bool := identifier.all Guid.isNil

namespace Generator

def serve (generator : Generator) : Request → Except IssueError Issued × Generator
  | .ofTicks ticks | .current ticks | .assigned ticks =>
    let (guid, next) := generator.issue ticks
    (.ok (.guid guid), next)
  | .sqlCurrent ticks =>
    let (sqlGuid, next) := generator.issueSql ticks
    (.ok (.sqlGuid sqlGuid), next)
  | .drawn feed now =>
    let (guid, next) := feed.draw generator now
    (.ok (.guid guid), next)
  | .dated timestamp now =>
    let (result, next) := generator.issueAt timestamp now
    (result.map .guid, next)
  | .sqlDated timestamp now =>
    let (result, next) := generator.issueSqlAt timestamp now
    (result.map .sqlGuid, next)

def serveAll (generator : Generator) :
    List Request → List (Except IssueError Issued) × Generator
  | [] => ([], generator)
  | request :: rest =>
    let (result, next) := generator.serve request
    let (results, last) := next.serveAll rest
    (result :: results, last)

end Generator

end TimeOrderedGuid
