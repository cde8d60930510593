import Mathlib.Data.List.Forall2
import TimeOrderedGuid.Proofs.History

namespace TimeOrderedGuid

/-- What generators in the two orders give for one request. Identifiers in the order of their
generator are converted into one another; those in SQL Server order in any case are the same. -/
inductive Mirrored : Except IssueError Issued → Except IssueError Issued → Prop where
  | guid {native sqlServer : Guid} (converted : native.toSqlGuid = SqlGuid.mk sqlServer) :
      Mirrored (.ok (.guid native)) (.ok (.guid sqlServer))
  | sqlGuid (identifier : SqlGuid) :
      Mirrored (.ok (.sqlGuid identifier)) (.ok (.sqlGuid identifier))
  | refused (error : IssueError) : Mirrored (.error error) (.error error)

namespace Generator

theorem length_serveAll (generator : Generator) (requests : List Request) :
    (generator.serveAll requests).1.length = requests.length := by
  induction requests generalizing generator with
  | nil => rfl
  | cons request rest ih => rw [serveAll_cons, List.length_cons, ih, List.length_cons]

/-- One generator in each order, with the same discriminator and at the same count. -/
structure Twins (native sqlServer : Generator) : Prop where
  nativeOrder : native.order = .native
  sqlServerOrder : sqlServer.order = .sqlServer
  sameDiscriminator : native.discriminator = sqlServer.discriminator
  sameCount : native.count = sqlServer.count

namespace Twins

variable {native sqlServer : Generator}

theorem after (twins : Twins native sqlServer) (issues : Nat) :
    Twins (native.after issues) (sqlServer.after issues) where
  nativeOrder := twins.nativeOrder
  sqlServerOrder := twins.sqlServerOrder
  sameDiscriminator := twins.sameDiscriminator
  sameCount := congrArg (· + UInt32.ofNat issues) twins.sameCount

theorem assemble (twins : Twins native sqlServer) (ticks : Ticks) (count : UInt32) :
    native.assemble ticks count = sqlServer.assemble ticks count := by
  rw [Generator.assemble, Generator.assemble, twins.sameDiscriminator]

theorem identifier (twins : Twins native sqlServer) (ticks : Ticks) (count : UInt32) :
    (native.identifier ticks count).toSqlGuid = SqlGuid.mk (sqlServer.identifier ticks count) := by
  rw [Generator.identifier, Generator.identifier, twins.nativeOrder, twins.sqlServerOrder,
    twins.assemble, SortOrder.arrange, SortOrder.arrange, Guid.toSqlGuid, Guid.toMemory_ofMemory]

theorem handOut (twins : Twins native sqlServer) (request : Request) (ticks : Ticks)
    (count : UInt32) :
    Mirrored (.ok (native.handOut request ticks count))
      (.ok (sqlServer.handOut request ticks count)) := by
  unfold Generator.handOut
  split
  · rw [twins.assemble]
    exact .sqlGuid _
  · exact .guid (twins.identifier ticks count)

theorem serve (twins : Twins native sqlServer) (request : Request) :
    Mirrored (native.serve request).1 (sqlServer.serve request).1 ∧
      Twins (native.serve request).2 (sqlServer.serve request).2 := by
  rw [serve_eq, serve_eq]
  cases request.resolve with
  | error cause => exact ⟨.refused _, twins⟩
  | ok ticks =>
    have next := twins.after 1
    rw [next.sameCount]
    exact ⟨twins.handOut request ticks _, next⟩

theorem serveAll (twins : Twins native sqlServer) (requests : List Request) :
    List.Forall₂ Mirrored (native.serveAll requests).1 (sqlServer.serveAll requests).1 ∧
      Twins (native.serveAll requests).2 (sqlServer.serveAll requests).2 := by
  induction requests generalizing native sqlServer with
  | nil => exact ⟨.nil, twins⟩
  | cons request rest ih =>
    obtain ⟨mirrored, next⟩ := twins.serve request
    obtain ⟨others, last⟩ := ih next
    rw [serveAll_cons, serveAll_cons]
    exact ⟨.cons mirrored others, last⟩

end Twins

/-- Generators in the two orders, with one discriminator and from one first count, mirror each other
in what they give for each request of a history, and end at the same count. -/
theorem serveAll_mirrored (discriminator : Discriminator) (seed : UInt32)
    (requests : List Request) :
    let native : Generator := { order := .native, discriminator, count := seed }
    let sqlServer : Generator := { order := .sqlServer, discriminator, count := seed }
    (native.serveAll requests).1.length = requests.length ∧
      List.Forall₂ Mirrored (native.serveAll requests).1 (sqlServer.serveAll requests).1 ∧
      (native.serveAll requests).2.count = (sqlServer.serveAll requests).2.count := by
  intro native sqlServer
  have twins : Twins native sqlServer := ⟨rfl, rfl, rfl, rfl⟩
  obtain ⟨mirrored, last⟩ := twins.serveAll requests
  exact ⟨native.length_serveAll requests, mirrored, last.sameCount⟩

end Generator

end TimeOrderedGuid
