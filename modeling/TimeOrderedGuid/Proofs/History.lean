import TimeOrderedGuid.Proofs.Layout

/-! Histories of one generator. Whatever is asked of it and in whatever way, a generator hands out
one count after the other to the requests that succeed, and the identifiers carry these counts. -/

namespace TimeOrderedGuid

namespace Generator

/-- The generator once it has issued some more identifiers. -/
def after (generator : Generator) (issues : Nat) : Generator :=
  { generator with count := generator.count + UInt32.ofNat issues }

variable (generator : Generator)

@[simp]
theorem after_zero : generator.after 0 = generator := by
  simp [after]

@[simp]
theorem after_after (first second : Nat) :
    (generator.after first).after second = generator.after (first + second) := by
  simp [after, UInt32.add_assoc]

theorem identifier_after (issues : Nat) (ticks : Ticks) (count : UInt32) :
    (generator.after issues).identifier ticks count = generator.identifier ticks count := rfl

theorem toNat_count_after (issues : Nat) :
    (generator.after issues).count.toNat = (generator.count.toNat + issues) % 2 ^ 32 := by
  simp [after, UInt32.toNat_add]

theorem toNat_count_after_mod (issues : Nat) :
    (generator.after issues).count.toNat % 2 ^ 24 = (generator.count.toNat + issues) % 2 ^ 24 := by
  rw [toNat_count_after]
  exact Nat.mod_mod_of_dvd _ (by decide)

theorem issueAll_cons (ticks : Ticks) (rest : List Ticks) :
    generator.issueAll (ticks :: rest) =
      (generator.identifier ticks (generator.after 1).count ::
        ((generator.after 1).issueAll rest).1, ((generator.after 1).issueAll rest).2) := rfl

theorem issueAll_eq (times : List Ticks) :
    generator.issueAll times =
      (times.mapIdx fun place ticks =>
        generator.identifier ticks (generator.after (place + 1)).count,
      generator.after times.length) := by
  induction times generalizing generator with
  | nil => simp [issueAll]
  | cons ticks rest ih =>
    rw [issueAll_cons, ih]
    simp [List.mapIdx_cons, identifier_after, Nat.add_comm 1]

end Generator

namespace Request

/-- The ticks that a request resolves to, unless its timestamp is refused. -/
def resolve : Request → Except InvalidTimestamp Ticks
  | .ofTicks ticks => .ok ticks
  | .current now | .sqlCurrent now | .assigned now | .drawn _ now => .ok now
  | .dated timestamp now | .sqlDated timestamp now => timestamp.embeddableTicks now

def wantsSqlServer : Request → Bool
  | .sqlDated _ _ | .sqlCurrent _ => true
  | _ => false

end Request

namespace Generator

variable (generator : Generator)

/-- What a request gets for its ticks and the count that it took. -/
def handOut (request : Request) (ticks : Ticks) (count : UInt32) : Issued :=
  if request.wantsSqlServer then
    .sqlGuid (Guid.ofMemory (generator.assemble ticks count)).toSqlGuid
  else
    .guid (generator.identifier ticks count)

theorem nativeForm_handOut (request : Request) (ticks : Ticks) (count : UInt32) :
    (generator.handOut request ticks count).nativeForm generator.order =
      Guid.ofMemory (generator.assemble ticks count) := by
  unfold handOut
  split
  · exact Guid.toGuid_toSqlGuid _
  · exact generator.nativeForm_identifier ticks count

/-- A request takes the next count if its ticks are known, and otherwise nothing. -/
theorem serve_eq (request : Request) :
    generator.serve request =
      match request.resolve with
      | .ok ticks => (.ok (generator.handOut request ticks (generator.after 1).count),
          generator.after 1)
      | .error cause => (.error (.invalidTimestamp cause), generator) := by
  cases request with
  | ofTicks ticks => rfl
  | current now => rfl
  | sqlCurrent now => rfl
  | assigned now => rfl
  | drawn feed now => rfl
  | dated timestamp now =>
    unfold serve issueAt
    cases resolved : timestamp.embeddableTicks now <;> simp only [Request.resolve, resolved] <;> rfl
  | sqlDated timestamp now =>
    unfold serve issueSqlAt
    cases resolved : timestamp.embeddableTicks now <;> simp only [Request.resolve, resolved] <;> rfl

theorem serve_dated_result (timestamp : Timestamp) (now : Ticks) :
    (generator.serve (.dated timestamp now)).1 =
      (generator.issueAt timestamp now).1.map Issued.guid := rfl

theorem serve_sqlDated_result (timestamp : Timestamp) (now : Ticks) :
    (generator.serve (.sqlDated timestamp now)).1 =
      (generator.issueSqlAt timestamp now).1.map Issued.sqlGuid := rfl

theorem serve_of_issueAt {timestamp : Timestamp} {now : Ticks} {guid : Guid}
    (accepted : (generator.issueAt timestamp now).1 = .ok guid) :
    (generator.serve (.dated timestamp now)).1 = .ok (.guid guid) := by
  rw [serve_dated_result, accepted]
  rfl

theorem serve_of_issueSqlAt {timestamp : Timestamp} {now : Ticks} {sqlGuid : SqlGuid}
    (accepted : (generator.issueSqlAt timestamp now).1 = .ok sqlGuid) :
    (generator.serve (.sqlDated timestamp now)).1 = .ok (.sqlGuid sqlGuid) := by
  rw [serve_sqlDated_result, accepted]
  rfl

end Generator

def successes (results : List (Except IssueError Issued)) : Nat := results.countP Except.isOk

theorem successes_cons (result : Except IssueError Issued)
    (results : List (Except IssueError Issued)) :
    successes (result :: results) = result.isOk.toNat + successes results := by
  unfold successes
  rw [List.countP_cons, Nat.add_comm]
  cases result <;> rfl

theorem successes_take_succ {results : List (Except IssueError Issued)} {place : Nat}
    {result : Except IssueError Issued} (found : results[place]? = some result) :
    successes (results.take (place + 1)) =
      successes (results.take place) + result.isOk.toNat := by
  unfold successes
  rw [List.take_add_one, List.countP_append, found]
  cases result <;> rfl

namespace Generator

variable (generator : Generator)

theorem serveAll_cons (request : Request) (rest : List Request) :
    generator.serveAll (request :: rest) =
      ((generator.serve request).1 :: ((generator.serve request).2.serveAll rest).1,
        ((generator.serve request).2.serveAll rest).2) := rfl

theorem serve_next (request : Request) :
    (generator.serve request).2 = generator.after (generator.serve request).1.isOk.toNat := by
  rw [serve_eq]
  cases request.resolve with
  | ok ticks => rfl
  | error cause => exact (generator.after_zero).symm

/-- A history moves the count on by the identifiers issued in it. -/
theorem serveAll_next (requests : List Request) :
    (generator.serveAll requests).2 =
      generator.after (successes (generator.serveAll requests).1) := by
  induction requests generalizing generator with
  | nil => exact (generator.after_zero).symm
  | cons request rest ih =>
    simp only [serveAll_cons, successes_cons]
    rw [ih, ← after_after, ← serve_next]

theorem serve_next_of_refused {request : Request}
    (refused : (generator.serve request).1.isOk = false) :
    (generator.serve request).2 = generator := by
  rw [serve_next, refused]
  exact generator.after_zero

/-- The requests of a history that get an identifier. -/
def granted (requests : List Request) : List Request :=
  ((requests.zip (generator.serveAll requests).1).filter fun served => served.2.isOk).map Prod.fst

theorem granted_cons (request : Request) (rest : List Request) :
    generator.granted (request :: rest) =
      if (generator.serve request).1.isOk then
        request :: (generator.serve request).2.granted rest
      else
        (generator.serve request).2.granted rest := by
  unfold granted
  rw [serveAll_cons, List.zip_cons_cons, List.filter_cons]
  split <;> rfl

/-- A history from which all refused requests are deleted gives the same identifiers, and leads to
the same generator. -/
theorem serveAll_granted (requests : List Request) :
    generator.serveAll (generator.granted requests) =
      ((generator.serveAll requests).1.filter Except.isOk, (generator.serveAll requests).2) := by
  induction requests generalizing generator with
  | nil => rfl
  | cons request rest ih =>
    rw [granted_cons, serveAll_cons, List.filter_cons]
    cases outcome : (generator.serve request).1.isOk with
    | true =>
      rw [if_pos rfl, if_pos rfl, serveAll_cons, ih]
    | false =>
      rw [if_neg Bool.false_ne_true, if_neg Bool.false_ne_true]
      have unchanged := generator.serve_next_of_refused outcome
      rw [unchanged]
      exact ih generator

/-- Every request is served as if all requests before it had only moved the count. -/
theorem serveAll_getElem? {requests : List Request} {place : Nat}
    {result : Except IssueError Issued}
    (found : (generator.serveAll requests).1[place]? = some result) :
    ∃ request, requests[place]? = some request ∧
      ((generator.after (successes ((generator.serveAll requests).1.take place))).serve
        request).1 = result := by
  induction requests generalizing generator place with
  | nil => simp [serveAll] at found
  | cons request rest ih =>
    rw [serveAll_cons] at found ⊢
    cases place with
    | zero =>
      refine ⟨request, rfl, ?_⟩
      simpa [successes] using found
    | succ place =>
      obtain ⟨later, present, served⟩ := ih (generator.serve request).2 found
      refine ⟨later, present, ?_⟩
      rw [List.take_succ_cons, successes_cons, ← after_after, ← serve_next]
      exact served

theorem serve_nativeForm {request : Request} {issued : Issued}
    (succeeded : (generator.serve request).1 = .ok issued) :
    ∃ ticks, request.resolve = .ok ticks ∧
      issued.nativeForm generator.order =
        Guid.ofMemory (generator.assemble ticks (generator.after 1).count) := by
  rw [serve_eq] at succeeded
  cases resolved : request.resolve with
  | error cause =>
    rw [resolved] at succeeded
    cases succeeded
  | ok ticks =>
    rw [resolved] at succeeded
    cases succeeded
    exact ⟨ticks, rfl, generator.nativeForm_handOut request ticks _⟩

theorem serve_layout {request : Request} {issued : Issued}
    (succeeded : (generator.serve request).1 = .ok issued) :
    ∃ ticks, request.resolve = .ok ticks ∧
      (issued.nativeForm generator.order).toNat =
        ticks.bits * 2 ^ 64 + generator.discriminator.toNat * 2 ^ 24 +
          (generator.count.toNat + 1) % 2 ^ 24 := by
  obtain ⟨ticks, resolved, assembled⟩ := generator.serve_nativeForm succeeded
  refine ⟨ticks, resolved, ?_⟩
  rw [assembled, toNat_assemble, toNat_count_after_mod]

/-- The identifier of every success in a history spells, once it is in native order, the ticks that
its request resolved to, the discriminator, and the first count moved on by the successes up to and
including it. -/
theorem serveAll_layout (requests : List Request) :
    let results := (generator.serveAll requests).1
    (∀ place issued, results[place]? = some (.ok issued) →
      ∃ request ticks, requests[place]? = some request ∧ request.resolve = .ok ticks ∧
        (issued.nativeForm generator.order).toNat =
          ticks.bits * 2 ^ 64 + generator.discriminator.toNat * 2 ^ 24 +
            (generator.count.toNat + successes (results.take (place + 1))) % 2 ^ 24) ∧
    (generator.serveAll requests).2.count.toNat =
      (generator.count.toNat + successes results) % 2 ^ 32 := by
  intro results
  refine ⟨?_, ?_⟩
  · intro place issued found
    obtain ⟨request, present, served⟩ := generator.serveAll_getElem? found
    obtain ⟨ticks, resolved, layout⟩ := serve_layout _ served
    refine ⟨request, ticks, present, resolved, layout.trans ?_⟩
    have carried : successes (results.take (place + 1)) = successes (results.take place) + 1 :=
      successes_take_succ found
    have moved := generator.toNat_count_after (successes (results.take place))
    rw [carried, moved]
    congr 1
    omega
  · rw [serveAll_next, toNat_count_after]

/-- The third request is the second to succeed, and its count has wrapped at 32 bits. -/
theorem serveAll_layout_past_wrap :
    let generator : Generator :=
      { order := .sqlServer, discriminator := ⟨#v[1, 2, 3, 4, 5]⟩, count := 0xffffffff }
    let refused : Request := .dated (.unspecified ⟨{ seconds := 0, nanos := 0 }⟩) ⟨0⟩
    let requests : List Request := [.ofTicks ⟨-1⟩, refused, .sqlCurrent Ticks.unixEpoch]
    let results := (generator.serveAll requests).1
    let issued : Issued :=
      .sqlGuid ⟨⟨#v[1, 0, 0, 5, 4, 3, 2, 1, 128, 0, 8, 159, 127, 245, 247, 181]⟩⟩
    results[2]? = some (.ok issued) ∧
      ∃ request ticks, requests[2]? = some request ∧ request.resolve = .ok ticks ∧
        (issued.nativeForm generator.order).toNat =
          ticks.bits * 2 ^ 64 + generator.discriminator.toNat * 2 ^ 24 +
            (generator.count.toNat + successes (results.take 3)) % 2 ^ 24 := by
  intro generator refused requests results issued
  have first : (generator.serve (.ofTicks ⟨-1⟩)).2 = generator.after 1 := rfl
  have second : ((generator.after 1).serve refused).2 = generator.after 1 := rfl
  have third : ((generator.after 1).serve (.sqlCurrent Ticks.unixEpoch)).1 =
      .ok (.sqlGuid ((generator.after 1).issueSql Ticks.unixEpoch).1) := rfl
  have bytes : Issued.sqlGuid ((generator.after 1).issueSql Ticks.unixEpoch).1 = issued := by
    decide +kernel
  have found : results[2]? = some (.ok issued) := by
    change some (((generator.serve (.ofTicks ⟨-1⟩)).2.serve refused).2.serve
      (.sqlCurrent Ticks.unixEpoch)).1 = some (.ok issued)
    rw [first, second, third, bytes]
  exact ⟨found, (serveAll_layout generator requests).1 2 issued found⟩

end Generator

end TimeOrderedGuid
