import TimeOrderedGuid.Proofs.History

namespace TimeOrderedGuid

namespace ZonedTime

variable {instant : Instant}

theorem instant_eq {zoned : ZonedTime}
    (seconds : instant.seconds = zoned.wallSeconds - zoned.offset.secondsEast)
    (nanos : instant.nanos = zoned.instant.nanos) : zoned.instant = instant := by
  apply Instant.ext
  · rw [seconds, wallSeconds, Int.add_sub_cancel]
  · exact nanos.symm

theorem exists_ofWall? {wall : WallTime} {offset : Offset}
    (seconds : instant.seconds = wall.reading.seconds - offset.secondsEast)
    (nanos : instant.nanos = wall.reading.nanos) :
    ∃ zoned, ofWall? wall offset = some zoned ∧ zoned.instant = instant := by
  refine ⟨{ instant, offset }, ofWall?_eq_some_iff.mpr ⟨?_, nanos, rfl⟩, rfl⟩
  rw [wallSeconds, seconds, Int.sub_add_cancel]

end ZonedTime

namespace Timestamp

/-- The same timestamp without its zone: a wall-clock time at an offset becomes its instant. -/
def inUtc : Timestamp → Timestamp
  | .zoned time => .utc time.instant
  | timestamp => timestamp

variable {first second : Timestamp}

theorem toInstant_inUtc (timestamp : Timestamp) :
    timestamp.inUtc.toInstant = timestamp.toInstant := by
  cases timestamp <;> rfl

theorem embeddableTicks_inUtc (timestamp : Timestamp) (now : Ticks) :
    timestamp.inUtc.embeddableTicks now = timestamp.embeddableTicks now := by
  unfold embeddableTicks
  rw [toInstant_inUtc]

theorem inUtc_eq_of_beq (same : (first == second) = true) : first.inUtc = second.inUtc := by
  cases first with
  | utc instant =>
    cases second with
    | utc other => exact congrArg utc (beq_iff_eq.mp same)
    | zoned other => cases same
    | unspecified other => cases same
  | zoned time =>
    cases second with
    | utc other => cases same
    | zoned other => exact congrArg utc (ZonedTime.beq_iff.mp same)
    | unspecified other => cases same
  | unspecified wall =>
    cases second with
    | utc other => cases same
    | zoned other => cases same
    | unspecified other => exact congrArg unspecified (beq_iff_eq.mp same)

end Timestamp

def Request.inUtc : Request → Request
  | .dated timestamp now => .dated timestamp.inUtc now
  | .sqlDated timestamp now => .sqlDated timestamp.inUtc now
  | request => request

namespace Generator

variable (generator : Generator)

theorem issueAt_inUtc (timestamp : Timestamp) (now : Ticks) :
    generator.issueAt timestamp.inUtc now = generator.issueAt timestamp now := by
  unfold issueAt
  rw [Timestamp.embeddableTicks_inUtc]

theorem issueSqlAt_inUtc (timestamp : Timestamp) (now : Ticks) :
    generator.issueSqlAt timestamp.inUtc now = generator.issueSqlAt timestamp now := by
  unfold issueSqlAt
  rw [Timestamp.embeddableTicks_inUtc]

theorem serve_inUtc (request : Request) :
    generator.serve request.inUtc = generator.serve request := by
  cases request with
  | dated timestamp now => rw [Request.inUtc, serve, serve, issueAt_inUtc]
  | sqlDated timestamp now => rw [Request.inUtc, serve, serve, issueSqlAt_inUtc]
  | ofTicks ticks => rfl
  | current now => rfl
  | sqlCurrent now => rfl
  | assigned now => rfl
  | drawn feed now => rfl

theorem serveAll_inUtc (requests : List Request) :
    generator.serveAll (requests.map Request.inUtc) = generator.serveAll requests := by
  induction requests generalizing generator with
  | nil => rfl
  | cons request rest ih => rw [List.map_cons, serveAll_cons, serveAll_cons, serve_inUtc, ih]

theorem calls_zoned {zoned : ZonedTime} {instant : Instant} (same : zoned.instant = instant)
    (now : Ticks) :
    generator.issueAt (.zoned zoned) now = generator.issueAt (.utc instant) now ∧
      generator.issueSqlAt (.zoned zoned) now = generator.issueSqlAt (.utc instant) now := by
  subst same
  exact ⟨(generator.issueAt_inUtc (.zoned zoned) now).symm,
    (generator.issueSqlAt_inUtc (.zoned zoned) now).symm⟩

/-- Calls for a wall-clock time at an offset are calls for the instant that is left when the offset
is taken away, with the nanoseconds as they are; so are calls for what a clock at an offset shows
beyond the calendar. Zoned times count as the same exactly if this leaves the same. Timestamps that
count as the same denote the same instant, or none for the same cause, and are served alike from any
state. -/
theorem calls_see_instants_only :
    (∀ (wall : WallTime) (offset : Offset) (instant : Instant),
      instant.seconds = wall.reading.seconds - offset.secondsEast →
      instant.nanos = wall.reading.nanos →
      ∃ zoned, ZonedTime.ofWall? wall offset = some zoned ∧
        (zoned.wallSeconds = wall.reading.seconds ∧ zoned.offset = offset) ∧
        (Timestamp.zoned zoned).inUtc = .utc instant ∧
        ∀ now,
          generator.issueAt (.zoned zoned) now = generator.issueAt (.utc instant) now ∧
          generator.issueSqlAt (.zoned zoned) now = generator.issueSqlAt (.utc instant) now) ∧
    (∀ (zoned : ZonedTime) (instant : Instant),
      instant.seconds = zoned.wallSeconds - zoned.offset.secondsEast →
      instant.nanos = zoned.instant.nanos →
      ∀ now,
        generator.issueAt (.zoned zoned) now = generator.issueAt (.utc instant) now ∧
        generator.issueSqlAt (.zoned zoned) now = generator.issueSqlAt (.utc instant) now) ∧
    (∀ first second : ZonedTime,
      (Timestamp.zoned first == Timestamp.zoned second) = true ↔
        first.wallSeconds - first.offset.secondsEast =
            second.wallSeconds - second.offset.secondsEast ∧
          first.instant.nanos = second.instant.nanos) ∧
    (∀ first second : Timestamp, (first == second) = true →
      first.toInstant = second.toInstant ∧
        ∀ now,
          generator.issueAt first now = generator.issueAt second now ∧
          generator.issueSqlAt first now = generator.issueSqlAt second now) ∧
    ∀ requests : List Request,
      generator.serveAll (requests.map Request.inUtc) = generator.serveAll requests := by
  refine ⟨?_, ?_, ?_, ?_, generator.serveAll_inUtc⟩
  · intro wall offset instant seconds nanos
    obtain ⟨zoned, made, same⟩ := ZonedTime.exists_ofWall? seconds nanos
    obtain ⟨shown, -, sameOffset⟩ := ZonedTime.ofWall?_eq_some_iff.mp made
    exact ⟨zoned, made, ⟨shown, sameOffset⟩, congrArg Timestamp.utc same,
      generator.calls_zoned same⟩
  · intro zoned instant seconds nanos
    exact generator.calls_zoned (ZonedTime.instant_eq seconds nanos)
  · intro first second
    simp only [ZonedTime.wallSeconds, Int.add_sub_cancel]
    exact ZonedTime.beq_iff.trans Instant.ext_iff
  · intro first second same
    have forms := Timestamp.inUtc_eq_of_beq same
    refine ⟨?_, ?_⟩
    · rw [← first.toInstant_inUtc, forms, second.toInstant_inUtc]
    · intro now
      refine ⟨?_, ?_⟩
      · rw [← generator.issueAt_inUtc first, forms, generator.issueAt_inUtc]
      · rw [← generator.issueSqlAt_inUtc first, forms, generator.issueSqlAt_inUtc]

/-- The wall clock shows a leap second in the first minute of 1970. At an offset of 59 seconds the
leap second belongs to the first second of that year and is admitted; at one of 60 seconds it lies
before the year and is refused. A clock almost a day to the east shows the admitted one too. A clock
an hour to the east shows the last second of the calendar as one that lies beyond it. -/
theorem calls_see_instants_only_around_1970 :
    let generator : Generator :=
      { order := .sqlServer, discriminator := ⟨#v[1, 2, 3, 4, 5]⟩, count := 0xffffff }
    let now : Ticks := ⟨621356832000000000⟩
    let wall : WallTime := ⟨{ seconds := 59, nanos := 1500000000 }⟩
    let easternWall : WallTime := ⟨{ seconds := 86399, nanos := 1500000000 }⟩
    let admitted : Instant := { seconds := 0, nanos := 1500000000 }
    let refused : Instant := { seconds := -1, nanos := 1500000000 }
    let last : Instant := { seconds := Instant.lastSecond, nanos := 0 }
    let near : ZonedTime := { instant := admitted, offset := { secondsEast := 59 } }
    let eastern : ZonedTime := { instant := admitted, offset := { secondsEast := 86399 } }
    let beyond : ZonedTime := { instant := last, offset := { secondsEast := 3600 } }
    let guid : Guid := ⟨#v[0, 0, 0, 5, 4, 3, 2, 1, 22, 127, 8, 159, 127, 245, 248, 78]⟩
    (∃ zoned, ZonedTime.ofWall? wall { secondsEast := 59 } = some zoned ∧
      generator.issueAt (.zoned zoned) now = generator.issueAt (.utc admitted) now ∧
      (generator.issueAt (.utc admitted) now).1 = .ok guid) ∧
    (∃ zoned, ZonedTime.ofWall? wall { secondsEast := 60 } = some zoned ∧
      generator.issueSqlAt (.zoned zoned) now = generator.issueSqlAt (.utc refused) now ∧
      generator.issueSqlAt (.utc refused) now =
        (.error (.invalidTimestamp (.outOfRange ⟨621355967999999999⟩)), generator)) ∧
    (ZonedTime.ofWall? wall { secondsEast := 59 } = some near ∧
      ZonedTime.ofWall? easternWall { secondsEast := 86399 } = some eastern ∧
      (Timestamp.zoned near == Timestamp.zoned eastern) = true ∧
      generator.issueAt (.zoned near) now = generator.issueAt (.zoned eastern) now) ∧
    Instant.lastSecond < beyond.wallSeconds ∧
      generator.issueAt (.zoned beyond) now = generator.issueAt (.utc last) now := by
  intro generator now wall easternWall admitted refused last near eastern beyond guid
  obtain ⟨calls, callsBeyond, equality, alike, -⟩ := calls_see_instants_only generator
  have same : (Timestamp.zoned near == Timestamp.zoned eastern) = true :=
    (equality near eastern).mpr (by decide)
  refine ⟨?_, ?_, ⟨?_, ?_, same, ((alike _ _ same).2 now).1⟩, by decide, ?_⟩
  · obtain ⟨zoned, made, -, -, served⟩ := calls wall { secondsEast := 59 } admitted (by decide) rfl
    refine ⟨zoned, made, (served now).1, ?_⟩
    decide +kernel
  · obtain ⟨zoned, made, -, -, served⟩ := calls wall { secondsEast := 60 } refused (by decide) rfl
    refine ⟨zoned, made, (served now).2, ?_⟩
    decide +kernel
  · exact ZonedTime.ofWall?_eq_some_iff.mpr (by decide)
  · exact ZonedTime.ofWall?_eq_some_iff.mpr (by decide)
  · exact (callsBeyond beyond last (by decide) rfl now).1

end Generator

end TimeOrderedGuid
