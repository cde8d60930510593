import TimeOrderedGuid.Proofs.Conversion
import TimeOrderedGuid.Proofs.History

/-! Admission of timestamps. Although ticks are computed with bounds, a timestamp is admitted
exactly if the unbounded number of ticks at its instant lies between 1970 and the present, and the
ticks of a refusal lie on the side of the window on which the instant lies. -/

namespace TimeOrderedGuid

namespace Ticks

/-- What is cut off before 1970 stays before 1970, and from then on only the end of the range cuts
off. -/
theorem toInt_ofInstant_cases (instant : Instant) :
    instant.wholeTicks < unixEpoch.toInt ∧ (ofInstant instant).toInt < unixEpoch.toInt ∨
      unixEpoch.toInt ≤ instant.wholeTicks ∧
        (ofInstant instant).toInt = min instant.wholeTicks 0x7fffffffffffffff := by
  have within := withinSecond_bounds instant
  unfold perSecond at within
  rw [toInt_ofInstant, toInt_unixEpoch]
  omega

theorem ofInstant_lt_unixEpoch_iff (instant : Instant) :
    ofInstant instant < unixEpoch ↔ instant.wholeTicks < unixEpoch.toInt := by
  have epoch := toInt_unixEpoch
  rw [lt_iff_toInt_lt]
  rcases toInt_ofInstant_cases instant with ⟨before, cut⟩ | ⟨notBefore, kept⟩
  · exact iff_of_true cut before
  · omega

/-- No clock before the end of the range finds an instant in the window that is outside it, nor one
outside that is in it. -/
theorem inWindow_ofInstant_iff (instant : Instant) {clock : Instant}
    (clockInRange : clock.wholeTicks < 0x7fffffffffffffff) :
    (ofInstant instant).InWindow (ofInstant clock) ↔
      unixEpoch.toInt ≤ instant.wholeTicks ∧ instant.wholeTicks ≤ clock.wholeTicks := by
  have epoch := toInt_unixEpoch
  unfold InWindow
  rw [le_iff_toInt_le, le_iff_toInt_le]
  rcases toInt_ofInstant_cases instant with ⟨before, cut⟩ | ⟨notBefore, kept⟩
  · omega
  · have clockCases := toInt_ofInstant_cases clock
    omega

theorem toInt_ofInstant_of_inWindow {instant : Instant} {now : Ticks}
    (inWindow : (ofInstant instant).InWindow now) (nowInRange : now.toInt < 0x7fffffffffffffff) :
    (ofInstant instant).toInt = instant.wholeTicks := by
  obtain ⟨notBefore, notAfter⟩ := inWindow
  rw [le_iff_toInt_le] at notBefore notAfter
  have closed := toInt_ofInstant_cases instant
  omega

theorem toInt_ofInstant_eq_iff {instant : Instant} (notBefore : unixEpoch ≤ ofInstant instant) :
    (ofInstant instant).toInt = instant.wholeTicks ↔
      instant.wholeTicks ≤ 0x7fffffffffffffff := by
  rw [le_iff_toInt_le] at notBefore
  have closed := toInt_ofInstant_cases instant
  omega

theorem toInt_ofInstant_lt_of_wholeTicks_lt {clock : Instant}
    (clockInRange : clock.wholeTicks < 0x7fffffffffffffff) :
    (ofInstant clock).toInt < 0x7fffffffffffffff := by
  have epoch := toInt_unixEpoch
  have closed := toInt_ofInstant_cases clock
  omega

theorem lt_toInt_ofInstant_of_wholeTicks_lt {instant clock : Instant}
    (clockInRange : clock.wholeTicks < 0x7fffffffffffffff)
    (after : clock.wholeTicks < instant.wholeTicks) :
    clock.wholeTicks < (ofInstant instant).toInt := by
  rw [toInt_ofInstant]
  omega

end Ticks

theorem Timestamp.embeddableTicks_of_resolved {timestamp : Timestamp} {instant : Instant}
    (resolved : timestamp.toInstant = .ok instant) (now : Ticks) :
    timestamp.embeddableTicks now =
      if (Ticks.ofInstant instant).InWindow now then .ok (Ticks.ofInstant instant)
      else .error (.outOfRange (Ticks.ofInstant instant)) := by
  unfold embeddableTicks
  rw [resolved]
  rfl

theorem Timestamp.embeddableTicks_eq_ok_iff {timestamp : Timestamp} {now ticks : Ticks} :
    timestamp.embeddableTicks now = .ok ticks ↔
      ∃ instant, timestamp.toInstant = .ok instant ∧ Ticks.ofInstant instant = ticks ∧
        ticks.InWindow now := by
  constructor
  · intro admitted
    cases resolved : timestamp.toInstant with
    | error cause =>
      unfold embeddableTicks at admitted
      rw [resolved] at admitted
      cases admitted
    | ok instant =>
      rw [embeddableTicks_of_resolved resolved] at admitted
      split at admitted
      · rename_i inWindow
        cases admitted
        exact ⟨instant, rfl, rfl, inWindow⟩
      · cases admitted
  · rintro ⟨instant, resolved, rfl, inWindow⟩
    rw [embeddableTicks_of_resolved resolved, if_pos inWindow]

/-- What a call for an instant has to give while the clock shows another, in terms of the unbounded
numbers of ticks at both. -/
structure AdmitsExactly (order : SortOrder) (instant clock : Instant)
    (result : Except IssueError Issued) : Prop where
  accepts_iff : (∃ issued, result = .ok issued) ↔
    Ticks.unixEpoch.toInt ≤ instant.wholeTicks ∧ instant.wholeTicks ≤ clock.wholeTicks
  leading : ∀ issued, result = .ok issued →
    Bytes.slice (issued.nativeForm order).bytes 0 8 = Bytes.ofNat 8 instant.wholeTicks.toNat
  early : instant.wholeTicks < Ticks.unixEpoch.toInt →
    ∃ ticks, result = .error (.invalidTimestamp (.outOfRange ticks)) ∧ ticks < Ticks.unixEpoch
  late : Ticks.unixEpoch.toInt ≤ instant.wholeTicks → clock.wholeTicks < instant.wholeTicks →
    ∃ ticks, result = .error (.invalidTimestamp (.outOfRange ticks)) ∧
      clock.wholeTicks < ticks.toInt

namespace AdmitsExactly

variable {order : SortOrder} {instant clock : Instant}

theorem of_accepted {issued : Issued}
    (inWindow : Ticks.unixEpoch.toInt ≤ instant.wholeTicks ∧ instant.wholeTicks ≤ clock.wholeTicks)
    (leading : Bytes.slice (issued.nativeForm order).bytes 0 8 =
      Bytes.ofNat 8 instant.wholeTicks.toNat) :
    AdmitsExactly order instant clock (.ok issued) where
  accepts_iff := iff_of_true ⟨issued, rfl⟩ inWindow
  leading := by
    rintro _ ⟨⟩
    exact leading
  early before := absurd inWindow.1 (Int.not_le.mpr before)
  late _ after := absurd inWindow.2 (Int.not_le.mpr after)

theorem of_refused {ticks : Ticks}
    (outside : ¬ (Ticks.unixEpoch.toInt ≤ instant.wholeTicks ∧
      instant.wholeTicks ≤ clock.wholeTicks))
    (early : instant.wholeTicks < Ticks.unixEpoch.toInt → ticks < Ticks.unixEpoch)
    (late : clock.wholeTicks < instant.wholeTicks → clock.wholeTicks < ticks.toInt) :
    AdmitsExactly order instant clock (.error (.invalidTimestamp (.outOfRange ticks))) where
  accepts_iff := by
    refine iff_of_false ?_ outside
    rintro ⟨_, ⟨⟩⟩
  leading := by
    rintro _ ⟨⟩
  early before := ⟨ticks, rfl, early before⟩
  late _ after := ⟨ticks, rfl, late after⟩

end AdmitsExactly

namespace Generator

variable (generator : Generator)

theorem serve_admits_exactly {request : Request} {timestamp : Timestamp} {instant clock : Instant}
    (dated : request.resolve = timestamp.embeddableTicks (Ticks.ofInstant clock))
    (resolved : timestamp.toInstant = .ok instant)
    (clockInRange : clock.wholeTicks < 0x7fffffffffffffff) :
    AdmitsExactly generator.order instant clock (generator.serve request).1 := by
  have window := Ticks.inWindow_ofInstant_iff instant clockInRange
  rw [Timestamp.embeddableTicks_of_resolved resolved] at dated
  rw [serve_eq, dated]
  by_cases inWindow : (Ticks.ofInstant instant).InWindow (Ticks.ofInstant clock)
  · rw [if_pos inWindow]
    refine .of_accepted (window.mp inWindow) ?_
    have exact := Ticks.toInt_ofInstant_of_inWindow inWindow
      (Ticks.toInt_ofInstant_lt_of_wholeTicks_lt clockInRange)
    have nonnegative : 0 ≤ (Ticks.ofInstant instant).toInt := by
      rw [exact]
      exact Int.le_trans (by decide) (window.mp inWindow).1
    have bits := Ticks.bits_of_nonnegative nonnegative
    rw [nativeForm_handOut, leading_assemble, ← exact, ← bits, Int.toNat_natCast]
  · rw [if_neg inWindow]
    refine .of_refused (fun inside => inWindow (window.mpr inside)) ?_ ?_
    · exact (Ticks.ofInstant_lt_unixEpoch_iff instant).mpr
    · exact Ticks.lt_toInt_ofInstant_of_wholeTicks_lt clockInRange

/-- Both calls for a timestamp refuse one without a zone, and otherwise admit it exactly if the
unbounded number of ticks at its instant lies from 1970 up to the one at which the clock stands; it
leads the identifier in native order. The ticks of a refusal lie before 1970 or after the clock as
the instant does. -/
theorem dated_calls_admit_exactly (timestamp : Timestamp) (clock : Instant)
    (clockInRange : clock.wholeTicks < 0x7fffffffffffffff) :
    let now := Ticks.ofInstant clock
    let result := (generator.issueAt timestamp now).1.map Issued.guid
    let sqlResult := (generator.issueSqlAt timestamp now).1.map Issued.sqlGuid
    (∀ wall, timestamp = .unspecified wall →
      result = .error (.invalidTimestamp .unspecified) ∧
        sqlResult = .error (.invalidTimestamp .unspecified)) ∧
    ∀ instant, timestamp.toInstant = .ok instant →
      AdmitsExactly generator.order instant clock result ∧
        AdmitsExactly generator.order instant clock sqlResult := by
  intro now result sqlResult
  refine ⟨?_, ?_⟩
  · rintro wall rfl
    exact ⟨rfl, rfl⟩
  · intro instant resolved
    have served : AdmitsExactly generator.order instant clock
        (generator.serve (.dated timestamp now)).1 :=
      generator.serve_admits_exactly rfl resolved clockInRange
    have sqlServed : AdmitsExactly generator.order instant clock
        (generator.serve (.sqlDated timestamp now)).1 :=
      generator.serve_admits_exactly rfl resolved clockInRange
    rw [serve_dated_result] at served
    rw [serve_sqlDated_result] at sqlServed
    exact ⟨served, sqlServed⟩

/-- A leap second of 1998 shown by a clock to the east is admitted in the year 2000; the ends of the
calendar, whose ticks are cut off, are refused. -/
theorem dated_calls_admit_leap_second :
    let generator : Generator :=
      { order := .sqlServer, discriminator := ⟨#v[1, 2, 3, 4, 5]⟩, count := 0xffffffff }
    let clock : Instant := { seconds := 946684800, nanos := 0 }
    let now := Ticks.ofInstant clock
    let leap : Instant := { seconds := 915148799, nanos := 1500000000 }
    let wall : WallTime := ⟨{ seconds := 915152399, nanos := 1500000000 }⟩
    let zoned : ZonedTime := { instant := leap, offset := { secondsEast := 3600 } }
    let eastern : Timestamp := .zoned zoned
    let first : Instant := { seconds := Instant.firstSecond, nanos := 0 }
    let last : Instant := { seconds := Instant.lastSecond, nanos := 0 }
    clock.wholeTicks < 0x7fffffffffffffff ∧
      ZonedTime.ofWall? wall { secondsEast := 3600 } = some zoned ∧
      eastern.toInstant = .ok leap ∧ leap.wholeTicks = 630507455999999999 ∧
      (∃ issued, (generator.issueAt eastern now).1.map Issued.guid = .ok issued ∧
        Bytes.slice (issued.nativeForm .sqlServer).bytes 0 8 =
          Bytes.ofNat 8 630507455999999999) ∧
      (∃ ticks, (generator.issueSqlAt (.utc first) now).1.map Issued.sqlGuid =
          .error (.invalidTimestamp (.outOfRange ticks)) ∧ ticks < Ticks.unixEpoch) ∧
      ∃ ticks, (generator.issueSqlAt (.utc last) now).1.map Issued.sqlGuid =
          .error (.invalidTimestamp (.outOfRange ticks)) ∧ clock.wholeTicks < ticks.toInt := by
  intro generator clock now leap wall zoned eastern first last
  have clockInRange : clock.wholeTicks < 0x7fffffffffffffff := by decide
  have made : ZonedTime.ofWall? wall { secondsEast := 3600 } = some zoned :=
    ZonedTime.ofWall?_eq_some_iff.mpr (by decide)
  have resolved : eastern.toInstant = .ok leap := by decide
  have number : leap.wholeTicks = 630507455999999999 := by decide
  refine ⟨clockInRange, made, resolved, number, ?_, ?_, ?_⟩
  · have admitted := ((dated_calls_admit_exactly generator eastern clock clockInRange).2 leap
      resolved).1
    obtain ⟨issued, succeeded⟩ := admitted.accepts_iff.mpr (by decide)
    refine ⟨issued, succeeded, ?_⟩
    have leading := admitted.leading issued succeeded
    rwa [number] at leading
  · exact ((dated_calls_admit_exactly generator (.utc first) clock clockInRange).2 first
      rfl).2.early (by decide)
  · exact ((dated_calls_admit_exactly generator (.utc last) clock clockInRange).2 last
      rfl).2.late (by decide) (by decide)

end Generator

end TimeOrderedGuid
