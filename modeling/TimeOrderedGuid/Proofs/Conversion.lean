import TimeOrderedGuid.Proofs.Timeline

/-! Conversion between instants and ticks. The number of ticks at an instant has no bound; the
64-bit count is that number brought to the ends of its range. A count leads back to the start of the
tick that it was taken in exactly if nothing was cut off. Every count whose distance from 1970 has
64 bits has an instant of its own. That instant leads back to the count, except in the second in
which the range starts; before that second, and in it, later instants may have earlier ticks. -/

namespace TimeOrderedGuid

namespace Instant

/-- The number of whole ticks from the year 1 to an instant. A leap second counts as the last tick
of the second that it lengthens. -/
def wholeTicks (instant : Instant) : Int :=
  instant.seconds * Ticks.perSecond +
    min ((instant.nanos / Ticks.nanosPerTick : Nat) : Int) (Ticks.perSecond - 1) +
      Ticks.unixEpoch.toInt

/-- The instant at which the tick at an instant starts. The tick of a leap second is the last one of
the second that it lengthens. -/
def startOfTick (instant : Instant) : Instant where
  seconds := instant.seconds
  nanos := if instant.IsLeap then 999999900 else instant.nanos / 100 * 100
  notBeforeFirst := instant.notBeforeFirst
  notAfterLast := instant.notAfterLast
  nanosInRange := by
    have inRange := instant.nanosInRange
    split
    · decide
    · exact Nat.lt_of_le_of_lt (Nat.div_mul_le_self _ _) inRange

theorem seconds_startOfTick (instant : Instant) :
    instant.startOfTick.seconds = instant.seconds := rfl

theorem nanos_startOfTick (instant : Instant) :
    (instant.startOfTick.nanos : Int) = Ticks.withinSecond instant * Ticks.nanosPerTick := by
  have inRange := instant.nanosInRange
  unfold Ticks.withinSecond Ticks.perSecond Ticks.nanosPerTick
  by_cases leap : instant.IsLeap
  · have nanos : instant.startOfTick.nanos = 999999900 := if_pos leap
    unfold IsLeap nanosPerSecond at *
    omega
  · have nanos : instant.startOfTick.nanos = instant.nanos / 100 * 100 := if_neg leap
    unfold IsLeap nanosPerSecond at *
    omega

end Instant

namespace Ticks

theorem withinSecond_bounds (instant : Instant) :
    0 ≤ withinSecond instant ∧ withinSecond instant < perSecond := by
  unfold withinSecond perSecond nanosPerTick
  omega

theorem withinSecond_mono {earlier later : Instant} (notAfter : earlier.nanos ≤ later.nanos) :
    withinSecond earlier ≤ withinSecond later := by
  have ticks : earlier.nanos / nanosPerTick ≤ later.nanos / nanosPerTick :=
    Nat.div_le_div_right notAfter
  unfold withinSecond
  omega

theorem wholeTicks_eq (instant : Instant) :
    instant.wholeTicks =
      instant.seconds * perSecond + withinSecond instant + unixEpoch.toInt := rfl

/-- The steps of the conversion stop at the ends of the range one after the other. Before the range
only the seconds are cut off, and what is added to them afterwards stays below 1970. -/
theorem toInt_ofInstant (instant : Instant) :
    (ofInstant instant).toInt =
      min (max instant.wholeTicks (-0x8000000000000000 + withinSecond instant + unixEpoch.toInt))
        0x7fffffffffffffff := by
  have bounds := withinSecond_bounds instant
  rw [wholeTicks_eq]
  unfold ofInstant perSecond at *
  simp only [toInt_saturate, toInt_unixEpoch]
  omega

theorem toInstant?_eq_some_iff {ticks : Ticks} {instant : Instant} :
    ticks.toInstant? = some instant ↔
      -0x8000000000000000 ≤ ticks.toInt - unixEpoch.toInt ∧
        instant.seconds = (ticks.toInt - unixEpoch.toInt) / perSecond ∧
        instant.nanos = ((ticks.toInt - unixEpoch.toInt) % perSecond).toNat * nanosPerTick := by
  unfold toInstant?
  cases distance : ofInt? (ticks.toInt - unixEpoch.toInt) with
  | none =>
    have outside := ofInt?_eq_none_iff.mp distance
    have bounds := ticks.toInt_bounds
    have epoch := toInt_unixEpoch
    simp only [bind, Option.bind, reduceCtorEq, false_iff, not_and]
    omega
  | some sinceUnixEpoch =>
    have exact := ofInt?_eq_some_iff.mp distance
    have bounds := sinceUnixEpoch.toInt_bounds
    rw [exact] at bounds
    simp only [bind, Option.bind, exact, Instant.ofUnix?_eq_some_iff, bounds.1, true_and]

theorem toInstant?_eq_none_iff {ticks : Ticks} :
    ticks.toInstant? = none ↔ ticks.toInt - unixEpoch.toInt < -0x8000000000000000 := by
  have bounds := ticks.toInt_bounds
  have epoch := toInt_unixEpoch
  constructor
  · intro refused
    rw [← Int.not_le]
    intro inRange
    -- The calendar is ten times as long as the range, so that it holds what the distance leads to.
    let seconds := (ticks.toInt - unixEpoch.toInt) / perSecond
    let nanos := ((ticks.toInt - unixEpoch.toInt) % perSecond).toNat * nanosPerTick
    have notBeforeFirst : Instant.firstSecond ≤ seconds := by
      unfold seconds Instant.firstSecond perSecond
      omega
    have notAfterLast : seconds ≤ Instant.lastSecond := by
      unfold seconds Instant.lastSecond perSecond
      omega
    have nanosInRange : nanos < 2 * nanosPerSecond := by
      unfold nanos nanosPerSecond perSecond nanosPerTick
      omega
    have converted :
        ticks.toInstant? = some ⟨seconds, nanos, notBeforeFirst, notAfterLast, nanosInRange⟩ :=
      toInstant?_eq_some_iff.mpr ⟨inRange, rfl, rfl⟩
    rw [refused] at converted
    cases converted
  · intro outside
    cases converted : ticks.toInstant? with
    | none => rfl
    | some instant =>
      have inRange := (toInstant?_eq_some_iff.mp converted).1
      exact absurd inRange (Int.not_le.mpr outside)

/-- Ticks have no instant exactly if their distance from 1970 lies before the 64-bit range. Of all
others the instant is the one at the start of a tick, in no leap second, that has as many ticks. -/
theorem instants_of_ticks_exact (ticks : Ticks) :
    (ticks.toInstant? = none ↔ ticks.toInt - unixEpoch.toInt < -0x8000000000000000) ∧
      ∀ instant, ticks.toInstant? = some instant ↔
        -0x8000000000000000 ≤ ticks.toInt - unixEpoch.toInt ∧
          instant.nanos ≤ 999999900 ∧ 100 ∣ instant.nanos ∧ ¬ instant.IsLeap ∧
          instant.seconds * perSecond + (instant.nanos / 100 : Nat) + unixEpoch.toInt =
            ticks.toInt := by
  refine ⟨toInstant?_eq_none_iff, ?_⟩
  intro instant
  rw [toInstant?_eq_some_iff]
  refine and_congr_right fun _ => ?_
  unfold Instant.IsLeap nanosPerSecond perSecond nanosPerTick
  constructor
  · rintro ⟨seconds, nanos⟩
    omega
  · rintro ⟨notAbove, startsTick, notLeap, same⟩
    omega

theorem toInstant?_ofInstant_iff (instant : Instant) :
    (ofInstant instant).toInstant? = some instant.startOfTick ↔
      (ofInstant instant).toInt = instant.wholeTicks := by
  have bounds := withinSecond_bounds instant
  have nanos := instant.nanos_startOfTick
  have closed := toInt_ofInstant instant
  rw [toInstant?_eq_some_iff, Instant.seconds_startOfTick]
  rw [wholeTicks_eq, toInt_unixEpoch] at *
  unfold perSecond nanosPerTick at *
  omega

theorem wholeTicks_of_toInstant? {ticks : Ticks} {instant : Instant}
    (converted : ticks.toInstant? = some instant) : instant.wholeTicks = ticks.toInt := by
  obtain ⟨-, seconds, nanos⟩ := toInstant?_eq_some_iff.mp converted
  have split := Int.mul_ediv_add_emod (ticks.toInt - unixEpoch.toInt) perSecond
  unfold Instant.wholeTicks
  rw [seconds, nanos]
  unfold perSecond nanosPerTick at *
  omega

/-- The instant of a count leads back to it, unless its distance from 1970 lies in the second in
which the range of distances starts, 5224192 ticks after the second does. The whole seconds of such
a distance lie before the range. They are cut off although the distance is not, and the count that
results is that many ticks too late. -/
theorem converted_instants_lead_back_iff {ticks : Ticks} {instant : Instant}
    (converted : ticks.toInstant? = some instant) :
    let distance := ticks.toInt - unixEpoch.toInt
    (ofInstant instant = ticks ↔ -922337203685 * perSecond ≤ distance) ∧
      (distance < -922337203685 * perSecond →
        (ofInstant instant).toInt = ticks.toInt + 5224192) := by
  intro distance
  have fromEpoch : distance = ticks.toInt - unixEpoch.toInt := rfl
  have epoch := toInt_unixEpoch
  have bounds := ticks.toInt_bounds
  have number := wholeTicks_of_toInstant? converted
  have back := toInt_ofInstant instant
  obtain ⟨inRange, seconds, -⟩ := toInstant?_eq_some_iff.mp converted
  rw [← fromEpoch] at inRange seconds
  have within : withinSecond instant = distance - distance / perSecond * perSecond := by
    rw [wholeTicks_eq, seconds] at number
    omega
  have same : ofInstant instant = ticks ↔ (ofInstant instant).toInt = ticks.toInt :=
    ⟨congrArg toInt, Ticks.ext⟩
  rw [same, back, number, within]
  unfold perSecond
  constructor <;> omega

theorem first_whole_second_leads_back :
    let whole : Ticks := ⟨-8602016068850000000⟩
    let before : Ticks := ⟨-8602016068850000001⟩
    let start : Instant := { seconds := -922337203685, nanos := 0 }
    let last : Instant := { seconds := -922337203686, nanos := 999999900 }
    whole.toInstant? = some start ∧ ofInstant start = whole ∧
      before.toInstant? = some last ∧ (ofInstant last).toInt = before.toInt + 5224192 := by
  intro whole before start last
  have converted : whole.toInstant? = some start := by decide
  have convertedBefore : before.toInstant? = some last := by decide
  refine ⟨converted, ?_, convertedBefore, ?_⟩
  · exact (converted_instants_lead_back_iff converted).1.mpr (by decide)
  · exact (converted_instants_lead_back_iff convertedBefore).2 (by decide)

theorem earliest_instant_leads_elsewhere :
    let earliest : Ticks := ⟨-8602016068854775808⟩
    let instant : Instant := { seconds := -922337203686, nanos := 522419200 }
    earliest.toInstant? = some instant ∧ ofInstant instant ≠ earliest ∧
      ofInstant instant = ⟨-8602016068849551616⟩ := by
  decide

/-- Later instants have later ticks, or the same, if the whole seconds of the earlier one lie in the
range. Otherwise these are cut off and its place within its second is all that counts. Its ticks are
not after those of a later instant exactly if the place of that one, and the distance of its whole
seconds into the range, make up for this. Where they do not, the ticks are turned around by less
than a second, and long before 1970. -/
theorem ticks_follow_time_iff {earlier later : Instant} (notAfter : earlier ≤ later) :
    (ofInstant earlier ≤ ofInstant later ↔
      -922337203685 ≤ earlier.seconds ∨
        withinSecond earlier ≤
          withinSecond later + max (later.seconds * perSecond + 0x8000000000000000) 0) ∧
      (ofInstant later < ofInstant earlier →
        ofInstant earlier < unixEpoch ∧
          (ofInstant earlier).toInt < (ofInstant later).toInt + perSecond) := by
  have earlierCount := toInt_ofInstant earlier
  have laterCount := toInt_ofInstant later
  have earlierBounds := withinSecond_bounds earlier
  have laterBounds := withinSecond_bounds later
  have epoch := toInt_unixEpoch
  rw [wholeTicks_eq] at earlierCount laterCount
  rw [le_iff_toInt_le, lt_iff_toInt_lt, lt_iff_toInt_lt]
  unfold perSecond at *
  -- The places within two seconds are compared only if it is the same second.
  rcases Instant.le_iff.mp notAfter with before | ⟨sameSecond, nanos⟩
  · constructor <;> omega
  · have within := withinSecond_mono nanos
    constructor <;> omega

/-- The last tick before the first whole second in the range has the number of a tick 5224191 ticks
into that second. Instants from there on have no earlier ticks; an instant just before has. -/
theorem ticks_follow_time_from_boundary :
    let last : Instant := { seconds := -922337203686, nanos := 999999999 }
    let boundary : Instant := { seconds := -922337203685, nanos := 522419100 }
    let before : Instant := { seconds := -922337203685, nanos := 522419099 }
    last ≤ boundary ∧ ofInstant last ≤ ofInstant boundary ∧
      last ≤ before ∧ ofInstant before < ofInstant last ∧ ofInstant last < unixEpoch := by
  intro last boundary before
  have notAfterBoundary : last ≤ boundary := by decide
  have notAfterBefore : last ≤ before := by decide
  have turnedAround : ofInstant before < ofInstant last := by decide
  refine ⟨notAfterBoundary, ?_, notAfterBefore, turnedAround, ?_⟩
  · exact (ticks_follow_time_iff notAfterBoundary).1.mpr (.inr (by decide))
  · exact ((ticks_follow_time_iff notAfterBefore).2 turnedAround).1

/-- A whole second, and the tick before it. The ticks of both are in range, and those of the earlier
instant come out later. -/
theorem earlier_instant_has_later_ticks :
    let earlier : Instant := { seconds := -922337203686, nanos := 999999900 }
    let later : Instant := { seconds := -922337203685, nanos := 0 }
    earlier ≤ later ∧ ¬ ofInstant earlier ≤ ofInstant later ∧
      ofInstant earlier = ⟨-8602016068844775809⟩ ∧ ofInstant later = ⟨-8602016068850000000⟩ ∧
      earlier.wholeTicks = -8602016068850000001 := by
  decide

end Ticks

end TimeOrderedGuid
