import TimeOrderedGuid.Proofs.Chronology
import TimeOrderedGuid.Proofs.Steps

/-! Calls in real time. When one call ends before another starts, the other takes the later count,
whatever further threads do meanwhile. So calls for the present that follow one another get
ascending identifiers, and only calls that overlap may get them in either order. -/

namespace TimeOrderedGuid

theorem mod_lt_mod_of_no_multiple {low high : Nat} (less : low < high)
    (none : ∀ number, low < number → number ≤ high → ¬ 2 ^ 24 ∣ number) :
    low % 2 ^ 24 < high % 2 ^ 24 := by
  have within : high / 2 ^ 24 * 2 ^ 24 ≤ low := by
    by_contra beyond
    exact none _ (Nat.lt_of_not_le beyond) (Nat.div_mul_le_self high _) (Nat.dvd_mul_left _ _)
  omega

/-- The identifiers of one generator ascend with their ticks, and for the same ticks as long as no
count between them, that of the later one included, is a multiple of the serial numbers. -/
theorem Generator.identifier_precedes (generator : Generator) {ticks other : Ticks}
    {position later : Nat} (nonnegative : 0 ≤ ticks.toInt) (notLess : ticks ≤ other)
    (after : position < later)
    (unwrapped : ticks = other → ∀ between, position < between → between ≤ later →
      ¬ 2 ^ 24 ∣ (generator.after between).count.toNat) :
    generator.order.Precedes (generator.identifier ticks (generator.after position).count)
      (generator.identifier other (generator.after later).count) := by
  have otherNonnegative : 0 ≤ other.toInt := Int.le_trans nonnegative notLess
  rw [identifier_precedes_iff, Ticks.bits_lt_iff nonnegative otherNonnegative]
  by_cases same : ticks = other
  · right
    refine ⟨congrArg Ticks.bits same, ?_⟩
    rw [toNat_count_after_mod, toNat_count_after_mod]
    refine mod_lt_mod_of_no_multiple (Nat.add_lt_add_left after _) ?_
    intro number above atMost wraps
    refine unwrapped same (number - generator.count.toNat) (by omega) (by omega) ?_
    have moved := generator.toNat_count_after_mod (number - generator.count.toNat)
    omega
  · left
    exact lt_of_le_of_ne notLess same

theorem Generator.precedes_or_precedes_next (generator : Generator) (ticks : Ticks) :
    generator.order.Precedes (generator.identifier ticks (generator.after 1).count)
        (generator.identifier ticks (generator.after 2).count) ∨
      generator.order.Precedes (generator.identifier ticks (generator.after 2).count)
        (generator.identifier ticks (generator.after 1).count) := by
  simp only [identifier_precedes_iff, toNat_count_after_mod, true_and]
  omega

namespace Concurrent

namespace Thread

def started? (thread : Thread) : Option Nat :=
  match thread.stage with
  | .idle => none
  | .timed _ started | .counted _ started _ _ => some started

/-- A thread whose calls are all for the present, and which carries what the clock showed as the
call under way started. -/
def ReadsClock (clock : Nat → Ticks) (thread : Thread) : Prop :=
  (∀ job ∈ thread.jobs, job = .current) ∧
    match thread.stage with
    | .idle => True
    | .timed ticks started | .counted ticks started _ _ => ticks = clock started

/-- A call under way that holds a position started before a delivered call ended, or holds the later
position of the two. -/
def Follows (earlier : Receipt) (thread : Thread) : Prop :=
  match thread.stage with
  | .counted _ started _ position => earlier.finished < started → earlier.position < position
  | _ => True

theorem follows_of_started_before {earlier : Receipt} {thread : Thread}
    (before : ∀ started ∈ thread.started?, started < earlier.finished) :
    thread.Follows earlier := by
  obtain ⟨stage, jobs⟩ := thread
  cases stage with
  | idle => trivial
  | timed ticks started => trivial
  | counted ticks started count position =>
    intro ended
    exact absurd (before started rfl) (Nat.lt_asymm ended)

end Thread

namespace System

def readSteps (system : System) : List Nat :=
  system.receipts.map Receipt.started ++ system.threads.filterMap Thread.started?

structure Clocked (clock : Nat → Ticks) (system : System) : Prop where
  threads : ∀ thread ∈ system.threads, thread.ReadsClock clock
  receipts : ∀ receipt ∈ system.receipts, receipt.ticks = clock receipt.started

/-- Calls start before they end and both lie in the past, and of two calls that do not overlap the
second holds the later position. -/
structure InRealTime (system : System) : Prop where
  underWay : ∀ thread ∈ system.threads, ∀ started ∈ thread.started?, started < system.steps
  delivered : ∀ receipt ∈ system.receipts,
    receipt.started < receipt.finished ∧ receipt.finished < system.steps
  follows : ∀ earlier ∈ system.receipts, ∀ thread ∈ system.threads, thread.Follows earlier
  ordered : ∀ earlier ∈ system.receipts, ∀ later ∈ system.receipts,
    earlier.finished < later.started → earlier.position < later.position

variable {initial : Generator} {clock : Nat → Ticks} {system next : System}

theorem Clocked.step (clocked : Clocked clock system) (step : Step clock system next) :
    Clocked clock next := by
  obtain ⟨threads, receipts⟩ := clocked
  cases step with
  | pass => exact ⟨threads, receipts⟩
  | @start place job jobs found =>
    obtain ⟨current, -⟩ := threads _ (List.mem_of_getElem? found)
    have first : job = .current := current job List.mem_cons_self
    subst first
    have rest : ∀ job ∈ jobs, job = .current :=
      fun job member => current job (List.mem_cons_of_mem _ member)
    exact ⟨forall_mem_set threads ⟨rest, rfl⟩, receipts⟩
  | take found =>
    obtain ⟨current, carried⟩ := threads _ (List.mem_of_getElem? found)
    exact ⟨forall_mem_set threads ⟨current, carried⟩, receipts⟩
  | deliver found =>
    obtain ⟨current, carried⟩ := threads _ (List.mem_of_getElem? found)
    exact ⟨forall_mem_set threads ⟨current, trivial⟩, List.forall_mem_cons.mpr ⟨carried, receipts⟩⟩

/-- Taking a count puts a call behind all delivered ones, and a call that ends now ended before no
call that has started. -/
theorem InRealTime.step (numbered : Numbered initial system) (inRealTime : InRealTime system)
    (step : Step clock system next) : InRealTime next := by
  obtain ⟨underWay, delivered, follows, ordered⟩ := inRealTime
  have past : ∀ thread ∈ system.threads, ∀ started ∈ thread.started?,
      started < system.steps + 1 :=
    fun thread member started start => Nat.lt_succ_of_lt (underWay thread member started start)
  have deliveredPast : ∀ receipt ∈ system.receipts,
      receipt.started < receipt.finished ∧ receipt.finished < system.steps + 1 :=
    fun receipt member => (delivered receipt member).imp_right Nat.lt_succ_of_lt
  cases step with
  | pass => exact ⟨past, deliveredPast, follows, ordered⟩
  | start found =>
    refine ⟨forall_mem_set past ?_, deliveredPast, ?_, ordered⟩
    · intro started start
      cases start
      exact Nat.lt_succ_self _
    · exact fun earlier member => forall_mem_set (follows earlier member) trivial
  | take found =>
    have began := past _ (List.mem_of_getElem? found)
    refine ⟨forall_mem_set past began, deliveredPast, ?_, ordered⟩
    intro earlier member
    refine forall_mem_set (follows earlier member) ?_
    intro _
    exact Nat.lt_succ_of_le (numbered.position_bounds member).2
  | @deliver place ticks started count position jobs found =>
    have thread := List.mem_of_getElem? found
    have began : started < system.steps := underWay _ thread started rfl
    refine ⟨forall_mem_set past (by intro _ none; cases none), ?_, ?_, ?_⟩
    · exact List.forall_mem_cons.mpr ⟨⟨began, Nat.lt_succ_self _⟩, deliveredPast⟩
    · refine List.forall_mem_cons.mpr ⟨?_, ?_⟩
      · refine forall_mem_set ?_ trivial
        intro other otherMember
        exact Thread.follows_of_started_before (underWay other otherMember)
      · exact fun earlier member => forall_mem_set (follows earlier member) trivial
    -- The call that ends now is only ever the later one of two that do not overlap.
    · refine List.forall_mem_cons.mpr ⟨List.forall_mem_cons.mpr ⟨?_, ?_⟩, ?_⟩
      · intro ended
        exact absurd began (Nat.lt_asymm ended)
      · intro later member ended
        obtain ⟨laterBegan, laterEnded⟩ := delivered later member
        exact absurd (Nat.lt_trans laterBegan laterEnded) (Nat.lt_asymm ended)
      · intro earlier member
        exact List.forall_mem_cons.mpr ⟨follows earlier member _ thread, ordered earlier member⟩

def startCurrent (generator : Generator) (calls : List Nat) : System :=
  start generator (calls.map fun count => List.replicate count .current)

theorem clocked_run (generator : Generator) (calls : List Nat) (clock : Nat → Ticks)
    (schedule : List Nat) : Clocked clock ((startCurrent generator calls).run clock schedule) := by
  refine run_keeps (fun step clocked => clocked.step step) ⟨?_, ?_⟩ schedule
  · intro thread member
    obtain ⟨own, ownMember, rfl⟩ := List.mem_map.mp member
    obtain ⟨count, -, rfl⟩ := List.mem_map.mp ownMember
    exact ⟨fun job jobMember => List.eq_of_mem_replicate jobMember, trivial⟩
  · intro receipt member
    cases member

theorem inRealTime_run (generator : Generator) (jobs : List (List Job)) (clock : Nat → Ticks)
    (schedule : List Nat) : InRealTime ((start generator jobs).run clock schedule) := by
  -- A step keeps the order of real time only among calls whose positions are numbered.
  have kept {system next : System} (step : Step clock system next)
      (both : Numbered generator system ∧ InRealTime system) :
      Numbered generator next ∧ InRealTime next :=
    ⟨both.1.step step, both.2.step both.1 step⟩
  refine (run_keeps kept ⟨numbered_run generator jobs clock [], ?_⟩ schedule).2
  refine ⟨?_, ?_, ?_, ?_⟩
  · intro thread member started start
    obtain ⟨own, -, rfl⟩ := List.mem_map.mp member
    cases start
  · intro receipt member
    cases member
  · intro receipt member
    cases member
  · intro receipt member
    cases member

/-- The second call started before the first one ended, though after it had started. -/
def Overlap (system : System) (first second : Receipt) : Prop :=
  first ∈ system.receipts ∧ second ∈ system.receipts ∧
    first.started < second.started ∧ second.started < first.finished

private theorem overlap_in_turn (generator : Generator) (now : Ticks) :
    ((startCurrent generator [1, 1]).run (fun _ => now) [0, 1, 0, 1, 0, 1]).Overlap
      { ticks := now, position := 1, started := 0, finished := 4
        guid := generator.identifier now (generator.after 1).count }
      { ticks := now, position := 2, started := 1, finished := 5
        guid := generator.identifier now (generator.after 2).count } := by
  rw [← generator.after_after 1 1]
  exact ⟨.tail _ (.head _), .head _, Nat.zero_lt_one, (by decide : 1 < 4)⟩

private theorem overlap_overtaking (generator : Generator) (now : Ticks) :
    ((startCurrent generator [1, 1]).run (fun _ => now) [0, 1, 1, 0, 0, 1]).Overlap
      { ticks := now, position := 2, started := 0, finished := 4
        guid := generator.identifier now (generator.after 2).count }
      { ticks := now, position := 1, started := 1, finished := 5
        guid := generator.identifier now (generator.after 1).count } := by
  rw [← generator.after_after 1 1]
  exact ⟨.tail _ (.head _), .head _, Nat.zero_lt_one, (by decide : 1 < 4)⟩

/-- Under every schedule of calls for the present, a call that starts after another has ended gets
the greater identifier, unless both read the same ticks and a count that was taken after that of the
earlier and up to that of the later wraps the serial numbers. Of two calls that overlap, either may
get the greater identifier. -/
theorem ascends_in_real_time (generator : Generator) :
    (∀ (calls : List Nat) (clock : Nat → Ticks) (schedule : List Nat),
      let system := (startCurrent generator calls).run clock schedule
      (∀ step ∈ system.readSteps, 0 ≤ (clock step).toInt) →
      (∀ earlier ∈ system.readSteps, ∀ later ∈ system.readSteps,
        earlier ≤ later → clock earlier ≤ clock later) →
      ∀ first ∈ system.receipts, ∀ second ∈ system.receipts, first.finished < second.started →
        (first.ticks = second.ticks → ∀ position, first.position < position →
          position ≤ second.position → ¬ 2 ^ 24 ∣ (generator.after position).count.toNat) →
        generator.order.Precedes first.guid second.guid) ∧
    ∀ now : Ticks,
      (∃ schedule first second,
        ((startCurrent generator [1, 1]).run (fun _ => now) schedule).Overlap first second ∧
          generator.order.Precedes first.guid second.guid) ∧
      ∃ schedule first second,
        ((startCurrent generator [1, 1]).run (fun _ => now) schedule).Overlap first second ∧
          generator.order.Precedes second.guid first.guid := by
  refine ⟨?_, ?_⟩
  · intro calls clock schedule system nonnegative nondecreasing first firstMember second
      secondMember ended unwrapped
    have numbered : Numbered generator system := numbered_run generator _ clock schedule
    have clocked : Clocked clock system := clocked_run generator calls clock schedule
    have inRealTime : InRealTime system := inRealTime_run generator _ clock schedule
    have began := (inRealTime.delivered first firstMember).1
    have firstRead : first.started ∈ system.readSteps :=
      List.mem_append_left _ (List.mem_map_of_mem firstMember)
    have secondRead : second.started ∈ system.readSteps :=
      List.mem_append_left _ (List.mem_map_of_mem secondMember)
    rw [numbered.guids first firstMember, numbered.guids second secondMember]
    refine generator.identifier_precedes ?_ ?_ ?_ unwrapped
    · rw [clocked.receipts first firstMember]
      exact nonnegative _ firstRead
    · rw [clocked.receipts first firstMember, clocked.receipts second secondMember]
      exact nondecreasing _ firstRead _ secondRead (Nat.le_of_lt (Nat.lt_trans began ended))
    · exact inRealTime.ordered first firstMember second secondMember ended
  · intro now
    have inTurn := overlap_in_turn generator now
    have overtaking := overlap_overtaking generator now
    -- The two counts may lie on either side of a wrap, and then the schedules change their roles.
    rcases generator.precedes_or_precedes_next now with ascending | descending
    · exact ⟨⟨_, _, _, inTurn, ascending⟩, _, _, _, overtaking, ascending⟩
    · exact ⟨⟨_, _, _, overtaking, descending⟩, _, _, _, inTurn, descending⟩

/-- Three calls of two threads. The first two read the same ticks; the third takes a count that
wraps the serial numbers, and reads later ticks. -/
theorem ascends_in_real_time_past_wrap :
    let generator : Generator :=
      { order := .sqlServer, discriminator := ⟨#v[1, 2, 3, 4, 5]⟩, count := 0xfffffd }
    let clock : Nat → Ticks := fun step => ⟨Int64.ofNat (step / 4)⟩
    let system := (startCurrent generator [2, 1]).run clock [0, 0, 0, 1, 1, 0, 0, 1, 0]
    system.readSteps = [5, 3, 0] ∧
      ∃ first ∈ system.receipts, ∃ second ∈ system.receipts, ∃ third ∈ system.receipts,
        first.finished < second.started ∧ first.ticks = second.ticks ∧
        generator.order.Precedes first.guid second.guid ∧
        first.finished < third.started ∧ 2 ^ 24 ∣ (generator.after third.position).count.toNat ∧
        generator.order.Precedes first.guid third.guid := by
  intro generator clock system
  have readSteps : system.readSteps = [5, 3, 0] := by decide
  have ascends := (ascends_in_real_time generator).1 [2, 1] clock [0, 0, 0, 1, 1, 0, 0, 1, 0]
    (by change ∀ step ∈ system.readSteps, _; rw [readSteps]; decide)
    (by change ∀ earlier ∈ system.readSteps, ∀ later ∈ system.readSteps, _; rw [readSteps]; decide)
  have stamps : system.receipts.map
      (fun receipt => (receipt.ticks, receipt.position, receipt.started, receipt.finished)) =
        [(⟨1⟩, 3, 5, 8), (⟨0⟩, 2, 3, 7), (⟨0⟩, 1, 0, 2)] := by decide
  obtain ⟨third, second, first, receipts⟩ : ∃ third second first,
      system.receipts = [third, second, first] := List.length_eq_three.mp (by decide)
  rw [receipts] at stamps ascends ⊢
  simp only [List.map_cons, List.map_nil, List.cons.injEq, Prod.mk.injEq, and_true] at stamps
  obtain ⟨⟨thirdTicks, thirdPosition, thirdStarted, -⟩,
    ⟨secondTicks, secondPosition, secondStarted, -⟩,
    firstTicks, firstPosition, -, firstFinished⟩ := stamps
  have beforeSecond : first.finished < second.started := by omega
  have beforeThird : first.finished < third.started := by omega
  have sameTicks : first.ticks = second.ticks := firstTicks.trans secondTicks.symm
  refine ⟨readSteps, first, by simp, second, by simp, third, by simp, beforeSecond, sameTicks, ?_,
    beforeThird, ?_, ?_⟩
  · refine ascends first (by simp) second (by simp) beforeSecond ?_
    intro _ position above atMost
    have between : position = 2 := by omega
    subst between
    decide
  · rw [thirdPosition]
    decide
  · refine ascends first (by simp) third (by simp) beforeThird ?_
    intro same
    rw [firstTicks, thirdTicks] at same
    exact absurd same (by decide)

end System

end Concurrent

end TimeOrderedGuid
