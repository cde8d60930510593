import Mathlib.Data.Finset.Dedup
import Mathlib.Order.Interval.Finset.Nat
import TimeOrderedGuid.Proofs.Steps

/-! What threads get does not depend on their schedule. Identifiers of one generator coincide only
for equal ticks and positions a whole round of serial numbers apart, and calls for the same ticks
get what one thread would get that makes them all. -/

namespace TimeOrderedGuid

/-- A sequence that repeats itself exactly from period to period has, up to any place, as many
values as places, but no more than a period of them. -/
theorem card_image_of_period {Item : Type} [DecidableEq Item] {values : Nat → Item} {period : Nat}
    (same : ∀ first second, values first = values second ↔ first % period = second % period)
    (positive : 0 < period) (start count : Nat) :
    ((Finset.Ico start (start + count)).image values).card = min count period := by
  have distinct (few : Nat) (atMost : few ≤ period) :
      ((Finset.Ico start (start + few)).image values).card = few := by
    rw [Finset.card_image_of_injOn, Nat.card_Ico, Nat.add_sub_cancel_left]
    intro first firstInside second secondInside equal
    refine Nat.mod_injOn_Ico start period ?_ ?_ ((same first second).mp equal)
    · exact Finset.Ico_subset_Ico_right (Nat.add_le_add_left atMost start) firstInside
    · exact Finset.Ico_subset_Ico_right (Nat.add_le_add_left atMost start) secondInside
  rcases Nat.le_total count period with within | beyond
  · rw [distinct count within, Nat.min_eq_left within]
  · rw [Nat.min_eq_right beyond, ← distinct period (Nat.le_refl period)]
    congr 1
    apply Finset.Subset.antisymm
    · intro value member
      obtain ⟨place, -, rfl⟩ := Finset.mem_image.mp member
      have remainder : place % period ∈ Finset.range period :=
        Finset.mem_range.mpr (Nat.mod_lt place positive)
      rw [← Nat.image_Ico_mod start period] at remainder
      obtain ⟨early, inside, equal⟩ := Finset.mem_image.mp remainder
      exact Finset.mem_image.mpr ⟨early, inside, (same early place).mpr equal⟩
    · exact Finset.image_subset_image
        (Finset.Ico_subset_Ico_right (Nat.add_le_add_left beyond start))

namespace Generator

variable (generator : Generator)

theorem issueAll_replicate (ticks : Ticks) (calls : Nat) :
    (generator.issueAll (List.replicate calls ticks)).1 =
      (List.range' 1 calls).map fun position =>
        generator.identifier ticks (generator.after position).count := by
  rw [issueAll_eq]
  apply List.ext_getElem
  · simp
  · intro place _ _
    simp [Nat.add_comm]

theorem card_issueAll_replicate (ticks : Ticks) (calls : Nat) :
    (generator.issueAll (List.replicate calls ticks)).1.toFinset.card = min calls (2 ^ 24) := by
  have values : (generator.issueAll (List.replicate calls ticks)).1.toFinset =
      (Finset.Ico 1 (1 + calls)).image fun position =>
        generator.identifier ticks (generator.after position).count := by
    ext guid
    rw [issueAll_replicate]
    simp
  rw [values]
  refine card_image_of_period ?_ (by decide) 1 calls
  intro first second
  rw [identifier_eq_iff, toNat_count_after_mod, toNat_count_after_mod]
  simp only [true_and]
  omega

end Generator

namespace Concurrent

/-- The ticks that a call names, unless it leaves them to the clock. -/
def Job.argument : Job → Option Ticks
  | .ofTicks ticks => some ticks
  | .current => none

namespace Thread

/-- The arguments of the calls that a thread has not delivered yet. -/
def arguments (thread : Thread) : List (Option Ticks) :=
  match thread.stage with
  | .idle => thread.jobs.map Job.argument
  | .timed ticks _ | .counted ticks _ _ _ => some ticks :: thread.jobs.map Job.argument

def isFinished : Thread → Bool
  | { stage := .idle, jobs := [] } => true
  | _ => false

theorem nothing_left {thread : Thread} (finished : thread.isFinished = true) :
    thread.positions = [] ∧ thread.arguments = [] := by
  obtain ⟨stage, jobs⟩ := thread
  cases stage with
  | idle =>
    cases jobs with
    | nil => exact ⟨rfl, rfl⟩
    | cons job jobs => cases finished
  | timed ticks started => cases finished
  | counted ticks started count position => cases finished

theorem length_positions_le (thread : Thread) :
    thread.positions.length ≤ thread.arguments.length := by
  obtain ⟨stage, jobs⟩ := thread
  cases stage <;> simp [positions, arguments]

end Thread

namespace System

def isFinished (system : System) : Bool := system.threads.all Thread.isFinished

def arguments (system : System) : List (Option Ticks) :=
  system.receipts.map (fun receipt => some receipt.ticks) ++
    system.threads.flatMap Thread.arguments

variable {clock : Nat → Ticks} {system next : System}

/-- No step loses or adds an argument, as long as no call leaves its ticks to the clock. -/
theorem arguments_step (step : Step clock system next) (named : none ∉ system.arguments) :
    next.arguments.Perm system.arguments := by
  cases step with
  | pass => exact List.Perm.refl _
  | @start place job jobs found =>
    have kept : job.argument = some (job.ticksAt (clock system.steps)) := by
      cases job with
      | ofTicks ticks => rfl
      | current =>
        refine absurd ?_ named
        refine List.mem_append_right _ (List.mem_flatMap.mpr ⟨_, List.mem_of_getElem? found, ?_⟩)
        simp [Thread.arguments, Job.argument]
    exact account_set Thread.arguments [] found (by simp [Thread.arguments, kept])
  | take found => exact account_set Thread.arguments [] found (List.Perm.refl _)
  | deliver found =>
    exact account_set Thread.arguments [] found (by
      simpa [Thread.arguments] using List.perm_middle.symm)

private theorem arguments_start (generator : Generator) (jobs : List (List Job)) :
    (start generator jobs).arguments = jobs.flatten.map Job.argument := by
  rw [List.map_flatten]
  simp only [arguments, start, List.flatMap_def, List.map_map, List.map_nil, List.nil_append]
  rfl

theorem arguments_run (generator : Generator) (jobs : List (List Job)) (clock : Nat → Ticks)
    (schedule : List Nat) (named : none ∉ jobs.flatten.map Job.argument) :
    ((start generator jobs).run clock schedule).arguments.Perm
      (jobs.flatten.map Job.argument) := by
  have kept {system next : System} (step : Step clock system next)
      (perm : system.arguments.Perm (jobs.flatten.map Job.argument)) :
      next.arguments.Perm (jobs.flatten.map Job.argument) :=
    (arguments_step step (fun unnamed => named (perm.mem_iff.mp unnamed))).trans perm
  exact run_keeps kept (List.Perm.of_eq (arguments_start generator jobs)) schedule

theorem taken_le_length_arguments {initial : Generator} (numbered : Numbered initial system) :
    system.taken ≤ system.arguments.length := by
  have perThread : ∀ threads : List Thread, (threads.flatMap Thread.positions).length ≤
      (threads.flatMap Thread.arguments).length := by
    intro threads
    induction threads with
    | nil => exact Nat.le_refl 0
    | cons thread rest ih =>
      simp only [List.flatMap_cons, List.length_append]
      exact Nat.add_le_add thread.length_positions_le ih
  have taken := numbered.positions.length_eq
  have bound := perThread system.threads
  simp only [positions, arguments, List.length_append, List.length_map, List.length_range']
    at taken ⊢
  omega

theorem receipts_of_finished {initial : Generator} (numbered : Numbered initial system)
    (finished : system.isFinished = true) :
    system.arguments = system.receipts.map (fun receipt => some receipt.ticks) ∧
      system.taken = system.receipts.length ∧
      (system.receipts.map Receipt.position).Perm (List.range' 1 system.receipts.length) := by
  have none (thread : Thread) (member : thread ∈ system.threads) :=
    Thread.nothing_left (List.all_eq_true.mp finished thread member)
  have noPositions : system.threads.flatMap Thread.positions = [] :=
    List.flatMap_eq_nil_iff.mpr fun thread member => (none thread member).1
  have noArguments : system.threads.flatMap Thread.arguments = [] :=
    List.flatMap_eq_nil_iff.mpr fun thread member => (none thread member).2
  have positions := numbered.positions
  unfold System.positions at positions
  rw [noPositions, List.append_nil] at positions
  have taken : system.receipts.length = system.taken := by
    simpa using positions.length_eq
  refine ⟨?_, taken.symm, ?_⟩
  · rw [arguments, noArguments, List.append_nil]
  · rw [taken]
    exact positions

private theorem arguments_run_ofTicks (generator : Generator) (jobs : List (List Ticks))
    (clock : Nat → Ticks) (schedule : List Nat) :
    ((start generator (jobs.map (·.map Job.ofTicks))).run clock schedule).arguments.Perm
      (jobs.flatten.map some) := by
  have argument : ((jobs.map (·.map Job.ofTicks)).flatten.map Job.argument) =
      jobs.flatten.map some := by
    simp [List.map_flatten, Function.comp_def, Job.argument]
  rw [← argument]
  exact arguments_run generator _ clock schedule (by rw [argument]; simp)

/-- Once all calls are delivered, each has got its ticks and a position of its own, and no more
counts have been taken than calls were made. -/
theorem calls_of_finished (generator : Generator) (jobs : List (List Ticks)) (clock : Nat → Ticks)
    (schedule : List Nat) :
    let calls := jobs.flatten.length
    let system := (start generator (jobs.map (·.map Job.ofTicks))).run clock schedule
    system.isFinished = true →
      (system.receipts.map Receipt.ticks).Perm jobs.flatten ∧
      (system.receipts.map Receipt.position).Perm (List.range' 1 calls) ∧
      system.generator = generator.after calls := by
  intro calls system finished
  have numbered : Numbered generator system := numbered_run generator _ clock schedule
  have arguments : system.arguments.Perm (jobs.flatten.map some) :=
    arguments_run_ofTicks generator jobs clock schedule
  obtain ⟨told, taken, positions⟩ := receipts_of_finished numbered finished
  rw [told] at arguments
  have asked : (system.receipts.map Receipt.ticks).Perm jobs.flatten := by
    rw [← List.map_perm_map_iff (Option.some_injective _), List.map_map]
    exact arguments
  have all := asked.length_eq
  rw [List.length_map] at all
  rw [all] at positions taken
  refine ⟨asked, positions, ?_⟩
  rw [numbered.generator, taken]

variable {initial : Generator}

theorem guid_eq_iff (numbered : Numbered initial system) {first second : Receipt}
    (firstMember : first ∈ system.receipts) (secondMember : second ∈ system.receipts) :
    first.guid = second.guid ↔
      first.ticks = second.ticks ∧ first.position % 2 ^ 24 = second.position % 2 ^ 24 := by
  rw [numbered.guids first firstMember, numbered.guids second secondMember,
    Generator.identifier_eq_iff, Generator.toNat_count_after_mod, Generator.toNat_count_after_mod]
  refine and_congr Iff.rfl ?_
  omega

theorem delivered_nodup (numbered : Numbered initial system) (few : system.taken ≤ 2 ^ 24) :
    system.delivered.Nodup := by
  have all : system.positions.Nodup := numbered.positions.nodup_iff.mpr List.nodup_range'
  have distinct : (system.receipts.map Receipt.position).Nodup := (List.nodup_append.mp all).1
  unfold List.Nodup delivered at *
  rw [List.pairwise_map] at distinct ⊢
  refine distinct.imp_of_mem fun {first second} firstMember secondMember different same => ?_
  have wraps := ((guid_eq_iff numbered firstMember secondMember).mp same).2
  have firstBounds := numbered.position_bounds firstMember
  have secondBounds := numbered.position_bounds secondMember
  omega

theorem delivered_perm_of_uniform (numbered : Numbered initial system) {ticks : Ticks} {calls : Nat}
    (positions : (system.receipts.map Receipt.position).Perm (List.range' 1 calls))
    (uniform : ∀ receipt ∈ system.receipts, receipt.ticks = ticks) :
    system.delivered.Perm (initial.issueAll (List.replicate calls ticks)).1 := by
  have carried : system.delivered = (system.receipts.map Receipt.position).map fun position =>
      initial.identifier ticks (initial.after position).count := by
    rw [List.map_map]
    refine List.map_congr_left fun receipt member => ?_
    rw [numbered.guids receipt member, uniform receipt member]
    rfl
  rw [carried, Generator.issueAll_replicate]
  exact positions.map _

/-- Under every schedule, two delivered identifiers are equal exactly if their calls are for the
same ticks and took counts a multiple of the serial numbers apart; up to as many calls as there are
serial numbers all are different. Once all calls are delivered, each has had its own place in the
order of the counts, and calls for the same ticks have got what one thread gets in as many calls. -/
theorem identifiers_of_interleaving (generator : Generator) (jobs : List (List Ticks))
    (clock : Nat → Ticks) (schedule : List Nat) :
    let calls := jobs.flatten.length
    let system := (start generator (jobs.map (·.map Job.ofTicks))).run clock schedule
    (∀ first ∈ system.receipts, ∀ second ∈ system.receipts,
      (first.guid = second.guid ↔
        first.ticks = second.ticks ∧ first.position % 2 ^ 24 = second.position % 2 ^ 24)) ∧
    (calls ≤ 2 ^ 24 → system.delivered.Nodup) ∧
    (system.isFinished = true →
      (system.receipts.map Receipt.ticks).Perm jobs.flatten ∧
      (system.receipts.map Receipt.position).Perm (List.range' 1 calls) ∧
      ∀ ticks, (∀ asked ∈ jobs.flatten, asked = ticks) →
        system.delivered.Perm (generator.issueAll (List.replicate calls ticks)).1 ∧
        system.delivered.toFinset.card = min calls (2 ^ 24)) := by
  intro calls system
  have numbered : Numbered generator system := numbered_run generator _ clock schedule
  refine ⟨fun first firstMember second secondMember =>
    guid_eq_iff numbered firstMember secondMember, ?_, ?_⟩
  · intro few
    have taken := taken_le_length_arguments numbered
    rw [(arguments_run_ofTicks generator jobs clock schedule).length_eq, List.length_map] at taken
    exact delivered_nodup numbered (Nat.le_trans taken few)
  · intro finished
    obtain ⟨asked, positions, -⟩ := calls_of_finished generator jobs clock schedule finished
    refine ⟨asked, positions, ?_⟩
    intro ticks uniform
    have delivered : system.delivered.Perm
        (generator.issueAll (List.replicate calls ticks)).1 :=
      delivered_perm_of_uniform numbered positions fun receipt member =>
        uniform _ (asked.mem_iff.mp (List.mem_map_of_mem member))
    refine ⟨delivered, ?_⟩
    rw [List.toFinset_eq_of_perm _ _ delivered, Generator.card_issueAll_replicate]

/-- Two threads make three calls for the same ticks, their steps mixed. -/
theorem identifiers_of_mixed_steps :
    let generator : Generator :=
      { order := .sqlServer, discriminator := ⟨#v[1, 2, 3, 4, 5]⟩, count := 0xffffff }
    let jobs : List (List Ticks) := [[Ticks.unixEpoch, Ticks.unixEpoch], [Ticks.unixEpoch]]
    let system := (start generator (jobs.map (·.map Job.ofTicks))).run (fun _ => ⟨0⟩)
      [0, 1, 1, 0, 0, 0, 1, 0, 0]
    jobs.flatten.length ≤ 2 ^ 24 ∧ system.isFinished = true ∧
      (∀ asked ∈ jobs.flatten, asked = Ticks.unixEpoch) ∧
      (∃ first ∈ system.receipts, ∃ second ∈ system.receipts,
        first.position = 1 ∧ second.position = 2 ∧ first.guid ≠ second.guid) ∧
      system.delivered.Nodup ∧
      system.delivered.Perm (generator.issueAll (List.replicate 3 Ticks.unixEpoch)).1 ∧
      system.delivered.toFinset.card = 3 := by
  intro generator jobs system
  have few : jobs.flatten.length ≤ 2 ^ 24 := by decide
  have finished : system.isFinished = true := by decide
  have uniform : ∀ asked ∈ jobs.flatten, asked = Ticks.unixEpoch := by decide
  obtain ⟨equal, distinct, complete⟩ := identifiers_of_interleaving generator jobs (fun _ => ⟨0⟩)
    [0, 1, 1, 0, 0, 0, 1, 0, 0]
  obtain ⟨-, -, agree⟩ := complete finished
  refine ⟨few, finished, uniform, ?_, distinct few, (agree _ uniform).1, (agree _ uniform).2⟩
  have positions : system.receipts.map Receipt.position = [3, 1, 2] := by decide
  have receiptAt (position : Nat) (taken : position ∈ [3, 1, 2]) :
      ∃ receipt ∈ system.receipts, receipt.position = position := by
    rw [← positions] at taken
    exact List.mem_map.mp taken
  obtain ⟨first, firstMember, firstPosition⟩ := receiptAt 1 (by decide)
  obtain ⟨second, secondMember, secondPosition⟩ := receiptAt 2 (by decide)
  refine ⟨first, firstMember, second, secondMember, firstPosition, secondPosition, ?_⟩
  rw [Ne, equal first firstMember second secondMember, firstPosition, secondPosition]
  exact fun same => absurd same.2 (by decide)

end System

end Concurrent

end TimeOrderedGuid
