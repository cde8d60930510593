import TimeOrderedGuid.Proofs.Interleaving

/-! Schedules that complete all calls. A call takes three steps, so that a schedule completes the
calls of all threads exactly if each thread makes three steps for each of its calls. Threads that
take turns often enough therefore get together what one thread gets. -/

namespace TimeOrderedGuid.Concurrent

namespace Thread

/-- The steps that a thread has to make until all its calls are delivered. -/
def stepsLeft (thread : Thread) : Nat :=
  match thread.stage with
  | .idle => 3 * thread.jobs.length
  | .timed _ _ => 3 * thread.jobs.length + 2
  | .counted _ _ _ _ => 3 * thread.jobs.length + 1

theorem isFinished_iff {thread : Thread} : thread.isFinished = true ↔ thread.stepsLeft = 0 := by
  obtain ⟨stage, jobs⟩ := thread
  cases stage <;> cases jobs <;> simp [isFinished, stepsLeft]

end Thread

namespace System

def stepsLeft (system : System) (place : Nat) : Nat :=
  system.threads[place]?.elim 0 Thread.stepsLeft

theorem isFinished_iff {system : System} :
    system.isFinished = true ↔ ∀ place, system.stepsLeft place = 0 := by
  simp only [isFinished, List.all_eq_true, Thread.isFinished_iff, stepsLeft]
  constructor
  · intro finished place
    cases found : system.threads[place]? with
    | none => rfl
    | some thread => exact finished thread (List.mem_of_getElem? found)
  · intro none thread member
    obtain ⟨place, found⟩ := List.mem_iff_getElem?.mp member
    have left := none place
    rwa [found] at left

variable (clock : Nat → Ticks) (system : System)

private theorem threads_act {place : Nat} {thread : Thread}
    (found : system.threads[place]? = some thread) :
    ∃ moved, (system.act clock place thread).threads = system.threads.set place moved ∧
      moved.stepsLeft = thread.stepsLeft - 1 := by
  obtain ⟨stage, jobs⟩ := thread
  cases stage with
  | idle =>
    cases jobs with
    | nil =>
      obtain ⟨inside, same⟩ := List.getElem?_eq_some_iff.mp found
      have kept := List.set_getElem_self inside
      rw [same] at kept
      exact ⟨{ stage := .idle, jobs := [] }, kept.symm, rfl⟩
    | cons job jobs =>
      have started : 3 * jobs.length + 2 = 3 * (jobs.length + 1) - 1 := by omega
      cases job with
      | ofTicks ticks => exact ⟨_, rfl, started⟩
      | current => exact ⟨_, rfl, started⟩
  | timed ticks started => exact ⟨_, rfl, rfl⟩
  | counted ticks started count position => exact ⟨_, rfl, rfl⟩

/-- A step is one step less for its own thread and changes nothing for the others. -/
theorem stepsLeft_step (place other : Nat) :
    (system.step clock place).stepsLeft other = system.stepsLeft other - [place].count other := by
  unfold step stepsLeft
  cases found : system.threads[place]? with
  | none =>
    by_cases same : place = other
    · subst other
      simp [found]
    · simp [same]
  | some thread =>
    obtain ⟨moved, threads, left⟩ := system.threads_act clock found
    simp only [threads]
    by_cases same : place = other
    · subst other
      obtain ⟨inside, -⟩ := List.getElem?_eq_some_iff.mp found
      simp only [List.getElem?_set_self inside, Option.elim_some, left, found,
        List.count_singleton_self]
    · simp [same]

theorem stepsLeft_run (schedule : List Nat) (place : Nat) :
    (system.run clock schedule).stepsLeft place =
      system.stepsLeft place - schedule.count place := by
  induction schedule generalizing system with
  | nil => rfl
  | cons head rest ih =>
    change ((system.step clock head).run clock rest).stepsLeft place = _
    rw [ih, stepsLeft_step, Nat.sub_sub, ← List.count_append, List.singleton_append]

/-- A schedule completes all calls exactly if it names each thread three times for each call. -/
theorem isFinished_run_iff (generator : Generator) (jobs : List (List Job)) (schedule : List Nat) :
    ((start generator jobs).run clock schedule).isFinished = true ↔
      ∀ place, ∀ inside : place < jobs.length, 3 * jobs[place].length ≤ schedule.count place := by
  simp only [isFinished_iff, stepsLeft_run, Nat.sub_eq_zero_iff_le]
  refine forall_congr' fun place => ?_
  by_cases inside : place < jobs.length
  · simp [stepsLeft, start, Thread.stepsLeft, inside]
  · simp [stepsLeft, start, inside]

end System

theorem count_roundRobin {threads place : Nat} (inside : place < threads) (rounds : Nat) :
    (roundRobin threads rounds).count place = rounds := by
  have once : (List.range threads).count place = 1 :=
    List.count_eq_one_of_mem List.nodup_range (List.mem_range.mpr inside)
  simp [roundRobin, List.count_flatten, once]

theorem isFinished_roundRobin (generator : Generator) (clock : Nat → Ticks) {jobs : List (List Job)}
    {calls : Nat} (few : ∀ own ∈ jobs, own.length ≤ calls) :
    ((System.start generator jobs).run clock
      (roundRobin jobs.length (3 * calls))).isFinished = true := by
  rw [System.isFinished_run_iff]
  intro place inside
  rw [count_roundRobin inside]
  exact Nat.mul_le_mul_left 3 (few _ (List.getElem_mem inside))

variable (generator : Generator) (ticks : Ticks) (threads callsEach : Nat)

/-- Threads that take turns deliver what one thread gets in as many calls, in some order, and leave
the generator that it leaves. -/
theorem issueFromThreads_perm :
    let alone := generator.issueAll (List.replicate (threads * callsEach) ticks)
    (issueFromThreads generator ticks threads callsEach).1.Perm alone.1 ∧
      (issueFromThreads generator ticks threads callsEach).2 = alone.2 := by
  intro alone
  let asked := List.replicate threads (List.replicate callsEach ticks)
  have calls : asked.flatten = List.replicate (threads * callsEach) ticks :=
    List.flatten_replicate_replicate
  have jobs : List.replicate threads (List.replicate callsEach (Job.ofTicks ticks)) =
      asked.map (·.map Job.ofTicks) := by
    simp [asked]
  have length : (asked.map (·.map Job.ofTicks)).length = threads := by
    simp [asked]
  have few : ∀ own ∈ asked.map (·.map Job.ofTicks), own.length ≤ callsEach := by
    simp [asked]
  have finished := isFinished_roundRobin generator (fun _ => ticks) few
  rw [length] at finished
  obtain ⟨told, positions, left⟩ := System.calls_of_finished generator asked _ _ finished
  rw [calls] at told positions left
  rw [issueFromThreads, jobs]
  refine ⟨?_, ?_⟩
  · refine System.delivered_perm_of_uniform (System.numbered_run _ _ _ _) ?_ ?_
    · simpa using positions
    · intro receipt member
      exact List.eq_of_mem_replicate (told.mem_iff.mp (List.mem_map_of_mem member))
  · simp only [left, List.length_replicate, alone, Generator.issueAll_eq]

theorem card_issueFromThreads :
    (issueFromThreads generator ticks threads callsEach).1.toFinset.card =
      min (threads * callsEach) (2 ^ 24) := by
  rw [List.toFinset_eq_of_perm _ _ (issueFromThreads_perm generator ticks threads callsEach).1,
    Generator.card_issueAll_replicate]

end TimeOrderedGuid.Concurrent
