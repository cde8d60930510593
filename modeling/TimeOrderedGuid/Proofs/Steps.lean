import Mathlib.Data.List.Perm.Basic
import TimeOrderedGuid.Issue.Concurrent
import TimeOrderedGuid.Proofs.History

/-! The steps of threads that share a generator. All that a step can do is listed once; what every
such step keeps holds after every schedule. In particular each count is taken by one call alone. -/

namespace TimeOrderedGuid.Concurrent

def Job.ticksAt : Job → Ticks → Ticks
  | .ofTicks ticks, _ => ticks
  | .current, now => now

namespace System

/-- All that one step can do: nothing, or one of the three steps of a call. -/
inductive Step (clock : Nat → Ticks) (system : System) : System → Prop where
  | pass : Step clock system { system with steps := system.steps + 1 }
  | start {place : Nat} {job : Job} {jobs : List Job}
      (found : system.threads[place]? = some { stage := .idle, jobs := job :: jobs }) :
      Step clock system
        { system with
          threads := system.threads.set place
            { stage := .timed (job.ticksAt (clock system.steps)) system.steps, jobs }
          steps := system.steps + 1 }
  | take {place : Nat} {ticks : Ticks} {started : Nat} {jobs : List Job}
      (found : system.threads[place]? = some { stage := .timed ticks started, jobs }) :
      Step clock system
        { system with
          generator := system.generator.after 1
          threads := system.threads.set place
            { stage := .counted ticks started (system.generator.after 1).count (system.taken + 1)
              jobs }
          steps := system.steps + 1
          taken := system.taken + 1 }
  | deliver {place : Nat} {ticks : Ticks} {started : Nat} {count : UInt32} {position : Nat}
      {jobs : List Job}
      (found : system.threads[place]? =
        some { stage := .counted ticks started count position, jobs }) :
      Step clock system
        { system with
          threads := system.threads.set place { stage := .idle, jobs }
          steps := system.steps + 1
          receipts :=
            { ticks, position, started, finished := system.steps
              guid := system.generator.identifier ticks count } :: system.receipts }

theorem step_cases (clock : Nat → Ticks) (system : System) (place : Nat) :
    Step clock system (system.step clock place) := by
  unfold step
  cases found : system.threads[place]? with
  | none => exact .pass
  | some thread =>
    obtain ⟨stage, jobs⟩ := thread
    cases stage with
    | idle =>
      cases jobs with
      | nil => exact .pass
      | cons job jobs =>
        cases job with
        | ofTicks ticks => exact .start found
        | current => exact .start found
    | timed ticks started => exact .take found
    | counted ticks started count position => exact .deliver found

/-- What every step keeps holds after every schedule. -/
theorem run_keeps {clock : Nat → Ticks} {Kept : System → Prop}
    (kept : ∀ {system next : System}, Step clock system next → Kept system → Kept next)
    {system : System} (initially : Kept system) (schedule : List Nat) :
    Kept (system.run clock schedule) := by
  induction schedule generalizing system with
  | nil => exact initially
  | cons place rest ih => exact ih (kept (step_cases clock system place) initially)

end System

/-- What the threads hold, after one of them is replaced: an account of the whole changes as the
account of that thread does. -/
theorem account_set {Item : Type} (holds : Thread → List Item) {before after : List Item}
    (added : List Item) {threads : List Thread} {place : Nat} {thread replacement : Thread}
    (found : threads[place]? = some thread)
    (moved : (after ++ holds replacement).Perm (added ++ (before ++ holds thread))) :
    (after ++ (threads.set place replacement).flatMap holds).Perm
      (added ++ (before ++ threads.flatMap holds)) := by
  obtain ⟨inside, same⟩ := List.getElem?_eq_some_iff.mp found
  let others := (threads.eraseIdx place).flatMap holds
  have replaced : ((threads.set place replacement).flatMap holds).Perm
      (holds replacement ++ others) :=
    (List.set_perm_cons_eraseIdx inside replacement).flatMap_right holds
  have original : (threads.flatMap holds).Perm (holds thread ++ others) := by
    have perm := (List.getElem_cons_eraseIdx_perm inside).symm.flatMap_right holds
    rwa [same] at perm
  calc (after ++ (threads.set place replacement).flatMap holds).Perm
        (after ++ (holds replacement ++ others)) := replaced.append_left after
    _ = (after ++ holds replacement) ++ others := (List.append_assoc _ _ _).symm
    List.Perm _ ((added ++ (before ++ holds thread)) ++ others) := moved.append_right others
    _ = added ++ (before ++ (holds thread ++ others)) := by simp only [List.append_assoc]
    List.Perm _ (added ++ (before ++ threads.flatMap holds)) :=
      (original.symm.append_left before).append_left added

theorem forall_mem_set {Holds : Thread → Prop} {threads : List Thread} {place : Nat}
    {replacement : Thread} (all : ∀ thread ∈ threads, Holds thread) (holds : Holds replacement) :
    ∀ thread ∈ threads.set place replacement, Holds thread := by
  intro thread member
  rcases List.mem_or_eq_of_mem_set member with old | new
  · exact all thread old
  · rw [new]
    exact holds

/-- The position that a call has taken and not delivered yet. -/
def Thread.positions (thread : Thread) : List Nat :=
  match thread.stage with
  | .counted _ _ _ position => [position]
  | _ => []

def Thread.CarriesCount (initial : Generator) (thread : Thread) : Prop :=
  match thread.stage with
  | .counted _ _ count position => count = (initial.after position).count
  | _ => True

namespace System

def positions (system : System) : List Nat :=
  system.receipts.map Receipt.position ++ system.threads.flatMap Thread.positions

/-- From a first generator on, each position was taken once, and the calls carry the counts at their
positions. -/
structure Numbered (initial : Generator) (system : System) : Prop where
  generator : system.generator = initial.after system.taken
  positions : system.positions.Perm (List.range' 1 system.taken)
  counts : ∀ thread ∈ system.threads, thread.CarriesCount initial
  guids : ∀ receipt ∈ system.receipts,
    receipt.guid = initial.identifier receipt.ticks (initial.after receipt.position).count

variable {initial : Generator} {clock : Nat → Ticks} {system next : System}

theorem Numbered.position_bounds (numbered : Numbered initial system) {receipt : Receipt}
    (member : receipt ∈ system.receipts) :
    1 ≤ receipt.position ∧ receipt.position ≤ system.taken := by
  have held : receipt.position ∈ system.positions :=
    List.mem_append_left _ (List.mem_map_of_mem member)
  have bounds := List.mem_range'_1.mp (numbered.positions.mem_iff.mp held)
  omega

/-- A step hands out the next position at most, and delivers what was handed out before. -/
theorem Numbered.step (numbered : Numbered initial system) (step : Step clock system next) :
    Numbered initial next := by
  obtain ⟨generator, positions, counts, guids⟩ := numbered
  cases step with
  | pass => exact ⟨generator, positions, counts, guids⟩
  | start found =>
    refine ⟨generator, ?_, forall_mem_set counts trivial, guids⟩
    refine List.Perm.trans ?_ positions
    exact account_set Thread.positions [] found (List.Perm.refl _)
  | take found =>
    have moved : system.generator.after 1 = initial.after (system.taken + 1) := by
      rw [generator, Generator.after_after]
    refine ⟨moved, ?_, forall_mem_set counts (congrArg Generator.count moved), guids⟩
    rw [List.range'_1_concat, Nat.add_comm 1]
    refine List.Perm.trans ?_ ((positions.append_left [system.taken + 1]).trans
      List.perm_append_comm)
    exact account_set Thread.positions [system.taken + 1] found (by
      simp [Thread.positions])
  | @deliver place ticks started count position jobs found =>
    refine ⟨generator, ?_, forall_mem_set counts trivial, ?_⟩
    · refine List.Perm.trans ?_ positions
      exact account_set Thread.positions [] found (by
        simpa [Thread.positions] using (List.perm_append_singleton _ _).symm)
    · refine List.forall_mem_cons.mpr ⟨?_, guids⟩
      have carried : count = (initial.after position).count :=
        counts _ (List.mem_of_getElem? found)
      rw [carried, generator]
      rfl

private theorem positions_start (generator : Generator) (jobs : List (List Job)) :
    (start generator jobs).positions = [] := by
  simp [positions, start, Thread.positions, List.flatMap_map]

theorem numbered_run (generator : Generator) (jobs : List (List Job)) (clock : Nat → Ticks)
    (schedule : List Nat) : Numbered generator ((start generator jobs).run clock schedule) := by
  refine run_keeps (fun step numbered => numbered.step step) ?_ schedule
  refine ⟨generator.after_zero.symm, ?_, ?_, ?_⟩
  · rw [positions_start]
    exact List.Perm.refl _
  · intro thread member
    obtain ⟨own, _, rfl⟩ := List.mem_map.mp member
    trivial
  · intro receipt member
    cases member

end System

end TimeOrderedGuid.Concurrent
