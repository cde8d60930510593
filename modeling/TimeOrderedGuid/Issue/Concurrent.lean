import TimeOrderedGuid.Issue.Generator

/-! Threads that share one generator. Each call starts, takes a count and delivers its identifier in
three steps; only taking the count touches the generator, and steps of different threads may fall
in any order. Receipts record what a call carries and when its steps fell. -/

namespace TimeOrderedGuid.Concurrent

inductive Job where
  | ofTicks (ticks : Ticks)
  /-- For the time at which the call starts. -/
  | current

inductive Stage where
  | idle
  /-- The ticks are known since step `started`. -/
  | timed (ticks : Ticks) (started : Nat)
  /-- The count has been taken too, as the one at `position` among all that were taken. -/
  | counted (ticks : Ticks) (started : Nat) (count : UInt32) (position : Nat)

structure Thread where
  stage : Stage
  jobs : List Job

/-- A delivered identifier with the ticks and the position of its call, and the steps at which the
call started and ended. -/
structure Receipt where
  ticks : Ticks
  position : Nat
  started : Nat
  finished : Nat
  guid : Guid

/-- A generator and the threads that share it, after some steps. Receipts stand with the latest
first. -/
structure System where
  generator : Generator
  threads : List Thread
  steps : Nat
  taken : Nat
  receipts : List Receipt

namespace System

def start (generator : Generator) (jobs : List (List Job)) : System where
  generator
  threads := jobs.map fun jobs => { stage := .idle, jobs }
  steps := 0
  taken := 0
  receipts := []

def withThread (system : System) (place : Nat) (thread : Thread) : System :=
  { system with threads := system.threads.set place thread }

/-- What a thread at a place does in its next step, before the step is counted. A call for the
present reads the clock as it starts, and the clock's reading at each step is given. -/
def act (clock : Nat → Ticks) (system : System) (place : Nat) (thread : Thread) : System :=
  match thread.stage with
  | .idle =>
    match thread.jobs with
    | [] => system
    | .ofTicks ticks :: jobs => system.withThread place { stage := .timed ticks system.steps, jobs }
    | .current :: jobs =>
      system.withThread place { stage := .timed (clock system.steps) system.steps, jobs }
  | .timed ticks started =>
    let (count, generator) := system.generator.take
    let position := system.taken + 1
    { system.withThread place { thread with stage := .counted ticks started count position } with
      generator, taken := position }
  | .counted ticks started count position =>
    let guid := system.generator.identifier ticks count
    let receipt := { ticks, position, started, finished := system.steps, guid }
    { system.withThread place { thread with stage := .idle } with
      receipts := receipt :: system.receipts }

/-- One step of the thread at a place; a step at a place without a thread passes. -/
def step (clock : Nat → Ticks) (system : System) (place : Nat) : System :=
  let acted :=
    match system.threads[place]? with
    | some thread => system.act clock place thread
    | none => system
  { acted with steps := system.steps + 1 }

def run (clock : Nat → Ticks) (system : System) (schedule : List Nat) : System :=
  schedule.foldl (step clock) system

def delivered (system : System) : List Guid := system.receipts.map Receipt.guid

end System

def roundRobin (threads rounds : Nat) : List Nat :=
  (List.replicate rounds (List.range threads)).flatten

/-- The identifiers that some threads get when each makes the same number of calls for the same
ticks, and the generator to go on with. -/
def issueFromThreads (generator : Generator) (ticks : Ticks) (threads callsEach : Nat) :
    List Guid × Generator :=
  let jobs := List.replicate threads (List.replicate callsEach (.ofTicks ticks))
  let finished :=
    (System.start generator jobs).run (fun _ => ticks) (roundRobin threads (3 * callsEach))
  (finished.delivered, finished.generator)

end TimeOrderedGuid.Concurrent
