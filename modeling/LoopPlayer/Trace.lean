import LoopPlayer.Source.Jobs
import LoopPlayer.Step

/-! The trace of a program: its jobs laid out as steps. Lines of their own run first; then all
deferred jobs are enqueued; then the lanes are drained one after another, microtasks, macrotasks,
animation frames, idle callbacks. A job that ran is followed by what is nested in it. -/
namespace LoopPlayer.Trace

structure Numbered where
  number : Nat
  task : Task
  deriving DecidableEq, Repr

structure Move where
  task : Numbered
  phase : Phase
  note : String
  output : Option String
  line : Int
  deriving DecidableEq, Repr

def immediateNote : String := "Synchronous code executes immediately on the call stack"

def outputNote : String := "Callback logs another line while it runs"

def enqueueNote : Lane → String
  | .callStack => "Pushed to call stack"
  | .microtask => "Continuation registered; callback added to microtask queue"
  | .macrotask => "setTimeout registered; callback added to macrotask queue"
  | .animation => "requestAnimationFrame registered; callback added to animation frame queue"
  | .idle => "requestIdleCallback registered; callback added to idle queue"

def dequeueNote : Lane → String
  | .callStack => ""
  | .microtask => "Microtask queue drains first: higher priority than macrotasks"
  | .macrotask => "Timer expired: dequeue from macrotask queue"
  | .animation => "Browser ready to paint: executing rAF callback"
  | .idle => "Browser idle: executing idle callback"

def executeNote : Lane → String
  | .callStack => immediateNote
  | .microtask => "Executing microtask on the call stack"
  | .macrotask => "Executing macrotask callback on the call stack"
  | .animation => "Executing animation frame callback"
  | .idle => "Executing idle callback (lowest priority)"

def nestedEnqueueNote : String := "Microtask created inside macrotask; enqueued to microtask queue"

def nestedDequeueNote : String := "Draining microtask queue before next macrotask"

def nestedExecuteNote : String := "Executing nested microtask"

namespace Numbered

def enqueue (self : Numbered) (note : String) : Move :=
  ⟨self, .enqueue, note, none, self.task.line⟩

def dequeue (self : Numbered) (note : String) : Move :=
  ⟨self, .dequeue, note, none, self.task.line⟩

def execute (self : Numbered) (note : String) : List Move :=
  ⟨self, .execute, note, self.task.output, self.task.line⟩ ::
    self.task.extra.map fun (line, text) => ⟨self, .output, outputNote, some text, line⟩

def nested (self : Numbered) : List Move :=
  self.enqueue nestedEnqueueNote :: self.dequeue nestedDequeueNote :: self.execute nestedExecuteNote

end Numbered

structure Slot where
  number : Nat
  job : Job
  firstNested : Nat
  deriving DecidableEq, Repr

namespace Slot

def own (slot : Slot) : Numbered := ⟨slot.number, slot.job.toTask⟩

def inner (slot : Slot) : List Numbered :=
  (slot.job.nested.zipIdx slot.firstNested).map fun (task, number) => ⟨number, task⟩

def drain (slot : Slot) : List Move :=
  slot.own.dequeue (dequeueNote slot.job.lane) :: slot.own.execute (executeNote slot.job.lane) ++
    slot.inner.flatMap Numbered.nested

end Slot

/-- Give out numbers from `next` on to the nested tasks of jobs in the order in which they are
drained. A job listed again keeps its numbers. -/
def slots (given : List (Nat × Nat)) (next : Nat) : List (Nat × Job) → List Slot
  | [] => []
  | (number, job) :: rest =>
    match given.lookup number with
    | some first => ⟨number, job, first⟩ :: slots given next rest
    | none =>
      ⟨number, job, next⟩ :: slots ((number, next) :: given) (next + job.nested.length) rest

def drainOrder : List Lane := [.microtask, .macrotask, .animation, .idle]

def immediateJobs (listed : List (Nat × Job)) : List (Nat × Job) :=
  listed.filter fun (_, job) => job.lane == .callStack

def deferredJobs (listed : List (Nat × Job)) : List (Nat × Job) :=
  listed.filter fun (_, job) => job.lane != .callStack

def drainedJobs (listed : List (Nat × Job)) : List (Nat × Job) :=
  drainOrder.flatMap fun lane => listed.filter fun (_, job) => job.lane == lane

def nextNumber (listed : List (Nat × Job)) : Nat :=
  (listed.map Prod.fst).foldl max 0 + 1

def moves (listed : List (Nat × Job)) : List Move :=
  ((immediateJobs listed).flatMap fun (number, job) =>
      Numbered.execute ⟨number, job.toTask⟩ immediateNote) ++
    ((deferredJobs listed).map fun (number, job) =>
      Numbered.enqueue ⟨number, job.toTask⟩ (enqueueNote job.lane)) ++
    (slots [] (nextNumber listed) (drainedJobs listed)).flatMap Slot.drain

def Move.step (move : Move) (id : Nat) : Step where
  id := id
  task := move.task.number
  code := move.task.task.code
  label := move.task.task.label
  note := move.note
  lane := move.task.task.lane
  line := move.line
  phase := move.phase
  output := move.output

def ofListed (listed : List (Nat × Job)) : List Step :=
  ((moves listed).zipIdx 1).map fun (move, id) => move.step id

def number (jobs : List Job) : List (Nat × Job) :=
  (jobs.zipIdx 1).map fun (job, number) => (number, job)

def ofJobs (jobs : List Job) : List Step := ofListed (number jobs)

/- The steps of jobs taken by their positions. A position may be taken several times: it is one
job and has one number, given when it is first taken. -/
def ofPositions (jobs : List Job) (positions : List Nat) : List Step :=
  let taken := positions.eraseDups
  ofListed (positions.filterMap fun position =>
    jobs[position]?.map fun job => (taken.idxOf position + 1, job))

end Trace

def traceOf (source : String) : List Step := Trace.ofJobs (jobsOf source)

end LoopPlayer
