import Mathlib.Data.List.Basic
import LoopPlayer.Trace

/-! Work on other lines. Of the lines that things stand on, tasks, jobs and steps only tell: what is
found on other lines is told of them, and the trace of jobs on other lines is their trace otherwise. -/
namespace LoopPlayer

def Task.moved (move : Int → Int) (task : Task) : Task :=
  { task with
    line := move task.line
    extra := task.extra.map fun (line, text) => (move line, text) }

def Job.moved (move : Int → Int) (job : Job) : Job :=
  { job with
    toTask := job.toTask.moved move
    nested := job.nested.map (Task.moved move) }

def Step.moved (move : Int → Int) (step : Step) : Step := { step with line := move step.line }

namespace Source

/- The first line has index 0 and number 1, so lines are moved in two ways at a time. -/
variable (onto : Nat → Nat)

def Printed.moved (printed : Printed) : Printed := (onto printed.1, printed.2)

def Link.moved (link : Link) : Link := { link with line := onto link.line }

theorem printedMoved (index : Nat) (text : List Char) :
    printedBy (onto index) text = (printedBy index text).map (Printed.moved onto) := by
  rw [printedBy, printedBy, List.map_map]
  rfl

theorem linksMoved (read : Printed) :
    links (Printed.moved onto read) = (links read).map (Link.moved onto) := by
  obtain ⟨index, text⟩ := read
  simp only [Printed.moved, links]
  cases Text.pieces attachment text with
  | nil => rfl
  | cons first rest => simp only [List.map_cons, List.map_map, Link.moved, Function.comp_def]

theorem printedAllMoved (reads : List Printed) :
    (reads.map (Printed.moved onto)).flatMap (fun read => printedBy read.1 read.2) =
      (reads.flatMap fun read => printedBy read.1 read.2).map (Printed.moved onto) := by
  rw [List.flatMap_map, List.map_flatMap]
  exact List.flatMap_congr fun read _ => printedMoved onto read.1 read.2

theorem linksAllMoved (reads : List Printed) :
    (reads.map (Printed.moved onto)).flatMap links = (reads.flatMap links).map (Link.moved onto) := by
  rw [List.flatMap_map, List.map_flatMap]
  exact List.flatMap_congr fun read _ => linksMoved onto read

theorem continuationsMoved (all : List Link) :
    continuations (all.map (Link.moved onto)) =
      ((continuations all).1.map (Printed.moved onto),
        (continuations all).2.map fun (index, printed) =>
          (onto index, printed.map (Printed.moved onto))) := by
  induction all with
  | nil => rfl
  | cons link rest ih =>
    simp only [List.map_cons, continuations, ih]
    cases attached : link.attached <;>
      simp [Link.moved, attached, printedMoved, List.map_append]

theorem deferredMoved {move : Int → Int} (same : ∀ index : Nat, move (index + 1) = onto index + 1)
    (registration : Registration) (start : Nat) (printed : List Printed) :
    deferred registration (onto start) (printed.map (Printed.moved onto)) =
      (deferred registration start printed).moved move := by
  cases printed with
  | nil => simp only [deferred, Task.moved, same, List.map_nil, List.tail_nil, List.head?_nil]
  | cons first rest =>
    simp only [deferred, Task.moved, same, List.map_cons, List.tail_cons, List.head?_cons,
      Option.map_some, List.map_map, Function.comp_def, Printed.moved]

end Source

namespace Trace

variable (move : Int → Int)

def Numbered.moved (self : Numbered) : Numbered := { self with task := self.task.moved move }

def Slot.moved (slot : Slot) : Slot := { slot with job := slot.job.moved move }

def Move.moved (moving : Move) : Move :=
  { moving with task := moving.task.moved move, line := move moving.line }

def entryMoved (entry : Nat × Job) : Nat × Job := (entry.1, entry.2.moved move)

theorem executeMoved (self : Numbered) (note : String) :
    (self.moved move).execute note = (self.execute note).map (Move.moved move) := by
  simp only [Numbered.execute, List.map_cons, List.map_map]
  refine congrArg _ ?_
  exact List.map_map

theorem drainMoved (slot : Slot) : (slot.moved move).drain = slot.drain.map (Move.moved move) := by
  have inner : (slot.moved move).inner = slot.inner.map (Numbered.moved move) := by
    have tasks : (slot.moved move).job.nested = slot.job.nested.map (Task.moved move) := rfl
    rw [Slot.inner, Slot.inner, tasks, List.zipIdx_map, List.map_map, List.map_map]
    rfl
  have nested (self : Numbered) :
      (self.moved move).nested = self.nested.map (Move.moved move) := by
    rw [Numbered.nested, executeMoved]
    rfl
  have own : (slot.moved move).own = slot.own.moved move := rfl
  rw [Slot.drain, Slot.drain, inner, own, executeMoved, List.map_append, List.flatMap_map,
    List.map_flatMap]
  refine congrArg _ (List.flatMap_congr fun self _ => nested self)

theorem slotsMoved (given : List (Nat × Nat)) (next : Nat) (listed : List (Nat × Job)) :
    slots given next (listed.map (entryMoved move)) =
      (slots given next listed).map (Slot.moved move) := by
  induction listed generalizing given next with
  | nil => rfl
  | cons entry rest ih =>
    obtain ⟨number, job⟩ := entry
    have nested : (job.moved move).nested.length = job.nested.length := List.length_map _
    simp only [List.map_cons, entryMoved, slots, nested]
    cases given.lookup number with
    | none => exact congrArg _ (ih _ _)
    | some first => exact congrArg _ (ih _ _)

theorem movesMoved (listed : List (Nat × Job)) :
    moves (listed.map (entryMoved move)) = (moves listed).map (Move.moved move) := by
  have next : nextNumber (listed.map (entryMoved move)) = nextNumber listed := by
    rw [nextNumber, List.map_map]
    rfl
  have picked (lane : Lane → Bool) : (listed.map (entryMoved move)).filter (fun entry =>
      lane entry.2.lane) = (listed.filter fun entry => lane entry.2.lane).map (entryMoved move) :=
    List.filter_map
  have drained : drainedJobs (listed.map (entryMoved move)) =
      (drainedJobs listed).map (entryMoved move) := by
    rw [drainedJobs, drainedJobs, List.map_flatMap]
    exact List.flatMap_congr fun lane _ => picked (· == lane)
  have atOnce : immediateJobs (listed.map (entryMoved move)) =
      (immediateJobs listed).map (entryMoved move) := picked (· == .callStack)
  have waiting : deferredJobs (listed.map (entryMoved move)) =
      (deferredJobs listed).map (entryMoved move) := picked (· != .callStack)
  rw [moves, moves, next, drained, atOnce, waiting, slotsMoved, List.flatMap_map, List.flatMap_map,
    List.map_map, List.map_append, List.map_append, List.map_flatMap, List.map_flatMap, List.map_map]
  refine congrArg₂ _ (congrArg₂ _ (List.flatMap_congr fun entry _ => ?_) rfl)
    (List.flatMap_congr fun slot _ => drainMoved move slot)
  exact executeMoved move ⟨entry.1, entry.2.toTask⟩ immediateNote

theorem ofJobsMoved (jobs : List Job) :
    ofJobs (jobs.map (Job.moved move)) = (ofJobs jobs).map (Step.moved move) := by
  have numbered : number (jobs.map (Job.moved move)) = (number jobs).map (entryMoved move) := by
    rw [number, number, List.zipIdx_map, List.map_map, List.map_map]
    rfl
  rw [ofJobs, ofJobs, numbered, ofListed, ofListed, movesMoved, List.zipIdx_map, List.map_map,
    List.map_map]
  rfl

end Trace
end LoopPlayer
