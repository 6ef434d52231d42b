import LoopPlayer.Step

/-! The board: what stands in each lane, what was printed, and where the trace stands. A board is a
value, so a picture of it taken once never changes. -/
namespace LoopPlayer

structure Lanes where
  callStack : List Step := []
  microtask : List Step := []
  macrotask : List Step := []
  animation : List Step := []
  idle : List Step := []
  deriving DecidableEq, Repr

namespace Lanes

def get (lanes : Lanes) : Lane → List Step
  | .callStack => lanes.callStack
  | .microtask => lanes.microtask
  | .macrotask => lanes.macrotask
  | .animation => lanes.animation
  | .idle => lanes.idle

def set (lanes : Lanes) (lane : Lane) (steps : List Step) : Lanes :=
  match lane with
  | .callStack => { lanes with callStack := steps }
  | .microtask => { lanes with microtask := steps }
  | .macrotask => { lanes with macrotask := steps }
  | .animation => { lanes with animation := steps }
  | .idle => { lanes with idle := steps }

def push (lanes : Lanes) (lane : Lane) (step : Step) : Lanes :=
  lanes.set lane (lanes.get lane ++ [step])

end Lanes

/-- `index` is the position of the last step applied, minus one before the first. -/
structure Board where
  lanes : Lanes := {}
  output : List String := []
  index : Int := -1
  line : Option Int := none
  note : Option String := none
  deriving DecidableEq, Repr

inductive Matching where
  | byTask
  | byLabel
  deriving DecidableEq, Repr

def Matching.pairs (matching : Matching) (entry step : Step) : Bool :=
  match matching with
  | byTask => entry.task == step.task
  | byLabel => entry.label == step.label && entry.lane == step.lane

namespace Board

def remove (matching : Matching) (lanes : Lanes) (lane : Lane) (step : Step) : Lanes :=
  lanes.set lane ((lanes.get lane).eraseP fun entry => matching.pairs entry step)

def moved (matching : Matching) (lanes : Lanes) (step : Step) : Lanes :=
  match step.phase with
  | .enqueue => lanes.push step.lane step
  | .dequeue => (remove matching lanes step.lane step).push .callStack step
  | .execute =>
    if step.lane = .callStack then lanes.set .callStack [step]
    else remove matching lanes .callStack step
  | .output => lanes

def printed (step : Step) : List String :=
  match step.phase with
  | .execute => step.output.toList
  | .output => step.output.toList
  | _ => []

def apply (matching : Matching) (board : Board) (step : Step) : Board where
  lanes := moved matching board.lanes step
  output := board.output ++ printed step
  index := board.index + 1
  line := some step.line
  note := some step.note

def replay (matching : Matching) (steps : List Step) : Board := steps.foldl (apply matching) {}

end Board
end LoopPlayer
