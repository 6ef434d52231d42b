import LoopPlayer.Lane

/-! One move of a task on the board. A step carries all that is shown with it. -/
namespace LoopPlayer

inductive Phase where
  | enqueue
  | dequeue
  | execute
  | output
  deriving DecidableEq, Repr

namespace Phase

def all : List Phase := [enqueue, dequeue, execute, output]

def name : Phase → String
  | enqueue => "enqueue"
  | dequeue => "dequeue"
  | execute => "execute"
  | output => "output"

def ofName? (text : String) : Option Phase := all.find? (·.name == text)

end Phase

/-- `id` is the step's own number in its trace and `task` that of the task it moves. -/
structure Step where
  id : Int
  task : Int
  code : String
  label : String
  note : String
  lane : Lane
  line : Int
  phase : Phase
  output : Option String
  deriving DecidableEq, Repr

end LoopPlayer
