import LoopPlayer.Lane

/-! Work found in a program. A task is one callback, or one line run at once; a job is a task with
the microtasks that its body schedules for itself. -/
namespace LoopPlayer

structure Task where
  code : String
  label : String
  lane : Lane
  line : Int
  output : Option String
  extra : List (Int × String)
  deriving DecidableEq, Repr

structure Job extends Task where
  nested : List Task
  deriving DecidableEq, Repr

namespace Task

def outputs (task : Task) : List String := task.output.toList ++ task.extra.map Prod.snd

end Task

namespace Job

def outputs (job : Job) : List String := job.toTask.outputs ++ job.nested.flatMap Task.outputs

def tasks (job : Job) : List Task := job.toTask :: job.nested

end Job
end LoopPlayer
