import LoopPlayer.Proofs.Position
import LoopPlayer.Proofs.Printing

/-! What stands on the console when a program has come to its end. However it was brought there, its
lines that run at once have printed first, and then lane after lane what was deferred, each timer
together with the tasks nested in it. -/
namespace LoopPlayer

def jobsIn (lane : Lane) (jobs : List Job) : List Job := jobs.filter fun job => job.lane == lane

def ownOutputs (jobs : List Job) : List String := jobs.flatMap fun job => job.toTask.outputs

def timerOutputs (jobs : List Job) : List String :=
  jobs.flatMap fun job => job.toTask.outputs ++ job.nested.flatMap Task.outputs

def console (jobs : List Job) : List String :=
  ownOutputs (jobsIn .callStack jobs) ++ ownOutputs (jobsIn .microtask jobs) ++
    timerOutputs (jobsIn .macrotask jobs) ++ ownOutputs (jobsIn .animation jobs) ++
    ownOutputs (jobsIn .idle jobs)

namespace Trace

theorem stepPrints {jobs : List Job} (nested : ∀ job ∈ jobs, job.WellNested) {step : Step}
    (member : step ∈ ofJobs jobs) : Board.printed step = step.output.toList := by
  have life := jobsLifecycle nested
  obtain ⟨self, own, numbered⟩ := life.owned step member
  have living : step.mark ∈ self.life := by
    rw [← life.lives self own]
    exact List.mem_map_of_mem (List.mem_filter.mpr ⟨member, decide_eq_true numbered⟩)
  rcases Numbered.lifeCases living with enqueued | dequeued | running
  · have phase : step.phase = .enqueue := congrArg Mark.phase enqueued
    have silent : step.output = none := congrArg Mark.output enqueued
    rw [Board.printed, phase, silent]
    rfl
  · have phase : step.phase = .dequeue := congrArg Mark.phase dequeued
    have silent : step.output = none := congrArg Mark.output dequeued
    rw [Board.printed, phase, silent]
    rfl
  · rcases (Numbered.runningMark running).2.2 with phase | phase
    · have executes : step.phase = .execute := phase
      rw [Board.printed, executes]
    · have prints : step.phase = .output := phase
      rw [Board.printed, prints]

theorem rosterIn (lane : Lane) (jobs : List Job) :
    ((roster jobs).filter fun slot => slot.lane == lane).map Slot.job = jobsIn lane jobs := by
  conv_rhs => rw [jobsIn, ← rosterJobs jobs, List.filter_map]
  rfl

theorem consoleOutputs {jobs : List Job} (nested : ∀ job ∈ jobs, job.WellNested) :
    (ofJobs jobs).filterMap Step.output = console jobs := by
  have section_ (lane : Lane) :
      ((roster jobs).filter fun slot => slot.lane == lane).flatMap (fun slot => slot.job.outputs) =
        (jobsIn lane jobs).flatMap Job.outputs := by
    rw [← rosterIn, List.flatMap_map]
  have own {lane : Lane} (other : lane ≠ .macrotask) :
      (jobsIn lane jobs).flatMap Job.outputs = ownOutputs (jobsIn lane jobs) := by
    refine List.flatMap_congr fun job member => ?_
    obtain ⟨listed, same⟩ := List.mem_filter.mp member
    exact (nested job listed).outputsOwn (by rwa [beq_iff_eq.mp same])
  have timers : (jobsIn .macrotask jobs).flatMap Job.outputs =
      timerOutputs (jobsIn .macrotask jobs) := rfl
  rw [outputsSections nested, immediateSlots, drainedSlots, drainOrder, console]
  simp only [List.flatMap_cons, List.flatMap_nil, List.append_nil, List.flatMap_append, section_,
    timers, List.append_assoc]
  rw [own Lane.noConfusion, own Lane.noConfusion, own Lane.noConfusion, own Lane.noConfusion]

theorem replayConsole {jobs : List Job} (nested : ∀ job ∈ jobs, job.WellNested)
    (matching : Matching) : (Board.replay matching (ofJobs jobs)).output = console jobs := by
  rw [Board.replayOutput, ← consoleOutputs nested, List.filterMap_eq_flatMap_toList]
  exact List.flatMap_congr fun step member => stepPrints nested member

end Trace

theorem Placed.finishedShowsAll {settings : Settings} {player : Player}
    (placed : Placed settings player)
    (finished : player.transport = .finished) :
    player.board = Board.replay player.matching player.steps := by
  rw [placed.replayed]
  cases steps : player.steps with
  | nil => rw [List.take_nil]
  | cons step rest =>
    have nonempty : player.steps ≠ [] := by
      rw [steps]
      exact List.cons_ne_nil _ _
    have last := (placed.finished nonempty).mp finished
    rw [← steps, last, Int.toNat_natCast, List.take_length]

def Event.program {σ : Type} (held : String) : Event σ → String
  | .move (.call (.load source)) => source
  | _ => held

namespace Stage

variable {σ : Type} [Scheduler σ]

theorem afterProgram {stage : Stage σ} {held : String}
    (holds : stage.rig.player.steps = traceOf held) (event : Event σ) :
    (stage.after event).rig.player.steps = traceOf (event.program held) := by
  have told (stage : Stage σ) (picture : Board) (owed : Owed) (listeners : List String) :
      (stage.tell picture owed listeners).rig.player.steps = stage.rig.player.steps := by
    rcases tellRig stage picture owed listeners with same | paid
    · rw [same]
    · obtain ⟨_, _, frame⟩ := Rig.settleFrame stage.rig owed
      rw [paid, frame]
  cases event with
  | drift scheduler => exact holds
  | move move =>
    cases move with
    | subscribe listener => exact holds
    | unsubscribe listener => exact holds
    | failed => exact holds
    | returned =>
      simp only [after, step]
      split
      · exact holds
      · exact (told _ _ _ _).trans holds
    | call operation =>
      have begun : (stage.rig.begin operation).1.player.steps =
          traceOf ((Event.move (.call operation) : Event σ).program held) := by
        obtain ⟨_, _, _, _, _, frame⟩ := Rig.beginFrame stage.rig operation
        rw [frame]
        cases operation with
        | load source => simp only [Operation.trace, Event.program]
        | _ => exact holds
      simp only [after, step]
      split
      · rename_i rig quiet
        rw [quiet] at begun
        exact begun
      · rename_i rig owed told'
        rw [told'] at begun
        exact (told _ _ _ _).trans begun

theorem throughProgram {stage : Stage σ} {held : String}
    (holds : stage.rig.player.steps = traceOf held) (events : List (Event σ)) :
    (stage.through events).rig.player.steps = traceOf (events.foldl Event.program held) := by
  induction events generalizing stage held with
  | nil => exact holds
  | cons event rest ih => exact ih (stage.afterProgram holds event)

/-- Whatever brought a program to its end, by hand or on ticks, with pauses and rewinds, with
listeners that use the player or fail, and after whatever other programs, the console shows what its
jobs print, in the order of the lanes. -/
theorem finishedConsole (source : String) (settings : Settings) (scheduler : σ)
    (events : List (Event σ)) (stage : Stage σ)
    (reached : ({ rig := Rig.ofSource source settings scheduler } : Stage σ).through events = stage)
    (finished : stage.rig.player.transport = .finished) :
    stage.rig.player.board.output = console (jobsOf (events.foldl Event.program source)) := by
  let first : Stage σ := { rig := Rig.ofSource source settings scheduler }
  have started : first.rig.player = Player.start (traceOf source) settings :=
    Rig.ofSourcePlayer source settings scheduler
  have fresh : Placed settings first.rig.player := by
    rw [started]
    exact .startPlaced (traceOf source) settings
  have holds : first.rig.player.steps = traceOf source := by
    simp only [started, Player.start]
  have placed : Placed settings stage.rig.player := reached ▸ throughPlaced fresh events
  have program : stage.rig.player.steps = traceOf (events.foldl Event.program source) :=
    reached ▸ throughProgram holds events
  rw [placed.finishedShowsAll finished, program]
  exact Trace.replayConsole (jobsOfWellNested _) _

theorem timerConsole :
    let source := "setTimeout(() => \x7b\n  queueMicrotask(() => console.log('c'));\n" ++
      "  console.log('b');\n\x7d);\nconsole.log('a');"
    let operations : List Operation :=
      [.control .step, .control .play, .tick 0, .control .reset] ++
        List.replicate 7 (.control .step)
    let events : List (Event Ledger) := operations.map fun operation => .move (.call operation)
    let settings : Settings := {}
    let ledger : Ledger := {}
    let stage := ({ rig := Rig.ofSource source settings ledger } : Stage Ledger).through events
    stage.rig.player.transport = .finished ∧ stage.rig.player.board.output = ["a", "b", "c"] := by
  intro source operations events settings ledger stage
  have finished : stage.rig.player.transport = .finished := by decide +kernel
  have shown := finishedConsole source settings ledger events stage rfl finished
  have jobs : console (jobsOf (events.foldl Event.program source)) = ["a", "b", "c"] := by
    decide +kernel
  exact ⟨finished, shown.trans jobs⟩

end Stage
end LoopPlayer
