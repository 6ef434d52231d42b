import LoopPlayer.Player.Scenario
import LoopPlayer.Proofs.Run
import LoopPlayer.Timers.Scenario

/-! What scenarios show. Their acts are carried out on the machines, so every state that a scenario
comes to is one that a run comes to, however its acts are nested and whichever of them fail. -/
namespace LoopPlayer

namespace Timers
namespace Machine

variable {α : Type}

def LeadsTo (machine after : Machine α) : Prop := ∃ moves, after = machine.run moves

namespace LeadsTo

theorem refl (machine : Machine α) : LeadsTo machine machine := ⟨[], rfl⟩

theorem stepLeads (machine : Machine α) (move : Move α) : LeadsTo machine (machine.step move) :=
  ⟨[move], rfl⟩

theorem trans {machine between after : Machine α} (first : LeadsTo machine between)
    (later : LeadsTo between after) : LeadsTo machine after := by
  obtain ⟨moves, rfl⟩ := first
  obtain ⟨more, rfl⟩ := later
  exact ⟨moves ++ more, List.foldl_append.symm⟩

end LeadsTo
end Machine

namespace Scenario
open Machine

theorem State.moveLeads (state : State) (move : Move Nat) :
    LeadsTo state.machine (state.move move).machine := .stepLeads _ _

/- The invariant of the interpreter, for all of its functions at once, by its fuel. -/
structure Runs (fuel : Nat) : Prop where
  perform : ∀ act state, LeadsTo state.machine (perform fuel act state).2.machine
  performAll : ∀ acts state, LeadsTo state.machine (performAll fuel acts state).2.machine
  drive : ∀ depth state, LeadsTo state.machine (drive fuel depth state).2.machine

namespace Runs

variable {fuel : Nat}

theorem performRuns (runs : Runs fuel) (act : Act) (state : State) :
    LeadsTo state.machine (Scenario.perform (fuel + 1) act state).2.machine := by
  unfold Scenario.perform
  cases act with
  | later ms name shown acts again => exact State.moveLeads ⟨state.machine, _⟩ (.later ms _)
  | again ms =>
    dsimp only
    split
    · exact .refl _
    · split
      · exact State.moveLeads ⟨state.machine, _⟩ (.later ms _)
      · exact .refl _
  | cancel index =>
    dsimp only
    split
    · exact state.moveLeads _
    · exact .refl _
  | advance ms =>
    dsimp only
    split
    · exact .refl _
    · exact state.moveLeads _
  | runDue => exact (state.moveLeads .runDue).trans (runs.drive _ _)
  | runNext => exact (state.moveLeads .runNext).trans (runs.drive _ _)
  | describe n =>
    dsimp only
    split <;> exact .refl _
  | fail text | pending | now | unknown => exact .refl state.machine

theorem performAllRuns (runs : Runs fuel) (acts : List Act) (state : State) :
    LeadsTo state.machine (Scenario.performAll (fuel + 1) acts state).2.machine := by
  cases acts with
  | nil =>
    simp only [Scenario.performAll]
    exact .refl state.machine
  | cons act rest =>
    have first := runs.perform act state
    simp only [Scenario.performAll]
    split
    · rename_i fault after performed
      rw [performed] at first
      exact first
    · rename_i reply after performed
      rw [performed] at first
      exact first.trans (runs.performAll rest after)

theorem driveRuns (runs : Runs fuel) (depth : Nat) (state : State) :
    LeadsTo state.machine (Scenario.drive (fuel + 1) depth state).2.machine := by
  simp only [Scenario.drive]
  split
  · exact .refl _
  · rename_i index running
    split
    · exact .refl _
    · have called := runs.performAll (state.callback index).acts state
      split
      · rename_i fault after performed
        rw [performed] at called
        exact called.trans (after.moveLeads .failed)
      · rename_i done after performed
        rw [performed] at called
        exact called.trans ((after.moveLeads .returned).trans (runs.drive _ _))

end Runs

theorem scenarioRuns (fuel : Nat) : Runs fuel := by
  induction fuel with
  | zero =>
    refine ⟨fun act state => ?_, fun acts state => ?_, fun depth state => ?_⟩
    · unfold perform
      exact .refl state.machine
    · unfold performAll
      exact .refl state.machine
    · unfold drive
      exact .refl state.machine
  | succ fuel less => exact ⟨less.performRuns, less.performAllRuns, less.driveRuns⟩

theorem playShowsRuns (acts : List Act) : ∀ row ∈ play acts, ∃ moves,
    row.now = (({} : Machine Nat).run moves).timers.now ∧
    row.pending = (({} : Machine Nat).run moves).timers.pending := by
  have shown (fuel : Nat) (acts : List Act) (state : State)
      (reached : LeadsTo {} state.machine) : ∀ row ∈ playFrom fuel state acts,
      ∃ after : Machine Nat, LeadsTo {} after ∧ row.now = after.timers.now ∧
        row.pending = after.timers.pending := by
    induction acts generalizing state with
    | nil => exact fun row member => nomatch member
    | cons act rest ih =>
      have next := reached.trans ((scenarioRuns fuel).perform act state)
      intro row member
      rcases List.mem_cons.mp member with rfl | later
      · exact ⟨_, next, rfl, rfl⟩
      · exact ih _ next row later
  intro row member
  obtain ⟨after, ⟨moves, rfl⟩, now, pending⟩ := shown _ acts {} (.refl _) row member
  exact ⟨moves, now, pending⟩

end Scenario
end Timers

namespace Stage

variable {σ : Type} [Scheduler σ]

def LeadsTo (stage after : Stage σ) : Prop := ∃ events, after = stage.through events

namespace LeadsTo

theorem refl (stage : Stage σ) : LeadsTo stage stage := ⟨[], rfl⟩

theorem stepLeads (stage : Stage σ) (move : Move) : LeadsTo stage (stage.step move) :=
  ⟨[.move move], rfl⟩

theorem driftLeads (stage : Stage σ) (scheduler : σ) :
    LeadsTo stage { stage with rig := { stage.rig with scheduler } } :=
  ⟨[.drift scheduler], rfl⟩

theorem trans {stage between after : Stage σ} (first : LeadsTo stage between)
    (later : LeadsTo between after) : LeadsTo stage after := by
  obtain ⟨events, rfl⟩ := first
  obtain ⟨more, rfl⟩ := later
  exact ⟨events ++ more, List.foldl_append.symm⟩

end LeadsTo
end Stage

namespace Scenario
open Stage

theorem State.moveLeads (state : State) (move : Move) :
    LeadsTo state.stage (state.move move).stage := .stepLeads _ _

theorem State.setBenchLeads (state : State) (bench : Bench) :
    LeadsTo state.stage (state.setBench bench).stage := .driftLeads _ _

structure Runs (fuel : Nat) : Prop where
  perform : ∀ act state, LeadsTo state.stage (perform fuel act state).2.stage
  performAll : ∀ acts state, LeadsTo state.stage (performAll fuel acts state).2.stage
  call : ∀ operation state, LeadsTo state.stage (call fuel operation state).2.stage
  drive : ∀ depth state, LeadsTo state.stage (drive fuel depth state).2.stage
  runDue : ∀ ran state, LeadsTo state.stage (runDue fuel ran state).2.stage
  runNext : ∀ state, LeadsTo state.stage (runNext fuel state).2.stage
  runNextTimes : ∀ times ran state, LeadsTo state.stage (runNextTimes fuel times ran state).2.stage
  drain : ∀ ran state, LeadsTo state.stage (drain fuel ran state).2.stage
  fire : ∀ ledger index state, LeadsTo state.stage (fire fuel ledger index state).2.stage

theorem replyState (result : Result Nat) : (reply result).2 = result.2 := by
  obtain ⟨outcome, state⟩ := result
  cases outcome <;> rfl

namespace Runs

variable {fuel : Nat}

theorem callRuns (runs : Runs fuel) (operation : Operation) (state : State) :
    LeadsTo state.stage (Scenario.call (fuel + 1) operation state).2.stage := by
  simp only [Scenario.call]
  split
  · exact state.moveLeads _
  · exact (state.moveLeads _).trans (runs.drive _ _)

theorem driveRuns (runs : Runs fuel) (depth : Nat) (state : State) :
    LeadsTo state.stage (Scenario.drive (fuel + 1) depth state).2.stage := by
  simp only [Scenario.drive]
  split
  · exact .refl state.stage
  · rename_i activation below stack
    split
    · exact .refl state.stage
    · let framed : State := { state with
        frames := state.frames ++
          [⟨activation.listener, activation.picture.index, activation.picture.output.length⟩] }
      have called : LeadsTo state.stage _ := runs.performAll (framed.actsFor activation) framed
      split
      · rename_i fault after performed
        rw [performed] at called
        exact called.trans (after.moveLeads .failed)
      · rename_i done after performed
        rw [performed] at called
        split
        · exact called.trans (after.moveLeads .returned)
        · exact called.trans ((after.moveLeads .returned).trans (runs.drive _ _))

theorem performAllRuns (runs : Runs fuel) (acts : List Act) (state : State) :
    LeadsTo state.stage (Scenario.performAll (fuel + 1) acts state).2.stage := by
  cases acts with
  | nil =>
    simp only [Scenario.performAll]
    exact .refl state.stage
  | cons act rest =>
    have first := runs.perform act state
    simp only [Scenario.performAll]
    split
    · rename_i fault after performed
      rw [performed] at first
      exact first
    · rename_i reply after performed
      rw [performed] at first
      exact first.trans (runs.performAll rest after)

theorem runDueRuns (runs : Runs fuel) (ran : Nat) (state : State) :
    LeadsTo state.stage (Scenario.runDue (fuel + 1) ran state).2.stage := by
  simp only [Scenario.runDue]
  split
  · exact state.setBenchLeads _
  · rename_i generation bench taken
    have called := (state.setBenchLeads bench).trans (runs.call (.tick generation) _)
    split
    · rename_i fault after ticked
      rw [ticked] at called
      exact called
    · rename_i done after ticked
      rw [ticked] at called
      exact called.trans (runs.runDue (ran + 1) after)

theorem runNextRuns (runs : Runs fuel) (state : State) :
    LeadsTo state.stage (Scenario.runNext (fuel + 1) state).2.stage := by
  simp only [Scenario.runNext]
  split
  · split
    · exact (state.setBenchLeads _).trans (runs.runDue _ _)
    · exact state.setBenchLeads _
  · exact .refl state.stage

theorem runNextTimesRuns (runs : Runs fuel) (times : Nat) (ran : List Int) (state : State) :
    LeadsTo state.stage (Scenario.runNextTimes (fuel + 1) times ran state).2.stage := by
  cases times with
  | zero =>
    simp only [Scenario.runNextTimes]
    exact .refl state.stage
  | succ times =>
    have first := runs.runNext state
    simp only [Scenario.runNextTimes]
    split
    · rename_i fault after performed
      rw [performed] at first
      exact first
    · rename_i n after performed
      rw [performed] at first
      exact first.trans (runs.runNextTimes times _ after)

theorem drainRuns (runs : Runs fuel) (ran : Nat) (state : State) :
    LeadsTo state.stage (Scenario.drain (fuel + 1) ran state).2.stage := by
  have first := runs.runNext state
  simp only [Scenario.drain]
  split
  · split
    · exact .refl state.stage
    · split
      · rename_i fault after performed
        rw [performed] at first
        exact first
      · rename_i n after performed
        rw [performed] at first
        exact first.trans (runs.drain _ after)
  · exact .refl state.stage

theorem fireRuns (runs : Runs fuel) (ledger : Ledger) (index : Int) (state : State) :
    LeadsTo state.stage (Scenario.fire (fuel + 1) ledger index state).2.stage := by
  simp only [Scenario.fire]
  split
  · exact .refl state.stage
  · rename_i booking found
    exact (state.setBenchLeads _).trans (runs.call (.tick booking.generation) _)

theorem performRuns (runs : Runs fuel) (act : Act) (state : State) :
    LeadsTo state.stage (Scenario.perform (fuel + 1) act state).2.stage := by
  unfold Scenario.perform
  cases act with
  | control control | load source => exact runs.call _ state
  | controlBy action =>
    dsimp only
    split
    · exact runs.call _ _
    · exact .refl state.stage
  | setSpeed speed =>
    dsimp only
    split
    · exact runs.call _ _
    · exact .refl state.stage
  | saved index | same index =>
    dsimp only
    split <;> exact .refl state.stage
  | subscribe listener position acts => exact .stepLeads state.stage (.subscribe listener)
  | unsubscribe index =>
    dsimp only
    split
    · exact state.moveLeads _
    · exact .refl state.stage
  | advance ms =>
    dsimp only
    split
    · split
      · exact .refl state.stage
      · rw [replyState]
        exact (state.setBenchLeads _).trans (runs.runDue _ _)
    · exact .refl state.stage
  | runNext times =>
    dsimp only
    split
    · exact runs.runNextTimes _ _ _
    · exact .refl state.stage
  | drain =>
    dsimp only
    split
    · rw [replyState]
      exact runs.drain _ _
    · exact .refl state.stage
  | fire index =>
    dsimp only
    split
    · exact runs.fire _ _ _
    · exact .refl state.stage
  | fireNext =>
    dsimp only
    split
    · split
      · exact runs.fire _ _ _
      · exact .refl state.stage
    · exact .refl state.stage
  | setClock microseconds =>
    dsimp only
    split
    · split
      · rw [replyState]
        exact (state.setBenchLeads _).trans (runs.runDue _ _)
      · exact state.setBenchLeads _
    · exact .refl state.stage
  | steps | status | stack | lane name | save | fail text | unknown => exact .refl state.stage

end Runs

theorem scenarioRuns (fuel : Nat) : Runs fuel := by
  induction fuel with
  | zero =>
    constructor <;> intros <;>
      simp only [perform, performAll, call, drive, runDue, runNext, runNextTimes, drain, fire] <;>
      exact .refl _
  | succ fuel less =>
    exact ⟨less.performRuns, less.performAllRuns, less.callRuns, less.driveRuns, less.runDueRuns,
      less.runNextRuns, less.runNextTimesRuns, less.drainRuns, less.fireRuns⟩

end Scenario
end LoopPlayer
