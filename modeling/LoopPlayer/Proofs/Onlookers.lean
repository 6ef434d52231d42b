import LoopPlayer.Proofs.Failure
import LoopPlayer.Proofs.Generations

/-! Listeners that only look on. No operation then stops between its halves, so whatever is done to
the player is done at once, one thing after another, and each of it is a run of the player in use. -/
namespace LoopPlayer

variable {σ : Type}

inductive Order where
  | control (control : Control)
  | load (source : String)
  | setSpeed (speed : Int)
  | subscribe (listener : String)
  | unsubscribe (listener : String)
  deriving DecidableEq, Repr

namespace Rig

variable [Scheduler σ]

def heed (rig : Rig σ) : Order → Rig σ
  | .control control => (rig.perform (.control control)).1
  | .load source => (rig.perform (.load source)).1
  | .setSpeed speed => (rig.perform (.setSpeed speed)).1
  | .subscribe listener =>
    { rig with player := { rig.player with listeners := rig.player.listeners ++ [listener] } }
  | .unsubscribe listener =>
    { rig with player := { rig.player with listeners := rig.player.listeners.erase listener } }

theorem performQuiet {rig : Rig σ} {operation : Operation}
    (quiet : (rig.begin operation).2 = none) :
    (rig.perform operation).1 = (rig.begin operation).1 := by
  rw [perform]
  split
  · rename_i begun
    rw [begun]
  · rename_i begun
    rw [begun] at quiet
    cases quiet

theorem performTold {rig : Rig σ} {operation : Operation} {owed : Owed}
    (told : (rig.begin operation).2 = some owed) :
    (rig.perform operation).1 = (rig.begin operation).1.settle owed := by
  rw [perform]
  split
  · rename_i begun
    rw [begun] at told
    cases told
  · rename_i owes begun
    rw [begun] at told ⊢
    cases told
    rfl

theorem performTick {rig : Rig σ} {step : Step}
    (playing : rig.player.transport = .playing) (next : rig.player.next? = some step) :
    rig.perform (.tick rig.player.generation) =
      (if rig.player.board.index + 2 = rig.player.steps.length then (rig.taken.applied step).finish
        else (rig.taken.applied step).book,
      some (rig.taken.applied step).player.board) := by
  have advanced := rig.taken.advanceOutcome
  rw [perform, beginLive playing]
  generalize rig.taken.advance = result at advanced ⊢
  have same {other : Step} (found : rig.taken.player.next? = some other) : other = step :=
    Option.some.inj (found.symm.trans next)
  cases advanced with
  | exhausted none => exact absurd (none.symm.trans next) (Option.some_ne_none step).symm
  | last found last =>
    cases same found
    have ended : rig.player.board.index + 2 = rig.player.steps.length := last
    rw [if_pos ended]
    simp only [if_true, settle, finishPlayer, reduceCtorEq, if_false]
  | more found more =>
    cases same found
    have goesOn : (rig.taken.applied step).player.transport = .playing := playing
    have onward : rig.player.board.index + 2 ≠ rig.player.steps.length := more
    rw [if_neg onward]
    simp only [if_true, settle, if_pos goesOn]

theorem performWorked (rig : Rig σ) (operation : Operation) :
    Worked rig (rig.perform operation).1 := by
  cases owed : (rig.begin operation).2 with
  | none =>
    rw [performQuiet owed]
    exact .beginWorked rig operation
  | some owes =>
    rw [performTold owed]
    exact .trans (.beginWorked rig operation) (.settleWorked _ owes)

def Leads (first last : Rig σ) : Prop :=
  ∃ events : List (Event σ), ({ rig := first } : Stage σ).through events = { rig := last }

theorem Leads.placedKept {first last : Rig σ} {settings : Settings} (leads : Leads first last)
    (placed : Placed settings first.player) : Placed settings last.player := by
  obtain ⟨events, ended⟩ := leads
  let stage : Stage σ := { rig := first }
  have kept : Placed settings (stage.through events).rig.player := Stage.throughPlaced placed events
  rwa [ended] at kept

end Rig

namespace Stage

variable [Scheduler σ]

theorem completingPerforms (rig : Rig σ) (operation : Operation) :
    ({ rig } : Stage σ).completing operation = { rig := (rig.perform operation).1 } := by
  let stage : Stage σ := { rig }
  cases owed : (rig.begin operation).2 with
  | some owed =>
    have completed : stage.completing operation = _ := completingStage owed
    rw [completed, Rig.performTold owed]
  | none =>
    have called : ({ rig } : Stage σ).step (.call operation) =
        { rig := (rig.begin operation).1 } := by
      simp only [step]
      split
      · rename_i begun
        rw [begun]
      · rename_i begun
        rw [begun] at owed
        cases owed
    have still (times : Nat) (rig : Rig σ) :
        ({ rig } : Stage σ).run (List.replicate times .returned) = { rig } := by
      induction times with
      | zero => rfl
      | succ times ih => exact ih
    rw [Rig.performQuiet owed, completing, telling, called, still]

theorem runThrough (stage : Stage σ) (moves : List Move) :
    stage.run moves = stage.through (moves.map .move) := by
  rw [run, through, List.foldl_map]
  rfl

end Stage

namespace Rig

variable [Scheduler σ]

theorem performLeads (rig : Rig σ) (operation : Operation) :
    Leads rig (rig.perform operation).1 := by
  refine ⟨(.call operation :: List.replicate rig.player.listeners.length .returned).map .move, ?_⟩
  rw [← Stage.runThrough]
  exact Stage.completingPerforms rig operation

theorem heedLeads (rig : Rig σ) (order : Order) : Leads rig (rig.heed order) := by
  cases order with
  | control control => exact performLeads rig _
  | load source => exact performLeads rig _
  | setSpeed speed => exact performLeads rig _
  | subscribe listener => exact ⟨[.move (.subscribe listener)], rfl⟩
  | unsubscribe listener => exact ⟨[.move (.unsubscribe listener)], rfl⟩

end Rig
end LoopPlayer
