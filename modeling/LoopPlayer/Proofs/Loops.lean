import LoopPlayer.Player.Playback
import LoopPlayer.Proofs.Onlookers

/-! The loops of playback without a bound: what is due is run while there is any, and the clock
jumps to the next timer while playback goes on. Each is a relation that holds when its loop has come
to an end, and a loop comes to one end at most. Meanwhile one listener looks on, is told as in any
use of the player, and keeps the pictures that it gets. -/
namespace LoopPlayer.Rig

def Progress.heard (progress : Progress) (operation : Operation) : Progress :=
  let stage := ({ rig := progress.rig } : Stage (Timers Nat)).step (.call operation)
  { progress with
    rig := (stage.step .returned).rig
    pictures := progress.pictures ++ stage.stack.map Activation.picture }

inductive RunsDue : Progress → Progress → Prop where
  | settled {progress : Progress} {scheduler : Timers Nat}
      (none : progress.rig.scheduler.takeDue = (none, scheduler)) :
      RunsDue progress { progress with rig := { progress.rig with scheduler } }
  | ran {progress last : Progress} {timer : Timer Nat} {scheduler : Timers Nat}
      (found : progress.rig.scheduler.takeDue = (some timer, scheduler))
      (rest : RunsDue (Progress.heard
        { progress with rig := { progress.rig with scheduler }, ran := progress.ran + 1 }
        (.tick timer.action)) last) :
      RunsDue progress last

inductive RunsNext : Rig (Timers Nat) → Progress → Prop where
  | jumped {rig : Rig (Timers Nat)} {scheduler : Timers Nat} {last : Progress}
      (jump : rig.scheduler.jump? = some scheduler)
      (ran : RunsDue { rig := { rig with scheduler } } last) : RunsNext rig last
  | nothing {rig : Rig (Timers Nat)} (none : rig.scheduler.jump? = none) :
      RunsNext rig { rig := { rig with scheduler := rig.scheduler.dropCancelled } }

inductive PlaysOn : Progress → Progress → Prop where
  | stopped {progress : Progress} (halted : progress.rig.player.transport ≠ .playing) :
      PlaysOn progress progress
  | onward {progress next last : Progress} (playing : progress.rig.player.transport = .playing)
      (ran : RunsNext progress.rig next)
      (rest : PlaysOn
        ⟨next.rig, progress.ran + next.ran, progress.pictures ++ next.pictures⟩ last) :
      PlaysOn progress last

theorem RunsDue.runsDueUnique {progress one other : Progress} (first : RunsDue progress one)
    (second : RunsDue progress other) : one = other := by
  induction first with
  | settled none =>
    cases second with
    | settled again =>
      cases none.symm.trans again
      rfl
    | ran found rest => cases none.symm.trans found
  | ran found rest ih =>
    cases second with
    | settled none => cases found.symm.trans none
    | ran again rest =>
      cases found.symm.trans again
      exact ih rest

theorem RunsNext.runsNextUnique {rig : Rig (Timers Nat)} {one other : Progress}
    (first : RunsNext rig one) (second : RunsNext rig other) : one = other := by
  cases first with
  | jumped jump ran =>
    cases second with
    | jumped again rest =>
      cases jump.symm.trans again
      exact ran.runsDueUnique rest
    | nothing none => cases jump.symm.trans none
  | nothing none =>
    cases second with
    | jumped jump ran => cases none.symm.trans jump
    | nothing none => rfl

theorem PlaysOn.playsOnUnique {progress one other : Progress} (first : PlaysOn progress one)
    (second : PlaysOn progress other) : one = other := by
  induction first with
  | stopped halted =>
    cases second with
    | stopped halted => rfl
    | onward playing ran rest => exact absurd playing halted
  | onward playing ran rest ih =>
    cases second with
    | stopped halted => exact absurd playing halted
    | onward playing again rest =>
      cases ran.runsNextUnique again
      exact ih rest

theorem heardPerforms (progress : Progress) {listener : String}
    (only : progress.rig.player.listeners = [listener]) (operation : Operation) :
    progress.heard operation =
      { progress with
        rig := (progress.rig.perform operation).1
        pictures := progress.pictures ++ (progress.rig.perform operation).2.toList } := by
  obtain ⟨_, _, _, _, _, frame⟩ := beginFrame progress.rig operation
  have listeners : (progress.rig.begin operation).1.player.listeners = [listener] := by
    rw [frame, ← only]
  rw [Progress.heard, Stage.step, perform]
  generalize progress.rig.begin operation = begun at listeners ⊢
  obtain ⟨rig, owed⟩ := begun
  cases owed with
  | none => rfl
  | some owes =>
    have alone : rig.player.listeners = [listener] := listeners
    simp only [alone]
    rfl

end LoopPlayer.Rig
