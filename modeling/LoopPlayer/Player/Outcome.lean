import LoopPlayer.Player.Machine

/-! An operation as its caller sees it: it returns, or it raises what a listener or the scheduler
raised. Listeners make the moves that are given, and those who are told after that only look on. -/
namespace LoopPlayer

namespace Stage

def toReturn : List Activation → Nat
  | [] => 0
  | activation :: below => activation.waiting.length + 1 + toReturn below

variable {σ : Type} [Scheduler σ]

def onlookersReturn (stage : Stage σ) : Stage σ :=
  stage.run (List.replicate (toReturn stage.stack) .returned)

/- The listeners of an operation. The result says whether the operation returned; a failure that
leaves no operation open is that of the first. -/
def attend : Stage σ → List Move → Stage σ × Bool
  | stage, [] => (stage.onlookersReturn, true)
  | stage, move :: moves =>
    if stage.stack = [] then (stage, true)
    else
      let stage := stage.step move
      if stage.stack = [] then (stage, move != .failed) else stage.attend moves

end Stage

namespace Rig

variable {σ : Type} [Scheduler σ]

def isRefused (rig : Rig σ) : Operation → Bool
  | .control .play =>
    let ms := rig.player.settings.interval rig.player.speed
    rig.player.transport != .playing && rig.play.player.transport == .playing &&
      (Scheduler.later rig.scheduler ms rig.player.generation).2.isNone
  | _ => false

def carry (rig : Rig σ) (operation : Operation) (moves : List Move) : Rig σ × Bool :=
  if rig.isRefused operation then ((rig.begin operation).1, false)
  else
    let (stage, returned) := (Stage.step ⟨rig, []⟩ (.call operation)).attend moves
    (stage.rig, returned)

end Rig
end LoopPlayer
