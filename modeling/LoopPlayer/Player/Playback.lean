import LoopPlayer.Player.Basic

/-! Playback on timers whose clock jumps from tick to tick, for listeners that only look. Every
function gives, with the rig that it leaves, the pictures that listeners get meanwhile. -/
namespace LoopPlayer.Rig

structure Progress where
  rig : Rig (Timers Nat)
  ran : Nat := 0
  pictures : List Board := []
  deriving DecidableEq, Repr

def Progress.tick (progress : Progress) (generation : Nat) : Progress :=
  let (rig, picture) := progress.rig.perform (.tick generation)
  { rig, ran := progress.ran + 1, pictures := progress.pictures ++ picture.toList }

def runDueFrom : Nat → Progress → Progress
  | 0, progress => progress
  | fuel + 1, progress =>
    match progress.rig.scheduler.takeDue with
    | (none, scheduler) => { progress with rig := { progress.rig with scheduler } }
    | (some timer, scheduler) =>
      let progress := { progress with rig := { progress.rig with scheduler } }
      runDueFrom fuel (progress.tick timer.action)

/- Each tick takes a timer out of the queue, and books another only when it applied a step. -/
def runDue (rig : Rig (Timers Nat)) : Progress :=
  runDueFrom (rig.scheduler.queue.length + rig.player.steps.length + 1) { rig }

def runNext (rig : Rig (Timers Nat)) : Progress :=
  match rig.scheduler.jump? with
  | some scheduler => runDue { rig with scheduler }
  | none => { rig := { rig with scheduler := rig.scheduler.dropCancelled } }

def runNextTimes : Nat → Rig (Timers Nat) → List Nat × Rig (Timers Nat)
  | 0, rig => ([], rig)
  | times + 1, rig =>
    let progress := rig.runNext
    let (ran, rig) := runNextTimes times progress.rig
    (progress.ran :: ran, rig)

def playOutFrom : Nat → Progress → Progress
  | 0, progress => progress
  | fuel + 1, progress =>
    if progress.rig.player.transport = .playing ∧ 0 < progress.rig.scheduler.pending then
      let next := progress.rig.runNext
      playOutFrom fuel
        { rig := next.rig, ran := progress.ran + next.ran
          pictures := progress.pictures ++ next.pictures }
    else progress

def playOut (rig : Rig (Timers Nat)) : Progress :=
  let (rig, picture) := rig.perform (.control .play)
  playOutFrom (rig.player.steps.length + 1) { rig, pictures := picture.toList }

end LoopPlayer.Rig
