import LoopPlayer.Player.Playback

/-! A replay: a program is played from start to end at one speed, and a listener keeps the picture
after every step. -/
namespace LoopPlayer.Replay

structure Recording where
  frames : List Board
  rig : Rig (Timers Nat)
  deriving DecidableEq, Repr

namespace Recording

def final (recording : Recording) : Board := recording.rig.player.board

def clock (recording : Recording) : Int := recording.rig.scheduler.now

end Recording

def record (source : String) (speed : Int) : Recording :=
  let rig : Rig (Timers Nat) := Rig.ofSource source {} {}
  let (rig, _) := rig.perform (.setSpeed speed)
  let progress := rig.playOut
  ⟨progress.pictures,
    progress.rig.note (.replayed progress.pictures.length progress.rig.scheduler.now)⟩

def frameLine (frame : Board) (step : Step) : String :=
  let fill (width : Nat) (text : String) : String :=
    text ++ String.ofList (List.replicate (width - text.length) ' ')
  "t=" ++ Number.padded '0' 3 frame.index ++ " line " ++ Number.padded ' ' 3 step.line ++ " " ++
    fill 8 step.phase.name ++ " " ++ fill 10 step.lane.name ++ " " ++ step.label

def report (recording : Recording) : String :=
  let steps := recording.rig.player.steps
  let frames := recording.frames.filterMap fun frame =>
    steps[frame.index.toNat]?.map (frameLine frame)
  let lines := frames ++
    [s!"finished after {recording.clock}ms simulated", "\n".intercalate recording.final.output]
  String.join (lines.map (· ++ "\n"))

end LoopPlayer.Replay
