import LoopPlayer.Player.Basic

/-! The player as others see it: steps, pictures of the board and the player's status as values of
the data format. -/
namespace LoopPlayer

def Step.view (step : Step) : Json :=
  .object ([("id", .int step.id), ("taskId", .int step.task), ("code", .string step.code),
    ("label", .string step.label), ("annotation", .string step.note),
    ("queueType", .string step.lane.name), ("sourceLine", .int step.line),
    ("phase", .string step.phase.name)] ++
    match step.output with
    | some output => [("output", .string output)]
    | none => [])

def Step.views (steps : List Step) : Json := .list (steps.map Step.view)

def Json.ofOption {α : Type} (view : α → Json) : Option α → Json
  | some value => view value
  | none => .null

def Board.view (board : Board) : Json :=
  .object ((Lane.all.map fun lane => (lane.name, Step.views (board.lanes.get lane))) ++
    [("output", .list (board.output.map .string)), ("currentStepIndex", .int board.index),
      ("highlightedLine", Json.ofOption .int board.line),
      ("currentAnnotation", Json.ofOption .string board.note)])

def Player.view (player : Player) : Json :=
  .object [("playbackState", .string player.transport.name), ("speed", .int player.speed),
    ("currentStepIndex", .int player.board.index), ("totalSteps", .int player.steps.length),
    ("queues", player.board.view)]

def Lane.view (lane : Lane) : Json :=
  .object [("queueType", .string lane.name), ("label", .string lane.title),
    ("description", .string lane.description)]

end LoopPlayer
