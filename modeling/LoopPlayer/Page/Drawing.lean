import LoopPlayer.Json.Unshaped
import LoopPlayer.Number.Numeral
import LoopPlayer.Page.Event
import LoopPlayer.Text.Line

/-! Drawing the status that the server gave. Its shape is not known beforehand: drawing goes on up
to the first misfit, and what was drawn before stays. -/
namespace LoopPlayer.Page

abbrev Drawing := ExceptT Json.Misfit (StateM (List Event))

namespace Drawing

def emit (event : Event) : Drawing Unit := modify (· ++ [event])

def put (element : Element) : Drawing Unit := emit (.put .page element)

def enter (area : Area) : Drawing Unit := emit (.entered area)

def use {α : Type} (result : Except Json.Misfit α) : Drawing α := liftExcept result

def orBlank (text : String) : String := if text.isEmpty then " " else text

def sourceRow (highlighted : Json) (line : Text.Line) (number : Nat) : String :=
  let mark := if highlighted.isNumber number then ">>" else "  "
  mark ++ " " ++ Number.padded ' ' 3 number ++ "  " ++ String.ofList line

def sourceRows (source : String) (highlighted : Json) : List String :=
  (Text.lines source.toList).zipIdx.map fun (line, i) => sourceRow highlighted line (i + 1)

def source (text : String) (highlighted : Json) : Drawing Unit :=
  put (.code (orBlank ("\n".intercalate (sourceRows text highlighted))))

def progress (status : Json) : Drawing Unit := do
  let total ← use (status.get "totalSteps")
  let index ← use (status.get "currentStepIndex")
  let done ← use index.next
  let part ← if total.isPresent then use (done.ratio total) else pure 0.0
  let position ← use done.numeral
  let state ← use (status.get "playbackState")
  put (.progress part (position ++ "/" ++ total.plain ++ " (" ++ state.plain ++ ")"))

def entry (step : Json) : Drawing Unit := do
  let label ← use (step.get "label")
  let phase ← use (step.get "phase")
  put (.text ("  " ++ label.plain ++ "  [" ++ phase.plain ++ "]"))

def lane (board lane : Json) : Drawing Unit := do
  let entries ← use (board.getBy (← use (lane.get "queueType")))
  let label ← use (lane.get "label")
  let size ← use entries.size
  put (.markdown ("**" ++ label.plain ++ "** (" ++ toString size ++ ")"))
  put (.caption (← use (lane.get "description")))
  (← use entries.items).forM entry

def status (status lanes : Json) (text : String) : Drawing Unit := do
  progress status
  let board ← use (status.get "queues")
  let note ← use (board.get "currentAnnotation")
  if note.isPresent then put (.info note)
  put (.columns [.int 1, .float 1.2, .int 1])
  enter (.column 0)
  put (.heading "Source")
  source text (← use (board.get "highlightedLine"))
  enter (.column 1)
  (← use lanes.items).forM (lane board)
  enter (.column 2)
  put (.heading "Console")
  let output ← use (← use (board.get "output")).texts
  put (.code (orBlank ("\n".intercalate output)))

end Drawing
end LoopPlayer.Page
