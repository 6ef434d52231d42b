import LoopPlayer.Json.Value

/-! What happens on the page while it is shown: things are put into its areas, the server is asked,
and time passes. -/
namespace LoopPlayer.Page

inductive Area where
  | page
  | sidebar
  | column (index : Nat)
  | slot
  | content
  deriving DecidableEq, Repr

inductive Element where
  | setup (title layout : String)
  | textArea (label text : String) (height : Nat)
  | button (label : String)
  | equalColumns (count : Nat)
  | columns (widths : List Json)
  | slider (label : String) (least greatest start : Json)
  | error (text : String)
  | stop
  | slot
  | content
  | progress (part : Float) (text : String)
  | info (value : Json)
  | heading (text : String)
  | code (text : String)
  | markdown (text : String)
  | caption (value : Json)
  | text (text : String)

inductive Event where
  | put (area : Area) (element : Element)
  | entered (area : Area)
  | asked (method url : String) (body : Option Json)
  | slept (seconds : Json)

def patience : Float := 0.5

end LoopPlayer.Page
