import LoopPlayer.Api
import LoopPlayer.Json.Encoding
import LoopPlayer.Json.Reader
import LoopPlayer.Json.Writer

/-! A framework that reads the bodies of requests from their bytes, with room for containers one
inside another, and alone with a player that nobody listens to. -/
namespace LoopPlayer.Api

/- What is read as something else than an object is quoted in the answer, which fails when it holds a
number that cannot be written. A body with half a pair of UTF-16 alone has no text here, and so no
answer. -/
def bodyOf? (room : Nat) (bytes : List UInt8) : Option (Except Refusal (List (String × Json))) :=
  match Json.textOf bytes with
  | .error .halved => none
  | .error .malformed => some (.error .unreadable)
  | .ok text =>
    match Json.read room text with
    | .ok (.object members) => some (.ok members)
    | .ok other =>
      match other.unwritable? with
      | some message => some (.error (.unwritable message))
      | none => some (.error .unprocessable)
    | .error (.malformed ..) => some (.error .unprocessable)
    | .error .halved => none
    | .error _ => some (.error .unreadable)

def serve? {σ : Type} [Scheduler σ] (room : Nat) (rig : Rig σ) (method path : String)
    (bytes : List UInt8) : Option (Rig σ × Response) :=
  (bodyOf? room bytes).map fun body => handle Json.unwritable? {} rig ⟨method, path, body⟩

end LoopPlayer.Api
