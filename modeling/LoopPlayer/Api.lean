import LoopPlayer.Player.Outcome
import LoopPlayer.Player.View

/-! The player over HTTP. Three resources are read and three are posted to; a post answers with the
status after it. Beside them stand the pages of a manual. A framework reads the bodies of requests
before anything else is done, and writes the answers. -/
namespace LoopPlayer.Api

inductive Manual where
  | schema
  | trial
  | trialReturn
  | reference
  deriving DecidableEq, Repr

inductive Resource where
  | state
  | steps
  | lanes
  | control
  | source
  | speed
  | manual (page : Manual)
  deriving DecidableEq, Repr

namespace Resource

def all : List Resource :=
  [state, steps, lanes, control, source, speed, manual .schema, manual .trial, manual .trialReturn,
    manual .reference]

def path : Resource → String
  | state => "/state"
  | steps => "/steps"
  | lanes => "/queues"
  | control => "/control"
  | source => "/source"
  | speed => "/speed"
  | manual .schema => "/openapi.json"
  | manual .trial => "/docs"
  | manual .trialReturn => "/docs/oauth2-redirect"
  | manual .reference => "/redoc"

def methods : Resource → List String
  | state => ["GET"]
  | steps => ["GET"]
  | lanes => ["GET"]
  | control => ["POST"]
  | source => ["POST"]
  | speed => ["POST"]
  | manual _ => ["GET", "HEAD"]

def ofPath? (path : List Char) : Option Resource :=
  let path := if path.getLast? == some '\n' then path.dropLast else path
  all.find? (·.path.toList == path)

end Resource

inductive Refusal where
  | notFound
  | methodNotAllowed
  | elsewhere
  | unprocessable
  | unreadable
  | unwritable (message : String)
  | missing (field : String)
  | sourceNotText
  | request (error : RequestError)
  | raised (message : String)
  | broken

structure Response where
  status : Nat
  body : Json

namespace Refusal

def status : Refusal → Nat
  | notFound => 404
  | methodNotAllowed => 405
  | elsewhere => 307
  | unprocessable => 422
  | unwritable _ => 500
  | broken => 500
  | _ => 400

def detail? : Refusal → Option String
  | notFound => some "Not Found"
  | methodNotAllowed => some "Method Not Allowed"
  | elsewhere => none
  | unprocessable => none
  | unreadable => some "There was an error parsing the body"
  | unwritable message => some message
  | missing field => some ("missing field " ++ Text.quote field)
  | sourceNotText => some "'source' must be a string"
  | request error => some error.message
  | raised message => some message
  | broken => none

def response (refusal : Refusal) : Response :=
  ⟨refusal.status, Json.ofOption (fun text => .object [("detail", .string text)]) refusal.detail?⟩

end Refusal

structure Request where
  method : String
  path : String
  body : Except Refusal (List (String × Json)) := .error .unprocessable

inductive Raised where
  | value (message : String)
  | other
  deriving DecidableEq, Repr

/-- What the listeners do while an operation is carried out, and what is raised should it fail. -/
structure Attendance where
  moves : List Move := []
  raised : Raised := .other

def route (request : Request) : Except Refusal Resource :=
  let path := request.path.toList
  match Resource.ofPath? path with
  | some resource =>
    if resource.methods.contains request.method then .ok resource else .error .methodNotAllowed
  | none =>
    let bare := Resource.ofPath? (Text.dropEndWhile (· == '/') path)
    .error (if path.getLast? == some '/' && bare.isSome then .elsewhere else .notFound)

def field (name : String) (members : List (String × Json)) : Except Refusal Json :=
  match Json.member? name members with
  | some value => .ok value
  | none => .error (.missing name)

def actionOf (members : List (String × Json)) : Except Refusal String :=
  (field "action" members).map Json.plain

def controlOf (action : String) : Except Refusal Operation :=
  match Control.ofJson (.string action) with
  | .ok control => .ok (.control control)
  | .error error => .error (.request error)

def loadOf (members : List (String × Json)) : Except Refusal Operation :=
  match field "source" members with
  | .ok (.string source) => .ok (.load source)
  | .ok _ => .error .sourceNotText
  | .error refusal => .error refusal

def setSpeedOf (members : List (String × Json)) : Except Refusal Operation :=
  match field "speed" members with
  | .ok speed =>
    match speedOfJson speed with
    | .ok speed => .ok (.setSpeed speed)
    | .error error => .error (.request error)
  | .error refusal => .error refusal

def asked (members : List (String × Json)) : Resource → Except Refusal Operation
  | .control => (actionOf members).bind controlOf
  | .source => loadOf members
  | .speed => setSpeedOf members
  | _ => .error .methodNotAllowed

/- How a handler answers an error in its operation. That of the source lets every error pass. -/
def caught : Resource → Raised → Refusal
  | .source, _ => .broken
  | _, .value message => .raised message
  | _, .other => .broken

variable {σ : Type}

def heard (rig : Rig σ) (members : List (String × Json)) : Resource → Rig σ
  | .control =>
    match actionOf members with
    | .ok action => rig.note (.commanded action)
    | .error _ => rig
  | _ => rig

def respond (unwritable? : Json → Option String) (body : Json) : Response :=
  match unwritable? body with
  | some message => (Refusal.unwritable message).response
  | none => ⟨200, body⟩

variable [Scheduler σ]

def post (unwritable? : Json → Option String) (attendance : Attendance) (rig : Rig σ)
    (members : List (String × Json)) (resource : Resource) : Rig σ × Response :=
  match asked members resource with
  | .error refusal => (heard rig members resource, refusal.response)
  | .ok operation =>
    match (heard rig members resource).carry operation attendance.moves with
    | (rig, true) => (rig, respond unwritable? rig.player.view)
    | (rig, false) => (rig, (caught resource attendance.raised).response)

/- Answer a request. The pages of the manual are not kept, so their answers are empty. -/
def handle (unwritable? : Json → Option String) (attendance : Attendance) (rig : Rig σ)
    (request : Request) : Rig σ × Response :=
  match route request with
  | .error refusal => (rig, refusal.response)
  | .ok .state => (rig, respond unwritable? rig.player.view)
  | .ok .steps => (rig, respond unwritable? (Step.views rig.player.steps))
  | .ok .lanes => (rig, respond unwritable? (.list (Lane.all.map Lane.view)))
  | .ok (.manual _) => (rig, respond unwritable? .null)
  | .ok resource =>
    match request.body with
    | .error refusal => (rig, refusal.response)
    | .ok members => post unwritable? attendance rig members resource

end LoopPlayer.Api
