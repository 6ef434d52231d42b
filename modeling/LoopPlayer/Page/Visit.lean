import LoopPlayer.Api.Body
import LoopPlayer.Api.Reason
import LoopPlayer.Demo
import LoopPlayer.Page.Drawing
import LoopPlayer.Player.Playback

/-! A visit to the page. The visitor may have loaded a program, pressed buttons and moved sliders;
the page posts what follows from that and then polls the status, again and again, while the server
goes on. A request that fails is shown and not fatal, but without the lanes the page stops. -/
namespace LoopPlayer.Page

structure Reply where
  status : Nat
  body : String
  deriving DecidableEq, Repr

inductive Detour where
  | down (message : String)
  | reply (reply : Reply)
  deriving DecidableEq, Repr

/-- What the visitor did, what stands between the page and the server, and how often the page polls
before the visit ends; `ticks` is how often the server's clock jumps between two polls, and `room`
how deep the values that are sent may be nested. -/
structure Visit where
  settings : ServerSettings
  text : String := demoSource
  pressed : List String := []
  sliders : List (String × Json) := []
  detours : List (String × Detour) := []
  polls : Nat := 1
  ticks : Nat := 1
  room : Nat

structure Session where
  rig : Rig (Timers Nat)
  events : List Event := []

inductive Ending where
  | stopped
  | misfit (misfit : Json.Misfit)
  | unread (fault : Json.Fault)

abbrev Browsing := ExceptT Ending (StateM Session)

def Reply.ofResponse (response : Api.Response) : Reply where
  status := response.status
  body :=
    match response.body with
    | .null => ""
    | body => body.written

namespace Session

def add (session : Session) (event : Event) : Session :=
  { session with events := session.events ++ [event] }

def ask (session : Session) (visit : Visit) (method path : String) (body : Option Json) :
    Except String Reply × Session :=
  let url := visit.settings.apiUrl ++ path
  let session := session.add (.asked method url body)
  match visit.detours.lookup path with
  | some (.down message) => (.error message, session)
  | some (.reply reply) => (.ok reply, session)
  | none =>
    let text := (body.map Json.written).getD ""
    -- what is written here has a text, so the server always answers
    let (rig, response) := (Api.serve? visit.room session.rig method path text.toUTF8.toList).getD
      (session.rig, Api.Refusal.unreadable.response)
    (.ok (Reply.ofResponse response), { session with rig })

end Session

namespace Browsing

def emit (event : Event) : Browsing Unit := modify (·.add event)

def put (area : Area) (element : Element) : Browsing Unit := emit (.put area element)

def draw (drawing : Drawing Unit) : Browsing Unit := do
  let session ← get
  let (result, events) := drawing.run session.events
  set { session with events }
  match result with
  | .ok () => pure ()
  | .error misfit => throw (.misfit misfit)

def ask (visit : Visit) (method path : String) (body : Option Json) :
    Browsing (Except String Reply) := do
  let (answer, session) := (← get).ask visit method path body
  set session
  return answer

def post (visit : Visit) (path name : String) (value : Json) : Browsing Unit := do
  match ← ask visit "POST" path (some (.object [(name, value)])) with
  | .error message => put .page (.error (path ++ ": " ++ message))
  | .ok reply =>
    match Api.failure? reply.status (visit.settings.apiUrl ++ path) with
    | some message => put .page (.error (path ++ ": " ++ message))
    | none => pure ()

def fetch (visit : Visit) (path : String) : Browsing (Except String Json) := do
  match ← ask visit "GET" path none with
  | .error message => return .error message
  | .ok reply =>
    match Json.read visit.room reply.body.toList with
    | .ok value => return .ok value
    | .error (.malformed expected left) =>
      return .error (Json.Fault.message reply.body.toList (.malformed expected left))
    | .error fault => throw (.unread fault)

def button (visit : Visit) (area : Area) (label : String) : Browsing Bool := do
  put area (.button label)
  return visit.pressed.contains label

def slider (visit : Visit) (area : Area) (label : String) (least greatest start : Json) :
    Browsing Json := do
  put area (.slider label least greatest start)
  return (visit.sliders.lookup label).getD start

def controlLabel : Control → String
  | .play => "Play"
  | .pause => "Pause"
  | .step => "Step"
  | .reset => "Reset"

def control (visit : Visit) (control : Control) (column : Nat) : Browsing Unit := do
  if ← button visit (.column column) (controlLabel control) then
    post visit (Api.Resource.path .control) "action" (.string control.name)

def frame (visit : Visit) : Browsing Json := do
  put .page (.setup "Event Loop Visualizer" "wide")
  put .page (.textArea "Source" demoSource 240)
  if ← button visit .page "Load source" then
    post visit (Api.Resource.path .source) "source" (.string visit.text)
  put .page (.equalColumns 5)
  Control.all.zipIdx.forM fun (c, column) => control visit c column
  let playback := visit.settings.playback
  let speed ← slider visit (.column 4) "Speed" (.int playback.minSpeed) (.int playback.maxSpeed)
    (.int playback.speed)
  post visit (Api.Resource.path .speed) "speed" speed
  slider visit .sidebar "Refresh interval (sec)" (.float 0.2) (.float 2.0) (.float 0.5)

def lanes (visit : Visit) : Browsing Json := do
  match ← fetch visit (Api.Resource.path .lanes) with
  | .ok lanes => return lanes
  | .error message =>
    put .page (.error message)
    put .page .stop
    throw .stopped

def poll (visit : Visit) (lanes : Json) : Browsing Unit := do
  put .slot .content
  emit (.entered .content)
  match ← fetch visit (Api.Resource.path .state) with
  | .ok status => draw (Drawing.status status lanes visit.text)
  | .error message => put .page (.error message)

def wait (visit : Visit) : Browsing Unit :=
  modify fun session => { session with rig := (Rig.runNextTimes visit.ticks session.rig).2 }

def polls (visit : Visit) (interval lanes : Json) : Nat → Browsing Unit
  | 0 => do
    poll visit lanes
    emit (.slept interval)
  | more + 1 => do
    poll visit lanes
    emit (.slept interval)
    wait visit
    polls visit interval lanes more

def page (visit : Visit) : Browsing Unit := do
  let interval ← frame visit
  let lanes ← lanes visit
  put .page .slot
  polls visit interval lanes (visit.polls - 1)

end Browsing

def Visit.run (visit : Visit) (rig : Rig (Timers Nat)) : Session × Ending :=
  match (Browsing.page visit).run { rig } with
  | (.ok (), session) => (session, .stopped)
  | (.error ending, session) => (session, ending)

end LoopPlayer.Page
