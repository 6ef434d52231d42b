import LoopPlayer.Player.Machine
import LoopPlayer.Player.Bench

/-! Scenarios: a player on a bench whose listeners are given as lists of acts. What an act does to
the player is left to the machine. -/
namespace LoopPlayer.Scenario

inductive Act where
  | control (control : Control)
  | controlBy (action : Json)
  | load (source : String)
  | setSpeed (speed : Json)
  | steps
  | status
  | stack
  | lane (name : String)
  | save
  | saved (index : Int)
  | same (index : Int)
  | subscribe (listener : String) (position : Option Int) (acts : List Act)
  | unsubscribe (index : Int)
  | fail (text : String)
  | advance (ms : Int)
  | runNext (times : Int)
  | drain
  | fire (index : Int)
  | fireNext
  | setClock (microseconds : Int)
  | unknown
  deriving Inhabited

inductive Fault where
  | request (error : RequestError)
  | clock (error : ClockError)
  | failed (text : String)
  | outOfRange
  | noSuchIndex
  | unknownAct

inductive Reply where
  | nothing
  | number (n : Int)
  | numbers (ns : List Int)
  | text (s : String)
  | flag (b : Bool)
  | steps (steps : List Step)
  | status (player : Player)
  | picture (board : Board)

structure Script where
  listener : String
  position : Option Int
  acts : List Act

structure Frame where
  listener : String
  index : Int
  outputs : Nat
  deriving DecidableEq, Repr

structure State where
  stage : Stage Bench
  scripts : List Script := []
  tokens : List String := []
  saved : List Board := []
  frames : List Frame := []

namespace State

def player (state : State) : Player := state.stage.rig.player

def bench (state : State) : Bench := state.stage.rig.scheduler

def setBench (state : State) (bench : Bench) : State :=
  { state with stage := { state.stage with rig := { state.stage.rig with scheduler := bench } } }

def move (state : State) (move : Move) : State := { state with stage := state.stage.step move }

def refusedSince (state before : State) : Bool := before.bench.refused < state.bench.refused

def actsFor (state : State) (activation : Activation) : List Act :=
  match state.scripts.find? (·.listener == activation.listener) with
  | some script => if script.position = some activation.picture.index then script.acts else []
  | none => []

end State

def at? {α : Type} (items : List α) (index : Int) : Option α :=
  if index < 0 then none else items[index.toNat]?

abbrev Result (α : Type) := Except Fault α × State

def reply : Result Nat → Result Reply
  | (.ok n, state) => (.ok (.number n), state)
  | (.error fault, state) => (.error fault, state)

def drainLimit : Nat := 1000

mutual

/- Do one act: its reply or its fault, and the state that it leaves. `fuel` bounds the acts and the
ticks that are done one inside or after another. -/
def perform : Nat → Act → State → Result Reply
  | 0, _, state => (.ok .nothing, state)
  | fuel + 1, act, state =>
    match act with
    | .control control => call fuel (.control control) state
    | .controlBy action =>
      match Control.ofJson action with
      | .ok control => call fuel (.control control) state
      | .error error => (.error (.request error), state)
    | .load source => call fuel (.load source) state
    | .setSpeed speed =>
      match speedOfJson speed with
      | .ok speed => call fuel (.setSpeed speed) state
      | .error error => (.error (.request error), state)
    | .steps => (.ok (.steps state.player.steps), state)
    | .status => (.ok (.status state.player), state)
    | .stack => (.ok (.numbers (state.player.board.lanes.callStack.map Step.id)), state)
    | .lane name =>
      let steps := ((Lane.ofName? name).map state.player.board.lanes.get).getD []
      (.ok (.numbers (steps.map Step.id)), state)
    | .save => (.ok .nothing, { state with saved := state.saved ++ [state.player.board] })
    | .saved index =>
      match at? state.saved index with
      | some board => (.ok (.picture board), state)
      | none => (.error .noSuchIndex, state)
    | .same index =>
      match at? state.saved index with
      | some board => (.ok (.flag (board = state.player.board)), state)
      | none => (.error .noSuchIndex, state)
    | .subscribe listener position acts =>
      let token := state.tokens.length
      let script : Script := ⟨listener, position, acts⟩
      let state := { state with
        scripts := state.scripts ++ [script], tokens := state.tokens ++ [listener] }
      (.ok (.number token), state.move (.subscribe listener))
    | .unsubscribe index =>
      match at? state.tokens index with
      | some listener => (.ok .nothing, state.move (.unsubscribe listener))
      | none => (.error .noSuchIndex, state)
    | .fail text => (.error (.failed text), state)
    | .advance ms =>
      match state.bench with
      | .timers timers =>
        match timers.advance ms with
        | .error error => (.error (.clock error), state)
        | .ok timers => reply (runDue fuel 0 (state.setBench (.timers timers)))
      | _ => (.error .unknownAct, state)
    | .runNext times =>
      match state.bench with
      | .timers _ => runNextTimes fuel times.toNat [] state
      | _ => (.error .unknownAct, state)
    | .drain =>
      match state.bench with
      | .timers _ => reply (drain fuel 0 state)
      | _ => (.error .unknownAct, state)
    | .fire index =>
      match state.bench with
      | .ledger ledger => fire fuel ledger index state
      | _ => (.error .unknownAct, state)
    | .fireNext =>
      match state.bench with
      | .ledger ledger =>
        match ledger.bookings.findIdx? (·.active) with
        | some index => fire fuel ledger index state
        | none => (.ok (.text "none"), state)
      | _ => (.error .unknownAct, state)
    | .setClock microseconds =>
      match state.bench with
      | .seconds timers =>
        let timers := timers.setClock microseconds
        let state := state.setBench (.seconds timers)
        if timers.isReadable then reply (runDue fuel 0 state) else (.error .outOfRange, state)
      | _ => (.error .unknownAct, state)
    | .unknown => (.error .unknownAct, state)

def performAll : Nat → List Act → State → Result Unit
  | 0, _, state => (.ok (), state)
  | _, [], state => (.ok (), state)
  | fuel + 1, act :: rest, state =>
    match perform fuel act state with
    | (.error fault, state) => (.error fault, state)
    | (.ok _, state) => performAll fuel rest state

def call : Nat → Operation → State → Result Reply
  | 0, _, state => (.ok .nothing, state)
  | fuel + 1, operation, state =>
    let called := state.move (.call operation)
    if called.refusedSince state then (.error .outOfRange, called)
    else drive fuel state.stage.stack.length called

def drive : Nat → Nat → State → Result Reply
  | 0, _, state => (.ok .nothing, state)
  | fuel + 1, depth, state =>
    match state.stage.stack with
    | [] => (.ok .nothing, state)
    | activation :: below =>
      if below.length < depth then (.ok .nothing, state)
      else
        let picture := activation.picture
        let frame : Frame := ⟨activation.listener, picture.index, picture.output.length⟩
        let state := { state with frames := state.frames ++ [frame] }
        match performAll fuel (state.actsFor activation) state with
        | (.error fault, state) => (.error fault, state.move .failed)
        | (.ok _, state) =>
          let returned := state.move .returned
          if returned.refusedSince state then (.error .outOfRange, returned)
          else drive fuel depth returned

def runDue : Nat → Nat → State → Result Nat
  | 0, ran, state => (.ok ran, state)
  | fuel + 1, ran, state =>
    match state.bench.takeDue with
    | (none, bench) => (.ok ran, state.setBench bench)
    | (some generation, bench) =>
      match call fuel (.tick generation) (state.setBench bench) with
      | (.error fault, state) => (.error fault, state)
      | (.ok _, state) => runDue fuel (ran + 1) state

def runNext : Nat → State → Result Nat
  | 0, state => (.ok 0, state)
  | fuel + 1, state =>
    match state.bench with
    | .timers timers =>
      match timers.jump? with
      | some timers => runDue fuel 0 (state.setBench (.timers timers))
      | none => (.ok 0, state.setBench (.timers timers.dropCancelled))
    | _ => (.ok 0, state)

def runNextTimes : Nat → Nat → List Int → State → Result Reply
  | 0, _, ran, state => (.ok (.numbers ran), state)
  | _, 0, ran, state => (.ok (.numbers ran), state)
  | fuel + 1, times + 1, ran, state =>
    match runNext fuel state with
    | (.error fault, state) => (.error fault, state)
    | (.ok n, state) => runNextTimes fuel times (ran ++ [(n : Int)]) state

def drain : Nat → Nat → State → Result Nat
  | 0, ran, state => (.ok ran, state)
  | fuel + 1, ran, state =>
    match state.bench with
    | .timers timers =>
      if timers.pending = 0 ∨ drainLimit ≤ ran then (.ok ran, state)
      else
        match runNext fuel state with
        | (.error fault, state) => (.error fault, state)
        | (.ok n, state) => drain fuel (ran + n) state
    | _ => (.ok ran, state)

def fire : Nat → Ledger → Int → State → Result Reply
  | 0, _, _, state => (.ok .nothing, state)
  | fuel + 1, ledger, index, state =>
    match at? ledger.bookings index with
    | none => (.error .noSuchIndex, state)
    | some booking =>
      call fuel (.tick booking.generation) (state.setBench (.ledger (ledger.close index.toNat)))

end

structure Row where
  reply : Except Fault Reply
  frames : List Frame
  notices : List Notice
  player : Player
  bench : Bench

def patience : Nat := 100000

def playFrom (state : State) : List Act → List Row
  | [] => []
  | act :: rest =>
    let quiet := { state with
      frames := []
      stage := { state.stage with rig := { state.stage.rig with notices := [] } } }
    let (reply, state) := perform patience act quiet
    let rig := state.stage.rig
    { reply := reply, frames := state.frames, notices := rig.notices, player := rig.player
      bench := rig.scheduler } :: playFrom state rest

def play (rig : Rig Bench) (acts : List Act) : List Row := playFrom { stage := { rig } } acts

end LoopPlayer.Scenario
