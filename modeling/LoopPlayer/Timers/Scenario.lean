import LoopPlayer.Timers.Machine

/-! Scenarios: callbacks given as lists of acts. What an act does to the timers is left to the
machine. -/
namespace LoopPlayer.Timers.Scenario

inductive Act where
  | later (ms : Int) (name shown : String) (acts : List Act) (again : Int)
  | again (ms : Int)
  | fail (text : String)
  | cancel (index : Int)
  | advance (ms : Int)
  | runDue
  | runNext
  | pending
  | now
  | describe (n : Int)
  | unknown
  deriving Repr, Inhabited

structure Callback where
  name : String
  shown : String
  acts : List Act
  again : Int
  deriving Repr, Inhabited

inductive Fault where
  | clock (error : ClockError)
  | failed (text : String)
  | tooLong
  | noSuchIndex
  | unknownAct
  deriving DecidableEq, Repr

inductive Reply where
  | nothing
  | number (n : Int)
  | text (s : String)
  deriving DecidableEq, Repr

structure State where
  machine : Machine Nat := {}
  callbacks : List Callback := []
  deriving Repr

namespace State

def move (state : State) (move : Move Nat) : State :=
  { state with machine := state.machine.step move }

def callback (state : State) (index : Nat) : Callback := state.callbacks[index]?.getD default

def running? (state : State) : Option Nat := state.machine.loops.head?.map (·.current.action)

end State

mutual

def Act.weight : Act → Nat
  | .later _ _ _ acts again => (again.toNat + 1) * (1 + weights acts)
  | _ => 1

def weights : List Act → Nat
  | [] => 0
  | act :: rest => act.weight + 1 + weights rest

end

mutual

/- Do one act: its reply or its fault, and the state that it leaves. `fuel` bounds the acts that
are done one inside or after another. -/
def perform : Nat → Act → State → Except Fault Reply × State
  | 0, _, state => (.ok .nothing, state)
  | fuel + 1, act, state =>
    let depth := state.machine.loops.length
    match act with
    | .later ms name shown acts again =>
      let index := state.callbacks.length
      let callback : Callback := { name, shown, acts, again }
      let state := { state with callbacks := state.callbacks ++ [callback] }
      (.ok (.number state.machine.timers.made), state.move (.later ms index))
    | .again ms =>
      match state.running? with
      | none => (.ok .nothing, state)
      | some index =>
        let callback := state.callback index
        if 0 < callback.again then
          let callbacks := state.callbacks.set index { callback with again := callback.again - 1 }
          (.ok .nothing, { state with callbacks }.move (.later ms index))
        else (.ok .nothing, state)
    | .fail text => (.error (.failed text), state)
    | .cancel index =>
      if 0 ≤ index && index < state.machine.timers.made then
        (.ok .nothing, state.move (.cancel (index.toNat + 1)))
      else (.error .noSuchIndex, state)
    | .advance ms =>
      match state.machine.timers.advance ms with
      | .error error => (.error (.clock error), state)
      | .ok _ => (.ok .nothing, state.move (.advance ms))
    | .runDue => drive fuel depth (state.move .runDue)
    | .runNext => drive fuel depth (state.move .runNext)
    | .pending => (.ok (.number state.machine.timers.pending), state)
    | .now => (.ok (.number state.machine.timers.now), state)
    | .describe n =>
      let name index := (state.callback index).shown
      match state.machine.timers.describe? name n with
      | some text => (.ok (.text text), state)
      | none => (.error .tooLong, state)
    | .unknown => (.error .unknownAct, state)

def performAll : Nat → List Act → State → Except Fault Unit × State
  | 0, _, state => (.ok (), state)
  | _, [], state => (.ok (), state)
  | fuel + 1, act :: rest, state =>
    match perform fuel act state with
    | (.error fault, state) => (.error fault, state)
    | (.ok _, state) => performAll fuel rest state

def drive : Nat → Nat → State → Except Fault Reply × State
  | 0, _, state => (.ok .nothing, state)
  | fuel + 1, depth, state =>
    match state.running? with
    | none => (.ok (.number state.machine.ended), state)
    | some index =>
      if state.machine.loops.length ≤ depth then (.ok (.number state.machine.ended), state)
      else
        match performAll fuel (state.callback index).acts state with
        | (.error fault, state) => (.error fault, state.move .failed)
        | (.ok _, state) => drive fuel depth (state.move .returned)

end

structure Row where
  reply : Except Fault Reply
  now : Int
  pending : Nat
  started : List (String × Int)

def playFrom (fuel : Nat) (state : State) : List Act → List Row
  | [] => []
  | act :: rest =>
    let (reply, after) := perform fuel act state
    let started := after.machine.started.drop state.machine.started.length
    let row := {
      reply := reply
      now := after.machine.timers.now
      pending := after.machine.timers.pending
      started := started.map fun (timer, time) => ((after.callback timer.action).name, time) }
    row :: playFrom fuel after rest

def play (acts : List Act) : List Row := playFrom (4 * weights acts + 4) {} acts

end LoopPlayer.Timers.Scenario
