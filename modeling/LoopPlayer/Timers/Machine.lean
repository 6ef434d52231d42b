import LoopPlayer.Timers.Basic

/-! Timers in use. Running what is due is a loop that hands over to one callback after another, and
a callback may do anything to the timers, also start a loop of its own, return or fail. The machine
makes each of these one move, so a run is a list of moves whatever the callbacks are. -/
namespace LoopPlayer.Timers

variable {α : Type}

structure Loop (α : Type) where
  returned : Nat
  current : Timer α
  deriving DecidableEq, Repr

/-- `loops` holds the innermost loop first. `started` lists every callback that was started, with
the time on the clock, and `ended` the result of the loop that ended last. -/
structure Machine (α : Type) where
  timers : Timers α := {}
  loops : List (Loop α) := []
  started : List (Timer α × Int) := []
  ended : Nat := 0
  deriving DecidableEq, Repr

inductive Move (α : Type) where
  | later (ms : Int) (action : α)
  | cancel (serial : Nat)
  | advance (ms : Int)
  | runDue
  | runNext
  | returned
  | failed
  deriving DecidableEq, Repr

namespace Machine

def resume (machine : Machine α) (returned : Nat) : Machine α :=
  match machine.timers.takeDue with
  | (some timer, timers) =>
    { machine with
      timers := timers
      loops := ⟨returned, timer⟩ :: machine.loops
      started := machine.started ++ [(timer, timers.now)] }
  | (none, timers) => { machine with timers := timers, ended := returned }

/- A clock that would go back stays where it is. `returned` and `failed` speak of the running
callback and do nothing without one. -/
def step (machine : Machine α) : Move α → Machine α
  | .later ms action => { machine with timers := machine.timers.later ms action }
  | .cancel serial => { machine with timers := machine.timers.cancel serial }
  | .advance ms =>
    match machine.timers.advance ms with
    | .ok timers => { machine with timers }
    | .error _ => machine
  | .runDue => machine.resume 0
  | .runNext =>
    match machine.timers.jump? with
    | some timers => { machine with timers }.resume 0
    | none => { machine with timers := machine.timers.dropCancelled, ended := 0 }
  | .returned =>
    match machine.loops with
    | [] => machine
    | loop :: loops => { machine with loops }.resume (loop.returned + 1)
  | .failed => { machine with loops := machine.loops.tail }

def run (machine : Machine α) (moves : List (Move α)) : Machine α := moves.foldl step machine

end Machine
end LoopPlayer.Timers
