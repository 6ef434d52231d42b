import LoopPlayer.Number.Decimal

/-! Timers on a clock that counts in seconds with binary64 values. Delays and due times are rounded
as such values are, so two delays may end together that were given apart; a delay out of their range
is refused. -/
namespace LoopPlayer

structure SecondTimer (α : Type) where
  delay : Float
  due : Float
  action : α
  live : Bool := true

structure SecondTimers (α : Type) where
  microseconds : Int := 0
  timers : List (SecondTimer α) := []
  refused : Nat := 0

namespace SecondTimers

variable {α : Type}

def time (timers : SecondTimers α) : Float := Number.ofInt timers.microseconds / 1e6

def isReadable (timers : SecondTimers α) : Bool := timers.time.isFinite

def now (timers : SecondTimers α) : Int := Number.truncate (timers.time * 1000)

def delayOf? (ms : Int) : Option Float := (Number.ofInt? ms).map (· / 1000.0)

def later (timers : SecondTimers α) (ms : Int) (action : α) : SecondTimers α :=
  match delayOf? ms with
  | some delay =>
    { timers with timers := timers.timers ++ [⟨delay, timers.time + delay, action, true⟩] }
  | none => { timers with refused := timers.refused + 1 }

def stopAt (timers : List (SecondTimer α)) (index : Nat) : List (SecondTimer α) :=
  timers.modify index fun timer => { timer with live := false }

def cancel (timers : SecondTimers α) (index : Nat) : SecondTimers α :=
  { timers with timers := stopAt timers.timers index }

def setClock (timers : SecondTimers α) (microseconds : Int) : SecondTimers α :=
  { timers with microseconds }

def nextDue (time : Float) (found : Option (SecondTimer α × Nat)) :
    List (SecondTimer α × Nat) → Option (SecondTimer α × Nat)
  | [] => found
  | (timer, index) :: rest =>
    let earlier :=
      match found with
      | some (best, _) => timer.due < best.due
      | none => true
    if timer.live && timer.due ≤ time && earlier then nextDue time (some (timer, index)) rest
    else nextDue time found rest

def takeDue (timers : SecondTimers α) : Option (α × Nat) × SecondTimers α :=
  match nextDue timers.time none timers.timers.zipIdx with
  | some (timer, index) =>
    (some (timer.action, index), { timers with timers := stopAt timers.timers index })
  | none => (none, timers)

def runDueFrom : Nat → SecondTimers α → List Nat × SecondTimers α
  | 0, timers => ([], timers)
  | fuel + 1, timers =>
    match timers.takeDue with
    | (some (_, index), timers) =>
      let (indices, timers) := runDueFrom fuel timers
      (index :: indices, timers)
    | (none, timers) => ([], timers)

def runDue (timers : SecondTimers α) : List Nat × SecondTimers α :=
  runDueFrom timers.timers.length timers

end SecondTimers
end LoopPlayer
