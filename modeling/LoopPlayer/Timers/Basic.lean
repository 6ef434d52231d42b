import LoopPlayer.Number.Numeral

/-! Timers on a clock that is moved by hand. The queue is kept in the order in which the timers run:
by due time, and among equal due times by serial number. A cancelled timer stays in the queue, no
longer live, until its turn comes. -/
namespace LoopPlayer

structure Timer (α : Type) where
  due : Int
  serial : Nat
  action : α
  live : Bool := true
  deriving DecidableEq, Repr

/-- The clock in milliseconds, the number of timers made so far, and those that still wait. -/
structure Timers (α : Type) where
  now : Int := 0
  made : Nat := 0
  queue : List (Timer α) := []
  deriving DecidableEq, Repr

inductive ClockError where
  | backwards (ms : Int)
  deriving DecidableEq, Repr

def ClockError.message : ClockError → String
  | backwards ms => s!"cannot move the clock backwards ({ms}ms)"

namespace Timer

def precedes {α : Type} (a b : Timer α) : Bool :=
  a.due < b.due || (a.due == b.due && a.serial < b.serial)

end Timer

namespace Timers

variable {α : Type}

def insert (timer : Timer α) : List (Timer α) → List (Timer α)
  | [] => [timer]
  | head :: rest => if timer.precedes head then timer :: head :: rest else head :: insert timer rest

def later (timers : Timers α) (ms : Int) (action : α) : Timers α :=
  let serial := timers.made + 1
  { timers with
    made := serial
    queue := insert ⟨timers.now + ms, serial, action, true⟩ timers.queue }

def cancel (timers : Timers α) (serial : Nat) : Timers α :=
  { timers with
    queue := timers.queue.map fun timer =>
      if timer.serial == serial then { timer with live := false } else timer }

def advance (timers : Timers α) (ms : Int) : Except ClockError (Timers α) :=
  if ms < 0 then .error (.backwards ms) else .ok { timers with now := timers.now + ms }

def pending (timers : Timers α) : Nat := timers.queue.countP Timer.live

/- Drop the timers that are due until a live one is found: that one, and what is then left. -/
def splitDue (now : Int) : List (Timer α) → Option (Timer α) × List (Timer α)
  | [] => (none, [])
  | timer :: rest =>
    if timer.due ≤ now then if timer.live then (some timer, rest) else splitDue now rest
    else (none, timer :: rest)

def takeDue (timers : Timers α) : Option (Timer α) × Timers α :=
  let (timer, queue) := splitDue timers.now timers.queue
  (timer, { timers with queue })

def jump? (timers : Timers α) : Option (Timers α) :=
  match timers.queue.dropWhile (!·.live) with
  | [] => none
  | timer :: rest => some { timers with now := max timers.now timer.due, queue := timer :: rest }

def dropCancelled (timers : Timers α) : Timers α :=
  { timers with queue := timers.queue.dropWhile (!·.live) }

def front (n : Int) (queue : List (Timer α)) : List (Timer α) :=
  if 0 ≤ n then queue.take n.toNat else queue.take (queue.length - n.natAbs)

def describe (name : α → String) (n : Int) (timers : Timers α) : String :=
  let shown := front n timers.queue
  let heading :=
    [s!"SimScheduler @ t = {timers.now}ms",
      s!"queued = {timers.queue.length} (showing first {shown.length})"]
  let rows := shown.zipIdx.map fun (timer, i) =>
    let place := Number.padded '0' 2 i
    let remaining := max 0 (timer.due - timers.now)
    let live := if timer.live then "True" else "False"
    s!"#{place} due @ {timer.due}ms (in {remaining}ms) counter={timer.serial} live={live} " ++
      s!"cb={name timer.action}"
  "\n".intercalate (heading ++ rows)

def describe? (name : α → String) (n : Int) (timers : Timers α) : Option String :=
  if (timers.now :: (front n timers.queue).map Timer.due).all Number.isWritable then
    some (describe name n timers)
  else none

end Timers
end LoopPlayer
