import LoopPlayer.Player.Basic

/-! A bench: a player's scheduler that is driven from outside. There are three kinds, timers on a
clock moved by hand, timers on a clock of seconds, and a ledger whose bookings are run one by one.
-/
namespace LoopPlayer

inductive Bench where
  | timers (timers : Timers Nat)
  | seconds (timers : SecondTimers Nat)
  | ledger (ledger : Ledger)

namespace Bench

def later : Bench → Int → Nat → Bench × Option Nat
  | timers t, ms, generation =>
    let (t, handle) := Scheduler.later t ms generation
    (timers t, handle)
  | seconds t, ms, generation =>
    let (t, handle) := Scheduler.later t ms generation
    (seconds t, handle)
  | ledger l, ms, generation =>
    let (l, handle) := Scheduler.later l ms generation
    (ledger l, handle)

def cancel : Bench → Nat → Bench
  | timers t, handle => timers (Scheduler.cancel t handle)
  | seconds t, handle => seconds (Scheduler.cancel t handle)
  | ledger l, handle => ledger (Scheduler.cancel l handle)

def refused : Bench → Nat
  | seconds t => t.refused
  | _ => 0

def takeDue : Bench → Option Nat × Bench
  | timers t =>
    match t.takeDue with
    | (timer, t) => (timer.map Timer.action, timers t)
  | seconds t =>
    match t.takeDue with
    | (tick, t) => (tick.map Prod.fst, seconds t)
  | ledger l => (none, ledger l)

end Bench

instance : Scheduler Bench where
  later := Bench.later
  cancel := Bench.cancel

end LoopPlayer
