import LoopPlayer.Timers.Basic
import LoopPlayer.SecondTimers

/-! What a player needs of a scheduler: to have a tick run later, and to take that back. A tick is
known by its generation, and a scheduled tick by a handle; a call that is refused has none. -/
namespace LoopPlayer

class Scheduler (σ : Type) where
  later : σ → Int → Nat → σ × Option Nat
  cancel : σ → Nat → σ

instance : Scheduler (Timers Nat) where
  later timers ms generation := (timers.later ms generation, some (timers.made + 1))
  cancel timers serial := timers.cancel serial

instance : Scheduler (SecondTimers Nat) where
  later timers ms generation :=
    (timers.later ms generation,
      (SecondTimers.delayOf? ms).map fun _ => timers.timers.length)
  cancel timers index := timers.cancel index

structure Booking where
  delay : Int
  generation : Nat
  active : Bool := true
  deriving DecidableEq, Repr

/-- A scheduler that runs nothing by itself: it books every call, and what is booked may be run at
any time, in any order and any number of times. It need not honour a cancellation. -/
structure Ledger where
  honours : Bool := true
  bookings : List Booking := []
  deriving DecidableEq, Repr

namespace Ledger

def later (ledger : Ledger) (ms : Int) (generation : Nat) : Ledger :=
  { ledger with bookings := ledger.bookings ++ [⟨ms, generation, true⟩] }

def close (ledger : Ledger) (index : Nat) : Ledger :=
  { ledger with bookings := ledger.bookings.modify index fun b => { b with active := false } }

def cancel (ledger : Ledger) (index : Nat) : Ledger :=
  if ledger.honours then ledger.close index else ledger

end Ledger

instance : Scheduler Ledger where
  later ledger ms generation := (ledger.later ms generation, some ledger.bookings.length)
  cancel := Ledger.cancel

end LoopPlayer
