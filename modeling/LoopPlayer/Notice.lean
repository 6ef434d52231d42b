import LoopPlayer.Step

/-! What the player reports while it works, as events. Their level, the channel that they go to and
their wording are read off the event. -/
namespace LoopPlayer

inductive Transport where
  | idle
  | playing
  | paused
  | finished
  deriving DecidableEq, Repr

def Transport.name : Transport → String
  | idle => "idle"
  | playing => "playing"
  | paused => "paused"
  | finished => "finished"

inductive Level where
  | debug
  | info
  deriving DecidableEq, Repr

inductive Notice where
  | compiled (jobs steps : Nat)
  | loaded (steps : Nat)
  | moved (before after : Transport)
  | applied (index : Int) (step : Step)
  | staleTick (generation : Nat)
  | commanded (action : String)
  | replayed (frames : Nat) (clock : Int)
  | serving (steps : Nat) (host : String) (port : Int)
  deriving DecidableEq, Repr

namespace Level

def name : Level → String
  | debug => "DEBUG"
  | info => "INFO"

def severity : Level → Nat
  | debug => 10
  | info => 20

def hears : Level → Level → Bool
  | debug, _ => true
  | info, level => level == info

end Level

namespace Notice

def level : Notice → Level
  | compiled .. => .debug
  | loaded .. => .info
  | moved .. => .info
  | applied .. => .debug
  | staleTick .. => .debug
  | commanded .. => .info
  | replayed .. => .info
  | serving .. => .info

def channel : Notice → String
  | compiled .. => "evloop.compiler.steps"
  | loaded .. => "evloop.engine"
  | moved .. => "evloop.engine"
  | applied .. => "evloop.engine"
  | staleTick .. => "evloop.engine"
  | commanded .. => "evloop.runtime.http_api"
  | replayed .. => "evloop.simulations.replay_demo"
  | serving .. => "evloop.runtime.run_server"

def message : Notice → String
  | compiled jobs steps => s!"compiled {jobs} units into {steps} steps"
  | loaded steps => s!"loaded source: {steps} steps"
  | moved before after => s!"playback {before.name} -> {after.name}"
  | applied index step =>
    s!"step {index}: {step.phase.name} {step.label} ({step.lane.name})"
  | staleTick generation => s!"ignoring stale tick (generation {generation})"
  | commanded action => s!"control {action}"
  | replayed frames clock => s!"replayed {frames} steps in {clock}ms"
  | serving steps host port => s!"serving {steps} steps on {host}:{port}"

def heard (listener : Level) (notices : List Notice) : List Notice :=
  notices.filter fun notice => listener.hears notice.level

end Notice
end LoopPlayer
