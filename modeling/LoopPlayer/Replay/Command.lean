import LoopPlayer.Demo
import LoopPlayer.Replay
import LoopPlayer.Replay.Arguments
import LoopPlayer.SourceFile
import LoopPlayer.Verbosity

/-! The replay as a command: what it prints for its arguments and the files around it. -/
namespace LoopPlayer.Replay.Command

def name : String := "replay_demo.py"

def usage : String :=
  s!"usage: {name} [-h] [--speed SPEED] [--log-level LOG_LEVEL] [source]\n"

def help : String :=
  usage ++ "\nHeadless replay of a program on the deterministic scheduler.\n\n" ++
    "positional arguments:\n" ++
    "  source                program to replay (default: built-in demo)\n\n" ++
    "options:\n" ++
    "  -h, --help            show this help message and exit\n" ++
    "  --speed SPEED\n" ++
    "  --log-level LOG_LEVEL\n"

inductive Failure where
  | noLevel
  | level (refusal : Verbosity.Refusal)
  | file (error : SourceFile.Error)
  | noSpeed
  deriving DecidableEq, Repr

def Failure.message : Failure → String
  | noLevel => "'list' object has no attribute 'upper'"
  | level refusal => refusal.message
  | file error => error.message
  | noSpeed => RequestError.message (.speedNotInteger (.list []))

structure Outcome where
  status : Option Nat := none
  stdout : String := ""
  stderr : String := ""
  threshold : Option Nat := none
  failure : Option Failure := none
  notices : List Notice := []
  deriving DecidableEq, Repr

def Outcome.reports (outcome : Outcome) : List String :=
  let heard := outcome.notices.filter fun notice =>
    outcome.threshold.getD Verbosity.initial ≤ notice.level.severity
  heard.map fun notice => s!"{notice.level.name} {notice.channel}: {notice.message}"

def sourceOf (read : String → Except SourceFile.Error String) (options : Options) :
    Except SourceFile.Error String :=
  match options.source with
  | some path => read path
  | none => .ok demoSource

def playSource (threshold : Nat) (source : String) : Option Int → Outcome
  | none =>
    { threshold := some threshold, failure := some .noSpeed
      notices := [(Rig.compile source).2] }
  | some speed =>
    let recording := record source speed
    { stdout := report recording, threshold := some threshold
      notices := recording.rig.notices }

def play (read : String → Except SourceFile.Error String) (options : Options) : Outcome :=
  match options.logLevel.map Verbosity.threshold with
  | none => { failure := some .noLevel }
  | some (.error refusal) =>
    { threshold := some Verbosity.initial, failure := some (.level refusal) }
  | some (.ok threshold) =>
    match sourceOf read options with
    | .error error => { threshold := some threshold, failure := some (.file error) }
    | .ok source => playSource threshold source options.speed

def run (read : String → Except SourceFile.Error String) (arguments : List String) : Outcome :=
  match Arguments.parse arguments with
  | .help => { status := some 0, stdout := help }
  | .error error =>
    { status := some 2, stderr := usage ++ s!"{name}: error: {error.message}\n" }
  | .options options => play read options

end LoopPlayer.Replay.Command
