import LoopPlayer.Demo
import LoopPlayer.Player.Basic
import LoopPlayer.SourceFile
import LoopPlayer.Verbosity

/-! Starting the server: settings from the environment, then the threshold of reports, then the
program. The first that fails ends the start. -/
namespace LoopPlayer.Server

inductive Failure where
  | settings (error : SettingsError)
  | level (refusal : Verbosity.Refusal)
  | file (error : SourceFile.Error)
  deriving DecidableEq, Repr

def Failure.message : Failure → String
  | settings error => error.message
  | level refusal => refusal.message
  | file error => error.message

structure Ready where
  settings : ServerSettings
  threshold : Nat
  rig : Rig (SecondTimers Nat)

def Ready.transportLevel (ready : Ready) : String :=
  String.ofList (Text.lower ready.settings.logLevel.toList)

def sourceOf (read : String → Except SourceFile.Error String) (settings : ServerSettings) :
    Except SourceFile.Error String :=
  match settings.sourceFile with
  | some path => read path
  | none => .ok demoSource

def start (read : String → Except SourceFile.Error String) (env : Environment) :
    Except Failure Ready := do
  let settings ← (ServerSettings.ofEnvironment env).mapError .settings
  let threshold ← (Verbosity.threshold settings.logLevel).mapError .level
  let source ← (sourceOf read settings).mapError .file
  let rig : Rig (SecondTimers Nat) := Rig.ofSource source settings.playback {}
  let serving := .serving rig.player.steps.length settings.host settings.port
  return ⟨settings, threshold, rig.note serving⟩

end LoopPlayer.Server
