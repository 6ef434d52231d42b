import LoopPlayer.Number.Numeral
import LoopPlayer.Text.Letter
import LoopPlayer.Text.Quoted

/-! Settings of playback and of the server, and their reading from named texts, the environment.
Every setting has a default. -/
namespace LoopPlayer

structure Settings where
  speed : Int := 1
  minSpeed : Int := 1
  maxSpeed : Int := 5
  baseInterval : Int := 1200
  speedStep : Int := 200
  minInterval : Int := 200
  matchByLabel : Bool := false
  deriving DecidableEq, Repr

abbrev Environment := List (String × String)

inductive SettingsError where
  | notAnInteger (name raw : String)
  | crossed (least greatest : Int)
  deriving DecidableEq, Repr

def SettingsError.message : SettingsError → String
  | notAnInteger name raw => s!"{name} must be an integer, got {Text.quote raw}"
  | crossed least greatest =>
    s!"EVLOOP_MIN_SPEED ({least}) is above EVLOOP_MAX_SPEED ({greatest})"

namespace Environment

def int (env : Environment) (name : String) (default : Int) : Except SettingsError Int :=
  match env.lookup name with
  | none => .ok default
  | some raw =>
    if (Text.strip raw.toList).isEmpty then .ok default
    else
      match Number.readInt? raw.toList with
      | some n => .ok n
      | none => .error (.notAnInteger name raw)

def affirmations : List String := ["1", "true", "yes", "on"]

def switch (env : Environment) (name : String) (default : Bool) : Bool :=
  match env.lookup name with
  | none => default
  | some raw => affirmations.contains (String.ofList (Text.lower (Text.strip raw.toList)))

def text (env : Environment) (name default : String) : String := (env.lookup name).getD default

end Environment

namespace Settings

def clampSpeed (settings : Settings) (speed : Int) : Int :=
  max settings.minSpeed (min settings.maxSpeed speed)

def interval (settings : Settings) (speed : Int) : Int :=
  max settings.minInterval (settings.baseInterval - speed * settings.speedStep)

def ofEnvironment (env : Environment) : Except SettingsError Settings := do
  let defaults : Settings := {}
  let speed ← env.int "EVLOOP_SPEED" defaults.speed
  let minSpeed ← env.int "EVLOOP_MIN_SPEED" defaults.minSpeed
  let maxSpeed ← env.int "EVLOOP_MAX_SPEED" defaults.maxSpeed
  let baseInterval ← env.int "EVLOOP_BASE_INTERVAL_MS" defaults.baseInterval
  let speedStep ← env.int "EVLOOP_SPEED_STEP_MS" defaults.speedStep
  let minInterval ← env.int "EVLOOP_MIN_INTERVAL_MS" defaults.minInterval
  let matchByLabel := env.switch "EVLOOP_MATCH_BY_LABEL" defaults.matchByLabel
  if maxSpeed < minSpeed then .error (.crossed minSpeed maxSpeed)
  else .ok { speed, minSpeed, maxSpeed, baseInterval, speedStep, minInterval, matchByLabel }

end Settings

structure ServerSettings where
  host : String := "0.0.0.0"
  port : Int := 8000
  logLevel : String := "INFO"
  sourceFile : Option String := none
  apiUrl : String := "http://localhost:8000"
  playback : Settings := {}
  deriving DecidableEq, Repr

namespace ServerSettings

def ofEnvironment (env : Environment) : Except SettingsError ServerSettings := do
  let defaults : ServerSettings := {}
  let port ← env.int "EVLOOP_PORT" defaults.port
  let playback ← Settings.ofEnvironment env
  return {
    host := env.text "EVLOOP_HOST" defaults.host
    port := port
    logLevel := String.ofList (Text.upper (env.text "EVLOOP_LOG_LEVEL" defaults.logLevel).toList)
    sourceFile := (env.lookup "EVLOOP_SOURCE_FILE").filter (!·.isEmpty)
    apiUrl := String.ofList
      (Text.dropEndWhile (· == '/') (env.text "EVLOOP_API_URL" defaults.apiUrl).toList)
    playback := playback }

end ServerSettings
end LoopPlayer
