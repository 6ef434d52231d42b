import LoopPlayer.Trace
import LoopPlayer.Board
import LoopPlayer.Notice
import LoopPlayer.Settings
import LoopPlayer.Json.Value
import LoopPlayer.Player.Scheduler

/-! A player replays a trace onto a board, by hand or on ticks. An operation has two halves. The
first half does what it does at once and says whether listeners are to be told; the second half is
what it still owes when they have been told. Between the halves listeners run, and may use the
player themselves.

Whatever stops playback takes the pending tick back and starts a new generation, so that a tick of
an older one finds that it is stale. -/
namespace LoopPlayer

structure Player where
  steps : List Step
  settings : Settings := {}
  transport : Transport := .idle
  speed : Int := 1
  board : Board := {}
  pending : Option Nat := none
  generation : Nat := 0
  listeners : List String := []
  deriving DecidableEq, Repr

structure Rig (σ : Type) where
  player : Player
  scheduler : σ
  notices : List Notice := []
  deriving DecidableEq, Repr

inductive Control where
  | play
  | pause
  | step
  | reset
  deriving DecidableEq, Repr

namespace Control

def all : List Control := [play, pause, step, reset]

def name : Control → String
  | play => "play"
  | pause => "pause"
  | step => "step"
  | reset => "reset"

def ofName? (text : String) : Option Control := all.find? (·.name == text)

end Control

inductive Operation where
  | control (control : Control)
  | load (source : String)
  | setSpeed (speed : Int)
  | tick (generation : Nat)
  deriving DecidableEq, Repr

/-- What an operation owes after the listeners: a step by hand leaves the idle state, and a tick
books the next one while playback goes on. -/
inductive Owed where
  | nothing
  | settle
  | rebook
  deriving DecidableEq, Repr

inductive RequestError where
  | unknownAction (action : Json)
  | unusableAction (action : Json)
  | speedNotInteger (speed : Json)

def RequestError.message : RequestError → String
  | unknownAction action => "Unknown control action " ++ action.shown
  | unusableAction action => s!"unhashable type: '{action.kind}'"
  | speedNotInteger speed => "speed must be an integer, got " ++ speed.shown

namespace Control

def ofJson : Json → Except RequestError Control
  | .string name =>
    match ofName? name with
    | some control => .ok control
    | none => .error (.unknownAction (.string name))
  | .list items => .error (.unusableAction (.list items))
  | .object members => .error (.unusableAction (.object members))
  | other => .error (.unknownAction other)

end Control

def speedOfJson : Json → Except RequestError Int
  | .int n => .ok n
  | other => .error (.speedNotInteger other)

namespace Player

def matching (player : Player) : Matching :=
  if player.settings.matchByLabel then .byLabel else .byTask

def start (steps : List Step) (settings : Settings) : Player :=
  { steps, settings, speed := settings.clampSpeed settings.speed }

def next? (player : Player) : Option Step := player.steps[(player.board.index + 1).toNat]?

end Player

namespace Rig

variable {σ : Type}

def start (steps : List Step) (settings : Settings) (scheduler : σ) : Rig σ :=
  { player := Player.start steps settings, scheduler }

def note (rig : Rig σ) (notice : Notice) : Rig σ :=
  { rig with notices := rig.notices ++ [notice] }

def compile (source : String) : List Step × Notice :=
  let jobs := jobsOf source
  let steps := Trace.ofJobs jobs
  (steps, .compiled jobs.length steps.length)

def ofSource (source : String) (settings : Settings) (scheduler : σ) : Rig σ :=
  let (steps, notice) := compile source
  (start steps settings scheduler).note notice

def setTransport (rig : Rig σ) (transport : Transport) : Rig σ :=
  if rig.player.transport = transport then rig
  else
    let rig := rig.note (.moved rig.player.transport transport)
    { rig with player := { rig.player with transport } }

variable [Scheduler σ]

def book (rig : Rig σ) : Rig σ :=
  let ms := rig.player.settings.interval rig.player.speed
  let (scheduler, handle) := Scheduler.later rig.scheduler ms rig.player.generation
  { rig with scheduler, player := { rig.player with pending := handle.or rig.player.pending } }

def unbook (rig : Rig σ) : Rig σ :=
  let scheduler :=
    match rig.player.pending with
    | some handle => Scheduler.cancel rig.scheduler handle
    | none => rig.scheduler
  { rig with
    scheduler
    player := { rig.player with generation := rig.player.generation + 1, pending := none } }

def finish (rig : Rig σ) : Rig σ := rig.unbook.setTransport .finished

def advance (rig : Rig σ) : Rig σ × Bool :=
  match rig.player.next? with
  | none => (rig.finish, false)
  | some step =>
    let board := rig.player.board.apply rig.player.matching step
    let rig := { rig with player := { rig.player with board } }.note (.applied board.index step)
    let last := board.index + 1 == rig.player.steps.length
    (if last then rig.finish else rig, true)

def play (rig : Rig σ) : Rig σ :=
  if rig.player.transport = .playing ∨ rig.player.transport = .finished then rig
  else if (rig.player.steps.length : Int) - 1 ≤ rig.player.board.index then rig.finish
  else (rig.setTransport .playing).book

def pause (rig : Rig σ) : Rig σ :=
  if rig.player.transport = .playing then rig.unbook.setTransport .paused else rig

def rewind (rig : Rig σ) : Rig σ :=
  let rig := rig.unbook
  { rig with player := { rig.player with board := {} } }.setTransport .idle

/-- The first half of an operation, and what is owed when the listeners have been told; nothing when
they are not told. -/
def begin (rig : Rig σ) : Operation → Rig σ × Option Owed
  | .control .play => (rig.play, none)
  | .control .pause => (rig.pause, none)
  | .control .step =>
    if rig.player.transport = .finished then (rig, none)
    else
      let (rig, told) := rig.pause.advance
      (rig, if told then some .settle else none)
  | .control .reset => (rig.rewind, some .nothing)
  | .load source =>
    let (steps, notice) := compile source
    let rig := rig.unbook.note notice
    let rig := { rig with player := { rig.player with steps } }.note (.loaded steps.length)
    (rig.rewind, some .nothing)
  | .setSpeed speed =>
    ({ rig with player := { rig.player with speed := rig.player.settings.clampSpeed speed } }, none)
  | .tick generation =>
    if generation ≠ rig.player.generation ∨ rig.player.transport ≠ .playing then
      (rig.note (.staleTick generation), none)
    else
      let (rig, told) := { rig with player := { rig.player with pending := none } }.advance
      (rig, if told then some .rebook else none)

def settle (rig : Rig σ) : Owed → Rig σ
  | .nothing => rig
  | .settle => if rig.player.transport = .idle then rig.setTransport .paused else rig
  | .rebook => if rig.player.transport = .playing then rig.book else rig

def perform (rig : Rig σ) (operation : Operation) : Rig σ × Option Board :=
  match rig.begin operation with
  | (rig, none) => (rig, none)
  | (rig, some owed) => (rig.settle owed, some rig.player.board)

end Rig
end LoopPlayer
