import LoopPlayer.Lane

/-! The calls that defer work. A line registers work when, without its blanks, it starts with
one of five openings. -/
namespace LoopPlayer

inductive Registration where
  | timeout
  | promise
  | microtask
  | frame
  | idle
  deriving DecidableEq, Repr

namespace Registration

def all : List Registration := [timeout, promise, microtask, frame, idle]

def opening : Registration → String
  | timeout => "setTimeout("
  | promise => "Promise.resolve()"
  | microtask => "queueMicrotask("
  | frame => "requestAnimationFrame("
  | idle => "requestIdleCallback("

def lane : Registration → Lane
  | timeout => .macrotask
  | promise => .microtask
  | microtask => .microtask
  | frame => .animation
  | idle => .idle

def code : Registration → String
  | timeout => "setTimeout(() => \x7b ... \x7d, 0)"
  | promise => ".then(() => \x7b ... \x7d)"
  | microtask => "queueMicrotask(() => \x7b ... \x7d)"
  | frame => "requestAnimationFrame(() => \x7b ... \x7d)"
  | idle => "requestIdleCallback(() => \x7b ... \x7d)"

def fallback : Registration → String
  | timeout => "setTimeout callback"
  | promise => "Promise.then"
  | microtask => "queueMicrotask"
  | frame => "rAF callback"
  | idle => "idle callback"

def start? (text : List Char) : Option Registration :=
  all.find? fun registration => registration.opening.toList.isPrefixOf text

def afterOpening (registration : Registration) (text : List Char) : List Char :=
  text.drop registration.opening.length

def nestsIn (inner outer : Registration) : Bool :=
  outer.lane == .macrotask && inner.lane == .microtask

end Registration
end LoopPlayer
