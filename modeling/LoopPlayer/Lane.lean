/-! The five lanes of the event loop, in the order in which they are served. -/
namespace LoopPlayer

inductive Lane where
  | callStack
  | microtask
  | macrotask
  | animation
  | idle
  deriving DecidableEq, Repr

namespace Lane

def all : List Lane := [callStack, microtask, macrotask, animation, idle]

def name : Lane → String
  | callStack => "callStack"
  | microtask => "microtask"
  | macrotask => "macrotask"
  | animation => "animation"
  | idle => "idle"

def ofName? (text : String) : Option Lane := all.find? (·.name == text)

def title : Lane → String
  | callStack => "Call Stack"
  | microtask => "Microtask Queue"
  | macrotask => "Macrotask Queue"
  | animation => "Animation Frame"
  | idle => "Idle Callback"

def description : Lane → String
  | callStack => "Synchronous code executes immediately. Functions push/pop frames onto the stack."
  | microtask => "Promise.then, queueMicrotask, MutationObserver. Drains completely after " ++
      "each task before the next macrotask."
  | macrotask => "setTimeout, setInterval, I/O callbacks. One macrotask executes per event " ++
      "loop iteration, then microtasks drain."
  | animation => "requestAnimationFrame. Runs before the browser paints, typically at 60fps."
  | idle => "requestIdleCallback. Runs when the browser is idle with no pending work. " ++
      "Lowest priority."

end Lane
end LoopPlayer
