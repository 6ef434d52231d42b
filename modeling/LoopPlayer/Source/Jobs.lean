import LoopPlayer.Job
import LoopPlayer.Source.Block
import LoopPlayer.Source.Logging

/-! The jobs of a program. Each line is looked at on its own: a logging call in the first column
runs at once, and a registration defers the block that it opens. What a body prints belongs to the
innermost registration around it. Microtasks registered in a timer's body are nested in the timer
and are not reported again. -/
namespace LoopPlayer.Source
open Text (Line strip pieces)
open Block (Part parts registrationStop)

abbrev Printed := Nat × List Char

def stripped (lines : List Line) (index : Nat) : List Char := strip (lines[index]?.getD [])

def head (lines : List Line) (start : Nat) (registration : Registration) : List Char :=
  registration.afterOpening (stripped lines start)

def printedBy (index : Nat) (text : List Char) : List Printed :=
  (Logging.outputs text).map fun output => (index, output)

def deferred (registration : Registration) (start : Nat) (printed : List Printed) : Task where
  code := registration.code
  label := String.ofList (Logging.label (printed.head?.map Prod.snd) registration.fallback.toList)
  lane := registration.lane
  line := start + 1
  output := printed.head?.map fun first => String.ofList first.2
  extra := printed.tail.map fun (index, text) => ((index : Int) + 1, String.ofList text)

def callbackPrinted (lines : List Line) (start stop : Nat) (registration : Registration) :
    List Printed :=
  printedBy start (head lines start registration) ++
    (parts lines (start + 1) stop).flatMap fun
      | .line index => printedBy index (stripped lines index)
      | .inner .. => []

def attachment : List Char := ".then(".toList

def chainTexts (lines : List Line) (start stop : Nat) : List Printed :=
  (start, head lines start .promise) ::
    (parts lines (start + 1) stop).filterMap fun
      | .line index => some (index, stripped lines index)
      | .inner .. => none

structure Link where
  line : Nat
  attached : Bool
  text : List Char
  deriving DecidableEq, Repr

def links : Printed → List Link
  | (index, text) =>
    match pieces attachment text with
    | [] => []
    | first :: rest => ⟨index, false, first⟩ :: rest.map fun piece => ⟨index, true, piece⟩

/- The continuations among the links, each with its line and what it prints up to the next one,
and before them what is printed before the first. -/
def continuations : List Link → List Printed × List (Nat × List Printed)
  | [] => ([], [])
  | link :: rest =>
    let (leading, tasks) := continuations rest
    let printed := printedBy link.line link.text ++ leading
    if link.attached then ([], (link.line, printed) :: tasks) else (printed, tasks)

def chainTasks (lines : List Line) (start stop : Nat) : List Task :=
  (continuations ((chainTexts lines start stop).flatMap links)).2.map
    fun (index, printed) => deferred .promise index printed

def tasks (lines : List Line) (start stop : Nat) : Registration → List Task
  | .promise => chainTasks lines start stop
  | registration => [deferred registration start (callbackPrinted lines start stop registration)]

def nestedBlocks (lines : List Line) (start stop : Nat) (registration : Registration) :
    List (Registration × Nat × Nat) :=
  (parts lines (start + 1) stop).filterMap fun
    | .line _ => none
    | .inner inner first next =>
      if inner.nestsIn registration then some (inner, first, next) else none

def jobs (lines : List Line) (start stop : Nat) (registration : Registration) : List Job :=
  (tasks lines start stop registration).map fun task =>
    { task with
      nested := (nestedBlocks lines start stop registration).flatMap
        fun (inner, first, next) => tasks lines first next inner }

def immediate (line : Line) (index : Nat) : Job where
  code := String.ofList (strip line)
  label := String.ofList
    (Logging.label (some (Logging.firstOutput (strip line))) Logging.placeholder)
  lane := .callStack
  line := index + 1
  output := some (String.ofList (Logging.firstOutput (strip line)))
  extra := []
  nested := []

def within (blocks : List (Nat × Nat)) (index : Nat) : Bool :=
  blocks.any fun (start, stop) => start ≤ index && index < stop

/- The jobs of the numbered lines that are left, of all `lines`; `claimed` are the blocks whose
work is nested in a timer above. -/
def jobsFrom (lines : List Line) (claimed : List (Nat × Nat)) : List (Line × Nat) → List Job
  | [] => []
  | (line, index) :: rest =>
    if within claimed index then jobsFrom lines claimed rest
    else if Logging.opening.isPrefixOf line then immediate line index :: jobsFrom lines claimed rest
    else
      match Registration.start? (strip line) with
      | none => jobsFrom lines claimed rest
      | some registration =>
        let stop := registrationStop lines index registration
        let nested := (nestedBlocks lines index stop registration).map Prod.snd
        jobs lines index stop registration ++ jobsFrom lines (claimed ++ nested) rest

def jobsOfLines (lines : List Line) : List Job := jobsFrom lines [] lines.zipIdx

end Source

def jobsOf (source : String) : List Job := Source.jobsOfLines (Text.lines source.toList)

end LoopPlayer
