import LoopPlayer.Text.Blank
import LoopPlayer.Text.Line
import LoopPlayer.Source.Delimiter
import LoopPlayer.Source.Registration

/-! Blocks of lines. A block runs from its first line to the line on which the braces and
parentheses opened since then are closed again, or to the end of the source. A block is given by
its first line and the line after its last, its stop. -/
namespace LoopPlayer.Block
open Text (Line strip)

def closing? (depth : Int) (started : Bool) : List Line → Option Nat
  | [] => none
  | line :: rest =>
    let depth := depth + Delimiter.opened line - Delimiter.closed line
    let started := started || 0 < Delimiter.opened line
    if started && depth ≤ 0 then some 1 else (closing? depth started rest).map (· + 1)

def stop (lines : List Line) (start : Nat) : Nat :=
  match closing? 0 false (lines.drop start) with
  | some length => start + length
  | none => lines.length

def attaches (line : Line) : Bool := (strip line).head? == some '.'

/- The stop of a chain whose blocks so far end before `reached`; `fuel` bounds the number of
blocks that are still attached. -/
def chainStop (lines : List Line) : Nat → Nat → Nat
  | 0, reached => reached
  | fuel + 1, reached =>
    match lines[reached]? with
    | some line => if attaches line then chainStop lines fuel (stop lines reached) else reached
    | none => reached

def registrationStop (lines : List Line) (start : Nat) : Registration → Nat
  | .promise => chainStop lines lines.length (stop lines start)
  | _ => stop lines start

def last (lines : List Line) (start : Nat) : Int := (stop lines start : Int) - 1

def registrationLast (lines : List Line) (start : Nat) (registration : Registration) : Int :=
  (registrationStop lines start registration : Int) - 1

/-- A body line by line: a line of the body's own, or a registration inside it with its block,
which is cut at the end of the body. -/
inductive Part where
  | line (index : Nat)
  | inner (registration : Registration) (start stop : Nat)
  deriving DecidableEq, Repr

def partsFrom (lines : List Line) (upTo : Nat) : Nat → Nat → List Part
  | 0, _ => []
  | fuel + 1, index =>
    if index < upTo then
      match Registration.start? (strip (lines[index]?.getD [])) with
      | none => .line index :: partsFrom lines upTo fuel (index + 1)
      | some registration =>
        let next := min (registrationStop lines index registration) upTo
        .inner registration index next :: partsFrom lines upTo fuel next
    else []

def parts (lines : List Line) (start upTo : Nat) : List Part :=
  partsFrom lines upTo (upTo - start) start

end LoopPlayer.Block
