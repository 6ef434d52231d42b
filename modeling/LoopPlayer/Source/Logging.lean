import LoopPlayer.Text.Blank
import LoopPlayer.Text.Pieces
import LoopPlayer.Source.Delimiter

/-! Logging calls in a line and the texts they print. A call prints its first argument when that
is a quoted literal of at least one character. -/
namespace LoopPlayer.Logging
open Text (dropBlank strip pieces occurs)

def opening : List Char := "console.log(".toList

def placeholder : List Char := "output".toList

def upTo (quote : Char) : List Char → Option (List Char)
  | [] => none
  | c :: rest =>
    if c == quote then some [] else if c == '\n' then none else (upTo quote rest).map (c :: ·)

def body (quote : Char) : List Char → Option (List Char)
  | [] => none
  | c :: rest => if c == '\n' then none else (upTo quote rest).map (c :: ·)

def call? (text : List Char) : Option (List Char × Nat) :=
  if opening.isPrefixOf text then
    let argument := dropBlank (text.drop opening.length)
    match argument with
    | [] => none
    | quote :: rest =>
      if Delimiter.isQuote quote then
        (body quote rest).map fun printed =>
          (printed, (text.length - argument.length) + printed.length + 2)
      else none
  else none

def printedFrom : Nat → List Char → List (List Char)
  | _, [] => []
  | skip + 1, _ :: rest => printedFrom skip rest
  | 0, c :: rest =>
    match call? (c :: rest) with
    | some (printed, length) => printed :: printedFrom (length - 1) rest
    | none => printedFrom 0 rest

def printed (text : List Char) : List (List Char) := printedFrom 0 text

/- What a line inside a body prints; the placeholder stands for calls of which none has a
literal. -/
def outputs (text : List Char) : List (List Char) :=
  if (printed text).isEmpty && occurs opening text then [placeholder] else printed text

def firstOutput (text : List Char) : List Char := (printed text).head?.getD placeholder

def labelSeparator : List Char := " - ".toList

def label (output : Option (List Char)) (fallback : List Char) : List Char :=
  match output with
  | none => fallback
  | some [] => fallback
  | some text => strip ((pieces labelSeparator text).getLastD [])

end LoopPlayer.Logging
