/-! Braces and parentheses of a line. What stands in a complete string literal or in a line
comment does not count; a quote that opens no complete literal is an ordinary character. -/
namespace LoopPlayer.Delimiter

def isQuote (c : Char) : Bool := c == '"' || c == '\'' || c == '\x60'

/- How many characters of the text a literal takes up to its closing quote, the opening quote
not among them. A backslash takes the character after it along, unless that is a newline. -/
def literalLength (quote : Char) : List Char → Option Nat
  | [] => none
  | [c] => if c == quote then some 1 else none
  | c :: d :: rest =>
    if c == '\\' then
      if d == '\n' then none else (literalLength quote rest).map (· + 2)
    else if c == quote then some 1
    else (literalLength quote (d :: rest)).map (· + 1)

def bareFrom : Nat → List Char → List Char
  | _, [] => []
  | skip + 1, _ :: rest => bareFrom skip rest
  | 0, c :: rest =>
    if isQuote c then
      match literalLength c rest with
      | some length => bareFrom length rest
      | none => c :: bareFrom 0 rest
    else if c == '/' && rest.head? == some '/' then
      bareFrom (rest.takeWhile (· != '\n')).length rest
    else c :: bareFrom 0 rest

def bare (line : List Char) : List Char := bareFrom 0 line

def isOpener (c : Char) : Bool := c == '(' || c == '\x7b'

def isCloser (c : Char) : Bool := c == ')' || c == '\x7d'

def opened (line : List Char) : Nat := (bare line).countP isOpener

def closed (line : List Char) : Nat := (bare line).countP isCloser

end LoopPlayer.Delimiter
