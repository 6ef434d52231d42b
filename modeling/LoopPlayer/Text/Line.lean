import LoopPlayer.Text.Pieces

/-! The lines of a program text. Only a newline ends a line, so a line number means the same
here and in an editor; a carriage return before it is not part of the line. -/
namespace LoopPlayer.Text

abbrev Line := List Char

def dropReturn (line : List Char) : Line :=
  if line.getLast? = some '\r' then line.dropLast else line

def lines (text : List Char) : List Line := (pieces ['\n'] text).map dropReturn

def unifyNewlines : List Char → List Char
  | [] => []
  | '\r' :: '\n' :: rest => '\n' :: unifyNewlines rest
  | '\r' :: rest => '\n' :: unifyNewlines rest
  | c :: rest => c :: unifyNewlines rest

end LoopPlayer.Text
