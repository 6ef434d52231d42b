/-! A text cut at a separator. Occurrences are taken from left to right and do not overlap. -/
namespace LoopPlayer.Text

def consFirst (c : Char) : List (List Char) → List (List Char)
  | [] => [[c]]
  | piece :: rest => (c :: piece) :: rest

def piecesFrom (separator : List Char) : Nat → List Char → List (List Char)
  | _, [] => [[]]
  | skip + 1, _ :: rest => piecesFrom separator skip rest
  | 0, c :: rest =>
    if separator.isPrefixOf (c :: rest) then [] :: piecesFrom separator (separator.length - 1) rest
    else consFirst c (piecesFrom separator 0 rest)

def pieces (separator text : List Char) : List (List Char) := piecesFrom separator 0 text

def occurs (part : List Char) : List Char → Bool
  | [] => part.isEmpty
  | c :: rest => part.isPrefixOf (c :: rest) || occurs part rest

def join (separator : List Char) : List (List Char) → List Char
  | [] => []
  | [last] => last
  | text :: rest => text ++ separator ++ join separator rest

end LoopPlayer.Text
