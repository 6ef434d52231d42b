import LoopPlayer.Json.Value
import LoopPlayer.Number.Numeral

/-! Writing a value as text, on one line and in ASCII. -/
namespace LoopPlayer.Json

def writtenChar (c : Char) : String :=
  let n := c.toNat
  if c == '"' then "\\\""
  else if c == '\\' then "\\\\"
  else if c == '\n' then "\\n"
  else if 0x20 ≤ n && n < 0x7F then String.singleton c
  else if n < 0x10000 then "\\u" ++ String.ofList (Text.hex 4 n)
  else
    "\\u" ++ String.ofList (Text.hex 4 (0xD800 + (n - 0x10000) / 0x400)) ++
      "\\u" ++ String.ofList (Text.hex 4 (0xDC00 + (n - 0x10000) % 0x400))

def writtenString (s : String) : String :=
  s.toList.foldl (fun written c => written ++ writtenChar c) "\"" ++ "\""

def writtenFloat (x : Float) : String :=
  match Number.Binary.ofFloat x with
  | .notANumber => "NaN"
  | .infinite negative => Number.signed negative "Infinity"
  | .finite .. => Number.shortest x

mutual

def unwritable? : Json → Option String
  | int n => if Number.isWritable n then none else some (Number.beyondLimit none)
  | float x => if x.isFinite then none else some "Out of range float values are not JSON compliant"
  | list items => unwritableItem? items
  | object members => unwritableMember? members
  | _ => none

def unwritableItem? : List Json → Option String
  | [] => none
  | item :: rest => item.unwritable?.or (unwritableItem? rest)

def unwritableMember? : List (String × Json) → Option String
  | [] => none
  | (_, value) :: rest => value.unwritable?.or (unwritableMember? rest)

end

mutual

def written : Json → String
  | null => "null"
  | bool true => "true"
  | bool false => "false"
  | int n => toString n
  | float x => writtenFloat x
  | string s => writtenString s
  | list items => "[" ++ writtenItems items ++ "]"
  | object members => "\x7b" ++ writtenMembers members ++ "\x7d"

def writtenItems : List Json → String
  | [] => ""
  | [item] => item.written
  | item :: next :: rest => item.written ++ "," ++ writtenItems (next :: rest)

def writtenMembers : List (String × Json) → String
  | [] => ""
  | [(key, value)] => writtenString key ++ ":" ++ value.written
  | (key, value) :: next :: rest =>
    writtenString key ++ ":" ++ value.written ++ "," ++ writtenMembers (next :: rest)

end

end LoopPlayer.Json
