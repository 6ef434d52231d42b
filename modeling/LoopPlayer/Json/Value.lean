import LoopPlayer.Number.Decimal
import LoopPlayer.Text.Quoted

/-! Values of the data format in which programs are controlled. Whole numbers and fractions are kept
apart, and the members of an object keep their order. -/
namespace LoopPlayer

inductive Json where
  | null
  | bool (value : Bool)
  | int (value : Int)
  | float (value : Float)
  | string (value : String)
  | list (items : List Json)
  | object (members : List (String × Json))
  deriving Repr, Inhabited

namespace Json

def member? (name : String) : List (String × Json) → Option Json
  | [] => none
  | (key, value) :: rest => if key == name then some value else member? name rest

def putMember (name : String) (value : Json) : List (String × Json) → List (String × Json)
  | [] => [(name, value)]
  | (key, old) :: rest =>
    if key == name then (key, value) :: rest else (key, old) :: putMember name value rest

mutual

def shown : Json → String
  | null => "None"
  | bool true => "True"
  | bool false => "False"
  | int n => toString n
  | float x => Number.shortest x
  | string s => Text.quote s
  | list items => "[" ++ shownItems items ++ "]"
  | object members => "\x7b" ++ shownMembers members ++ "\x7d"

def shownItems : List Json → String
  | [] => ""
  | [item] => item.shown
  | item :: next :: rest => item.shown ++ ", " ++ shownItems (next :: rest)

def shownMembers : List (String × Json) → String
  | [] => ""
  | [(key, value)] => Text.quote key ++ ": " ++ value.shown
  | (key, value) :: next :: rest =>
    Text.quote key ++ ": " ++ value.shown ++ ", " ++ shownMembers (next :: rest)

end

def kind : Json → String
  | null => "NoneType"
  | bool _ => "bool"
  | int _ => "int"
  | float _ => "float"
  | string _ => "str"
  | list _ => "list"
  | object _ => "dict"

def plain : Json → String
  | string s => s
  | value => value.shown

end Json
end LoopPlayer
