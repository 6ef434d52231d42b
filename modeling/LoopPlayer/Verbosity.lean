import LoopPlayer.Text.Letter
import LoopPlayer.Text.Quoted

/-! How much is reported: a threshold, set once by the name of a level. Letters may be of either
case, and a name that is not known means the usual threshold. -/
namespace LoopPlayer.Verbosity

def format : String := "%(asctime)s %(levelname)s %(name)s: %(message)s"

def plainFormat : String := "%(levelname)s:%(name)s:%(message)s"

def levels : List (String × Nat) :=
  [("NOTSET", 0), ("DEBUG", 10), ("INFO", 20), ("WARN", 30), ("WARNING", 30), ("ERROR", 40),
    ("FATAL", 50), ("CRITICAL", 50)]

def usual : Nat := 20

def initial : Nat := 30

def styles : List (String × String × String) :=
  [("%", "PercentStyle", plainFormat),
    ("\x7b", "StrFormatStyle", "\x7blevelname\x7d:\x7bname\x7d:\x7bmessage\x7d"),
    ("$", "StringTemplateStyle", "$\x7blevelname\x7d:$\x7bname\x7d:$\x7bmessage\x7d")]

inductive Refusal where
  | layout
  | styles
  deriving DecidableEq, Repr

def stylesShown : String :=
  let style (entry : String × String × String) : String :=
    let (mark, kind, format) := entry
    Text.quote mark ++ ": (<class 'logging." ++ kind ++ "'>, " ++ Text.quote format ++ ")"
  "\x7b" ++ ", ".intercalate (styles.map style) ++ "\x7d"

def Refusal.message : Refusal → String
  | layout => "Unknown level: " ++ Text.quote plainFormat
  | styles => "Level not an integer or a valid string: " ++ stylesShown

def threshold (name : String) : Except Refusal Nat :=
  let name := String.ofList (Text.upper name.toList)
  if name == "BASIC_FORMAT" then .error .layout
  else if name == "_STYLES" then .error .styles
  else .ok ((levels.lookup name).getD usual)

end LoopPlayer.Verbosity
