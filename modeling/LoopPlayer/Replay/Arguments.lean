import LoopPlayer.Number.Numeral
import LoopPlayer.Text.Pieces
import LoopPlayer.Text.Quoted

/-! The arguments of a replay: a program's file, a speed and a level for reports, all optional.
Long options may be shortened as long as they stay unique, and take their value after an equals
sign or as the next argument. What looks like a negative number is no option, and after two dashes
nothing is; as the value of an option, two dashes are no value. -/
namespace LoopPlayer.Replay

structure Options where
  source : Option String := none
  speed : Option Int := some 1
  logLevel : Option String := some "WARNING"
  deriving DecidableEq, Repr

inductive Flag where
  | help
  | speed
  | logLevel
  deriving DecidableEq, Repr

namespace Flag

def spellings : List (String × Flag) :=
  [("-h", help), ("--help", help), ("--speed", speed), ("--log-level", logLevel)]

def title : Flag → String
  | help => "-h/--help"
  | speed => "--speed"
  | logLevel => "--log-level"

end Flag

inductive UsageError where
  | ambiguous (option : String) (candidates : List String)
  | ignoredValue (flag : Flag) (value : String)
  | missingValue (flag : Flag)
  | notAnInteger (flag : Flag) (value : String)
  | unrecognized (arguments : List String)
  deriving DecidableEq, Repr

def UsageError.message : UsageError → String
  | ambiguous option candidates =>
    s!"ambiguous option: {option} could match " ++ ", ".intercalate candidates
  | ignoredValue flag value =>
    s!"argument {flag.title}: ignored explicit argument {Text.quote value}"
  | missingValue flag => s!"argument {flag.title}: expected one argument"
  | notAnInteger flag value => s!"argument {flag.title}: invalid int value: {Text.quote value}"
  | unrecognized arguments => "unrecognized arguments: " ++ " ".intercalate arguments

namespace Arguments

inductive Token where
  | plain (text : String)
  | separator
  | unknown (text : String)
  | option (flag : Flag) (short : Bool) (attached : Option (List Char))
  deriving DecidableEq, Repr

def isNegativeNumber (text : List Char) : Bool :=
  let isDigit (c : Char) : Bool := (Text.digitValue? c).isSome
  match text with
  | '-' :: rest =>
    let rest := if rest.getLast? == some '\n' then rest.dropLast else rest
    let whole := rest.takeWhile isDigit
    match rest.dropWhile isDigit with
    | [] => !whole.isEmpty
    | '.' :: fraction => !fraction.isEmpty && fraction.all isDigit
    | _ => false
  | _ => false

def splitValue (text : List Char) : List Char × Option (List Char) :=
  match text.dropWhile (· != '=') with
  | [] => (text, none)
  | _ :: value => (text.takeWhile (· != '='), some value)

def candidates (text : List Char) : List (String × Token) :=
  let (name, value) := splitValue text
  if "--".toList.isPrefixOf text then
    (Flag.spellings.filter fun (spelling, _) => name.isPrefixOf spelling.toList).map
      fun (spelling, flag) => (spelling, .option flag false value)
  else
    (Flag.spellings.filter fun (spelling, _) => spelling.toList == text.take 2).map
      fun (spelling, flag) => (spelling, .option flag true (some (text.drop 2)))

def isShort (spelling : String) : Bool := !"--".toList.isPrefixOf spelling.toList

def dashed (argument : String) : Except UsageError Token :=
  let text := argument.toList
  let (name, value) := splitValue text
  match Flag.spellings.lookup argument, value, Flag.spellings.lookup (String.ofList name) with
  | some flag, _, _ => .ok (.option flag (isShort argument) none)
  | none, some value, some flag =>
    .ok (.option flag (isShort (String.ofList name)) (some value))
  | _, _, _ =>
    match candidates text with
    | [] =>
      if isNegativeNumber text || text.contains ' ' then .ok (.plain argument)
      else .ok (.unknown argument)
    | [(_, token)] => .ok token
    | several => .error (.ambiguous argument (several.map Prod.fst))

def tokens : List String → Except UsageError (List Token)
  | [] => .ok []
  | argument :: rest =>
    if argument == "--" then .ok (.separator :: rest.map .plain)
    else do
      let token ←
        if "-".toList.isPrefixOf argument.toList && 1 < argument.length then dashed argument
        else .ok (.plain argument)
      let others ← tokens rest
      return token :: others

def helpValue? : List Char → Option String
  | [] => some ""
  | ['h'] => none
  | 'h' :: rest => helpValue? rest
  | value => some (String.ofList value)

structure State where
  options : Options := {}
  wanting : Bool := true
  extras : List String := []
  deriving DecidableEq, Repr

inductive Outcome where
  | help
  | error (error : UsageError)
  | options (options : Options)
  deriving DecidableEq, Repr

def setFlag (options : Options) (flag : Flag) (value : String) : Except UsageError Options :=
  match flag, value == "--" with
  | .help, _ => .ok options
  | .logLevel, empty => .ok { options with logLevel := if empty then none else some value }
  | .speed, true => .ok { options with speed := none }
  | .speed, false =>
    match Number.readInt? value.toList with
    | some speed => .ok { options with speed := some speed }
    | none => .error (.notAnInteger flag value)

def consume (state : State) : List Token → Outcome
  | [] =>
    if state.extras.isEmpty then .options state.options
    else .error (.unrecognized state.extras)
  | .unknown text :: rest => consume { state with extras := state.extras ++ [text] } rest
  | .separator :: .plain text :: rest =>
    if state.wanting then
      let options := { state.options with source := some text }
      consume { state with options, wanting := false } rest
    else consume { state with extras := state.extras ++ ["--", text] } rest
  | .separator :: rest =>
    if state.wanting then consume { state with wanting := false } rest
    else consume { state with extras := state.extras ++ ["--"] } rest
  | .plain text :: .separator :: rest =>
    if state.wanting then
      let options := { state.options with source := some text }
      consume { state with options, wanting := false } rest
    else consume { state with extras := state.extras ++ [text, "--"] } rest
  | .plain text :: rest =>
    if state.wanting then
      let options := { state.options with source := some text }
      consume { state with options, wanting := false } rest
    else consume { state with extras := state.extras ++ [text] } rest
  | .option .help _ none :: _ => .help
  | .option .help short (some value) :: _ =>
    match if short then helpValue? value else some (String.ofList value) with
    | some value => .error (.ignoredValue .help value)
    | none => .help
  | .option flag _ (some value) :: rest =>
    match setFlag state.options flag (String.ofList value) with
    | .ok options => consume { state with options } rest
    | .error error => .error error
  | .option flag _ none :: .plain value :: rest =>
    match setFlag state.options flag value with
    | .ok options => consume { state with options } rest
    | .error error => .error error
  | .option flag _ none :: _ => .error (.missingValue flag)

def parse (arguments : List String) : Outcome :=
  match tokens arguments with
  | .ok tokens => consume {} tokens
  | .error error => .error error

end Arguments
end LoopPlayer.Replay
