import LoopPlayer.Number.Decimal
import LoopPlayer.Text.Blank
import LoopPlayer.Text.Digit

/-! Numbers as they are written in a setting: blanks around, one sign, decimal digits of any script,
single underscores between digits. A fraction may also have a point and an exponent. -/
namespace LoopPlayer.Number

def isPadding (c : Char) : Bool :=
  Text.isBlank c && !(28 ≤ c.toNat && c.toNat ≤ 31)

def trimPadding (text : List Char) : List Char :=
  Text.dropEndWhile isPadding (text.dropWhile isPadding)

def digitLimit : Nat := 4300

def isWritable (n : Int) : Bool := n.natAbs < Nat.pow 10 digitLimit

def beyondLimit (digits : Option Nat) : String :=
  let count :=
    match digits with
    | some digits => s!": value has {digits} digits"
    | none => ""
  s!"Exceeds the limit ({digitLimit} digits) for integer string conversion{count}; " ++
    "use sys.set_int_max_str_digits() to increase the limit"

def digitsFrom (value : Nat) (wanting : Bool) : List Char → Option Nat
  | [] => if wanting then none else some value
  | c :: rest =>
    if c == '_' then if wanting then none else digitsFrom value true rest
    else
      match Text.digitValue? c with
      | some digit => digitsFrom (value * 10 + digit) false rest
      | none => none

def magnitude? (text : List Char) : Option Nat :=
  if digitLimit < (text.filter (· != '_')).length then none else digitsFrom 0 true text

def readInt? (text : List Char) : Option Int :=
  match trimPadding text with
  | '-' :: rest => (magnitude? rest).map fun n => -(n : Int)
  | '+' :: rest => (magnitude? rest).map Int.ofNat
  | rest => (magnitude? rest).map Int.ofNat

def plainDigit (c : Char) : Char :=
  match Text.digitValue? c with
  | some digit => Char.ofNat ('0'.toNat + digit)
  | none => c

def dropUnderscores (before : Char) : List Char → Option (List Char)
  | [] => if before == '_' then none else some []
  | c :: rest =>
    if c == '_' then if before.isDigit then dropUnderscores c rest else none
    else if before == '_' && !c.isDigit then none
    else (dropUnderscores c rest).map (c :: ·)

def fractionOf? (negative : Bool) (text : List Char) : Option Float :=
  let whole := text.takeWhile Char.isDigit
  let rest := text.dropWhile Char.isDigit
  let (fraction, rest) :=
    match rest with
    | '.' :: rest => (rest.takeWhile Char.isDigit, rest.dropWhile Char.isDigit)
    | _ => ([], rest)
  if whole.isEmpty && fraction.isEmpty then none
  else
    let value exponent :=
      nearest negative (digitsValue (whole ++ fraction)) (exponent - (fraction.length : Int))
    if rest.isEmpty then some (value 0)
    else
      match takeExponent rest with
      | some (exponent, []) => some (value exponent)
      | _ => none

def unsignedFloat? (negative : Bool) (text : List Char) : Option Float :=
  let name := String.ofList (text.map Char.toLower)
  if name == "inf" || name == "infinity" then
    some (if negative then -(1.0 / 0.0) else 1.0 / 0.0)
  else if name == "nan" then some (0.0 / 0.0)
  else fractionOf? negative text

def readFloat? (text : List Char) : Option Float :=
  match dropUnderscores ' ' ((trimPadding text).map plainDigit) with
  | none => none
  | some ('-' :: rest) => unsignedFloat? true rest
  | some ('+' :: rest) => unsignedFloat? false rest
  | some rest => unsignedFloat? false rest

def padded (fill : Char) (width : Nat) (n : Int) : String :=
  let digits := toString n
  if n < 0 && fill == '0' then
    "-" ++ String.ofList (List.replicate (width - digits.length) fill) ++ toString n.natAbs
  else String.ofList (List.replicate (width - digits.length) fill) ++ digits

end LoopPlayer.Number
