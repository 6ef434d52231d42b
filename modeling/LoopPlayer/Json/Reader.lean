import LoopPlayer.Json.Value
import LoopPlayer.Number.Numeral
import LoopPlayer.Text.Utf16

/-! Reading a value from its text. Beyond the standard, `NaN`, `Infinity` and `-Infinity` are
numbers; of several members with one name the last counts. Lists and objects may be nested as deep
as there is room. -/
namespace LoopPlayer.Json

inductive Expected where
  | value
  | propertyName
  | colon
  | comma
  | closingQuote
  | printable
  | escape
  | unicodeEscape
  | ending
  | noMark
  deriving DecidableEq, Repr

inductive Container where
  | list
  | object
  deriving DecidableEq, Repr

/-- A fault of the text, by the number of characters that were left where it lies; a numeral with
more digits than are read; a container nested too deeply; or an escape for half a pair of UTF-16
that stands alone, which a text cannot hold. -/
inductive Fault where
  | malformed (expected : Expected) (left : Nat)
  | tooLong (digits : Nat)
  | tooDeep (container : Container)
  | halved
  deriving DecidableEq, Repr

def Expected.message : Expected → String
  | value => "Expecting value"
  | propertyName => "Expecting property name enclosed in double quotes"
  | colon => "Expecting ':' delimiter"
  | comma => "Expecting ',' delimiter"
  | closingQuote => "Unterminated string starting at"
  | printable => "Invalid control character at"
  | escape => "Invalid \\escape"
  | unicodeEscape => "Invalid \\uXXXX escape"
  | ending => "Extra data"
  | noMark => "Unexpected UTF-8 BOM (decode using utf-8-sig)"

def Container.name : Container → String
  | list => "array"
  | object => "object"

def Fault.message (source : List Char) : Fault → String
  | .tooLong digits => Number.beyondLimit (some digits)
  | .tooDeep container =>
    s!"maximum recursion depth exceeded while decoding a JSON {container.name} " ++
      "from a unicode string"
  | .halved => "surrogates not allowed"
  | .malformed expected left =>
    let before := source.take (source.length - left)
    let column := (before.reverse.takeWhile (· != '\n')).length + 1
    expected.message ++ ": line " ++ toString (before.count '\n' + 1) ++ " column " ++
      toString column ++ " (char " ++ toString before.length ++ ")"

abbrev Read (α : Type) := Except Fault (α × List Char)

def isSpace (c : Char) : Bool := c == ' ' || c == '\t' || c == '\n' || c == '\r'

def skipSpace (text : List Char) : List Char := text.dropWhile isSpace

def malformed {α : Type} (expected : Expected) (left : List Char) : Except Fault α :=
  .error (.malformed expected left.length)

def hexValue? (c : Char) : Option Nat :=
  if '0' ≤ c && c ≤ '9' then some (c.toNat - 48)
  else if 'a' ≤ c && c ≤ 'f' then some (c.toNat - 87)
  else if 'A' ≤ c && c ≤ 'F' then some (c.toNat - 55)
  else none

def hexQuad? : List Char → Option (Nat × List Char)
  | a :: b :: c :: d :: rest => do
    let a ← hexValue? a
    let b ← hexValue? b
    let c ← hexValue? c
    let d ← hexValue? d
    some (((a * 16 + b) * 16 + c) * 16 + d, rest)
  | _ => none

def lowHalf? : List Char → Option (Nat × List Char)
  | '\\' :: 'u' :: rest =>
    match hexQuad? rest with
    | some (n, rest) => if Text.Utf16.isLow n && !rest.isEmpty then some (n, rest) else none
    | none => none
  | _ => none

def plainEscape? (c : Char) : Option Char :=
  if c == '"' || c == '\\' || c == '/' then some c
  else if c == 'b' then some '\x08'
  else if c == 'f' then some '\x0c'
  else if c == 'n' then some '\n'
  else if c == 'r' then some '\r'
  else if c == 't' then some '\t'
  else none

def stringFrom (start : List Char) : Nat → List Char → List Char → Read String
  | 0, _, _ => malformed .closingQuote start
  | fuel + 1, read, text =>
    match text with
    | [] => malformed .closingQuote start
    | '"' :: rest => .ok (String.ofList read.reverse, rest)
    | '\\' :: rest =>
      match rest with
      | [] => malformed .closingQuote start
      | 'u' :: digits =>
        match hexQuad? digits with
        | none => malformed .unicodeEscape rest
        | some (_, []) => malformed .unicodeEscape rest
        | some (n, after) =>
          match if Text.Utf16.isHigh n then lowHalf? after else none, Text.Utf16.single? n with
          | some (low, after), _ => stringFrom start fuel (Text.Utf16.joined n low :: read) after
          | none, some c => stringFrom start fuel (c :: read) after
          | none, none => .error .halved
      | c :: after =>
        match plainEscape? c with
        | some c => stringFrom start fuel (c :: read) after
        | none => malformed .escape text
    | c :: rest =>
      if c.toNat < 0x20 then malformed .printable text else stringFrom start fuel (c :: read) rest

def takeSign : List Char → Bool × List Char
  | '-' :: rest => (true, rest)
  | text => (false, text)

def wholePart : List Char → List Char
  | '0' :: _ => ['0']
  | text => text.takeWhile Char.isDigit

def takeFraction : List Char → List Char × List Char
  | '.' :: more =>
    let fraction := more.takeWhile Char.isDigit
    if fraction.isEmpty then ([], '.' :: more) else (fraction, more.drop fraction.length)
  | text => ([], text)

def number? (text : List Char) : Option (Except Fault (Json × List Char)) :=
  let (negative, unsigned) := takeSign text
  let digits := wholePart unsigned
  if digits.isEmpty then none
  else
    let rest := unsigned.drop digits.length
    let (fraction, afterFraction) := takeFraction rest
    match fraction, Number.takeExponent afterFraction with
    | [], none =>
      if Number.digitLimit < digits.length then some (.error (.tooLong digits.length))
      else
        let n : Int := Number.digitsValue digits
        some (.ok (.int (if negative then -n else n), rest))
    | _, exponent =>
      let value := Number.digitsValue (digits ++ fraction)
      let (power, after) := exponent.getD (0, afterFraction)
      some (.ok (.float (Number.nearest negative value (power - (fraction.length : Int))), after))

def words : List (String × Json) :=
  [("null", .null), ("true", .bool true), ("false", .bool false), ("NaN", .float (0.0 / 0.0)),
    ("Infinity", .float (1.0 / 0.0)), ("-Infinity", .float (-(1.0 / 0.0)))]

def scalar (text : List Char) : Read Json :=
  match words.find? fun word => word.1.toList.isPrefixOf text with
  | some (word, value) => .ok (value, text.drop word.length)
  | none => (number? text).getD (malformed .value text)

mutual

/- A value; `fuel` bounds the values, items and members read one inside or after another, and the
characters of a string. Each of them takes a character at least. `room` is how many more containers
may be opened one inside another. -/
def valueFrom : Nat → Nat → List Char → Read Json
  | 0, _, text => malformed .value text
  | fuel + 1, room, text =>
    match text, room with
    | '"' :: rest, _ => (stringFrom text fuel [] rest).map fun (s, rest) => (.string s, rest)
    | '\x7b' :: _, 0 => .error (.tooDeep .object)
    | '\x7b' :: rest, room + 1 =>
      match skipSpace rest with
      | '\x7d' :: rest => .ok (.object [], rest)
      | rest => membersFrom fuel room [] rest
    | '[' :: _, 0 => .error (.tooDeep .list)
    | '[' :: rest, room + 1 =>
      match skipSpace rest with
      | ']' :: rest => .ok (.list [], rest)
      | rest => itemsFrom fuel room [] rest
    | _, _ => scalar text

def itemsFrom : Nat → Nat → List Json → List Char → Read Json
  | 0, _, _, text => malformed .value text
  | fuel + 1, room, read, text =>
    match valueFrom fuel room text with
    | .error fault => .error fault
    | .ok (item, rest) =>
      match skipSpace rest with
      | ']' :: rest => .ok (.list (item :: read).reverse, rest)
      | ',' :: rest => itemsFrom fuel room (item :: read) (skipSpace rest)
      | rest => malformed .comma rest

def membersFrom : Nat → Nat → List (String × Json) → List Char → Read Json
  | 0, _, _, text => malformed .propertyName text
  | fuel + 1, room, read, text =>
    match text with
    | '"' :: rest =>
      match stringFrom text fuel [] rest with
      | .error fault => .error fault
      | .ok (name, rest) =>
        match skipSpace rest with
        | ':' :: rest =>
          match valueFrom fuel room (skipSpace rest) with
          | .error fault => .error fault
          | .ok (value, rest) =>
            let read := putMember name value read
            match skipSpace rest with
            | '\x7d' :: rest => .ok (.object read, rest)
            | ',' :: rest => membersFrom fuel room read (skipSpace rest)
            | rest => malformed .comma rest
        | rest => malformed .colon rest
    | _ => malformed .propertyName text

end

def read (room : Nat) (text : List Char) : Except Fault Json :=
  if text.head? == some '\ufeff' then malformed .noMark text
  else
    match valueFrom (2 * text.length + 2) room (skipSpace text) with
    | .error fault => .error fault
    | .ok (value, rest) =>
      match skipSpace rest with
      | [] => .ok value
      | rest => malformed .ending rest

end LoopPlayer.Json
