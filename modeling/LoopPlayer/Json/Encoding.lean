import LoopPlayer.Text.Utf16
import LoopPlayer.Text.Utf8

/-! The encoding of a value's text. A mark before the text names it. Without one, a text starts with
characters of ASCII, so the zeros among its first bytes tell; without zeros it is UTF-8. -/
namespace LoopPlayer.Json

inductive Encoding where
  | utf8
  | utf16 (bigFirst : Bool)
  | utf32 (bigFirst : Bool)
  deriving DecidableEq, Repr

/-- Why bytes have no text. Halves of UTF-16 pairs are let through by every encoding; one that stands
alone leaves the bytes well formed, but is no character. -/
inductive Untextual where
  | malformed
  | halved
  deriving DecidableEq, Repr

namespace Encoding

/- One mark of UTF-32 begins with one of UTF-16 and comes before it. -/
def marks : List (List UInt8 × Encoding) :=
  [([0x00, 0x00, 0xFE, 0xFF], utf32 true), ([0xFF, 0xFE, 0x00, 0x00], utf32 false),
    ([0xFE, 0xFF], utf16 true), ([0xFF, 0xFE], utf16 false), ([0xEF, 0xBB, 0xBF], utf8)]

def ofZeros : List UInt8 → Encoding
  | [a, b] => if a == 0 then utf16 true else if b == 0 then utf16 false else utf8
  | a :: b :: c :: d :: _ =>
    if a == 0 then if b == 0 then utf32 true else utf16 true
    else if b == 0 then if c == 0 && d == 0 then utf32 false else utf16 false
    else utf8
  | _ => utf8

def detect (bytes : List UInt8) : Encoding × List UInt8 :=
  match marks.find? fun mark => mark.1.isPrefixOf bytes with
  | some (mark, encoding) => (encoding, bytes.drop mark.length)
  | none => (ofZeros bytes, bytes)

def unit (bigFirst : Bool) (bytes : List UInt8) : Nat :=
  (if bigFirst then bytes else bytes.reverse).foldl (fun value byte => value * 256 + byte.toNat) 0

def pairs? (bigFirst : Bool) : List UInt8 → Option (List Nat)
  | [] => some []
  | a :: b :: rest => (pairs? bigFirst rest).map (unit bigFirst [a, b] :: ·)
  | _ => none

def quads? (bigFirst : Bool) : List UInt8 → Option (List Nat)
  | [] => some []
  | a :: b :: c :: d :: rest => (quads? bigFirst rest).map (unit bigFirst [a, b, c, d] :: ·)
  | _ => none

def character (n : Nat) : Except Untextual Char :=
  if 0x110000 ≤ n then .error .malformed
  else if n < 0x10000 then
    match Text.Utf16.single? n with
    | some c => .ok c
    | none => .error .halved
  else .ok (Char.ofNat n)

def decode (bytes : List UInt8) : Encoding → Except Untextual (List Char)
  | utf8 =>
    match Text.Utf8.decode bytes with
    | .ok text => .ok text
    | .error error =>
      .error (if Text.Utf8.startsHalved (bytes.drop error.first) then .halved else .malformed)
  | utf16 bigFirst =>
    match pairs? bigFirst bytes with
    | some units =>
      match Text.Utf16.ofUnits? units with
      | some text => .ok text
      | none => .error .halved
    | none => .error .malformed
  | utf32 bigFirst =>
    match quads? bigFirst bytes with
    | some units => units.mapM character
    | none => .error .malformed

end Encoding

def textOf (bytes : List UInt8) : Except Untextual (List Char) :=
  let (encoding, bytes) := Encoding.detect bytes
  encoding.decode bytes

end LoopPlayer.Json
