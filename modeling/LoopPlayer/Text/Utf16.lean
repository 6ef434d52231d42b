/-! UTF-16: a character above U+FFFF is a pair of two units, its halves. Half a pair that stands
alone is no character, and units with such a half are no text. -/
namespace LoopPlayer.Text.Utf16

def isHigh (unit : Nat) : Bool := 0xD800 ≤ unit && unit ≤ 0xDBFF

def isLow (unit : Nat) : Bool := 0xDC00 ≤ unit && unit ≤ 0xDFFF

def joined (high low : Nat) : Char :=
  Char.ofNat (0x10000 + (high - 0xD800) * 0x400 + (low - 0xDC00))

def single? (unit : Nat) : Option Char :=
  if isHigh unit || isLow unit then none else some (Char.ofNat unit)

def ofUnits? : List Nat → Option (List Char)
  | [] => some []
  | [unit] => (single? unit).map ([·])
  | unit :: next :: rest =>
    if isHigh unit && isLow next then (ofUnits? rest).map (joined unit next :: ·)
    else
      match single? unit with
      | some c => (ofUnits? (next :: rest)).map (c :: ·)
      | none => none

end LoopPlayer.Text.Utf16
