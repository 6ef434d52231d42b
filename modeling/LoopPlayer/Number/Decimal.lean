/-! Binary fractions in decimal. A finite value is a whole number of powers of two, so each digit
is found in exact arithmetic. -/
namespace LoopPlayer.Number

/-- What a binary64 value stands for: `significand * 2 ^ exponent` with a sign, or no number. -/
inductive Binary where
  | notANumber
  | infinite (negative : Bool)
  | finite (negative : Bool) (significand : Nat) (exponent : Int)
  deriving DecidableEq, Repr

def Binary.ofFloat (x : Float) : Binary :=
  let bits := x.toBits.toNat
  let negative := decide (Nat.pow 2 63 ≤ bits)
  let field : Nat := bits / Nat.pow 2 52 % Nat.pow 2 11
  let fraction := bits % Nat.pow 2 52
  if field == Nat.pow 2 11 - 1 then if fraction == 0 then .infinite negative else .notANumber
  else if field == 0 then .finite negative fraction (-1074)
  else .finite negative (Nat.pow 2 52 + fraction) ((field : Int) - 1075)

def roundHalfEven (numerator denominator : Nat) : Nat :=
  let low := numerator / denominator
  let twice := 2 * (numerator % denominator)
  if denominator < twice || (twice == denominator && low % 2 == 1) then low + 1 else low

def pointed (places n : Nat) : String :=
  let digits := toString n
  let digits := String.ofList (List.replicate (places + 1 - digits.length) '0') ++ digits
  let whole := digits.length - places
  if places == 0 then digits
  else String.ofList (digits.toList.take whole) ++ "." ++ String.ofList (digits.toList.drop whole)

def signed (negative : Bool) (text : String) : String := if negative then "-" ++ text else text

def fixed (places : Nat) (x : Float) : String :=
  match Binary.ofFloat x with
  | .notANumber => "nan"
  | .infinite negative => signed negative "inf"
  | .finite negative significand exponent =>
    let numerator := significand * Nat.pow 10 places * Nat.pow 2 exponent.toNat
    signed negative (pointed places (roundHalfEven numerator (Nat.pow 2 (-exponent).toNat)))

def leadingPlace (fuel numerator denominator : Nat) : Int :=
  if denominator ≤ numerator then ((toString (numerator / denominator)).length : Int) - 1
  else
    match fuel with
    | 0 => 0
    | fuel + 1 => leadingPlace fuel (numerator * 10) denominator - 1

structure Digits where
  digits : Nat
  place : Int
  deriving DecidableEq, Repr

/- The decimal fraction with the given last place that is nearest to the value among its two
neighbours in the interval of the reals that round to it; all bounds are quarters of the last bit
over one denominator. -/
def onGrid (value low high denominator : Nat) (ends : Bool) (place : Int) : Option Digits :=
  let up := Nat.pow 10 place.toNat
  let down := Nat.pow 10 (-place).toNat
  let inside (n : Nat) : Bool :=
    let scaled := n * up * denominator
    if ends then low * down ≤ scaled && scaled ≤ high * down
    else low * down < scaled && scaled < high * down
  let below := value * down / (denominator * up)
  let nearest := roundHalfEven (value * down) (denominator * up)
  let other := if nearest == below then below + 1 else below
  if inside nearest then some ⟨nearest, place⟩
  else if inside other then some ⟨other, place⟩
  else none

def firstHit (value low high denominator : Nat) (ends : Bool) (place : Int) : Nat → Option Digits
  | 0 => none
  | fuel + 1 =>
    (onGrid value low high denominator ends place).orElse fun _ =>
      firstHit value low high denominator ends (place - 1) fuel

def shortestDigits (significand : Nat) (exponent : Int) : Digits :=
  let scale := Nat.pow 2 exponent.toNat
  let denominator := 4 * Nat.pow 2 (-exponent).toNat
  let value := 4 * significand * scale
  let lowGap := if significand == Nat.pow 2 52 && -1074 < exponent then 1 else 2
  let low := (4 * significand - lowGap) * scale
  let high := (4 * significand + 2) * scale
  let place := leadingPlace 330 value denominator
  (firstHit value low high denominator (significand % 2 == 0) place 18).getD ⟨significand, 0⟩

def trimZeros (fuel : Nat) (d : Digits) : Digits :=
  match fuel with
  | 0 => d
  | fuel + 1 =>
    if d.digits % 10 == 0 && d.digits != 0 then trimZeros fuel ⟨d.digits / 10, d.place + 1⟩ else d

def layout (d : Digits) : String :=
  let text := toString d.digits
  let point := (text.length : Int) + d.place
  if -4 < point && point ≤ 16 then
    if 0 ≤ d.place then text ++ String.ofList (List.replicate d.place.toNat '0') ++ ".0"
    else pointed (-d.place).toNat d.digits
  else
    let exponent := point - 1
    let size := toString exponent.natAbs
    let size := if size.length < 2 then "0" ++ size else size
    let tail := String.ofList (text.toList.drop 1)
    String.ofList (text.toList.take 1) ++ (if tail.isEmpty then "" else "." ++ tail) ++
      (if exponent < 0 then "e-" else "e+") ++ size

def shortest (x : Float) : String :=
  match Binary.ofFloat x with
  | .notANumber => "nan"
  | .infinite negative => signed negative "inf"
  | .finite negative 0 _ => signed negative "0.0"
  | .finite negative significand exponent =>
    signed negative (layout (trimZeros 20 (shortestDigits significand exponent)))

def nearest (negative : Bool) (digits : Nat) (place : Int) : Float :=
  let size := ((toString digits).length : Int) + place
  let magnitude : Float :=
    if digits == 0 || size < -400 then 0.0
    else if 400 < size then 1.0 / 0.0
    else Float.ofScientific digits (place < 0) place.natAbs
  if negative then -magnitude else magnitude

def digitsValue (digits : List Char) : Nat :=
  digits.foldl (fun value c => value * 10 + (c.toNat - '0'.toNat)) 0

def takeExponent (text : List Char) : Option (Int × List Char) :=
  match text with
  | [] => none
  | mark :: rest =>
    if mark == 'e' || mark == 'E' then
      let (negative, rest) :=
        match rest with
        | '-' :: rest => (true, rest)
        | '+' :: rest => (false, rest)
        | _ => (false, rest)
      let digits := rest.takeWhile Char.isDigit
      if digits.isEmpty then none
      else
        let value : Int := digitsValue digits
        some (if negative then -value else value, rest.dropWhile Char.isDigit)
    else none

def ofInt (n : Int) : Float := nearest (n < 0) n.natAbs 0

def ofInt? (n : Int) : Option Float :=
  let x := ofInt n
  if x.isFinite then some x else none

def outOfRange : String := "int too large to convert to float"

/- The value nearest to the quotient of two positive numbers. The quotient is taken with more bits
than a value has; the last one also stands for all that was cut off. -/
def nearestQuotient (numerator denominator : Nat) : Float :=
  let shift : Int := 66 + denominator.log2 - (numerator.log2 : Int)
  let numerator := numerator * Nat.pow 2 shift.toNat
  let denominator := denominator * Nat.pow 2 (-shift).toNat
  let bits := numerator / denominator
  let bits := if numerator % denominator == 0 then bits else bits ||| 1
  (nearest false bits 0).scaleB (-shift)

def quotient (numerator denominator : Int) : Float :=
  let magnitude := if numerator == 0 then 0.0
    else nearestQuotient numerator.natAbs denominator.natAbs
  if (numerator < 0) != (denominator < 0) then -magnitude else magnitude

def truncate (x : Float) : Int :=
  match Binary.ofFloat x with
  | .finite negative significand exponent =>
    let size : Int := significand * Nat.pow 2 exponent.toNat / Nat.pow 2 (-exponent).toNat
    if negative then -size else size
  | _ => 0

end LoopPlayer.Number
