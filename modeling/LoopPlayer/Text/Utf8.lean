import LoopPlayer.Text.Quoted

/-! Strict UTF-8: no overlong forms, no surrogates, nothing above U+10FFFF. An error covers the
longest start of a valid sequence that the bytes at its place still had. -/
namespace LoopPlayer.Text.Utf8

inductive Reason where
  | start
  | continuation
  | ending
  deriving DecidableEq, Repr

structure Error where
  first : Nat
  stop : Nat
  byte : UInt8
  reason : Reason
  deriving DecidableEq, Repr

def Reason.message : Reason → String
  | start => "invalid start byte"
  | continuation => "invalid continuation byte"
  | ending => "unexpected end of data"

def Error.message (error : Error) : String :=
  let place :=
    if error.stop == error.first + 1 then
      "byte 0x" ++ String.ofList (hex 2 error.byte.toNat) ++ " in position " ++
        toString error.first
    else "bytes in position " ++ toString error.first ++ "-" ++ toString (error.stop - 1)
  "'utf-8' codec can't decode " ++ place ++ ": " ++ error.reason.message

/- How a sequence goes on after its first byte: so many bytes, the next between `low` and `high`,
on top of `value`. -/
structure Lead where
  count : Nat
  low : Nat
  high : Nat
  value : Nat

def lead? (byte : Nat) : Option Lead :=
  if byte < 0x80 then some ⟨0, 0, 0, byte⟩
  else if byte < 0xC2 then none
  else if byte < 0xE0 then some ⟨1, 0x80, 0xBF, byte - 0xC0⟩
  else if byte < 0xF0 then
    some ⟨2, if byte == 0xE0 then 0xA0 else 0x80, if byte == 0xED then 0x9F else 0xBF, byte - 0xE0⟩
  else if byte < 0xF5 then
    some ⟨3, if byte == 0xF0 then 0x90 else 0x80, if byte == 0xF4 then 0x8F else 0xBF, byte - 0xF0⟩
  else none

def follow (value low high : Nat) : Nat → Nat → List UInt8 → Except (Reason × Nat) Nat
  | 0, _, _ => .ok value
  | _ + 1, taken, [] => .error (.ending, taken)
  | count + 1, taken, byte :: rest =>
    if low ≤ byte.toNat && byte.toNat ≤ high then
      follow (value * 64 + byte.toNat % 64) 0x80 0xBF count (taken + 1) rest
    else .error (.continuation, taken)

def decodeFrom (position : Nat) : Nat → List UInt8 → Except Error (List Char)
  | _, [] => .ok []
  | skip + 1, _ :: rest => decodeFrom (position + 1) skip rest
  | 0, byte :: rest =>
    match lead? byte.toNat with
    | none => .error ⟨position, position + 1, byte, .start⟩
    | some lead =>
      match follow lead.value lead.low lead.high lead.count 1 rest with
      | .error (reason, taken) => .error ⟨position, position + taken, byte, reason⟩
      | .ok value => (decodeFrom (position + 1) lead.count rest).map (Char.ofNat value :: ·)

def decode (bytes : List UInt8) : Except Error (List Char) := decodeFrom 0 0 bytes

def startsHalved : List UInt8 → Bool
  | a :: b :: c :: _ => a == 0xED && 0xA0 ≤ b && b ≤ 0xBF && 0x80 ≤ c && c ≤ 0xBF
  | _ => false

end LoopPlayer.Text.Utf8
