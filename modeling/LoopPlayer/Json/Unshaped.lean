import LoopPlayer.Json.Value
import LoopPlayer.Number.Numeral

/-! Values of unknown shape, used as if they had the right one. What does not fit is a misfit and
says where. -/
namespace LoopPlayer.Json

inductive Misfit where
  | missing (key : Json)
  | notAKey (key : Json)
  | noMembers (value : Json)
  | noItems (value : Json)
  | noLength (value : Json)
  | notJoined
  | notText (position : Nat) (item : Json)
  | notAdded (value : Json)
  | notDivided (dividend divisor : Json)
  | tooLarge
  | quotientTooLarge
  | tooLong

def Misfit.message : Misfit → String
  | missing key => key.shown
  | notAKey key => s!"unhashable type: '{key.kind}'"
  | noMembers (.string _) => "string indices must be integers, not 'str'"
  | noMembers (.list _) => "list indices must be integers or slices, not str"
  | noMembers value => s!"'{value.kind}' object is not subscriptable"
  | noItems value => s!"'{value.kind}' object is not iterable"
  | noLength value => s!"object of type '{value.kind}' has no len()"
  | notJoined => "can only join an iterable"
  | notText position item =>
    s!"sequence item {position}: expected str instance, {item.kind} found"
  | notAdded (.string _) => "can only concatenate str (not \"int\") to str"
  | notAdded (.list _) => "can only concatenate list (not \"int\") to list"
  | notAdded value => s!"unsupported operand type(s) for +: '{value.kind}' and 'int'"
  | notDivided dividend divisor =>
    s!"unsupported operand type(s) for /: '{dividend.kind}' and '{divisor.kind}'"
  | tooLarge => Number.outOfRange
  | quotientTooLarge => "integer division result too large for a float"
  | tooLong => Number.beyondLimit none

def get (value : Json) (name : String) : Except Misfit Json :=
  match value with
  | object members =>
    match member? name members with
    | some member => .ok member
    | none => .error (.missing (.string name))
  | _ => .error (.noMembers value)

def getBy (value key : Json) : Except Misfit Json :=
  match key with
  | string name => value.get name
  | list _ => .error (.notAKey key)
  | object _ => .error (.notAKey key)
  | _ => .error (.missing key)

def items? : Json → Option (List Json)
  | list items => some items
  | object members => some (members.map fun member => .string member.1)
  | string s => some (s.toList.map fun c => .string (String.singleton c))
  | _ => none

def items (value : Json) : Except Misfit (List Json) :=
  match value.items? with
  | some items => .ok items
  | none => .error (.noItems value)

def size (value : Json) : Except Misfit Nat :=
  match value.items? with
  | some items => .ok items.length
  | none => .error (.noLength value)

def textsFrom (position : Nat) : List Json → Except Misfit (List String)
  | [] => .ok []
  | .string s :: rest => (textsFrom (position + 1) rest).map (s :: ·)
  | item :: _ => .error (.notText position item)

def texts (value : Json) : Except Misfit (List String) :=
  match value.items? with
  | some items => textsFrom 0 items
  | none => .error .notJoined

def isPresent : Json → Bool
  | null => false
  | bool b => b
  | int n => n != 0
  | float x => x != 0.0
  | string s => !s.isEmpty
  | list items => !items.isEmpty
  | object members => !members.isEmpty

def isNumber (n : Nat) : Json → Bool
  | bool b => b.toNat == n
  | int m => m == n
  | float x => x == Number.ofInt n
  | _ => false

def next (value : Json) : Except Misfit Json :=
  match value with
  | bool b => .ok (.int (b.toNat + 1))
  | int n => .ok (.int (n + 1))
  | float x => .ok (.float (x + 1.0))
  | _ => .error (.notAdded value)

def numeral (value : Json) : Except Misfit String :=
  match value with
  | int n => if Number.isWritable n then .ok value.plain else .error .tooLong
  | _ => .ok value.plain

def amount? : Json → Option (Int ⊕ Float)
  | bool b => some (.inl b.toNat)
  | int n => some (.inl n)
  | float x => some (.inr x)
  | _ => none

def toFraction : Int ⊕ Float → Except Misfit Float
  | .inl n =>
    match Number.ofInt? n with
    | some x => .ok x
    | none => .error .tooLarge
  | .inr x => .ok x

def ratio (dividend divisor : Json) : Except Misfit Float :=
  match dividend.amount?, divisor.amount? with
  | some (.inl n), some (.inl d) =>
    let x := Number.quotient n d
    if x.isInf then .error .quotientTooLarge else .ok x
  | some a, some b => do
    let a ← toFraction a
    let b ← toFraction b
    return a / b
  | _, _ => .error (.notDivided dividend divisor)

end LoopPlayer.Json
