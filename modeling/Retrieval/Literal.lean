import Retrieval.Error.Configuration
import Retrieval.Json.Encode
import Retrieval.Text.Split

/-!
Literals of the query language. They are those of JSON, but keys and words stand without quotes. The
integers of a literal have a limited number of digits, and its levels take room on the stack.
-/

namespace Retrieval.Literal

open Retrieval.Text (joinWith)

/-- What stands between the items of a list and of an object. -/
def separator : List Char := [',', ' ']

mutual

/-- The literal of a value, `room` being the number of levels that there is still room for. -/
def chars : (room : Nat) → Value → Compiled (List Char)
  | 0, _ => .error .tooNested
  | _ + 1, .null => .ok ['n', 'u', 'l', 'l']
  | _ + 1, .bool true => .ok ['t', 'r', 'u', 'e']
  | _ + 1, .bool false => .ok ['f', 'a', 'l', 's', 'e']
  | _ + 1, .int n =>
    if Number.isShort n then .ok (Number.integer n).toList else .error .integerTooLong
  | _ + 1, .float x => .ok (Number.data x).toList
  | _ + 1, .text s => .ok (Json.stringChars s.toList)
  | _ + 1, .word s => .ok s.toList
  | room + 1, .seq .list items => do
    return ['['] ++ joinWith separator (← itemChars room items) ++ [']']
  | room + 1, .seq .tuple items => do
    return ['['] ++ joinWith separator (← itemChars room items) ++ [']']
  | room + 1, .map es => do
    return ['\x7b'] ++ joinWith separator (← fieldChars room es) ++ ['\x7d']
  | _ + 1, .seq .set items => violated (.unrenderable (Value.seq .set items).kindName)
  | _ + 1, .seq .frozenSet items => violated (.unrenderable (Value.seq .frozenSet items).kindName)
  | _ + 1, .date d => violated (.unrenderable (Value.date d).kindName)
  | _ + 1, .dateTime t => violated (.unrenderable (Value.dateTime t).kindName)
  | _ + 1, .foreign => violated (.unrenderable Value.foreign.kindName)

def itemChars : (room : Nat) → List Value → Compiled (List (List Char))
  | _, [] => .ok []
  | room, v :: vs => do
    let x ← chars room v
    let xs ← itemChars room vs
    return x :: xs

def fieldChars : (room : Nat) → List (String × Value) → Compiled (List (List Char))
  | _, [] => .ok []
  | room, (k, v) :: es => do
    let x ← chars room v
    let xs ← fieldChars room es
    return (k.toList ++ [':', ' '] ++ x) :: xs

end

def render (room : Nat) (v : Value) : Compiled String := String.ofList <$> chars room v

/-- The arguments of a field in parentheses; without arguments there are none. -/
def arguments (room : Nat) (es : Entries Value) : Compiled String :=
  if es.isEmpty then .ok ""
  else do
    let fields ← fieldChars room es
    return String.ofList (['('] ++ joinWith separator fields ++ [')'])

end Retrieval.Literal
