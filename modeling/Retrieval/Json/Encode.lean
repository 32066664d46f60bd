import Retrieval.Number.Notation
import Retrieval.Text.Quoted
import Retrieval.Value.Basic

/-!
Writing values as JSON. Strings escape the quote, the backslash and controls; in the narrow form
also all that is outside ASCII, in units of sixteen bits.
-/

namespace Retrieval.Json

open Retrieval.Text (codeOf hexDigits)

/-- A unit of sixteen bits as an escape. -/
def escapeUnit (n : Nat) : List Char := ['\\', 'u'] ++ hexDigits 4 n

/-- A character outside ASCII as one escape, or as two if it needs two units. -/
def escapeWide (n : Nat) : List Char :=
  if n < 0x10000 then escapeUnit n
  else escapeUnit (0xd800 + (n - 0x10000) / 0x400) ++ escapeUnit (0xdc00 + (n - 0x10000) % 0x400)

/-- One character of a string, characters outside ASCII kept. -/
def escapeChar (c : Char) : List Char :=
  if c = '"' then ['\\', '"']
  else if c = '\\' then ['\\', '\\']
  else if c = '\n' then ['\\', 'n']
  else if c = '\r' then ['\\', 'r']
  else if c = '\t' then ['\\', 't']
  else if c.toNat = 8 then ['\\', 'b']
  else if c.toNat = 12 then ['\\', 'f']
  else if c.toNat < 0x20 then escapeUnit c.toNat
  else [c]

/-- One character of a string inside ASCII. Half a pair is written as it came. -/
def escapeNarrow (c : Char) : List Char :=
  if c.toNat < 0x7f then escapeChar c else escapeWide (codeOf c)

/-- The characters of a string inside ASCII. -/
def narrowChars (cs : List Char) : List Char := cs.flatMap escapeNarrow

/-- The characters of a string with its quotes, those outside ASCII kept. -/
def stringChars (cs : List Char) : List Char := ['"'] ++ cs.flatMap escapeChar ++ ['"']

/-- A string with its quotes, characters outside ASCII kept. -/
def string (s : String) : String := String.ofList (stringChars s.toList)

/-- A string with its quotes, inside ASCII. -/
def asciiString (s : String) : String := String.ofList (['"'] ++ narrowChars s.toList ++ ['"'])

mutual

/-- A value without blanks, characters outside ASCII kept; nothing for a value that JSON cannot
express. -/
def encode? : Value → Option String
  | .null => some "null"
  | .bool b => some (if b then "true" else "false")
  | .int n => some (Number.integer n)
  | .float x => if Number.isFinite x then some (Number.data x) else none
  | .text s => some (string s)
  | .word s => some (string s)
  | .seq .list items => (encodeItems? items).map fun xs => "[" ++ ",".intercalate xs ++ "]"
  | .seq .tuple items => (encodeItems? items).map fun xs => "[" ++ ",".intercalate xs ++ "]"
  | .map es => (encodeEntries? es).map fun xs => "\x7b" ++ ",".intercalate xs ++ "\x7d"
  | _ => none

def encodeItems? : List Value → Option (List String)
  | [] => some []
  | v :: vs => do
    let x ← encode? v
    let xs ← encodeItems? vs
    return x :: xs

def encodeEntries? : List (String × Value) → Option (List String)
  | [] => some []
  | (k, v) :: es => do
    let x ← encode? v
    let xs ← encodeEntries? es
    return (string k ++ ":" ++ x) :: xs

end

end Retrieval.Json
