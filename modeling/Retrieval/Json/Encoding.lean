import Retrieval.Json.Decode
import Retrieval.Text.Utf8

/-!
JSON as bytes. Where the zero bytes stand at the beginning tells how wide the units are and which
byte of a unit comes first; halves of pairs are kept.
-/

namespace Retrieval.Json

open Retrieval.Text

/-- The ways in which a text can be written in bytes. -/
inductive Encoding
  | utf8
  | utf16 (isBigEndian : Bool)
  | utf32 (isBigEndian : Bool)
  deriving DecidableEq, Repr

namespace Encoding

/-- The way in which a text of JSON is written, as its first bytes are never zero as characters. -/
def ofBytes : List Nat → Encoding
  | 0 :: b :: _ :: _ :: _ => if b = 0 then .utf32 true else .utf16 true
  | _ :: 0 :: c :: d :: _ => if c = 0 && d = 0 then .utf32 false else .utf16 false
  | [0, _] => .utf16 true
  | [_, 0] => .utf16 false
  | _ => .utf8

/-- The number of some bytes, the first being the highest or the lowest. -/
def number (isBigEndian : Bool) (bytes : List Nat) : Nat :=
  (if isBigEndian then bytes else bytes.reverse).foldl (fun n b => 256 * n + b) 0

/-- The numbers of pairs of bytes; nothing if one byte is left over. -/
def units16? (isBigEndian : Bool) : List Nat → Option (List Nat)
  | [] => some []
  | a :: b :: rest => (units16? isBigEndian rest).map (number isBigEndian [a, b] :: ·)
  | _ => none

/-- The numbers of four bytes each; nothing if some bytes are left over. -/
def units32? (isBigEndian : Bool) : List Nat → Option (List Nat)
  | [] => some []
  | a :: b :: c :: d :: rest =>
    (units32? isBigEndian rest).map (number isBigEndian [a, b, c, d] :: ·)
  | _ => none

/-- The characters of units of sixteen bits, pairs being joined. -/
def joinUnits : List Nat → List Char
  | high :: low :: rest =>
    if 0xd800 ≤ high && high < 0xdc00 && 0xdc00 ≤ low && low < 0xe000 then
      Char.ofNat (0x10000 + (high - 0xd800) * 0x400 + (low - 0xdc00)) :: joinUnits rest
    else charOfCode high :: joinUnits (low :: rest)
  | [unit] => [charOfCode unit]
  | [] => []

/-- The characters of units of thirty-two bits; nothing if one is too large. -/
def charsOf32? (units : List Nat) : Option (List Char) :=
  if units.all (· ≤ 0x10ffff) then some (units.map charOfCode) else none

/-- A mark that some writers put before a text. -/
def byteOrderMark : Char := Char.ofNat 0xfeff

def withoutMark : List Char → List Char
  | [] => []
  | c :: cs => if c = byteOrderMark then cs else c :: cs

/-- The text of bytes; nothing if they are no text in this encoding. -/
def text? (bytes : List Nat) : Encoding → Option (List Char)
  | .utf8 => some (withoutMark (utf8Text bytes))
  | .utf16 isBigEndian => (units16? isBigEndian bytes).map joinUnits
  | .utf32 isBigEndian => (units32? isBigEndian bytes).bind charsOf32?

end Encoding

/-- The value that a body denotes, given as the text of its bytes in UTF-8. -/
def decodeBody (body : String) : Except DecodeError Value :=
  let bytes := utf8Bytes body
  match (Encoding.ofBytes bytes).text? bytes with
  | some cs => decodeChars cs
  | none => .error .notText

end Retrieval.Json
