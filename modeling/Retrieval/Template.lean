import Retrieval.Number.Numeral
import Retrieval.Text.Split
import Retrieval.Text.Word
import Retrieval.Value.Display

/-!
Message templates: texts with placeholders such as `{author.name}`. A placeholder that finds a value
in a record gives way to its text; any other one stays as it is. Text that comes from a record is
not looked at again.
-/

namespace Retrieval.Template

open Retrieval.Text

/-- A part of a template: a character that stands for itself, or the inside of a placeholder. -/
inductive Piece
  | literal (c : Char)
  | placeholder (name : List Char)
  deriving DecidableEq, Repr

/-- The characters that a placeholder may begin with. -/
def isInitial (c : Char) : Bool := c == '_' || c.isAlpha

/-- The characters that may follow inside a placeholder. -/
def isInner (c : Char) : Bool := c == '.' || isWordChar c

def literals (cs : List Char) : List Piece := cs.map .literal

/-- Reads a template. The second argument holds what follows an open brace that may turn out to
begin a placeholder, last character first. -/
def scan : List Char → Option (List Char) → List Piece
  | [], none => []
  | [], some seen => literals ('\x7b' :: seen.reverse)
  | c :: cs, none => if c = '\x7b' then scan cs (some []) else .literal c :: scan cs none
  | c :: cs, some [] =>
    if isInitial c then scan cs (some [c])
    else if c = '\x7b' then .literal '\x7b' :: scan cs (some [])
    else .literal '\x7b' :: .literal c :: scan cs none
  | c :: cs, some seen =>
    if c = '\x7d' then .placeholder seen.reverse :: scan cs none
    else if isInner c then scan cs (some (c :: seen))
    else
      literals ('\x7b' :: seen.reverse) ++
        if c = '\x7b' then scan cs (some []) else .literal c :: scan cs none

/-- The parts of a template. -/
def pieces (cs : List Char) : List Piece := scan cs none

/-- The element of a list that a step names, if there is one. -/
def element? (items : List Value) (step : List Char) : Except Number.NumeralError (Option Value) :=
  if isAllDigitLike step then
    match Number.readInt (String.ofList step) with
    | .ok i => .ok items[i.toNat]?
    | .error e => .error e
  else .ok none

/-- The part of a value that a step leads to. -/
def child? (v : Value) (step : List Char) : Except Number.NumeralError (Option Value) :=
  match v with
  | .map es => .ok (Entries.get? (String.ofList step) es)
  | .seq .list items => element? items step
  | _ => .ok none

/-- Follows steps into a value. -/
def follow : Value → List (List Char) → Except Number.NumeralError (Option Value)
  | v, [] => .ok (some v)
  | v, step :: steps =>
    match child? v step with
    | .error e => .error e
    | .ok none => .ok none
    | .ok (some w) => follow w steps

/-- The value that the inside of a placeholder names in a record. -/
def find? (record : Entries Value) (name : List Char) :
    Except Number.NumeralError (Option Value) :=
  follow (.map record) (splitAt '.' name)

/-- The written form of a placeholder. -/
def written (name : List Char) : List Char := '\x7b' :: name ++ ['\x7d']

/-- A part with its placeholder filled in. A null fills no placeholder. -/
def Piece.fill (record : Entries Value) : Piece → Except Number.NumeralError (List Char)
  | .literal c => .ok [c]
  | .placeholder name =>
    match find? record name with
    | .error e => .error e
    | .ok none => .ok (written name)
    | .ok (some .null) => .ok (written name)
    | .ok (some v) => .ok (Value.display v).toList

/-- Fills in parts in order. -/
def fillPieces (record : Entries Value) : List Piece → Except Number.NumeralError (List Char)
  | [] => .ok []
  | p :: ps =>
    match p.fill record, fillPieces record ps with
    | .error e, _ => .error e
    | .ok _, .error e => .error e
    | .ok cs, .ok rest => .ok (cs ++ rest)

/-- A template filled in from a record. -/
def fill (template : String) (record : Entries Value) : Except Number.NumeralError String :=
  String.ofList <$> fillPieces record (pieces template.toList)

/-- The written form of a part. -/
def Piece.chars : Piece → List Char
  | .literal c => [c]
  | .placeholder name => written name

theorem flatMap_literals (cs : List Char) : (literals cs).flatMap Piece.chars = cs := by
  induction cs with
  | nil => rfl
  | cons c cs ih => simpa [literals, Piece.chars] using ih

end Retrieval.Template
