import Retrieval.Number.Numeral
import Retrieval.Text.Split
import Retrieval.Value.Basic

/-!
Field paths: dotted texts such as `tags.0.name`, read into property and index steps. The first step
is a property by construction; the reader also refuses empty steps and two indexes in a row.
-/

namespace Retrieval

open Retrieval.Text

/-- One step of a path: into a property, or to an element of a list. -/
inductive Segment
  | property (name : String)
  | index (i : Nat)
  deriving DecidableEq, Repr

namespace Segment

def text : Segment → String
  | .property name => name
  | .index i => toString i

def name? : Segment → Option String
  | .property name => some name
  | .index _ => none

def isIndex : Segment → Bool
  | .index _ => true
  | .property _ => false

end Segment

/-- A path from a record to a field: a property of the record and further steps. -/
structure FieldPath where
  root : String
  rest : List Segment
  deriving DecidableEq, Repr

/-- Why a text is no path. -/
inductive PathError
  | blank
  | emptySegment (raw : String)
  | adjacentIndexes (raw : String)
  | startsWithIndex (raw : String)
  | badIndex (cause : Number.NumeralError)
  deriving DecidableEq, Repr

def PathError.message : PathError → String
  | .blank => "Field path must be a non-empty string."
  | .emptySegment raw => s!"Field path '{raw}' contains an empty segment."
  | .adjacentIndexes raw => s!"Field path '{raw}' indexes the same list twice in a row."
  | .startsWithIndex raw =>
    s!"Field path '{raw}' must start with a property name, not an index."
  | .badIndex cause => cause.message

namespace FieldPath

def segments (p : FieldPath) : List Segment := .property p.root :: p.rest

/-- The property names along the path, indexes left out. -/
def propertyNames (p : FieldPath) : List String := p.segments.filterMap Segment.name?

def hasIndex (p : FieldPath) : Bool := p.segments.any Segment.isIndex

/-- The written form: the steps, joined by points. -/
def text (p : FieldPath) : String := ".".intercalate (p.segments.map Segment.text)

/-- A part that is all digits is an index; digits that are no numerals are refused. -/
def readIndex (part : List Char) : Except PathError Nat :=
  match Number.readInt (String.ofList part) with
  | .ok n => .ok n.toNat
  | .error e => .error (.badIndex e)

/-- Reads the parts between the points; `afterIndex` tells whether the step before is an index. -/
def readSegments (raw : String) : (afterIndex : Bool) → List (List Char) →
    Except PathError (List Segment)
  | _, [] => .ok []
  | afterIndex, part :: parts =>
    let step := trim part
    if step.isEmpty then .error (.emptySegment raw)
    else if isAllDigitLike step then
      if afterIndex then .error (.adjacentIndexes raw)
      else
        match readIndex step with
        | .error e => .error e
        | .ok i => (readSegments raw true parts).map (.index i :: ·)
    else (readSegments raw false parts).map (.property (String.ofList step) :: ·)

def parse (raw : String) : Except PathError FieldPath :=
  if isAllBlank raw then .error .blank
  else
    match readSegments raw false (splitAt '.' (trim raw.toList)) with
    | .error e => .error e
    | .ok (.property root :: rest) => .ok ⟨root, rest⟩
    | .ok _ => .error (.startsWithIndex raw)

/-- Reads a value that should be the text of a path. -/
def ofValue (v : Value) : Except PathError FieldPath :=
  match v.text? with
  | some raw => parse raw
  | none => .error .blank

@[simp] theorem segments_mk (root : String) (rest : List Segment) :
    segments ⟨root, rest⟩ = .property root :: rest := rfl

theorem segments_injective {p q : FieldPath} (h : p.segments = q.segments) : p = q := by
  cases p; cases q; simp_all

end FieldPath

end Retrieval
