/-!
What is wrong with data that should have a given shape: each issue names a place in the data and a
kind. A check keeps all issues, in the order of the fields, not only the first.
-/

namespace Retrieval.Schema

/-- One step from a value to a part of it. -/
inductive Step
  | field (name : String)
  | index (n : Nat)
  deriving DecidableEq, Repr

/-- The kinds of issue. The last one is a rule that spans several fields, with its own sentence. -/
inductive Kind
  | missing
  | extraForbidden
  | stringType
  | stringTooShort
  /-- A text that is not characters throughout. -/
  | stringUnicode
  | literal
  | floatType
  | floatParsing
  | intType
  | intParsing
  | intFromFloat
  | finiteNumber
  | intParsingSize
  | boolType
  | boolParsing
  | greaterThan
  | greaterThanEqual
  | lessThan
  | lessThanEqual
  | listType
  | dictType
  | modelType
  | tagInvalid
  | tagNotFound
  | jsonInvalid
  | rule (message : String)
  deriving DecidableEq, Repr

/-- The name of a kind in reports. -/
def Kind.name : Kind → String
  | .missing => "missing"
  | .extraForbidden => "extra_forbidden"
  | .stringType => "string_type"
  | .stringTooShort => "string_too_short"
  | .stringUnicode => "string_unicode"
  | .literal => "literal_error"
  | .floatType => "float_type"
  | .floatParsing => "float_parsing"
  | .intType => "int_type"
  | .intParsing => "int_parsing"
  | .intFromFloat => "int_from_float"
  | .finiteNumber => "finite_number"
  | .intParsingSize => "int_parsing_size"
  | .boolType => "bool_type"
  | .boolParsing => "bool_parsing"
  | .greaterThan => "greater_than"
  | .greaterThanEqual => "greater_than_equal"
  | .lessThan => "less_than"
  | .lessThanEqual => "less_than_equal"
  | .listType => "list_type"
  | .dictType => "dict_type"
  | .modelType => "model_attributes_type"
  | .tagInvalid => "union_tag_invalid"
  | .tagNotFound => "union_tag_not_found"
  | .jsonInvalid => "json_invalid"
  | .rule _ => "value_error"

structure Issue where
  location : List Step
  kind : Kind
  deriving DecidableEq, Repr

/-- The outcome of checking data: a value, or all issues. -/
inductive Checked (α : Type)
  | valid (value : α)
  | invalid (issues : List Issue)

namespace Checked

variable {α β : Type}

def map (f : α → β) : Checked α → Checked β
  | .valid a => .valid (f a)
  | .invalid is => .invalid is

/-- Applies a checked function; the issues of both sides are kept, in order. -/
def apply : Checked (α → β) → Checked α → Checked β
  | .valid f, .valid a => .valid (f a)
  | .valid _, .invalid is => .invalid is
  | .invalid is, .valid _ => .invalid is
  | .invalid is, .invalid js => .invalid (is ++ js)

instance : Functor Checked := ⟨map, fun a => map fun _ => a⟩
instance : Applicative Checked where
  pure := .valid
  seq f a := apply f (a ())

/-- One issue at the place itself. -/
def refuse (kind : Kind) : Checked α := .invalid [⟨[], kind⟩]

/-- A check of a part, with the step that leads to it. -/
def under (step : Step) : Checked α → Checked α
  | .valid a => .valid a
  | .invalid is => .invalid (is.map fun i => ⟨step :: i.location, i.kind⟩)

/-- Goes on with a valid value. -/
def bind (c : Checked α) (f : α → Checked β) : Checked β :=
  match c with
  | .valid a => f a
  | .invalid is => .invalid is

/-- A rule that spans the whole value, checked once its fields are valid. -/
def require (c : Checked α) (broken : α → Option String) : Checked α :=
  c.bind fun a =>
    match broken a with
    | none => .valid a
    | some message => refuse (.rule message)

def toExcept : Checked α → Except (List Issue) α
  | .valid a => .ok a
  | .invalid is => .error is

@[simp] theorem map_valid (f : α → β) (a : α) : f <$> (valid a : Checked α) = valid (f a) := rfl
@[simp] theorem map_invalid (f : α → β) (is : List Issue) :
    f <$> (invalid is : Checked α) = invalid is := rfl
@[simp] theorem seq_valid (f : α → β) (c : Checked α) :
    ((valid f : Checked (α → β)) <*> c) = f <$> c := by cases c <;> rfl

end Checked

end Retrieval.Schema
