import Retrieval.FieldPath
import Retrieval.Schema.Issue

/-!
What can be wrong with a query as it is put together, and with a clause as its document is written.
Each cause carries what its message needs.
-/

namespace Retrieval

inductive ConfigurationError
  | emptyCollection
  | path (cause : PathError)
  /-- A part of a clause whose fields break its schema. -/
  | invalid (part : String) (issues : List Schema.Issue)
  | notAnInteger (name shown : String)
  | negative (name : String) (value : Int)
  | noPaths
  | searchTaken (present added : String)
  | generationTaken
  | aggregateTaken
  | indexInSort (field : String)
  | rerankWithoutSearch
  | spellCheckWithoutSearch
  | spellCheckUnsupported (search : String)
  | rerankWithGroupBy
  | aggregateConflict (parts : List String)
  | unknownFields (collection : String) (fields : List String)
  | nothingToGenerateFrom
  | noExecutor
  | notAQuery (kind : String)
  | questionMissing
  | notFinite (shown : String)
  | mappingOperand
  | mixedList (path : String) (families : List String)
  | noOperands (connective : String)
  | operandKind (connective kind : String)
  | emptyFilter
  | listExpected (key : String)
  | unknownLogical (key : String)
  | emptyOperators (key : String)
  | unknownOperator (operator key : String)
  | notAPredicate
  | unsupportedFilter (kind : String)
  /-- A message passed on as it came. -/
  | reported (message : String)
  deriving DecidableEq, Repr

def ConfigurationError.message : ConfigurationError → String
  | .emptyCollection => "Collection identifier must be a non-empty string."
  | .path cause => cause.message
  | .invalid part _ => s!"Invalid {part}"
  | .notAnInteger name shown => s!"'{name}' must be an integer, got {shown}."
  | .negative name value => s!"'{name}' must not be negative, got {value}."
  | .noPaths => "select() needs at least one field path."
  | .searchTaken present added =>
    s!"Query already has a '{present}' search; cannot add '{added}'."
  | .generationTaken => "Query already has a generation directive."
  | .aggregateTaken => "Query already has an aggregate directive."
  | .indexInSort field => s!"Cannot sort on '{field}': sort paths cannot contain list indexes."
  | .rerankWithoutSearch => "rerank requires an active search clause."
  | .spellCheckWithoutSearch => "spell_check requires an active search clause."
  | .spellCheckUnsupported search => s!"spell_check is not supported with '{search}' search."
  | .rerankWithGroupBy => "rerank cannot be combined with group_by."
  | .aggregateConflict parts =>
    "aggregate cannot be combined with: " ++ ", ".intercalate parts ++ "."
  | .unknownFields collection fields =>
    s!"Unknown field(s) for collection '{collection}': " ++ ", ".intercalate fields ++ "."
  | .nothingToGenerateFrom => "Generation requires a search clause or an explicit selection."
  | .noExecutor => "No executor bound to this query. Use QueryExecutor.query()."
  | .notAQuery kind => s!"Cannot execute object of type {kind}."
  | .questionMissing => "'ask' generation needs a question."
  | .notFinite shown => s!"Filter values must be finite numbers, got {shown}."
  | .mappingOperand => "Filter values must be scalars or lists, got a mapping."
  | .mixedList place families =>
    s!"Filter list for '{place}' mixes value types (" ++ ", ".intercalate families ++
      "); use one type per list."
  | .noOperands connective => s!"'{connective}' needs at least one operand."
  | .operandKind connective kind =>
    s!"'{connective}' operands must be filter nodes, got {kind}."
  | .emptyFilter => "Empty filter mapping."
  | .listExpected key => s!"'{key}' expects a list of filter mappings."
  | .unknownLogical key => s!"Unknown logical operator '{key}'."
  | .emptyOperators key => s!"Empty operator mapping for '{key}'."
  | .unknownOperator operator key => s!"Unknown filter operator '{operator}' for '{key}'."
  | .notAPredicate => "Filter builder function must return a filter node."
  | .unsupportedFilter kind => s!"Unsupported filter input of type {kind}."
  | .reported message => message

/-- How a step of putting a query together can fail: the library refuses it with a cause, or the
arguments have a shape that the step has no reading for. -/
inductive BuildError
  | refused (cause : ConfigurationError)
  | misuse
  deriving DecidableEq, Repr

abbrev Build (α : Type) := Except BuildError α

/-- Refuses with a cause. -/
def refuse {α : Type} (cause : ConfigurationError) : Build α := .error (.refused cause)

/-- Arguments that a step has no reading for. -/
def misuse {α : Type} : Build α := .error .misuse

/-- Turns an invalid part of a clause into an error of the query. -/
def clausePart {α : Type} (part : String) (c : Schema.Checked α) : Build α :=
  match c with
  | .valid a => .ok a
  | .invalid issues => refuse (.invalid part issues)

/-- A path that a query is given. -/
def pathOf (v : Value) : Build FieldPath :=
  match FieldPath.ofValue v with
  | .ok p => .ok p
  | .error e => refuse (.path e)

/-- What makes a clause uncompilable. A clause that the builder made has none of these faults, unless
it compares with a value that has no literal. -/
inductive Violation
  | noCollection
  | severalSearches (count : Nat)
  | unknownPredicate (kind : String)
  | unknownSearch (kind : String)
  | unknownGeneration (kind : String)
  /-- A value without a literal. -/
  | unrenderable (kind : String)
  /-- A message passed on as it came. -/
  | reported (message : String)
  deriving DecidableEq, Repr

def Violation.message : Violation → String
  | .noCollection => "Clause has no collection."
  | .severalSearches n => s!"A clause must carry at most one search directive, got {n}."
  | .unknownPredicate kind => s!"Unknown filter node {kind}."
  | .unknownSearch kind => s!"Unknown search variant {kind}."
  | .unknownGeneration kind => s!"Unknown generation directive {kind}."
  | .unrenderable kind => s!"Cannot render value of type {kind} into GraphQL."
  | .reported message => message

/-- Why a clause has no document: it has a fault, or what it holds is too long or too deep to be
written. -/
inductive CompileError
  | violation (cause : Violation)
  /-- An integer with too many digits. -/
  | integerTooLong
  /-- Data or a path with too many levels. -/
  | tooNested
  deriving DecidableEq, Repr

abbrev Compiled (α : Type) := Except CompileError α

/-- Stops with a fault of the clause. -/
def violated {α : Type} (cause : Violation) : Compiled α := .error (.violation cause)

end Retrieval
