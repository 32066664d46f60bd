import Retrieval.Number.Rounded
import Retrieval.Request

/-!
The arguments of a root field: the parts of a clause as values of the query language. The value of a
comparison stands under a key that names its type.
-/

namespace Retrieval.Compilation

def texts (xs : List String) : Value := .list (xs.map .text)

/-- The types under whose name a comparison's value stands. -/
inductive ValueType
  | boolean
  | int
  | number
  | text
  deriving DecidableEq, Repr

def ValueType.key : ValueType → String
  | .boolean => "valueBoolean"
  | .int => "valueInt"
  | .number => "valueNumber"
  | .text => "valueText"

def isBool : Value → Bool
  | .bool _ => true
  | _ => false

def isInt : Value → Bool
  | .int _ => true
  | _ => false

def isNumber : Value → Bool
  | .int _ => true
  | .float _ => true
  | _ => false

/-- The common type of some values: one float makes all integers numbers. -/
def valueType (samples : List Value) : ValueType :=
  if samples.isEmpty then .text
  else if samples.all isBool then .boolean
  else if samples.all isInt then .int
  else if samples.all isNumber then .number
  else .text

/-- The value of a comparison, under the key of its type. -/
def typedValue (comparison : Comparison) (value : Value) : String × Value :=
  match comparison, value with
  | .isNull, v => (ValueType.boolean.key, .bool v.isTruthy)
  | _, .seq .tuple items => ((valueType items).key ++ "Array", .list items)
  | _, v => ((valueType [v]).key, v)

mutual

/-- A predicate as an argument. -/
def ofPredicate : Predicate → Value
  | .leaf path comparison value =>
    .map [("path", texts (path.segments.map Segment.text)),
      ("operator", .word comparison.name), typedValue comparison value]
  | .group connective operands =>
    .map [("operator", .word connective.name), ("operands", .list (ofPredicates operands))]

def ofPredicates : List Predicate → List Value
  | [] => []
  | p :: ps => ofPredicate p :: ofPredicates ps

end

/-- An entry that is left out if its value is absent. -/
def entry (key : String) : Option Value → Entries Value
  | some v => [(key, v)]
  | none => []

/-- A property with its weight; the weight one is left out. -/
def weighted (property : String × Float) : String :=
  if property.2 == 1.0 then property.1 else property.1 ++ "^" ++ Number.compact property.2

/-- A list of texts as an entry, unless it is empty. -/
def textsEntry (key : String) (xs : List String) : Entries Value :=
  if xs.isEmpty then [] else [(key, texts xs)]

/-- The name and the entries of a search argument. -/
def ofSearch : Search → String × Entries Value
  | .about concept certainty =>
    ("nearText", [("concepts", texts [concept])] ++ entry "certainty" (certainty.map .float))
  | .words text properties =>
    ("bm25", [("query", .text text)] ++ textsEntry "properties" properties)
  | .hybrid text alpha fusion weights =>
    ("hybrid", [("query", .text text), ("alpha", .float alpha)]
      ++ entry "fusionType" (fusion.map fun f => .word f.name)
      ++ textsEntry "properties" (weights.map weighted))
  | .nearVector (.vector components _) distance =>
    ("nearVector", [("vector", .list (components.map .float)), ("distance", .float distance)])
  | .nearVector (.record id property) distance =>
    ("nearVector", [("sourceId", .text id), ("targetProperty", .text property),
      ("distance", .float distance)])
  | .similar id distance =>
    ("nearObject", [("id", .text id)] ++ entry "distance" (distance.map .float))

/-- The search argument of a clause. It says when spelling is corrected, and that a filter applies
before the search. -/
def searchArgument (c : Clause) : Entries Value :=
  match c.search with
  | none => []
  | some search =>
    let (name, entries) := ofSearch search
    [(name, .map (entries
      ++ (if c.spellCheck then [("autocorrect", .bool true)] else [])
      ++ (if c.filter.isSome then [("filterStrategy", .word "PRE")] else [])))]

def filterArgument (c : Clause) : Entries Value := entry "where" (c.filter.map ofPredicate)

def groupArgument (c : Clause) : Entries Value :=
  entry "groupBy" (c.groupBy.map fun g => .map
    ([("path", texts [g.property]), ("groups", .int g.maxGroups)]
      ++ entry "objectsPerGroup" (g.objectsPerGroup.map fun n => .int n)))

def sortArgument (c : Clause) : Entries Value :=
  if c.sort.isEmpty then []
  else
    [("sort", .list (c.sort.map fun s => .map
      [("path", texts s.path.propertyNames), ("order", .word s.direction.name)]))]

/-- A number of records as an entry. -/
def countEntry (key : String) (n : Option Nat) : Entries Value := entry key (n.map fun n => .int n)

/-- The arguments of a query for records, in the order of the stages. -/
def getArguments (c : Clause) : Entries Value :=
  filterArgument c ++ searchArgument c ++ groupArgument c ++ sortArgument c
    ++ countEntry "limit" c.limit ++ countEntry "offset" c.offset

/-- The arguments of a query for statistics, in the order of the stages. -/
def aggregateArguments (c : Clause) (a : Aggregate) : Entries Value :=
  filterArgument c ++ searchArgument c ++ entry "groupBy" (a.groupBy.map fun g => texts [g])
    ++ countEntry "objectLimit" c.limit

/-- A stage, if its part is present. -/
def stage (s : Stage) (present : Bool) : List Stage := if present then [s] else []

def getPipeline (c : Clause) : List Stage :=
  stage .filter c.filter.isSome ++ stage .search c.search.isSome ++ stage .rerank c.rerank.isSome
    ++ stage .group c.groupBy.isSome ++ stage .sort (!c.sort.isEmpty)
    ++ stage .paginate (c.limit.isSome || c.offset.isSome)
    ++ stage .generate c.generation.isSome

def aggregatePipeline (c : Clause) (a : Aggregate) : List Stage :=
  stage .filter c.filter.isSome ++ stage .search c.search.isSome
    ++ stage .group a.groupBy.isSome ++ stage .paginate c.limit.isSome ++ [.aggregate]

end Retrieval.Compilation
