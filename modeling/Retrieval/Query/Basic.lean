import Retrieval.Clause
import Retrieval.Predicate.Shorthand
import Retrieval.Registry

/-!
Queries: a clause that grows part by part. Each step checks the clause that it makes and leaves the
query it started from as it was, so that a query can serve as a template for several others.
-/

namespace Retrieval

/-- A query, with the registry that its fields are checked against. -/
structure Query where
  clause : Clause
  registry : Option Registry := none
  /-- Whether the query belongs to an engine, which can run it. -/
  isBound : Bool := false

namespace Clause

/-- The parts that statistics cannot be combined with, as they are called in messages. -/
def aggregateConflicts (c : Clause) : List String :=
  [("generation", c.generation.isSome), ("rerank", c.rerank.isSome), ("sort", !c.sort.isEmpty),
    ("group_by", c.groupBy.isSome), ("offset", c.offset.isSome),
    ("select", !c.selection.isEmpty), ("spell_check", c.spellCheck)].filterMap
    fun (name, present) => if present then some name else none

/-- The first rule on the parts of a clause that is broken. -/
def conflict? (c : Clause) : Option ConfigurationError :=
  if c.rerank.isSome && c.search.isNone then some .rerankWithoutSearch
  else if c.spellCheck && c.search.isNone then some .spellCheckWithoutSearch
  else if c.spellCheck && !c.search.all Search.isTextual then
    c.search.map fun s => .spellCheckUnsupported s.kind
  else if c.rerank.isSome && c.groupBy.isSome then some .rerankWithGroupBy
  else if c.aggregate.isSome && !c.aggregateConflicts.isEmpty then
    some (.aggregateConflict c.aggregateConflicts)
  else none

/-- The top-level names of the fields that a clause selects, compares, sorts or groups by. -/
def fieldRoots (c : Clause) : List String :=
  c.selection.map FieldPath.root
    ++ (Predicate.leavesIn c.filter).map (fun l => l.1.root)
    ++ c.sort.map (fun s => s.path.root)
    ++ (c.groupBy.map Grouping.property).toList

/-- The roots that are neither known nor internal; internal names start with an underscore. -/
def unknownRoots (c : Clause) (known : List String) : List String :=
  sortedTexts (c.fieldRoots.filter fun r => !known.contains r && !r.startsWith "_")

/-- The first rule that a clause breaks, fields being looked up in a registry. -/
def problem? (c : Clause) (registry : Option Registry) : Option ConfigurationError :=
  match c.conflict? with
  | some e => some e
  | none =>
    match registry.bind fun r => r.knownFields (.text c.collection) with
    | none => none
    | some known =>
      let unknown := c.unknownRoots (known.filterMap Value.text?)
      if unknown.isEmpty then none else some (.unknownFields c.collection unknown)

/-- A clause that can be run: a generation directive has something to work on. -/
def complete (c : Clause) : Except ConfigurationError Clause :=
  if c.generation.isSome && c.search.isNone && c.selection.isEmpty then
    .error .nothingToGenerateFrom
  else .ok c

end Clause

namespace Query

/-- The query with another clause, if that keeps the rules. -/
def adopt (q : Query) (c : Clause) : Build Query :=
  match c.problem? q.registry with
  | some e => refuse e
  | none => .ok { q with clause := c }

/-- A query on a collection, for everything. -/
def collection (name : Value) (registry : Option Registry) : Build Query :=
  match name.text? with
  | none => refuse .emptyCollection
  | some s =>
    if Text.isAllBlank s then refuse .emptyCollection
    else .ok { clause := { collection := Text.stripped s }, registry }

/-- The elements of a value, none if it is absent or empty. -/
def elementsOf (v : Value) : Build (List Value) :=
  if !v.isTruthy then .ok []
  else
    match v.elements? with
    | some vs => .ok vs
    | none => misuse

/-- Adds paths that are not selected yet. -/
def addPaths (selection : List FieldPath) : List Value → Build (List FieldPath)
  | [] => .ok selection
  | raw :: more => do
    let p ← pathOf raw
    addPaths (if selection.contains p then selection else selection ++ [p]) more

def select (q : Query) (paths : List Value) : Build Query :=
  if paths.isEmpty then refuse .noPaths
  else do
    let selection ← addPaths q.clause.selection paths
    q.adopt { q.clause with selection }

/-- Restricts the records; repeated restrictions must all hold. -/
def restrict (q : Query) (input : Predicate.Input) : Build Query := do
  let p ← input.normalize
  q.adopt { q.clause with filter := Predicate.both q.clause.filter p }

def withSearch (q : Query) (search : Search) : Build Query :=
  match q.clause.search with
  | some present => refuse (.searchTaken present.kind search.kind)
  | none => q.adopt { q.clause with search := some search }

def about (q : Query) (concept certainty : Value) : Build Query := do
  q.withSearch (← clausePart "About" (Search.readAbout concept certainty))

def words (q : Query) (text properties : Value) : Build Query := do
  let properties ← elementsOf properties
  q.withSearch (← clausePart "Match" (Search.readWords text properties))

def hybrid (q : Query) (text alpha fusion weights : Value) : Build Query := do
  let weights ←
    if !weights.isTruthy then .ok []
    else
      match weights with
      | .map es => .ok es
      | _ => misuse
  q.withSearch (← clausePart "Find" (Search.readHybrid text alpha fusion weights))

def nearVector (q : Query) (vector distance id property : Value) : Build Query := do
  let components ←
    match vector with
    | .null => .ok none
    | v =>
      match v.elements? with
      | some vs => .ok (some vs)
      | none => misuse
  q.withSearch (← clausePart "NearVector" (Search.readNearVector components distance id property))

def similar (q : Query) (id distance : Value) : Build Query := do
  q.withSearch (← clausePart "Similar" (Search.readSimilar id distance))

def rerank (q : Query) (query property : Value) : Build Query := do
  let r ← clausePart "Rerank" (Rerank.read query property)
  q.adopt { q.clause with rerank := some r }

def spellCheck (q : Query) (enabled : Value) : Build Query :=
  q.adopt { q.clause with spellCheck := enabled.isTruthy }

def groupBy (q : Query) (property maxGroups objectsPerGroup : Value) : Build Query := do
  let g ← clausePart "GroupBy" (Grouping.read property maxGroups objectsPerGroup)
  q.adopt { q.clause with groupBy := some g }

/-- Adds a sort key; earlier keys come first. -/
def sort (q : Query) (field direction : Value) : Build Query := do
  let path ← pathOf field
  if path.hasIndex then refuse (.indexInSort field.display)
  let key ← clausePart "SortEntry" (SortKey.read path direction)
  q.adopt { q.clause with sort := q.clause.sort ++ [key] }

/-- A number of records. -/
def count (name : String) : Value → Build Nat
  | .int n => if n < 0 then refuse (.negative name n) else .ok n.toNat
  | v => refuse (.notAnInteger name v.inner)

def limit (q : Query) (limit : Value) : Build Query := do
  q.adopt { q.clause with limit := some (← count "limit" limit) }

def offset (q : Query) (offset : Value) : Build Query := do
  q.adopt { q.clause with offset := some (← count "offset" offset) }

def withGeneration (q : Query) (generation : Generation) : Build Query :=
  if q.clause.generation.isSome then refuse .generationTaken
  else q.adopt { q.clause with generation := some generation }

/-- A name that no part of a clause may have as a field of its own. -/
def reservedField : String := "model_class"

/-- The fields of a part that is given as a mapping. -/
def partFields (es : Entries Value) : Build (Entries Value) :=
  if Entries.contains reservedField es then misuse else .ok es

def messageOf (v : Value) : Build ChatMessage :=
  match v with
  | .map es => do clausePart "Message" (Generation.readMessage (← partFields es))
  | _ => misuse

/-- The messages of a chat, if one is given. -/
def chatOf (v : Value) : Build (Option (List ChatMessage)) :=
  match v with
  | .null => .ok none
  | v =>
    match v.elements? with
    | some vs => some <$> vs.mapM messageOf
    | none => misuse

def optionsOf (es : Entries Value) : Build GenerationOptions := do
  clausePart "GenerationOptions" (Generation.readOptions (← partFields es))

def generateFromOne (q : Query) (prompt messages : Value) (options : Entries Value) :
    Build Query := do
  let chat ← chatOf messages
  let options ← optionsOf options
  q.withGeneration (← clausePart "FromOne" (Generation.readPerRecord prompt chat options))

def generateFromMany (q : Query) (task properties messages : Value) (options : Entries Value) :
    Build Query := do
  let chat ← chatOf messages
  let properties ← elementsOf properties
  let options ← optionsOf options
  q.withGeneration
    (← clausePart "FromMany" (Generation.readOverAll task chat properties options))

def ask (q : Query) (question properties : Value) (options : Entries Value) : Build Query := do
  let properties ← elementsOf properties
  let options ← optionsOf options
  q.withGeneration (← clausePart "Ask" (Generation.readAsk question properties options))

/-- The names of metrics, per property. -/
def metricLists (es : Entries Value) : Build (List (String × List Value)) :=
  es.mapM fun (property, names) =>
    match names.elements? with
    | some vs => .ok (property, vs)
    | none => misuse

def aggregate (q : Query) (metrics groupBy : Value) : Build Query :=
  if q.clause.aggregate.isSome then refuse .aggregateTaken
  else
    match metrics with
    | .map es => do
      let lists ← metricLists es
      let a ← clausePart "AggregateDirective" (Aggregate.read lists groupBy)
      q.adopt { q.clause with aggregate := some a }
    | _ => misuse

/-- The clause of a query that can be run. -/
def complete (q : Query) : Except ConfigurationError Clause := q.clause.complete

end Query

end Retrieval
