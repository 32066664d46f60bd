import Retrieval.Compilation.Argument
import Retrieval.Literal
import Retrieval.Log.Entry
import Retrieval.Selection.Render
import Retrieval.Text.Quoted

/-!
Documents: the text of the root fields of clauses, and the requests that carry them. Compiling is a
function of the clause alone, so the same clause always has the same document.
-/

namespace Retrieval.Compilation

/-- The room on the stack that compiling counts on, in levels of a value or steps of a path. So many
always fit; how many more would fit depends on who compiles. -/
def maxLevels : Nat := 256

/-- A text between braces. -/
def braced (inside : String) : String := "\x7b " ++ inside ++ " \x7d"

/-- What is asked about each hit of a search. -/
def searchMetadata : Search → List String
  | .about .. => ["id", "certainty", "distance"]
  | .words .. => ["id", "score"]
  | .hybrid .. => ["id", "score"]
  | .nearVector .. => ["id", "certainty", "distance"]
  | .similar .. => ["id", "certainty", "distance"]

def spellCheckFields : String :=
  "spellCheck " ++ braced ("originalText didYouMean location numberOfCorrections changes " ++
    braced "original corrected")

def groupFields : String :=
  "group " ++ braced ("id groupedBy " ++ braced "path value" ++ " count")

/-- A message as a value. -/
def ofMessage (m : ChatMessage) : Value :=
  .map [("role", .text m.role.name), ("content", .text m.content)]

def ofOptions (o : GenerationOptions) : Entries Value :=
  let options : Entries Value :=
    entry "provider" (o.provider.map .text) ++ entry "model" (o.model.map .text)
      ++ entry "temperature" (o.temperature.map .float) ++ countEntry "maxTokens" o.maxTokens
  if options.isEmpty then [] else [("options", .map options)]

/-- What a generator is given, a text being called `name`. -/
def ofPrompt (name : String) : Prompt → Entries Value
  | .text t => [(name, .text t)]
  | .chat messages => [("messages", .list (messages.map ofMessage))]

def planOf : Generation → GenerationPlan
  | .perRecord (.text _) _ => .perRecord
  | .perRecord (.chat messages) _ => .perRecordChat messages
  | .overAll .. => .overAll
  | .ask .. => .answer

/-- The field that asks for the generated part. -/
def generationField : Generation → Compiled String
  | .perRecord prompt options => do
    let args ← Literal.arguments maxLevels ([("singleResult", .map (ofPrompt "prompt" prompt))]
      ++ ofOptions options)
    return "generate" ++ args ++ " " ++ braced "singleResult error"
  | .overAll task properties options => do
    let args ← Literal.arguments maxLevels
      ([("groupedResult", .map (ofPrompt "task" task ++ textsEntry "properties" properties))]
        ++ ofOptions options)
    return "generate" ++ args ++ " " ++ braced "groupedResult error"
  | .ask question properties options => do
    let args ← Literal.arguments maxLevels
      ([("question", .text question)] ++ textsEntry "properties" properties ++ ofOptions options)
    return "answer" ++ args ++ " " ++ braced "result sources error"

/-- The field that asks for the generated part of a clause, if it has one. -/
def generationTexts (c : Clause) : Compiled (List String) :=
  match c.generation with
  | some g => do return [← generationField g]
  | none => .ok []

/-- The field that asks how hits were ordered again, if they were. -/
def rerankTexts (c : Clause) : Compiled (List String) :=
  match c.rerank with
  | some r => do
    let args ← Literal.arguments maxLevels
      [("property", .text r.property), ("query", .text r.query)]
    return ["rerank" ++ args ++ " " ++ braced "score"]
  | none => .ok []

/-- What is asked about each record beside its properties. -/
def additionalFields (c : Clause) : Compiled (List String) := do
  let generated ← generationTexts c
  let rerank ← rerankTexts c
  let metadata :=
    match c.search with
    | some search => searchMetadata search
    | none => if c.generation.isSome || c.groupBy.isSome then ["id"] else []
  return metadata ++ rerank ++ (if c.spellCheck then [spellCheckFields] else [])
    ++ (if c.groupBy.isSome then [groupFields] else []) ++ generated

/-- The fields of some paths. Their steps are levels too, and there is room for as many of them. -/
def selectedFields (paths : List FieldPath) : Compiled (List String) :=
  if paths.all fun p => p.segments.length ≤ maxLevels then
    .ok (SelectionTree.fields (SelectionTree.ofPaths paths))
  else .error .tooNested

theorem selectedFields_eq_ok_iff {paths : List FieldPath} {texts : List String} :
    selectedFields paths = .ok texts ↔ (∀ p ∈ paths, p.segments.length ≤ maxLevels) ∧
      SelectionTree.fields (SelectionTree.ofPaths paths) = texts := by
  unfold selectedFields
  split
  · next h => simpa using fun _ => h
  · next h =>
    refine ⟨nofun, fun hall => absurd ?_ h⟩
    simpa using hall.1

/-- The fields of a query for records. A query that asks for nothing asks for identifiers. -/
def getFields (c : Clause) : Compiled (List String) := do
  let additional ← additionalFields c
  let selected ← selectedFields c.selection
  let fields := selected
    ++ (if additional.isEmpty then [] else ["_additional " ++ braced (" ".intercalate additional)])
  return if fields.isEmpty then ["_additional " ++ braced "id"] else fields

def metricField : Metric → String
  | .topOccurrences => "topOccurrences " ++ braced "value occurs"
  | m => m.name

/-- The fields of a query for statistics; a property without metrics is left out. -/
def aggregateFields (a : Aggregate) : List String :=
  ["meta " ++ braced "count"]
    ++ (if a.groupBy.isSome then ["groupedBy " ++ braced "path value"] else [])
    ++ a.metrics.filterMap fun (property, metrics) =>
      if metrics.isEmpty then none
      else some (property ++ " " ++ braced (" ".intercalate (metrics.map metricField)))

def memberOf (c : Clause) (resultKey : String) : Member :=
  match c.aggregate with
  | none =>
    { resultKey, operation := .get, collection := c.collection, arguments := getArguments c,
      pipeline := getPipeline c, searchKind := c.search.map Search.kind,
      selection := SelectionTree.ofPaths c.selection, generation := c.generation.map planOf,
      aggregateGroupBy := none }
  | some a =>
    { resultKey, operation := .aggregate, collection := c.collection,
      arguments := aggregateArguments c a, pipeline := aggregatePipeline c a,
      searchKind := c.search.map Search.kind, selection := [], generation := none,
      aggregateGroupBy := a.groupBy }

/-- A member with the text of its root field; an alias is put before the collection. -/
def compileMember (c : Clause) (alias? : Option String) : Compiled (Member × String) :=
  if c.collection.isEmpty then violated .noCollection
  else do
    let fields ←
      match c.aggregate with
      | none => getFields c
      | some a => pure (aggregateFields a)
    let member := memberOf c (alias?.getD c.collection)
    let head :=
      match alias? with
      | some name => name ++ ": " ++ c.collection
      | none => c.collection
    let args ← Literal.arguments maxLevels member.arguments
    return (member, head ++ args ++ " " ++ braced (" ".intercalate fields))

/-- The section of one operation, if some member has it. -/
def sectionText (operation : Operation) (rendered : List (Member × String)) : List String :=
  let fields := (rendered.filter fun r => r.1.operation = operation).map (·.2)
  if fields.isEmpty then [] else [operation.name ++ " " ++ braced (" ".intercalate fields)]

/-- The document of some root fields. -/
def document (rendered : List (Member × String)) : String :=
  braced (" ".intercalate (sectionText .get rendered ++ sectionText .aggregate rendered))

/-- The request of one clause. -/
def compile (c : Clause) : Compiled Request := do
  let rendered ← compileMember c none
  return { query := document [rendered], members := [rendered.1], multiplexed := false }

/-- The alias of a position in a multiplexed document. -/
def slotAlias (i : Nat) : String := "q" ++ toString i

/-- Compiles clauses under the aliases from position `i` on. -/
def compileMembers : Nat → List Clause → Compiled (List (Member × String))
  | _, [] => .ok []
  | i, c :: cs => do
    let r ← compileMember c (some (slotAlias i))
    let rs ← compileMembers (i + 1) cs
    return r :: rs

/-- The requests of a batch: one for all, or one for each. -/
def compileBatch (clauses : List Clause) : BatchStrategy → Compiled BatchPlan
  | .multiplexed =>
    if clauses.isEmpty then .ok ⟨.independent, [], []⟩
    else do
      let rendered ← compileMembers 0 clauses
      return {
        strategy := .multiplexed
        requests := [⟨document rendered, rendered.map (·.1), true⟩]
        slots := (List.range clauses.length).map fun i => (0, i) }
  | .independent => do
    let requests ← clauses.mapM compile
    return {
      strategy := .independent
      requests
      slots := (List.range requests.length).map fun i => (i, 0) }

/-- The warnings about selected paths of which less is fetched than they name. They come after the
text of the generated part. -/
def warnings (c : Clause) : List Log.Entry :=
  if c.collection.isEmpty || c.aggregate.isSome || !(generationTexts c).isOk then []
  else
    (shadowedPaths c.selection).map fun p =>
      ⟨.warning, s!"Selection '{p.text}' on " ++ Text.quoted c.collection ++
        " is narrowed by a deeper selected path."⟩

/-- The warnings of clauses that are compiled in order, up to the first that does not compile. -/
def warningsOf : List Clause → List Log.Entry
  | [] => []
  | c :: cs =>
    warnings c ++
      match compileMember c none with
      | .ok _ => warningsOf cs
      | .error _ => []

/-- What may be wrong with a clause that the builder did not make. -/
inductive Defect
  | noCollection
  | severalSearches (count : Nat)
  | unknownPredicate (kind : String)
  | unknownSearch (kind : String)
  | unknownGeneration (kind : String)
  deriving DecidableEq, Repr

/-- What a defect stops the compilation with. Statistics are asked for without a look at the
generation directive. -/
def Defect.violation? (c : Clause) : Defect → Option Violation
  | .noCollection => some .noCollection
  | .severalSearches n => some (.severalSearches n)
  | .unknownPredicate kind => some (.unknownPredicate kind)
  | .unknownSearch kind => some (.unknownSearch kind)
  | .unknownGeneration kind => if c.aggregate.isSome then none else some (.unknownGeneration kind)

/-- The warnings and the request of a clause that may have a defect. -/
def compileSuspect (defect : Option Defect) (c : Clause) :
    List Log.Entry × Compiled Request :=
  match defect.bind (Defect.violation? c) with
  | some v => ([], violated v)
  | none => (warnings c, compile c)

end Retrieval.Compilation
