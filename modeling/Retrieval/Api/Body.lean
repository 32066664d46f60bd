import Retrieval.Request
import Retrieval.Schema.Field

/-!
Bodies of service calls: a query described as data, or several of them. Reading a body checks the
types of its fields; what the fields mean is left to the query that they describe.
-/

namespace Retrieval.Api

open Schema

inductive SearchBody
  | about (concept : String) (certainty : Option Float)
  | words (text : String) (properties : Option (List String))
  | hybrid (text : String) (alpha : Float) (fusion : Option String)
      (weights : Option (Entries Float))
  | nearVector (vector : Option (List Float)) (sourceId property : Option String)
      (distance : Float)
  | similar (sourceId : String) (distance : Option Float)
  deriving Repr

structure RerankBody where
  query : String
  property : String
  deriving DecidableEq, Repr

structure GroupBody where
  property : String
  maxGroups : Int
  objectsPerGroup : Option Int
  deriving DecidableEq, Repr

structure SortBody where
  field : String
  direction : String
  deriving DecidableEq, Repr

inductive GenerationKind
  | perRecord
  | overAll
  | ask
  deriving DecidableEq, Repr

/-- A generation directive; its kind tells which of the texts it uses. -/
structure GenerationBody where
  kind : GenerationKind
  prompt : Option String
  task : Option String
  question : Option String
  messages : Option (List (Entries String))
  properties : Option (List String)
  options : Entries Value
  deriving Repr

structure AggregateBody where
  metrics : Entries (List String)
  groupBy : Option String
  deriving DecidableEq, Repr

structure QueryBody where
  collection : String
  select : List String
  restriction : Option (Entries Value)
  search : Option SearchBody
  rerank : Option RerankBody
  spellCheck : Bool
  groupBy : Option GroupBody
  sort : List SortBody
  limit : Option Int
  offset : Option Int
  generate : Option GenerationBody
  aggregate : Option AggregateBody
  deriving Repr

structure BatchBody where
  queries : List QueryBody
  strategy : Option BatchStrategy
  deriving Repr

/-- A word that must be one of some words. -/
def oneOf (names : List String) : Reader String := choice (names.map fun n => (n, n))

/-- The readers of the kinds of search. -/
def searchReaders : List (String × (Entries Value → Checked SearchBody)) :=
  [("about", fun es => SearchBody.about <$> required "concept" text es
      <*> defaulted "certainty" none (optional real) es),
    ("match", fun es => SearchBody.words <$> required "text" text es
      <*> defaulted "properties" none (optional (list text)) es),
    ("find", fun es => SearchBody.hybrid <$> required "text" text es
      <*> defaulted "alpha" 0.5 real es
      <*> defaulted "fusion_type" none (optional (oneOf ["rankedFusion", "relativeScoreFusion"])) es
      <*> defaulted "property_weights" none (optional (mapping real)) es),
    ("near_vector", fun es => SearchBody.nearVector
      <$> defaulted "vector" none (optional (list real)) es
      <*> defaulted "source_id" none (optional text) es
      <*> defaulted "property" none (optional text) es
      <*> defaulted "distance" 0.5 real es),
    ("similar", fun es => SearchBody.similar <$> required "source_id" text es
      <*> defaulted "distance" none (optional real) es)]

/-- A search is read as its type says; the issues of its fields lie below that type. -/
def readSearch : Reader SearchBody :=
  object fun es =>
    match Entries.get? "type" es with
    | none => .refuse .tagNotFound
    | some tag =>
      match tag.text?.bind fun name => (searchReaders.lookup name).map fun read => (name, read) with
      | none => .refuse .tagInvalid
      | some (name, read) => (read es).under (.field name)

def readRerank : Reader RerankBody :=
  object fun es => RerankBody.mk <$> required "query" text es <*> required "property" text es

def readGroup : Reader GroupBody :=
  object fun es => GroupBody.mk <$> required "property" text es
    <*> required "max_groups" integer es
    <*> defaulted "objects_per_group" none (optional integer) es

def readSort : Reader SortBody :=
  object fun es => SortBody.mk <$> required "field" text es
    <*> defaulted "direction" "asc" (oneOf ["asc", "desc"]) es

def generationKinds : List (String × GenerationKind) :=
  [("from_one", .perRecord), ("from_many", .overAll), ("ask", .ask)]

def readGeneration : Reader GenerationBody :=
  object fun es => GenerationBody.mk <$> required "type" (choice generationKinds) es
    <*> defaulted "prompt" none (optional text) es
    <*> defaulted "task" none (optional text) es
    <*> defaulted "question" none (optional text) es
    <*> defaulted "messages" none (optional (list (mapping text))) es
    <*> defaulted "properties" none (optional (list text)) es
    <*> defaulted "options" [] (mapping anything) es

def readAggregate : Reader AggregateBody :=
  object fun es => AggregateBody.mk <$> defaulted "metrics" [] (mapping (list text)) es
    <*> defaulted "group_by" none (optional text) es

def readQuery : Reader QueryBody :=
  object fun es => QueryBody.mk <$> required "collection" text es
    <*> defaulted "select" [] (list text) es
    <*> defaulted "where" none (optional (mapping anything)) es
    <*> defaulted "search" none (optional readSearch) es
    <*> defaulted "rerank" none (optional readRerank) es
    <*> defaulted "spell_check" false boolean es
    <*> defaulted "group_by" none (optional readGroup) es
    <*> defaulted "sort" [] (list readSort) es
    <*> defaulted "limit" none (optional integer) es
    <*> defaulted "offset" none (optional integer) es
    <*> defaulted "generate" none (optional readGeneration) es
    <*> defaulted "aggregate" none (optional readAggregate) es

def strategies : List (String × BatchStrategy) :=
  [BatchStrategy.multiplexed, .independent].map fun s => (s.name, s)

def readBatch : Reader BatchBody :=
  object fun es => BatchBody.mk <$> required "queries" (list readQuery) es
    <*> defaulted "strategy" none (optional (choice strategies)) es

end Retrieval.Api
