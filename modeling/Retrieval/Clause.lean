import Retrieval.Generation
import Retrieval.Predicate.Basic
import Retrieval.Search

/-!
A clause: all that one query asks for. Clauses are values; adding a part makes a new one.
-/

namespace Retrieval

open Schema

inductive Direction
  | ascending
  | descending
  deriving DecidableEq, Repr

def Direction.name : Direction → String
  | .ascending => "asc"
  | .descending => "desc"

structure SortKey where
  path : FieldPath
  direction : Direction
  deriving DecidableEq, Repr

/-- Orders the hits again, by how well a property answers a query. -/
structure Rerank where
  query : String
  property : String
  deriving DecidableEq, Repr

structure Grouping where
  property : String
  maxGroups : Nat
  objectsPerGroup : Option Nat
  deriving DecidableEq, Repr

inductive Metric
  | count
  | sum
  | mean
  | median
  | mode
  | minimum
  | maximum
  | topOccurrences
  deriving DecidableEq, Repr

def Metric.name : Metric → String
  | .count => "count"
  | .sum => "sum"
  | .mean => "mean"
  | .median => "median"
  | .mode => "mode"
  | .minimum => "minimum"
  | .maximum => "maximum"
  | .topOccurrences => "topOccurrences"

/-- Asks for statistics per group instead of records. -/
structure Aggregate where
  metrics : List (String × List Metric)
  groupBy : Option String
  deriving DecidableEq, Repr

/-- What a query does: it gets records, or aggregates them. -/
inductive Operation
  | get
  | aggregate
  deriving DecidableEq, Repr

def Operation.name : Operation → String
  | .get => "Get"
  | .aggregate => "Aggregate"

structure Clause where
  collection : String
  selection : List FieldPath := []
  filter : Option Predicate := none
  search : Option Search := none
  rerank : Option Rerank := none
  spellCheck : Bool := false
  groupBy : Option Grouping := none
  sort : List SortKey := []
  limit : Option Nat := none
  offset : Option Nat := none
  generation : Option Generation := none
  aggregate : Option Aggregate := none
  deriving Repr

def Clause.operation (c : Clause) : Operation :=
  if c.aggregate.isSome then .aggregate else .get

def directions : List (String × Direction) := [("asc", .ascending), ("desc", .descending)]

def SortKey.read (path : FieldPath) (direction : Value) : Checked SortKey :=
  SortKey.mk path <$> given "direction" (choice directions) direction

def Rerank.read (query property : Value) : Checked Rerank :=
  Rerank.mk <$> given "query" text query <*> given "property" text property

def Grouping.read (property maxGroups objectsPerGroup : Value) : Checked Grouping :=
  Grouping.mk <$> given "property" text property <*> given "max_groups" positive maxGroups
    <*> given "objects_per_group" (optional positive) objectsPerGroup

def metricNames : List (String × Metric) :=
  ([.count, .sum, .mean, .median, .mode, .minimum, .maximum, .topOccurrences] : List Metric).map
    fun m => (m.name, m)

/-- The metrics from position `n` on; the places of the issues are those in pairs. -/
def Aggregate.readMetrics : Nat → List (String × List Value) →
    Checked (List (String × List Metric))
  | _, [] => .valid []
  | n, (property, names) :: rest =>
    (fun ms more => (property, ms) :: more)
      <$> ((items (choice metricNames) names).under (.index 1)).under (.index n)
      <*> readMetrics (n + 1) rest

def Aggregate.read (metrics : List (String × List Value)) (groupBy : Value) : Checked Aggregate :=
  Aggregate.mk <$> (readMetrics 0 metrics).under (.field "metrics")
    <*> given "group_by" (optional text) groupBy

end Retrieval
