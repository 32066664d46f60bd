import Retrieval.Compilation.Document
import Retrieval.Error.Query
import Retrieval.Query.Basic
import Retrieval.Signature

/-!
Steps of a query given by name, with positional and named arguments, as a script would give them.
-/

namespace Retrieval

namespace Query

open Signature (needed nullable)

def signatures : List (String × Signature) :=
  [("collection", { parameters := [needed "name", nullable "registry", nullable "executor"] }),
    ("about", { parameters := [needed "concept", nullable "certainty"] }),
    ("match", { parameters := [needed "text", nullable "properties"] }),
    ("find", { parameters := [needed "text", ("alpha", some (.float 0.5)), nullable "fusion_type",
      nullable "property_weights"] }),
    ("near_vector", { parameters := [nullable "vector", ("distance", some (.float 0.5)),
      nullable "source_id", nullable "property"] }),
    ("similar", { parameters := [needed "source_id", nullable "distance"] }),
    ("rerank", { parameters := [needed "query", needed "property"] }),
    ("spell_check", { parameters := [("enabled", some (.bool true))] }),
    ("group_by", { parameters := [needed "property", needed "max_groups",
      nullable "objects_per_group"] }),
    ("sort", { parameters := [needed "field", ("direction", some (.text "asc"))] }),
    ("limit", { parameters := [needed "limit"] }),
    ("offset", { parameters := [needed "offset"] }),
    ("generate_from_one", ⟨[nullable "prompt", nullable "messages"], true⟩),
    ("generate_from_many", ⟨[nullable "task", nullable "properties", nullable "messages"], true⟩),
    ("ask", ⟨[needed "question", nullable "properties"], true⟩),
    ("aggregate", { parameters := [needed "metrics", nullable "group_by"] }),
    ("clone", { parameters := [] })]

/-- Applies a step to bound arguments. The step `collection` starts a query of its own. -/
def applyBound (q : Query) (name : String) (values : List Value) (options : Entries Value) :
    Build Query :=
  match name, values with
  | "collection", [name, .null, .null] => collection name none
  | "about", [concept, certainty] => q.about concept certainty
  | "match", [text, properties] => q.words text properties
  | "find", [text, alpha, fusion, weights] => q.hybrid text alpha fusion weights
  | "near_vector", [vector, distance, id, property] => q.nearVector vector distance id property
  | "similar", [id, distance] => q.similar id distance
  | "rerank", [query, property] => q.rerank query property
  | "spell_check", [enabled] => q.spellCheck enabled
  | "group_by", [property, maxGroups, perGroup] => q.groupBy property maxGroups perGroup
  | "sort", [field, direction] => q.sort field direction
  | "limit", [n] => q.limit n
  | "offset", [n] => q.offset n
  | "generate_from_one", [prompt, messages] => q.generateFromOne prompt messages options
  | "generate_from_many", [task, properties, messages] =>
    q.generateFromMany task properties messages options
  | "ask", [question, properties] => q.ask question properties options
  | "aggregate", [metrics, groupBy] => q.aggregate metrics groupBy
  | "clone", [] => .ok q
  | _, _ => misuse

/-- Applies a step by its name. -/
def applyNamed (q : Query) (name : String) (a : Arguments) : Build Query :=
  if name = "select" then
    if a.named.isEmpty then q.select a.positional else misuse
  else
    match signatures.lookup name with
    | none => misuse
    | some s =>
      match s.bind a with
      | none => misuse
      | some (values, options) => q.applyBound name values options

/-- A step of a script. A restriction takes one filter. -/
inductive Call
  | restrict (inputs : List Predicate.Input)
  | method (name : String) (args : Arguments)

/-- What a step answers. -/
inductive Answer
  | query (q : Query)
  | complete (c : Clause)
  | request (r : Request)

/-- The request of a query that can be run. -/
def compile (q : Query) : Except Failure Request :=
  match q.complete with
  | .error e => .error (.query (.configuration e))
  | .ok c => (Compilation.compile c).mapError CompileError.toFailure

/-- Runs a step. The steps that end a query take no arguments. -/
def call (q : Query) : Call → Except Failure Answer
  | .restrict [input] => ((q.restrict input).map .query).mapError BuildError.toFailure
  | .restrict _ => .error .misuse
  | .method name args =>
    if ["validate_complete", "compile", "execute"].contains name then
      if !args.positional.isEmpty || !args.named.isEmpty then .error .misuse
      else if name = "validate_complete" then
        match q.complete with
        | .ok c => .ok (.complete c)
        | .error e => .error (.query (.configuration e))
      else if name = "compile" then q.compile.map .request
      else .error (.query (.configuration .noExecutor))
    else ((q.applyNamed name args).map .query).mapError BuildError.toFailure

/-- Runs steps one after another. Nothing can follow a step that answers no query. -/
def run (q : Query) : List Call → Except Failure Answer
  | [] => .ok (.query q)
  | c :: cs =>
    match q.call c with
    | .error e => .error e
    | .ok (.query next) => run next cs
    | .ok answer => if cs.isEmpty then .ok answer else .error .misuse

end Query

end Retrieval
