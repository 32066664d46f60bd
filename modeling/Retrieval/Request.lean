import Retrieval.Clause
import Retrieval.Json.Encode
import Retrieval.Selection.Basic

/-!
Requests: one document for the backend, with what is needed to read the answer to each of its root
fields.
-/

namespace Retrieval

/-- The stages that the backend applies, in this order. -/
inductive Stage
  | filter
  | search
  | rerank
  | group
  | sort
  | paginate
  | generate
  | aggregate
  deriving DecidableEq, Repr

def Stage.name : Stage → String
  | .filter => "filter"
  | .search => "search"
  | .rerank => "rerank"
  | .group => "group"
  | .sort => "sort"
  | .paginate => "paginate"
  | .generate => "generate"
  | .aggregate => "aggregate"

/-- How the generated part of an answer is read. A chat is sent as it is, and its placeholders are
filled in for each record when the answer is read. -/
inductive GenerationPlan
  | perRecord
  | perRecordChat (messages : List ChatMessage)
  | overAll
  | answer
  deriving DecidableEq, Repr

def GenerationPlan.kind : GenerationPlan → String
  | .perRecord => "from_one"
  | .perRecordChat _ => "from_one"
  | .overAll => "from_many"
  | .answer => "ask"

/-- Who fills in the placeholders, if there are any to fill in. -/
def GenerationPlan.substitution? : GenerationPlan → Option String
  | .perRecord => some "server"
  | .perRecordChat _ => some "client"
  | .overAll => none
  | .answer => none

def GenerationPlan.messages : GenerationPlan → List ChatMessage
  | .perRecordChat messages => messages
  | _ => []

/-- One root field of a document. -/
structure Member where
  /-- The key of the field's data in the answer. -/
  resultKey : String
  operation : Operation
  collection : String
  arguments : Entries Value
  pipeline : List Stage
  searchKind : Option String
  selection : SelectionTree
  generation : Option GenerationPlan
  aggregateGroupBy : Option String

structure Request where
  query : String
  members : List Member
  multiplexed : Bool

/-- The body of a request, within ASCII. -/
def Request.body (r : Request) : String := "\x7b\"query\":" ++ Json.asciiString r.query ++ "\x7d"

/-- The only member of a request, or the number of members. -/
def Request.member (r : Request) : Except Nat Member :=
  match r.members with
  | [m] => .ok m
  | ms => .error ms.length

inductive BatchStrategy
  | multiplexed
  | independent
  deriving DecidableEq, Repr

def BatchStrategy.name : BatchStrategy → String
  | .multiplexed => "multiplexed"
  | .independent => "independent"

def BatchStrategy.ofName? (s : String) : Option BatchStrategy :=
  [("multiplexed", .multiplexed), ("independent", .independent)].lookup s

/-- A batch of queries as requests. The slot of each query tells its request and its member. -/
structure BatchPlan where
  strategy : BatchStrategy
  requests : List Request
  slots : List (Nat × Nat)

end Retrieval
