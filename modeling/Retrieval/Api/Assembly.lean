import Retrieval.Api.Body
import Retrieval.Query.Call

/-!
The query that a body describes. Its parts are added in a fixed order, the search before what needs
one, whatever the order of the fields in the body.
-/

namespace Retrieval.Api

def ofOption {α : Type} (f : α → Value) (part : Option α) : Value := (part.map f).getD .null

def ofTexts (texts : List String) : Value := .list (texts.map .text)

/-- Adds a part if the body has it. -/
def withPart {α : Type} (part : Option α) (add : Query → α → Build Query) (q : Query) :
    Build Query :=
  match part with
  | some a => add q a
  | none => .ok q

def addSearch (q : Query) : SearchBody → Build Query
  | .about concept certainty => q.about (.text concept) (ofOption .float certainty)
  | .words text properties => q.words (.text text) (ofOption ofTexts properties)
  | .hybrid text alpha fusion weights =>
    q.hybrid (.text text) (.float alpha) (ofOption .text fusion)
      (ofOption (fun ws => .map (ws.map fun (name, w) => (name, .float w))) weights)
  | .nearVector vector id property distance =>
    q.nearVector (ofOption (fun xs => .list (xs.map .float)) vector) (.float distance)
      (ofOption .text id) (ofOption .text property)
  | .similar id distance => q.similar (.text id) (ofOption .float distance)

def addSort (q : Query) : List SortBody → Build Query
  | [] => .ok q
  | s :: rest => do addSort (← q.sort (.text s.field) (.text s.direction)) rest

/-- The messages of a chat as values. -/
def ofMessages (messages : List (Entries String)) : Value :=
  .list (messages.map fun es => .map (es.map fun (name, t) => (name, .text t)))

/-- A step with named arguments and options, none of which may have the name of an argument. -/
def withOptions (q : Query) (step : String) (positional : List Value)
    (named options : Entries Value) : Build Query :=
  if options.any fun o => Entries.contains o.1 named then misuse
  else q.applyNamed step ⟨positional, named ++ options⟩

def addGeneration (q : Query) (g : GenerationBody) : Build Query :=
  let messages := ofOption ofMessages g.messages
  let properties := ofOption ofTexts g.properties
  match g.kind with
  | .perRecord =>
    withOptions q "generate_from_one" []
      [("prompt", ofOption .text g.prompt), ("messages", messages)] g.options
  | .overAll =>
    withOptions q "generate_from_many" []
      [("task", ofOption .text g.task), ("properties", properties), ("messages", messages)]
      g.options
  | .ask =>
    match g.question with
    | none => refuse .questionMissing
    | some question =>
      if question.isEmpty then refuse .questionMissing
      else withOptions q "ask" [.text question] [("properties", properties)] g.options

def addAggregate (q : Query) (a : AggregateBody) : Build Query :=
  q.aggregate (.map (a.metrics.map fun (property, names) => (property, ofTexts names)))
    (ofOption .text a.groupBy)

/-- What is restricted by nothing is not restricted. -/
def restrictionOf (b : QueryBody) : Option (Entries Value) := b.restriction.filter (!·.isEmpty)

/-- The query of a body. -/
def QueryBody.assemble (b : QueryBody) (registry : Option Registry) : Build Query := do
  let q ← Query.collection (.text b.collection) registry
  let q ← if b.select.isEmpty then .ok q else q.select (b.select.map .text)
  let q ← withPart (restrictionOf b) (fun q es => q.restrict (.value (.map es))) q
  let q ← withPart b.search addSearch q
  let q ← withPart b.rerank (fun q r => q.rerank (.text r.query) (.text r.property)) q
  let q ← if b.spellCheck then q.spellCheck (.bool true) else .ok q
  let q ← withPart b.groupBy
    (fun q g => q.groupBy (.text g.property) (.int g.maxGroups) (ofOption .int g.objectsPerGroup)) q
  let q ← addSort q b.sort
  let q ← withPart b.limit (fun q n => q.limit (.int n)) q
  let q ← withPart b.offset (fun q n => q.offset (.int n)) q
  let q ← withPart b.generate addGeneration q
  withPart b.aggregate addAggregate q

end Retrieval.Api
