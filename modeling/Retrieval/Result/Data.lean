import Retrieval.Result

/-!
Results as data: mappings with a fixed set of fields each, absent parts being null.
-/

namespace Retrieval

/-- A part as data, null if it is absent. -/
def dataOf {α : Type} (f : α → Value) (part : Option α) : Value := (part.map f).getD .null

def listOf {α : Type} (f : α → Value) (parts : List α) : Value := .list (parts.map f)

def Correction.toValue (c : Correction) : Value :=
  .map [("original", .text c.typed), ("corrected", .text c.corrected)]

def SpellCheck.toValue (c : SpellCheck) : Value :=
  .map [("original_text", dataOf .text c.typedText), ("did_you_mean", dataOf .text c.didYouMean),
    ("location", dataOf .text c.location), ("number_of_corrections", .int c.numberOfCorrections),
    ("changes", listOf Correction.toValue c.changes)]

def Metadata.toValue (m : Metadata) : Value :=
  .map [("id", dataOf .text m.id), ("certainty", dataOf .float m.certainty),
    ("distance", dataOf .float m.distance), ("score", dataOf .float m.score),
    ("rerank_score", dataOf .float m.rerankScore),
    ("spell_check", listOf SpellCheck.toValue m.spellCheck), ("group", dataOf .map m.group)]

def Record.toValue (r : Record) : Value :=
  .map [("properties", .map r.properties), ("_additional", dataOf Metadata.toValue r.metadata)]

def ChatMessage.toValue (m : ChatMessage) : Value :=
  .map [("role", .text m.role.name), ("content", .text m.content)]

def GeneratedEntry.toValue (e : GeneratedEntry) : Value :=
  .map [("record", e.record.toValue), ("result", dataOf .text e.result),
    ("error", dataOf .text e.error), ("prompt", dataOf (listOf ChatMessage.toValue) e.prompt)]

/-- The section for generated texts; null for an answer. -/
def Generated.generationData : Generated → Value
  | .perRecord entries =>
    .map [("kind", .text "from_one"), ("entries", listOf GeneratedEntry.toValue entries),
      ("result", .null), ("error", .null)]
  | .overAll result error =>
    .map [("kind", .text "from_many"), ("entries", .null), ("result", dataOf .text result),
      ("error", dataOf .text error)]
  | .answer .. => .null

/-- The section for an answer; null for generated texts. -/
def Generated.answerData : Generated → Value
  | .answer text sources error =>
    .map [("text", dataOf .text text), ("sources", listOf Record.toValue sources),
      ("error", dataOf .text error)]
  | _ => .null

def ErrorStep.toValue : ErrorStep → Value
  | .name s => .text s
  | .index n => .int n

def ReportedError.toValue (e : ReportedError) : Value :=
  .map [("message", .text e.message), ("path", listOf ErrorStep.toValue e.path),
    ("code", dataOf .text e.code)]

def Extent.toValue (e : Extent) : Value :=
  .map [("count", .int e.count), ("total", dataOf .int e.total)]

def RecordResult.toValue (r : RecordResult) : Value :=
  .map [("kind", .text "records"), ("collection", .text r.collection),
    ("payload", listOf Record.toValue r.records), ("meta", r.extent.toValue),
    ("generation", (r.generated.map Generated.generationData).getD .null),
    ("answer", (r.generated.map Generated.answerData).getD .null),
    ("errors", listOf ReportedError.toValue r.errors)]

def Group.toValue (g : Group) : Value :=
  .map [("group_key", g.key), ("group_path", listOf .text g.path), ("count", dataOf .int g.count),
    ("statistics", .map (g.statistics.map fun (name, es) => (name, .map es)))]

def GroupResult.toValue (r : GroupResult) : Value :=
  .map [("kind", .text "aggregate"), ("collection", .text r.collection),
    ("payload", listOf Group.toValue r.groups), ("meta", r.extent.toValue),
    ("errors", listOf ReportedError.toValue r.errors)]

def QueryResult.toValue : QueryResult → Value
  | .records r => r.toValue
  | .groups r => r.toValue

section

variable {m : Type → Type} [Monad m] (f : Value → m Value)

/-- Changes the values of a mapping. -/
def mapEntries (es : Entries Value) : m (Entries Value) :=
  es.mapM fun (k, v) => do return (k, ← f v)

/-- Changes the values in a record whose shape is not laid down. -/
def Record.mapData (r : Record) : m Record := do
  let metadata ← r.metadata.mapM fun a => do
    return { a with group := ← a.group.mapM (mapEntries f) }
  return { properties := ← mapEntries f r.properties, metadata }

def Generated.mapData : Generated → m Generated
  | .perRecord entries =>
    .perRecord <$> entries.mapM fun e => do return { e with record := ← e.record.mapData f }
  | .overAll result error => return .overAll result error
  | .answer text sources error => do
    return .answer text (← sources.mapM (·.mapData f)) error

def Group.mapData (g : Group) : m Group := do
  let statistics ← g.statistics.mapM fun (name, es) => do return (name, ← mapEntries f es)
  return { g with key := ← f g.key, statistics }

/-- Changes the values in a result whose shape is not laid down. -/
def QueryResult.mapData : QueryResult → m QueryResult
  | .records r => do
    let records ← r.records.mapM (·.mapData f)
    return .records { r with records, generated := ← r.generated.mapM (·.mapData f) }
  | .groups r => do return .groups { r with groups := ← r.groups.mapM (·.mapData f) }

end

/-- The number of records or groups. -/
def QueryResult.size : QueryResult → Nat
  | .records r => r.records.length
  | .groups r => r.groups.length

end Retrieval
