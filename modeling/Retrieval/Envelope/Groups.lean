import Retrieval.Envelope.Fault
import Retrieval.Result

/-!
Groups of an answer: their keys, their sizes and their statistics.
-/

namespace Retrieval.Envelope

open Schema

/-- The fields of a group that are no statistics. -/
def groupFields : List String := ["meta", "groupedBy"]

/-- The statistics among the fields of a group: those that are mappings. -/
def statisticsOf (item : Entries Value) : Entries (Entries Value) :=
  item.filterMap fun (name, v) =>
    if groupFields.contains name then none else v.entries?.map fun es => (name, es)

/-- Reads an item of a section. -/
def readGroup (item : Entries Value) : Reading Group := do
  let groupedBy ← blockAt "groupedBy" item
  let path ← elementsAt "path" groupedBy
  let size ← blockAt "meta" item
  checked ((fun path count => ⟨field "value" groupedBy, path, count, statisticsOf item⟩)
    <$> (items text path).under (.field "group_path")
    <*> given "count" (optional integer) (field "count" size))

/-- The sum of the sizes, if there are groups and all sizes are known. -/
def sumOfCounts (groups : List Group) : Option Int :=
  if groups.isEmpty then none else (groups.mapM Group.count).map (List.foldl (· + ·) 0)

end Retrieval.Envelope
