import Retrieval.Generation
import Retrieval.Value.Basic

/-!
Results of queries: records with what the search and the generator say about them, or statistics of
groups. Either comes with the errors that the backend reported for it.
-/

namespace Retrieval

/-- A change to the text of a search. -/
structure Correction where
  typed : String
  corrected : String
  deriving DecidableEq, Repr

structure SpellCheck where
  typedText : Option String
  didYouMean : Option String
  location : Option String
  numberOfCorrections : Int
  changes : List Correction
  deriving DecidableEq, Repr

/-- What a search says about a record. -/
structure Metadata where
  id : Option String
  certainty : Option Float
  distance : Option Float
  score : Option Float
  rerankScore : Option Float
  spellCheck : List SpellCheck
  group : Option (Entries Value)
  deriving Repr

/-- Whether nothing is said. -/
def Metadata.isEmpty (m : Metadata) : Bool :=
  m.id.isNone && m.certainty.isNone && m.distance.isNone && m.score.isNone
    && m.rerankScore.isNone && m.spellCheck.isEmpty && m.group.isNone

structure Record where
  properties : Entries Value
  metadata : Option Metadata
  deriving Repr

/-- What was generated for one record. The prompt is there if it was filled in from the record. -/
structure GeneratedEntry where
  record : Record
  result : Option String
  error : Option String
  prompt : Option (List ChatMessage)
  deriving Repr

/-- Whether the generation failed; an empty text tells of no error. -/
def GeneratedEntry.isFailed (e : GeneratedEntry) : Bool := e.error.any (!·.isEmpty)

/-- The generated part of a result. -/
inductive Generated
  | perRecord (entries : List GeneratedEntry)
  | overAll (result error : Option String)
  | answer (text : Option String) (sources : List Record) (error : Option String)
  deriving Repr

/-- A step of the place that a reported error names. -/
inductive ErrorStep
  | name (s : String)
  | index (n : Int)
  deriving DecidableEq, Repr

/-- An error that the backend reported beside its data. -/
structure ReportedError where
  message : String
  path : List ErrorStep
  code : Option String
  deriving DecidableEq, Repr

/-- The number of items in a result and, if it is known, of all there are. -/
structure Extent where
  count : Nat
  total : Option Int
  deriving DecidableEq, Repr

structure RecordResult where
  collection : String
  records : List Record
  extent : Extent
  generated : Option Generated
  errors : List ReportedError
  deriving Repr

/-- The statistics of a group, or of all records if there is no key. -/
structure Group where
  key : Value
  path : List String
  count : Option Int
  statistics : Entries (Entries Value)
  deriving Repr

structure GroupResult where
  collection : String
  groups : List Group
  extent : Extent
  errors : List ReportedError
  deriving Repr

inductive QueryResult
  | records (r : RecordResult)
  | groups (r : GroupResult)
  deriving Repr

def QueryResult.errors : QueryResult → List ReportedError
  | .records r => r.errors
  | .groups r => r.errors

end Retrieval
