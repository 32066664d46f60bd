import Retrieval.Schema.Field

/-!
Search directives: by concept, by words, by both, around a vector, around a record.
-/

namespace Retrieval

open Schema

inductive Fusion
  | ranked
  | relativeScore
  deriving DecidableEq, Repr

def Fusion.name : Fusion → String
  | .ranked => "rankedFusion"
  | .relativeScore => "relativeScoreFusion"

/-- Where the vector of a vector search comes from. -/
inductive VectorSource
  | vector (components : List Float) (property : Option String)
  | record (id : String) (property : String)
  deriving Repr

inductive Search
  | about (concept : String) (certainty : Option Float)
  | words (text : String) (properties : List String)
  | hybrid (text : String) (alpha : Float) (fusion : Option Fusion)
      (weights : List (String × Float))
  | nearVector (source : VectorSource) (distance : Float)
  | similar (id : String) (distance : Option Float)
  deriving Repr

namespace Search

def kind : Search → String
  | .about .. => "about"
  | .words .. => "match"
  | .hybrid .. => "find"
  | .nearVector .. => "near_vector"
  | .similar .. => "similar"

/-- Whether the search works on a text; only such texts can be spell-checked. -/
def isTextual : Search → Bool
  | .about .. | .words .. | .hybrid .. => true
  | .nearVector .. | .similar .. => false

/-- The bounds of certainties and blends. -/
def unitInterval : Bounds := { atMost := some 1.0, atLeast := some 0.0 }

/-- The bounds of distances. -/
def distanceBounds : Bounds := { atLeast := some 0.0 }

def readAbout (concept certainty : Value) : Checked Search :=
  Search.about <$> given "concept" text concept
    <*> given "certainty" (optional (realWithin unitInterval)) certainty

def readWords (phrase : Value) (properties : List Value) : Checked Search :=
  Search.words <$> given "text" text phrase <*> (items text properties).under (.field "properties")

/-- A property with its weight: the places of the issues are those in a pair. -/
def readWeight : String × Value → Checked (String × Float)
  | (name, weight) => (fun w => (name, w)) <$> (real weight).under (.index 1)

/-- The weights from position `n` on. -/
def readWeights : Nat → List (String × Value) → Checked (List (String × Float))
  | _, [] => .valid []
  | n, w :: ws => List.cons <$> (readWeight w).under (.index n) <*> readWeights (n + 1) ws

def fusions : List (String × Fusion) :=
  [("rankedFusion", .ranked), ("relativeScoreFusion", .relativeScore)]

def readHybrid (phrase alpha fusion : Value) (weights : List (String × Value)) :
    Checked Search :=
  Search.hybrid <$> given "text" text phrase
    <*> given "alpha" (realWithin unitInterval) alpha
    <*> given "fusion_type" (optional (choice fusions)) fusion
    <*> (readWeights 0 weights).under (.field "property_weights")

/-- The vector comes from exactly one source, and a record's is that of a property. -/
def vectorSource? : Option (List Float) → Option String → Option String →
    Except String VectorSource
  | some vector, none, property =>
    if vector.isEmpty then .error "near_vector 'vector' must not be empty."
    else .ok (.vector vector property)
  | none, some id, property =>
    match property with
    | none | some "" =>
      .error "near_vector with 'source_id' needs the vectorized 'property'."
    | some p => .ok (.record id p)
  | _, _, _ => .error "near_vector needs exactly one of 'vector' or 'source_id'."

def readNearVector (vector : Option (List Value)) (distance id property : Value) :
    Checked Search :=
  let components : Checked (Option (List Float)) :=
    match vector with
    | none => .valid none
    | some vs => some <$> (items real vs).under (.field "vector")
  let fields : Checked (Option (List Float) × Option String × Option String × Float) :=
    (fun v i p d => (v, i, p, d)) <$> components
      <*> given "source_id" (optional text) id
      <*> given "property" (optional text) property
      <*> given "distance" (realWithin distanceBounds) distance
  fields.bind fun (v, i, p, d) =>
    match vectorSource? v i p with
    | .ok source => .valid (.nearVector source d)
    | .error message => .refuse (.rule message)

def readSimilar (id distance : Value) : Checked Search :=
  Search.similar <$> given "source_id" text id
    <*> given "distance" (optional (realWithin distanceBounds)) distance

end Search

end Retrieval
