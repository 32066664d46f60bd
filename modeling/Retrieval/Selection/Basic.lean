import Retrieval.FieldPath

/-!
Selection trees: the paths of a selection merged into nested steps. Siblings have distinct keys, in
the order in which the paths bring them up.
-/

namespace Retrieval

/-- A step with the steps selected below it. -/
inductive SelectionNode
  | node (key : Segment) (children : List SelectionNode)
  deriving Repr

abbrev SelectionTree := List SelectionNode

namespace SelectionNode

def key : SelectionNode → Segment
  | .node key _ => key

def children : SelectionNode → SelectionTree
  | .node _ children => children

@[simp] theorem key_node (k : Segment) (cs : SelectionTree) : key (.node k cs) = k := rfl
@[simp] theorem children_node (k : Segment) (cs : SelectionTree) : children (.node k cs) = cs := rfl

end SelectionNode

namespace SelectionTree

/-- Changes what is below a key, which is added at the end if it is missing. -/
def alter (key : Segment) (change : SelectionTree → SelectionTree) :
    SelectionTree → SelectionTree
  | [] => [.node key (change [])]
  | .node k children :: rest =>
    if k = key then .node k (change children) :: rest
    else .node k children :: alter key change rest

/-- Adds the steps of a path. -/
def insert : List Segment → SelectionTree → SelectionTree
  | [], tree => tree
  | key :: rest, tree => alter key (insert rest) tree

/-- The tree of some paths. -/
def ofPaths (paths : List FieldPath) : SelectionTree :=
  paths.foldl (fun tree p => insert p.segments tree) []

/-- The keys of the siblings at the top. -/
def keys (tree : SelectionTree) : List Segment := tree.map SelectionNode.key

/-- Whether some sibling is a property. -/
def hasProperty (tree : SelectionTree) : Bool := tree.any fun n => !n.key.isIndex

/-- Whether some sibling is an index. -/
def hasIndex (tree : SelectionTree) : Bool := tree.any fun n => n.key.isIndex

theorem keys_alter (key : Segment) (change : SelectionTree → SelectionTree)
    (tree : SelectionTree) :
    keys (alter key change tree) = if key ∈ keys tree then keys tree else keys tree ++ [key] := by
  induction tree with
  | nil => simp [alter, keys]
  | cons n rest ih =>
    obtain ⟨k, children⟩ := n
    by_cases h : k = key
    · simp [alter, keys, h]
    · simp only [alter, if_neg h, keys, List.map_cons, SelectionNode.key_node] at ih ⊢
      rw [ih]
      by_cases hk : key ∈ List.map SelectionNode.key rest
      · simp [hk]
      · simp [hk, Ne.symm h]

end SelectionTree

/-- Whether one path leads through another to something below it. -/
def FieldPath.isAbove (p other : FieldPath) : Bool :=
  p.segments.length < other.segments.length && p.segments.isPrefixOf other.segments

/-- The paths that another selected path goes through; what is fetched for them is less. -/
def shadowedPaths (paths : List FieldPath) : List FieldPath :=
  paths.filter fun p => paths.any p.isAbove

/-- The response key of one element of a list property. -/
def elementAlias (name : String) (i : Nat) : String := name ++ "__" ++ toString i

end Retrieval
