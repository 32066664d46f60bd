import Retrieval.Selection.Basic

/-!
The text of a selection. A property is a field; an element of a list property is a field under an
alias of its own, so that it does not clash with the property.
-/

namespace Retrieval

/-- A field with its sub-selection, if there is one. -/
def fieldText (head : String) (nested : Bool) (fields : List String) : String :=
  if nested then head ++ " \x7b " ++ " ".intercalate fields ++ " \x7d" else head

namespace SelectionTree

mutual

/-- The fields of one step inside the selection of its parent. -/
def nodeFields : SelectionNode → List String
  | .node (.index _) _ => []
  | .node (.property name) children =>
    (if hasProperty children || !hasIndex children then
      [fieldText name (hasProperty children) (fields children)] else [])
      ++ elementFields name children

/-- The fields of a selection. -/
def fields : List SelectionNode → List String
  | [] => []
  | n :: rest => nodeFields n ++ fields rest

/-- The fields of the selected elements of a list property. -/
def elementFields (name : String) : List SelectionNode → List String
  | [] => []
  | .node (.index i) children :: rest =>
    fieldText (elementAlias name i ++ ": " ++ name ++ "(index: " ++ toString i ++ ")")
      (!children.isEmpty) (fields children) :: elementFields name rest
  | .node (.property _) _ :: rest => elementFields name rest

end

end SelectionTree

end Retrieval
