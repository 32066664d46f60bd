import Retrieval.Selection.Render
import Retrieval.Proofs.Folding

/-!
The fields that a selection asks for, and a backend that answers them from a record. Main
statements: the text of a selection is that of its fields, and on a level whose siblings do not meet
the answer under the keys of a property is that to its own fields.
-/

namespace Retrieval

/-- What stands under a name; null if nothing does. -/
def valueUnder (name : String) (es : Entries Value) : Value := (Entries.get? name es).getD .null

/-- The item of a list at a position; null if there is none. -/
def itemAt (i : Nat) (v : Value) : Value := (listItems (some v))[i]?.getD .null

/-- Looks into an object, or into each object of a list. There is nothing in what is no object. -/
def eachObject (look : Entries Value → Value) : Value → Value
  | .map es => look es
  | .seq .list items =>
    .list (items.map fun
      | .map es => look es
      | _ => .null)
  | _ => .null

/-- What a field asks of a record: a property, or one element of a list property. -/
structure FieldHead where
  name : String
  element : Option Nat

namespace FieldHead

/-- The key under which the answer comes. -/
def key (h : FieldHead) : String :=
  match h.element with
  | none => h.name
  | some i => elementAlias h.name i

/-- A field as it is written; an element stands behind its alias. -/
def text (h : FieldHead) : String :=
  match h.element with
  | none => h.name
  | some i => elementAlias h.name i ++ ": " ++ h.name ++ "(index: " ++ toString i ++ ")"

/-- What the record holds for a field. An element out of range is null. -/
def value (h : FieldHead) (record : Entries Value) : Value :=
  match h.element with
  | none => valueUnder h.name record
  | some i => itemAt i (valueUnder h.name record)

end FieldHead

/-- A field of a selection, bare or with a selection of its own. -/
inductive FieldRequest
  | bare (head : FieldHead)
  | nested (head : FieldHead) (fields : List FieldRequest)

namespace FieldRequest

def head : FieldRequest → FieldHead
  | .bare h => h
  | .nested h _ => h

mutual

def text : FieldRequest → String
  | .bare h => h.text
  | .nested h fields => h.text ++ " \x7b " ++ " ".intercalate (texts fields) ++ " \x7d"

def texts : List FieldRequest → List String
  | [] => []
  | f :: fs => text f :: texts fs

end

mutual

/-- What a backend answers to a field: what the record holds, or what its own fields are answered in
each object of it. -/
def answer : FieldRequest → Entries Value → Value
  | .bare h, record => h.value record
  | .nested h fields, record => eachObject (fun es => .map (answerAll fields es)) (h.value record)

/-- The answer to a selection. -/
def answerAll : List FieldRequest → Entries Value → Entries Value
  | [], _ => []
  | f :: fs, record => (f.head.key, answer f record) :: answerAll fs record

end

end FieldRequest

namespace SelectionTree

mutual

/-- The fields of one step: the property, unless only elements of it are selected, and each selected
element. -/
def requestedNode : SelectionNode → List FieldRequest
  | .node (.index _) _ => []
  | .node (.property name) children =>
    (if hasProperty children then [.nested ⟨name, none⟩ (requested children)]
      else if hasIndex children then []
      else [.bare ⟨name, none⟩]) ++ requestedElements name children

/-- The fields of a selection. -/
def requested : List SelectionNode → List FieldRequest
  | [] => []
  | n :: rest => requestedNode n ++ requested rest

def requestedElements (name : String) : List SelectionNode → List FieldRequest
  | [] => []
  | .node (.property _) _ :: rest => requestedElements name rest
  | .node (.index i) children :: rest =>
    (if children.isEmpty then .bare ⟨name, some i⟩ else .nested ⟨name, some i⟩ (requested children))
      :: requestedElements name rest

end

theorem texts_append (fs gs : List FieldRequest) :
    FieldRequest.texts (fs ++ gs) = FieldRequest.texts fs ++ FieldRequest.texts gs := by
  induction fs with
  | nil => rfl
  | cons f rest ih => simp [FieldRequest.texts, ih]

mutual

theorem nodeFields_eq (n : SelectionNode) :
    nodeFields n = FieldRequest.texts (requestedNode n) := by
  obtain ⟨k, children⟩ := n
  cases k with
  | index i => rfl
  | property name =>
    rw [nodeFields, requestedNode, texts_append, elementFields_eq name children]
    cases hp : hasProperty children with
    | true =>
      rw [fields_eq children]
      simp [fieldText, FieldRequest.texts, FieldRequest.text, FieldHead.text]
    | false =>
      cases hi : hasIndex children <;>
        simp [fieldText, FieldRequest.texts, FieldRequest.text, FieldHead.text]

/-- The text of a selection is that of its fields. -/
theorem fields_eq (tree : List SelectionNode) :
    fields tree = FieldRequest.texts (requested tree) := by
  cases tree with
  | nil => rfl
  | cons n rest => rw [fields, requested, texts_append, nodeFields_eq n, fields_eq rest]

theorem elementFields_eq (name : String) (children : List SelectionNode) :
    elementFields name children = FieldRequest.texts (requestedElements name children) := by
  cases children with
  | nil => rfl
  | cons n rest =>
    obtain ⟨k, below⟩ := n
    cases k with
    | property other => exact elementFields_eq name rest
    | index i =>
      rw [elementFields, requestedElements, FieldRequest.texts, elementFields_eq name rest,
        fields_eq below]
      cases below <;> rfl

end

theorem answerAll_append (fs gs : List FieldRequest) (record : Entries Value) :
    FieldRequest.answerAll (fs ++ gs) record =
      FieldRequest.answerAll fs record ++ FieldRequest.answerAll gs record := by
  induction fs with
  | nil => rfl
  | cons f rest ih => simp [FieldRequest.answerAll, ih]

variable {level children below : SelectionTree} {name key : String}

/-- The answer to the fields of a level. -/
def answered (level : SelectionTree) (record : Entries Value) : Entries Value :=
  FieldRequest.answerAll (requested level) record

theorem answered_append (before after : SelectionTree) (record : Entries Value) :
    answered (before ++ after) record = answered before record ++ answered after record := by
  induction before with
  | nil => rfl
  | cons n rest ih =>
    rw [answered, answered] at ih ⊢
    rw [List.cons_append, requested, requested, answerAll_append, answerAll_append, ih,
      List.append_assoc, answered]

/-- What is answered of a value below which a level is selected. -/
def answeredValue (level : SelectionTree) (v : Value) : Value :=
  if level.isEmpty then v else eachObject (fun es => .map (answered level es)) v

theorem requestedElements_of_no_index (h : hasIndex children = false) (name : String) :
    requestedElements name children = [] := by
  induction children with
  | nil => rfl
  | cons n rest ih =>
    obtain ⟨k, below⟩ := n
    cases k with
    | property other => exact ih (by simpa [hasIndex, Segment.isIndex] using h)
    | index i => simp [hasIndex, Segment.isIndex] at h

theorem get?_answerElements_other (h : ∀ i, .index i ∈ keys children → key ≠ elementAlias name i)
    (record : Entries Value) :
    Entries.get? key (FieldRequest.answerAll (requestedElements name children) record) = none := by
  induction children with
  | nil => rfl
  | cons n rest ih =>
    obtain ⟨k, below⟩ := n
    have hrest := ih fun i hi => h i (List.mem_cons_of_mem _ hi)
    cases k with
    | property other => exact hrest
    | index i =>
      have hne : elementAlias name i ≠ key := (h i List.mem_cons_self).symm
      rw [requestedElements, FieldRequest.answerAll]
      cases below <;> exact (if_neg hne).trans hrest

/-- The answer under the alias of a selected element. -/
theorem get?_answerElements_alias {i : Nat} (hnodup : (keys children).Nodup)
    (h : .node (.index i) below ∈ children) (record : Entries Value) :
    Entries.get? (elementAlias name i)
      (FieldRequest.answerAll (requestedElements name children) record) =
        some (answeredValue below (itemAt i (valueUnder name record))) := by
  induction children with
  | nil => cases h
  | cons n rest ih =>
    obtain ⟨k, others⟩ := n
    obtain ⟨hfresh, hrest⟩ := List.nodup_cons.mp hnodup
    obtain heq | hmem := List.mem_cons.mp h
    · obtain ⟨rfl, rfl⟩ := SelectionNode.node.inj heq
      rw [requestedElements, FieldRequest.answerAll]
      cases below <;> exact if_pos rfl
    · have hlater := ih hrest hmem
      cases k with
      | property other => exact hlater
      | index j =>
        have hne : elementAlias name j ≠ elementAlias name i := by
          intro heq
          obtain rfl := (eq_of_elementAlias_eq heq).2
          exact hfresh (mem_keys_of_mem hmem)
        rw [requestedElements, FieldRequest.answerAll]
        cases others <;> exact (if_neg hne).trans hlater

/-- A step is answered under the keys that it touches. -/
theorem get?_answerNode_other {n : SelectionNode} (h : ¬ Touches n key) (record : Entries Value) :
    Entries.get? key (FieldRequest.answerAll (requestedNode n) record) = none := by
  obtain ⟨k, children⟩ := n
  cases k with
  | index i => rfl
  | property name =>
    have hname : name ≠ key := fun heq => h (.inl heq.symm)
    have helements := get?_answerElements_other
      (fun i hi heq => h (.inr ⟨i, hi, heq⟩)) record
    rw [requestedNode]
    cases hasProperty children with
    | true => exact (if_neg hname).trans helements
    | false =>
      cases hasIndex children with
      | true => exact helements
      | false => exact (if_neg hname).trans helements

theorem get?_answered_other (h : ∀ n ∈ level, ¬ Touches n key) (record : Entries Value) :
    Entries.get? key (answered level record) = none := by
  induction level with
  | nil => rfl
  | cons n rest ih =>
    rw [answered, requested, answerAll_append, Entries.get?_append,
      get?_answerNode_other (h n List.mem_cons_self)]
    exact ih fun m hm => h m (List.mem_cons_of_mem _ hm)

/-- On a separate level each property is answered as if it stood alone. -/
theorem IsSeparate.get?_answered (h : IsSeparate level)
    (hmem : .node (.property name) children ∈ level)
    (hkey : Touches (.node (.property name) children) key) (record : Entries Value) :
    Entries.get? key (answered level record) =
      Entries.get? key
        (FieldRequest.answerAll (requestedNode (.node (.property name) children)) record) := by
  obtain ⟨before, after, rfl, hapart⟩ := h.split hmem
  have hbefore := get?_answered_other
    (fun n hn => hapart n (List.mem_append_left _ hn) key hkey) record
  have hafter := get?_answered_other
    (fun n hn => hapart n (List.mem_append_right _ hn) key hkey) record
  rw [answered_append, Entries.get?_append, hbefore, Option.none_or, answered, requested,
    answerAll_append, Entries.get?_append]
  exact (congrArg (Option.or _) hafter).trans Option.or_none

/-- A property without selected elements is answered under its name. -/
theorem IsSeparate.get?_answered_name (h : IsSeparate level)
    (hmem : .node (.property name) children ∈ level) (hindex : hasIndex children = false)
    (record : Entries Value) :
    Entries.get? name (answered level record) =
      some (answeredValue children (valueUnder name record)) := by
  rw [h.get?_answered hmem (.inl rfl), requestedNode, requestedElements_of_no_index hindex]
  cases children with
  | nil => exact if_pos rfl
  | cons n rest =>
    have hproperty : hasProperty (n :: rest) = true := by
      have hn : n.key.isIndex = false := (Bool.or_eq_false_iff.mp hindex).1
      simp [hasProperty, hn]
    rw [if_pos hproperty]
    exact if_pos rfl

/-- Of a property with selected elements only these are answered. -/
theorem IsSeparate.get?_answered_elements (h : IsSeparate level)
    (hmem : .node (.property name) children ∈ level) (hproperty : hasProperty children = false)
    (hindex : hasIndex children = true) (hkey : Touches (.node (.property name) children) key)
    (record : Entries Value) :
    Entries.get? key (answered level record) =
      Entries.get? key (FieldRequest.answerAll (requestedElements name children) record) := by
  rw [h.get?_answered hmem hkey, requestedNode, hproperty, hindex]
  rfl

end SelectionTree

end Retrieval
