import Retrieval.Proofs.Answering
import Retrieval.Proofs.Fragments

/-!
The outline of a selection. Main statement: the text of the selection of some paths asks for the
fields of the selection and for nothing else, if the properties along the paths are names.
-/

namespace Retrieval

open Document
open Literal (IsName isName isNameChar)

/-- The head of a field as a document has it. -/
def FieldHead.outlined (h : FieldHead) : Head :=
  match h.element with
  | none => { name := h.name }
  | some i => { alias? := some (elementAlias h.name i), name := h.name, arguments := ["index"] }

namespace FieldRequest

mutual

/-- The outline of a field. -/
def shape : FieldRequest → Shape
  | .bare h => .field h.outlined []
  | .nested h fields => .field h.outlined (shapes fields)

def shapes : List FieldRequest → List Shape
  | [] => []
  | f :: fs => shape f :: shapes fs

end

/-- A field whose properties are names, with something in every selection. -/
inductive IsNamed : FieldRequest → Prop
  | bare {head : FieldHead} : IsName head.name → IsNamed (.bare head)
  | nested {head : FieldHead} {fields : List FieldRequest} :
    IsName head.name → fields ≠ [] → (∀ f ∈ fields, IsNamed f) → IsNamed (.nested head fields)

end FieldRequest

theorem isName_append {name : String} {cs : List Char} (h : IsName name)
    (hcs : ∀ c ∈ cs, isNameChar c = true) : IsName (name ++ String.ofList cs) := by
  unfold IsName at h ⊢
  rw [String.toList_append, String.toList_ofList]
  cases hname : name.toList with
  | nil => simp [hname, isName] at h
  | cons c rest =>
    simp only [hname, isName, Bool.and_eq_true, List.all_eq_true] at h
    simp only [List.cons_append, isName, Bool.and_eq_true, List.all_eq_true]
    refine ⟨h.1, fun d hd => ?_⟩
    obtain hd | hd := List.mem_append.mp hd
    · exact h.2 d hd
    · exact hcs d hd

theorem isName_elementAlias {name : String} (h : IsName name) (i : Nat) :
    IsName (elementAlias name i) := by
  have hall : ∀ c ∈ '_' :: '_' :: Nat.toDigits 10 i, isNameChar c = true := by
    intro c hc
    obtain rfl | hc := List.mem_cons.mp hc
    · decide
    obtain rfl | hc := List.mem_cons.mp hc
    · decide
    have hdigit := Nat.isDigit_of_mem_toDigits (by decide) (by decide) hc
    simp [isNameChar, hdigit]
  have halias : elementAlias name i = name ++ String.ofList ('_' :: '_' :: Nat.toDigits 10 i) := by
    have hdigits : toString i = String.ofList (Nat.toDigits 10 i) := rfl
    simp [elementAlias, hdigits, ← String.toList_inj]
  rw [halias]
  exact isName_append h hall

/-- A field with the argument that picks an element. -/
theorem asks_index {text name : String} {alias? : Option String} (i : Nat)
    (h : Asks text [.field { alias?, name } []]) :
    Asks (text ++ ("(index: " ++ toString i ++ ")"))
      [.field { alias?, name, arguments := ["index"] } []] := by
  have hdigits : (Number.integer i).toList = (toString i).toList := by
    have hneg : ¬ ((i : Int) < 0) := by omega
    simp [Number.integer, hneg]
    rfl
  have hvalue := (lexes_numeral (Literal.isNumeral_integer i)).blank (c := ' ') (by decide)
  have hname : Literal.isName "index".toList = true := rfl
  have hfield := (lexes_name hname).append_cons (by decide) (hvalue.mark (c := ':') (by decide))
  have hnumeral : IsValue [.numeral (Number.integer i).toList] := isValue_single (by simp)
  have hkeys := areFields_append "index" hnumeral areFields_nil
  have htext : "(index: " ++ toString i ++ ")" = String.ofList (['('] ++
      ("index".toList ++ ':' :: ' ' :: (Number.integer i).toList) ++ [')']) := by
    simp [hdigits, ← String.toList_inj]
  rw [htext]
  exact h.parenthesized hfield hkeys (by simp)

theorem FieldHead.asks_text {h : FieldHead} (hname : IsName h.name) :
    Asks h.text [.field h.outlined []] := by
  obtain ⟨name, element⟩ := h
  cases element with
  | none => exact asks_name name hname
  | some i =>
    have halias := asks_alias (isName_elementAlias hname i) hname
    simpa [FieldHead.text, FieldHead.outlined, String.append_assoc] using asks_index i halias

namespace FieldRequest

theorem shapes_ne_nil {fields : List FieldRequest} (h : fields ≠ []) : shapes fields ≠ [] := by
  cases fields with
  | nil => exact absurd rfl h
  | cons f fs => simp [shapes]

mutual

theorem asks_text (f : FieldRequest) (h : f.IsNamed) : Asks f.text [f.shape] := by
  cases f with
  | bare head =>
    obtain ⟨hname⟩ := h
    exact FieldHead.asks_text hname
  | nested head fields =>
    cases h with
    | nested hname hne hfields =>
      exact (FieldHead.asks_text hname).nested (asks_intercalate (asks_texts fields hfields))
        (shapes_ne_nil hne)

theorem asks_texts (fields : List FieldRequest) (h : ∀ f ∈ fields, f.IsNamed) :
    List.Forall₂ (fun text shape => Asks text [shape]) (texts fields) (shapes fields) := by
  cases fields with
  | nil => exact .nil
  | cons f rest =>
    exact .cons (asks_text f (h f (by simp))) (asks_texts rest fun g hg => h g (by simp [hg]))

end

end FieldRequest

/-- A step where all properties are names, with nothing but properties right below an element. -/
inductive SelectionNode.IsNamed : SelectionNode → Prop
  | property {name : String} {children : SelectionTree} :
    IsName name → (∀ n ∈ children, IsNamed n) → IsNamed (.node (.property name) children)
  | index {i : Nat} {children : SelectionTree} : (∀ n ∈ children, n.key.isIndex = false) →
    (∀ n ∈ children, IsNamed n) → IsNamed (.node (.index i) children)

namespace SelectionTree

theorem mem_alter {key : Segment} {change : SelectionTree → SelectionTree} {tree : SelectionTree}
    {n : SelectionNode} (h : n ∈ alter key change tree) : n ∈ tree ∨ ∃ children,
      n = .node key (change children) ∧ (children = [] ∨ .node key children ∈ tree) := by
  induction tree with
  | nil => exact .inr ⟨[], List.mem_singleton.mp h, .inl rfl⟩
  | cons m rest ih =>
    obtain ⟨k, below⟩ := m
    by_cases hk : k = key
    · rw [alter, if_pos hk] at h
      obtain rfl | h := List.mem_cons.mp h
      · exact .inr ⟨below, by rw [hk], .inr (by simp [hk])⟩
      · exact .inl (List.mem_cons_of_mem _ h)
    · rw [alter, if_neg hk] at h
      obtain rfl | h := List.mem_cons.mp h
      · exact .inl List.mem_cons_self
      · obtain h | ⟨children, hn, hchildren⟩ := ih h
        · exact .inl (List.mem_cons_of_mem _ h)
        · exact .inr ⟨children, hn, hchildren.imp_right (List.mem_cons_of_mem _)⟩

/-- Steps that are named; after an index they are all properties. -/
def AreNamed (afterIndex : Bool) (tree : SelectionTree) : Prop :=
  ∀ n ∈ tree, n.IsNamed ∧ (afterIndex = true → n.key.isIndex = false)

theorem areNamed_of_isNamed {key : Segment} {children : SelectionTree}
    (h : (SelectionNode.node key children).IsNamed) : AreNamed key.isIndex children := by
  cases h with
  | property hname hchildren => exact fun n hn => ⟨hchildren n hn, nofun⟩
  | index hproperties hchildren => exact fun n hn => ⟨hchildren n hn, fun _ => hproperties n hn⟩

/-- Adding a path with names for properties and no two indexes in a row. -/
theorem AreNamed.insert {afterIndex : Bool} {tree : SelectionTree} (h : AreNamed afterIndex tree)
    {path : List Segment} (halternates : FieldPath.Alternates afterIndex path)
    (hnames : ∀ name ∈ path.filterMap Segment.name?, IsName name) :
    AreNamed afterIndex (SelectionTree.insert path tree) := by
  induction path generalizing afterIndex tree with
  | nil => exact h
  | cons key rest ih =>
    intro n hn
    obtain hn | ⟨children, rfl, hchildren⟩ := mem_alter hn
    · exact h n hn
    have hbelow : AreNamed key.isIndex children := by
      obtain rfl | hmem := hchildren
      · exact List.forall_mem_nil _
      · exact areNamed_of_isNamed (h _ hmem).1
    cases key with
    | property name =>
      have hinside := ih hbelow halternates fun other hother =>
        hnames other (List.mem_cons_of_mem _ hother)
      exact ⟨.property (hnames name List.mem_cons_self) fun m hm => (hinside m hm).1,
        fun _ => rfl⟩
    | index i =>
      have hinside := ih hbelow halternates.2 hnames
      refine ⟨.index (fun m hm => (hinside m hm).2 rfl) fun m hm => (hinside m hm).1, ?_⟩
      intro htrue
      rw [halternates.1] at htrue
      cases htrue

theorem areNamed_ofPaths {paths : List FieldPath}
    (halternates : ∀ p ∈ paths, FieldPath.Alternates false p.segments)
    (hnames : ∀ p ∈ paths, ∀ name ∈ p.propertyNames, IsName name) :
    AreNamed false (ofPaths paths) := by
  have hfold : ∀ tree, AreNamed false tree →
      AreNamed false (paths.foldl (fun tree p => SelectionTree.insert p.segments tree) tree) := by
    induction paths with
    | nil => exact fun _ h => h
    | cons p rest ih =>
      intro tree htree
      exact ih (fun q hq => halternates q (by simp [hq])) (fun q hq => hnames q (by simp [hq])) _
        (htree.insert (halternates p (by simp)) (hnames p (by simp)))
  exact hfold [] (List.forall_mem_nil _)

theorem requestedElements_ne_nil {children : SelectionTree} (h : hasIndex children = true)
    (name : String) : requestedElements name children ≠ [] := by
  induction children with
  | nil => cases h
  | cons n rest ih =>
    obtain ⟨k, below⟩ := n
    cases k with
    | property other => exact ih (by simpa [hasIndex, Segment.isIndex] using h)
    | index i => exact List.cons_ne_nil _ _

/-- Something is asked for if some property is selected. -/
theorem requested_ne_nil {tree : SelectionTree} (h : hasProperty tree = true) :
    requested tree ≠ [] := by
  induction tree with
  | nil => cases h
  | cons n rest ih =>
    obtain ⟨k, children⟩ := n
    rw [requested]
    cases k with
    | index i =>
      have hrest := ih (by simpa [hasProperty, Segment.isIndex] using h)
      simpa using fun _ => hrest
    | property name =>
      have hnode : requestedNode (.node (.property name) children) ≠ [] := by
        rw [requestedNode]
        cases hp : hasProperty children with
        | true => simp
        | false =>
          cases hi : hasIndex children with
          | true => simpa using requestedElements_ne_nil hi name
          | false => simp
      simp [hnode]

mutual

theorem isNamed_requestedNode {n : SelectionNode} (h : n.IsNamed) :
    ∀ f ∈ requestedNode n, f.IsNamed := by
  cases h with
  | index => exact List.forall_mem_nil _
  | @property name children hname hchildren =>
    rw [requestedNode, List.forall_mem_append]
    refine ⟨?_, isNamed_requestedElements hname hchildren⟩
    split
    · next hp =>
      exact List.forall_mem_singleton.mpr
        (.nested hname (requested_ne_nil hp) (isNamed_requested hchildren))
    · split
      · exact List.forall_mem_nil _
      · exact List.forall_mem_singleton.mpr (.bare hname)

/-- The fields of a named selection are named, and none is asked for nothing. -/
theorem isNamed_requested {tree : SelectionTree} (h : ∀ n ∈ tree, n.IsNamed) :
    ∀ f ∈ requested tree, f.IsNamed := by
  cases tree with
  | nil => exact List.forall_mem_nil _
  | cons n rest =>
    rw [requested, List.forall_mem_append]
    exact ⟨isNamed_requestedNode (h n List.mem_cons_self),
      isNamed_requested fun m hm => h m (List.mem_cons_of_mem _ hm)⟩

theorem isNamed_requestedElements {name : String} (hname : IsName name) {tree : SelectionTree}
    (h : ∀ n ∈ tree, n.IsNamed) : ∀ f ∈ requestedElements name tree, f.IsNamed := by
  cases tree with
  | nil => exact List.forall_mem_nil _
  | cons n rest =>
    have hrest := isNamed_requestedElements hname fun m hm => h m (List.mem_cons_of_mem _ hm)
    obtain ⟨k, children⟩ := n
    cases k with
    | property other => exact hrest
    | index i =>
      rw [requestedElements, List.forall_mem_cons]
      refine ⟨?_, hrest⟩
      cases h _ List.mem_cons_self with
      | index hproperties hchildren =>
        cases children with
        | nil => exact .bare hname
        | cons m more =>
          have hproperty : hasProperty (m :: more) = true := by
            simp [hasProperty, hproperties m (by simp)]
          exact .nested hname (requested_ne_nil hproperty) (isNamed_requested hchildren)

end

/-- The outline of a selection. -/
def shapes (tree : SelectionTree) : List Shape := FieldRequest.shapes (requested tree)

/-- The texts of a selection ask for its fields. -/
theorem asks_fields {tree : SelectionTree} (h : AreNamed false tree) :
    List.Forall₂ (fun text shape => Asks text [shape]) (fields tree) (shapes tree) := by
  rw [fields_eq]
  exact FieldRequest.asks_texts _ (isNamed_requested fun n hn => (h n hn).1)

end SelectionTree

end Retrieval
