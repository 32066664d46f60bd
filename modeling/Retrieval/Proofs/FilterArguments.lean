import Retrieval.Compilation.Argument
import Retrieval.Proofs.Comparisons
import Retrieval.Proofs.Digits

/-!
Filters read back from their arguments. Steps of a path are told apart by their texts, comparisons
and connectives by their names, and a list stands for the tuple that it was. Main statement: every
filter that a query can have is read back from the argument that it compiles to, so that different
filters have different arguments.
-/

namespace Retrieval

namespace Segment

/-- The step that a text stands for: digits are an index, and all else is a name. -/
def ofText (s : String) : Segment :=
  if Text.isAllDigitLike s.toList then .index (Nat.ofDigitChars 10 s.toList 0) else .property s

@[simp] theorem ofText_index (i : Nat) : ofText (text (.index i)) = .index i := by
  have htext : (text (.index i)).toList = Nat.toDigits 10 i := Nat.toList_repr
  have hdigits : Text.isAllDigitLike (text (.index i)).toList = true :=
    Text.isAllDigitLike_toString i
  rw [ofText, if_pos hdigits, htext, Nat.ofDigitChars_ten_toDigits]

theorem ofText_property {name : String} (h : Text.isAllDigitLike name.toList = false) :
    ofText (text (.property name)) = .property name := by
  rw [ofText, text, h]
  rfl

end Segment

namespace FieldPath

/-- The path of some steps; the first must be a property. -/
def ofSegments? : List Segment → Option FieldPath
  | .property root :: rest => some ⟨root, rest⟩
  | _ => none

theorem ofSegments?_segments (p : FieldPath) : ofSegments? p.segments = some p := rfl

/-- The steps of a plain path are told by their texts. -/
theorem IsPlain.map_ofText {p : FieldPath} (h : p.IsPlain) :
    (p.segments.map Segment.text).map Segment.ofText = p.segments := by
  have hstep : ∀ s ∈ p.segments, Segment.ofText s.text = s := by
    intro s hs
    cases s with
    | index i => exact Segment.ofText_index i
    | property name =>
      have hname : name ∈ p.propertyNames := List.mem_filterMap.mpr ⟨_, hs, rfl⟩
      exact Segment.ofText_property (h.names name hname).2
  calc (p.segments.map Segment.text).map Segment.ofText
      = p.segments.map (Segment.ofText ∘ Segment.text) := List.map_map
    _ = p.segments.map id := List.map_congr_left hstep
    _ = p.segments := List.map_id _

end FieldPath

/-- The comparison of a name. -/
def Comparison.ofName? (s : String) : Option Comparison :=
  [.equal, .notEqual, .greaterThan, .greaterThanEqual, .lessThan, .lessThanEqual, .like, .containsAny,
    .containsAll, .isNull].find? fun c => c.name = s

@[simp] theorem Comparison.ofName?_name (c : Comparison) : ofName? c.name = some c := by
  cases c <;> decide

/-- The connective of a name. -/
def Connective.ofName? (s : String) : Option Connective := [.and, .or].find? fun c => c.name = s

@[simp] theorem Connective.ofName?_name (c : Connective) : ofName? c.name = some c := by
  cases c <;> decide

namespace Compilation

/-- The path that a list of texts names. -/
def readPath (steps : List Value) : Option FieldPath := do
  FieldPath.ofSegments? ((← steps.mapM Value.text?).map Segment.ofText)

/-- What a field is compared with: a list was a tuple. -/
def readOperand : Value → Value
  | .seq .list items => .seq .tuple items
  | v => v

mutual

/-- The filter of an argument. -/
def readFilter : Value → Option Predicate
  | .map [("operator", .word connective), ("operands", .seq .list operands)] => do
    return .group (← Connective.ofName? connective) (← readFilters operands)
  | .map [("path", .seq .list steps), ("operator", .word comparison), (_, operand)] => do
    return .leaf (← readPath steps) (← Comparison.ofName? comparison) (readOperand operand)
  | _ => none

def readFilters : List Value → Option (List Predicate)
  | [] => some []
  | v :: vs => do
    let p ← readFilter v
    let ps ← readFilters vs
    return p :: ps

end

theorem mapM_text? (xs : List String) : (xs.map Value.text).mapM Value.text? = some xs := by
  induction xs with
  | nil => rfl
  | cons x rest ih => simp [ih, Value.text?]

theorem readPath_texts {p : FieldPath} (h : p.IsPlain) :
    readPath ((p.segments.map Segment.text).map Value.text) = some p := by
  rw [readPath, mapM_text?]
  simp [h.map_ofText, FieldPath.ofSegments?_segments]

/-- The value of a comparison is what stands under the key of its type. -/
theorem readOperand_typedValue {path : FieldPath} {c : Comparison} {v : Value}
    (h : Predicate.IsSettled (path, c, v)) : readOperand (typedValue c v).2 = v := by
  by_cases hc : c = .isNull
  · obtain ⟨b, rfl⟩ := h.takes hc
    subst hc
    rfl
  · cases v with
    | seq kind items =>
      obtain rfl := h.tuple kind items rfl
      cases c <;> first | rfl | exact absurd rfl hc
    | _ => cases c <;> first | rfl | exact absurd rfl hc

mutual

theorem readFilter_ofPredicate (p : Predicate) (h : ∀ l ∈ p.leaves, Predicate.IsSettled l) :
    readFilter (ofPredicate p) = some p := by
  cases p with
  | leaf path c v =>
    have hsettled := h (path, c, v) (List.mem_singleton.mpr rfl)
    have hvalue := readOperand_typedValue hsettled
    rw [ofPredicate, texts, Value.list]
    generalize typedValue c v = e at hvalue ⊢
    obtain ⟨key, operand⟩ := e
    rw [readFilter, readPath_texts hsettled.plain, Comparison.ofName?_name, show _ = v from hvalue]
    rfl
  | group connective operands =>
    rw [ofPredicate, Value.list, readFilter, readFilters_ofPredicates operands h]
    simp

theorem readFilters_ofPredicates (ps : List Predicate)
    (h : ∀ l ∈ Predicate.leavesOf ps, Predicate.IsSettled l) :
    readFilters (ofPredicates ps) = some ps := by
  cases ps with
  | nil => rfl
  | cons p rest =>
    obtain ⟨hp, hrest⟩ := List.forall_mem_append.mp h
    rw [ofPredicates, readFilters, readFilter_ofPredicate p hp, readFilters_ofPredicates rest hrest]
    rfl

end

/-- Every filter is read back from the argument that it compiles to, and so no two of them compile to
the same. -/
theorem readFilter_of_isMade (p : Predicate) (h : p.IsMade) :
    readFilter (ofPredicate p) = some p ∧
      ∀ q : Predicate, q.IsMade → ofPredicate q = ofPredicate p → q = p := by
  have hread := readFilter_ofPredicate p h.settled
  refine ⟨hread, fun q hq heq => ?_⟩
  have hother := readFilter_ofPredicate q hq.settled
  rw [heq, hread] at hother
  exact (Option.some.inj hother).symm

open Predicate (Expr IsMade)

/-- The books whose first author has a certain name, in some editions. -/
def namedFilter : Expr :=
  .join .and [.apply "Equal" [.text "authors.0.name", .text "0"],
    .apply "ContainsAny" [.text "edition", .seq .set [.int 1, .int 2]]]

def namedAuthor : Predicate :=
  .leaf ⟨"authors", [.index 0, .property "name"]⟩ .equal (.text "0")

/-- The same author by a number. -/
def numberedAuthor : Predicate := .leaf ⟨"authors", [.index 0, .property "name"]⟩ .equal (.int 0)

def someEditions : Predicate := .leaf ⟨"edition", []⟩ .containsAny (.seq .tuple [.int 1, .int 2])

def priced : Predicate := .leaf ⟨"price", []⟩ .isNull (.bool false)

/-- Two filters put together are read back as one, and a number is not taken for its text. -/
theorem readFilter_of_isMade_named :
    (Predicate.group .and [namedAuthor, someEditions, priced]).IsMade ∧
      readFilter (ofPredicate (.group .and [namedAuthor, someEditions, priced])) =
        some (.group .and [namedAuthor, someEditions, priced]) ∧
      namedAuthor.IsMade ∧ numberedAuthor.IsMade ∧
      ofPredicate numberedAuthor ≠ ofPredicate namedAuthor := by
  have hfilter : (Predicate.Input.expression namedFilter).normalize =
      .ok (some (.group .and [namedAuthor, someEditions])) := rfl
  have hpriced : (Predicate.Input.expression (.apply "Exists" [.text "price"])).normalize =
      .ok (some priced) := rfl
  have hname : (Predicate.Input.expression
      (.apply "Equal" [.text "authors.0.name", .text "0"])).normalize = .ok (some namedAuthor) := rfl
  have hnumber : (Predicate.Input.expression
      (.apply "Equal" [.text "authors.0.name", .int 0])).normalize = .ok (some numberedAuthor) := rfl
  have hmade : (Predicate.group .and [namedAuthor, someEditions, priced]).IsMade :=
    .both (.input hfilter) (.input hpriced) rfl
  refine ⟨hmade, (readFilter_of_isMade _ hmade).1, .input hname, .input hnumber, fun heq => ?_⟩
  cases (readFilter_of_isMade namedAuthor (.input hname)).2 numberedAuthor (.input hnumber) heq

end Compilation

end Retrieval
