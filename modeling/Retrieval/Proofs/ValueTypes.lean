import Mathlib.Data.List.Forall2
import Retrieval.Compilation.Argument
import Retrieval.Proofs.Comparisons
import Retrieval.Proofs.FilterForms

/-!
The types of what fields are compared with. A condition in the argument of a filter gives its value
under a key that names a type. Main statement: each condition gives one value, which is of the type
of its key unless the key is one for texts, where all else ends up too; and the whole condition is
well typed exactly if its comparison is a null check, is with a list of scalars, or is with a scalar
and not one with elements.
-/

namespace Retrieval.Compilation

open Predicate (IsMade IsSettled family)

def isFloat : Value → Bool
  | .float _ => true
  | _ => false

def isText : Value → Bool
  | .text _ => true
  | .word _ => true
  | _ => false

/-- A truth value, a number or a text. -/
def isScalar (v : Value) : Bool := isBool v || isNumber v || isText v

def isListOf (test : Value → Bool) : Value → Bool
  | .seq .list items => items.all test
  | _ => false

/-- The keys for values, each with the test that its value is to pass. -/
def valueTests : Entries (Value → Bool) :=
  [("valueBoolean", isBool), ("valueBooleanArray", isListOf isBool),
    ("valueInt", isInt), ("valueIntArray", isListOf isInt),
    ("valueNumber", isFloat), ("valueNumberArray", isListOf isNumber),
    ("valueText", isText), ("valueTextArray", isListOf isText)]

def textKeys : List String := ["valueText", "valueTextArray"]

def arrayKeys : List String :=
  ["valueBooleanArray", "valueIntArray", "valueNumberArray", "valueTextArray"]

/-- A value that passes the test of its key. -/
def isTyped (e : String × Value) : Bool :=
  match valueTests.get? e.1 with
  | some test => test e.2
  | none => false

/-- The values that a condition gives. -/
def valueEntries (es : Entries Value) : Entries Value := es.filter fun e => valueTests.contains e.1

/-- Whether a condition compares the elements of a field. -/
def comparesElements (es : Entries Value) : Bool :=
  match es.get? "operator" with
  | some (.word name) => name == "ContainsAny" || name == "ContainsAll"
  | _ => false

/-- A condition that gives one value, of the type of its key; elements are compared with an array. -/
def isWellTyped (es : Entries Value) : Bool :=
  match valueEntries es with
  | [e] => isTyped e && (!comparesElements es || arrayKeys.contains e.1)
  | _ => false

/-- A comparison whose value has a type. -/
def isTypable : Comparison → Value → Bool
  | .isNull, _ => true
  | _, .seq _ items => items.all isScalar
  | .containsAny, _ => false
  | .containsAll, _ => false
  | _, v => isScalar v

mutual

/-- The conditions of a filter's argument, from left to right. -/
def conditions : Value → List (Entries Value)
  | .map [("operator", .word _), ("operands", .seq .list operands)] => conditionsOf operands
  | .map es => [es]
  | _ => []

def conditionsOf : List Value → List (Entries Value)
  | [] => []
  | v :: vs => conditions v ++ conditionsOf vs

end

/-- What the values of a type pass, alone or in a list. A number in a list may be an integer. -/
def ValueType.test : ValueType → Value → Bool
  | .boolean => isBool
  | .int => isInt
  | .number => isNumber
  | .text => isText

theorem isScalar_of_test {t : ValueType} {v : Value} (h : t.test v = true) : isScalar v = true := by
  cases t <;> cases v <;> first | rfl | cases h

/-- Values are of the type that they are given, or they are given that of texts, and then they are
neither all truth values nor all numbers. -/
theorem valueType_cases {vs : List Value} (hne : vs ≠ []) :
    vs.all (valueType vs).test = true ∨
      valueType vs = .text ∧ vs.all isBool = false ∧ vs.all isNumber = false := by
  unfold valueType
  rw [if_neg (by simpa using hne)]
  split
  · exact .inl (by assumption)
  next hbool =>
    split
    · exact .inl (by assumption)
    · split
      · exact .inl (by assumption)
      next hnumber => exact .inr ⟨rfl, by simpa using hbool, by simpa using hnumber⟩

/-- A scalar is a text, or it shares its family with truth values or with numbers only. -/
theorem isText_or_family {v : Value} (h : isScalar v = true) : isText v = true ∨
    (∀ b, family b = family v → isBool b = true) ∨ ∀ b, family b = family v → isNumber b = true := by
  cases v with
  | text | word => exact .inl rfl
  | bool => exact .inr (.inl fun b hb => by cases b <;> first | rfl | cases hb)
  | int | float => exact .inr (.inr fun b hb => by cases b <;> first | rfl | cases hb)
  | _ => cases h

/-- Values of one family are of the type that they are given exactly if they are scalars. -/
theorem all_test_valueType {vs : List Value}
    (huniform : ∀ a ∈ vs, ∀ b ∈ vs, family a = family b) :
    vs.all (valueType vs).test = vs.all isScalar := by
  by_cases hne : vs = []
  · rw [hne]
    rfl
  rw [Bool.eq_iff_iff]
  constructor
  · rw [List.all_eq_true, List.all_eq_true]
    exact fun h a ha => isScalar_of_test (h a ha)
  intro hscalars
  obtain htype | ⟨htext, hbool, hnumber⟩ := valueType_cases hne
  · exact htype
  -- one value that is no text would decide the family of all
  rw [htext, List.all_eq_true]
  intro a ha
  obtain h | h | h := isText_or_family (List.all_eq_true.mp hscalars a ha)
  · exact h
  · exact absurd (List.all_eq_true.mpr fun b hb => h b (huniform b hb a ha)) (by simp [hbool])
  · exact absurd (List.all_eq_true.mpr fun b hb => h b (huniform b hb a ha)) (by simp [hnumber])

theorem isTyped_array (t : ValueType) (items : List Value) :
    isTyped (t.key ++ "Array", .list items) = items.all t.test := by
  cases t <;> rfl

theorem contains_arrayKeys (t : ValueType) : arrayKeys.contains (t.key ++ "Array") = true := by
  cases t <;> rfl

/-- Alone, a value is of the type that it is given exactly if it is a scalar. -/
theorem isTyped_single {v : Value} (h : ∀ kind items, v ≠ .seq kind items) :
    isTyped ((valueType [v]).key, v) = isScalar v := by
  cases v with
  | seq kind items => exact absurd rfl (h kind items)
  | _ => rfl

theorem contains_arrayKeys_single (t : ValueType) : arrayKeys.contains t.key = false := by
  cases t <;> rfl

/-- The value of a settled comparison is a truth value, or stands as a list, or by itself. -/
theorem typedValue_cases {path : FieldPath} {c : Comparison} {v : Value}
    (h : IsSettled (path, c, v)) :
    (∃ b, c = .isNull ∧ v = .bool b ∧ typedValue c v = (ValueType.boolean.key, .bool b)) ∨
      (∃ items, c ≠ .isNull ∧ v = .seq .tuple items ∧
        typedValue c v = ((valueType items).key ++ "Array", .list items)) ∨
      (c ≠ .isNull ∧ (∀ kind items, v ≠ .seq kind items) ∧
        typedValue c v = ((valueType [v]).key, v)) := by
  by_cases hc : c = .isNull
  · obtain ⟨b, rfl⟩ := h.takes hc
    subst hc
    exact .inl ⟨b, rfl, rfl, rfl⟩
  cases v with
  | seq kind items =>
    obtain rfl := h.tuple kind items rfl
    exact .inr (.inl ⟨items, hc, rfl, by cases c <;> first | rfl | exact absurd rfl hc⟩)
  | _ => exact .inr (.inr ⟨hc, by simp, by cases c <;> first | rfl | exact absurd rfl hc⟩)

/-- What a comparison's value comes to is under one of the keys for values. -/
theorem contains_typedValue (c : Comparison) (v : Value) :
    valueTests.contains (typedValue c v).1 = true := by
  have hkey (t : ValueType) : valueTests.contains t.key = true ∧
      valueTests.contains (t.key ++ "Array") = true := by
    cases t <;> exact ⟨rfl, rfl⟩
  unfold typedValue
  split
  · exact (hkey .boolean).1
  · exact (hkey _).2
  · exact (hkey _).1

/-- The three entries of a condition. -/
def condition (path : FieldPath) (c : Comparison) (e : String × Value) : Entries Value :=
  [("path", texts (path.segments.map Segment.text)), ("operator", .word c.name), e]

theorem valueEntries_condition (path : FieldPath) (c : Comparison) {e : String × Value}
    (h : valueTests.contains e.1 = true) : valueEntries (condition path c e) = [e] := by
  have hpath : valueTests.contains "path" = false := rfl
  have hoperator : valueTests.contains "operator" = false := rfl
  simp [valueEntries, condition, hpath, hoperator, h]

theorem comparesElements_condition (path : FieldPath) (c : Comparison) (e : String × Value) :
    comparesElements (condition path c e) = (c == .containsAny || c == .containsAll) := by
  cases c <;> rfl

theorem isWellTyped_condition (path : FieldPath) (c : Comparison) {e : String × Value}
    (h : valueTests.contains e.1 = true) : isWellTyped (condition path c e) =
      (isTyped e && (!(c == .containsAny || c == .containsAll) || arrayKeys.contains e.1)) := by
  rw [isWellTyped, valueEntries_condition path c h, comparesElements_condition]

/-- Under a key that is not one for texts, the value is of the type of the key. -/
theorem isTyped_typedValue {path : FieldPath} {c : Comparison} {v : Value}
    (h : IsSettled (path, c, v)) (hkey : (typedValue c v).1 ∉ textKeys) :
    isTyped (typedValue c v) = true := by
  obtain ⟨b, -, -, htyped⟩ | ⟨items, -, -, htyped⟩ | ⟨-, hsingle, htyped⟩ := typedValue_cases h
  · rw [htyped]
    rfl
  · rw [htyped] at hkey ⊢
    rw [isTyped_array]
    by_cases hne : items = []
    · rw [hne]
      rfl
    · refine (valueType_cases hne).resolve_right fun htext => hkey ?_
      simp [htext.1, textKeys, ValueType.key]
  · rw [htyped] at hkey ⊢
    rw [isTyped_single hsingle]
    obtain htest | htext := valueType_cases (List.cons_ne_nil v [])
    · exact isScalar_of_test (List.all_eq_true.mp htest v (List.mem_singleton.mpr rfl))
    · exact absurd (by simp [htext.1, textKeys, ValueType.key]) hkey

/-- The condition of a settled comparison is well typed exactly if the comparison is typable. -/
theorem isWellTyped_typedValue {path : FieldPath} {c : Comparison} {v : Value}
    (h : IsSettled (path, c, v)) :
    isWellTyped (condition path c (typedValue c v)) = isTypable c v := by
  rw [isWellTyped_condition path c (contains_typedValue c v)]
  obtain ⟨b, rfl, rfl, -⟩ | ⟨items, hc, rfl, htyped⟩ | ⟨hc, hsingle, htyped⟩ := typedValue_cases h
  · rfl
  · rw [htyped, isTyped_array, contains_arrayKeys,
      all_test_valueType (h.operand.uniform .tuple items rfl)]
    cases c <;> simp [isTypable] at hc ⊢
  · rw [htyped, isTyped_single hsingle, contains_arrayKeys_single]
    cases v with
    | seq kind items => exact absurd rfl (hsingle kind items)
    | _ => cases c <;> simp [isTypable] at hc ⊢

/-- How a condition and the comparison that it comes from belong together. -/
structure IsConditionOf (es : Entries Value) (l : FieldPath × Comparison × Value) : Prop where
  single : ∃ e, valueEntries es = [e] ∧ (e.1 ∉ textKeys → isTyped e = true)
  typed : isWellTyped es = isTypable l.2.1 l.2.2

theorem isConditionOf_condition {path : FieldPath} {c : Comparison} {v : Value}
    (h : IsSettled (path, c, v)) : IsConditionOf (condition path c (typedValue c v)) (path, c, v) :=
  ⟨⟨_, valueEntries_condition path c (contains_typedValue c v), isTyped_typedValue h⟩,
    isWellTyped_typedValue h⟩

mutual

theorem conditions_ofPredicate (p : Predicate) (h : ∀ l ∈ p.leaves, IsSettled l) :
    List.Forall₂ IsConditionOf (conditions (ofPredicate p)) p.leaves := by
  cases p with
  | leaf path c v =>
    have hcondition := isConditionOf_condition (h (path, c, v) (List.mem_singleton.mpr rfl))
    rw [ofPredicate, conditions]
    · exact .cons hcondition .nil
    · simp
  | group connective operands =>
    rw [ofPredicate, Value.list, conditions]
    exact conditionsOf_ofPredicates operands h

theorem conditionsOf_ofPredicates (ps : List Predicate)
    (h : ∀ l ∈ Predicate.leavesOf ps, IsSettled l) :
    List.Forall₂ IsConditionOf (conditionsOf (ofPredicates ps)) (Predicate.leavesOf ps) := by
  cases ps with
  | nil => exact .nil
  | cons p rest =>
    obtain ⟨hp, hrest⟩ := List.forall_mem_append.mp h
    exact List.rel_append (conditions_ofPredicate p hp) (conditionsOf_ofPredicates rest hrest)

end

/-- Each condition of a filter gives one value, of the type of its key unless that is one for texts;
and it is well typed exactly if the comparison that it comes from is typable. -/
theorem conditions_of_isMade (p : Predicate) (h : p.IsMade) :
    List.Forall₂ IsConditionOf (conditions (ofPredicate p)) p.leaves :=
  conditions_ofPredicate p h.settled

/-- Some editions of books, and authors without a value. -/
def anonymousEditions : Predicate.Expr :=
  .join .and [.apply "ContainsAny" [.text "edition", .list [.int 1, .int 2]],
    .apply "Equal" [.text "author", .null]]

/-- A year to be among, given without a list. -/
def amongOneYear : Entries Value := [("year", .map [("$in", .int 2020)])]

/-- What the two filters come to together. -/
def anonymousOfOneYear : Predicate :=
  .group .and [.leaf ⟨"edition", []⟩ .containsAny (.seq .tuple [.int 1, .int 2]),
    .leaf ⟨"author", []⟩ .equal .null, .leaf ⟨"year", []⟩ .containsAny (.int 2020)]

/-- Of its conditions only the one on the edition is well typed. -/
theorem conditions_of_isMade_anonymous :
    anonymousOfOneYear.IsMade ∧
      List.Forall₂ IsConditionOf (conditions (ofPredicate anonymousOfOneYear))
        anonymousOfOneYear.leaves ∧
      (conditions (ofPredicate anonymousOfOneYear)).map isWellTyped = [true, false, false] := by
  have hexpression : (Predicate.Input.expression anonymousEditions).normalize =
      .ok (some (.group .and [.leaf ⟨"edition", []⟩ .containsAny (.seq .tuple [.int 1, .int 2]),
        .leaf ⟨"author", []⟩ .equal .null])) := rfl
  have hshorthand : (Predicate.Input.value (.map amongOneYear)).normalize =
      .ok (some (.leaf ⟨"year", []⟩ .containsAny (.int 2020))) := by
    have hyear := Predicate.ofEntry_of_path (show "year".startsWith "$" = false by decide +kernel)
    rw [amongOneYear, Predicate.Input.normalize, Predicate.ofShorthand, Predicate.ofEntries, hyear]
    · rfl
    · simp
    · simp
  have hmade : anonymousOfOneYear.IsMade := .both (.input hexpression) (.input hshorthand) rfl
  exact ⟨hmade, conditions_of_isMade _ hmade, rfl⟩

end Retrieval.Compilation
