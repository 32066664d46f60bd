import Retrieval.Compilation.Document
import Retrieval.Proofs.Clauses
import Retrieval.Proofs.Fragments

/-!
The arguments of root fields. Main statement: whatever the texts in a clause are, its arguments have
fixed names, and values that lex if the bare words among them are names.
-/

namespace Retrieval

open Document
open Literal (IsName)

/-- The texts of a clause that enter its document without quotes are names, and no component of a
vector is the infinity below zero, which has no literal. -/
structure Clause.HasNames (c : Clause) : Prop where
  collection : IsName c.collection
  selection : ∀ p ∈ c.selection, ∀ name ∈ p.propertyNames, IsName name
  metrics : ∀ a, c.aggregate = some a → ∀ e ∈ a.metrics, e.2 ≠ [] → IsName e.1
  words : ∀ l ∈ Predicate.leavesIn c.filter, ∀ s, Value.Within (.word s) l.2.2 → IsName s
  components : ∀ xs property distance,
    c.search = some (.nearVector (.vector xs property) distance) →
      ∀ x ∈ xs, Number.parts x ≠ .infinite true

namespace Compilation

theorem lexable_text (s : String) : (Value.text s).Everywhere IsLexable :=
  Value.everywhere_of_scalar (by simp) (by simp) trivial

theorem lexable_int (n : Int) : (Value.int n).Everywhere IsLexable :=
  Value.everywhere_of_scalar (by simp) (by simp) trivial

theorem lexable_bool (b : Bool) : (Value.bool b).Everywhere IsLexable :=
  Value.everywhere_of_scalar (by simp) (by simp) trivial

theorem lexable_word {s : String} (h : IsName s) : (Value.word s).Everywhere IsLexable :=
  Value.everywhere_of_scalar (by simp) (by simp) h

theorem lexable_float {x : Float} (h : Number.parts x ≠ .infinite true) :
    (Value.float x).Everywhere IsLexable := Value.everywhere_of_scalar (by simp) (by simp) h

theorem lexable_list {vs : List Value} (h : ∀ v ∈ vs, v.Everywhere IsLexable) :
    (Value.list vs).Everywhere IsLexable :=
  (Value.everywhere_seq .list vs).mpr ⟨trivial, h⟩

theorem lexable_texts (xs : List String) : (texts xs).Everywhere IsLexable :=
  lexable_list (List.forall_mem_map.mpr fun s _ => lexable_text s)

theorem areLexable_single {key : String} {v : Value} (hkey : IsName key)
    (h : v.Everywhere IsLexable) : AreLexable [(key, v)] := areLexable_cons hkey h areLexable_nil

theorem areLexable_entry {α : Type} {key : String} {x? : Option α} {f : α → Value}
    (hkey : IsName key) (h : ∀ x ∈ x?, (f x).Everywhere IsLexable) :
    AreLexable (entry key (x?.map f)) := by
  cases x? with
  | none => exact areLexable_nil
  | some x => exact areLexable_single hkey (h x rfl)

theorem areLexable_textsEntry {key : String} (hkey : IsName key) (xs : List String) :
    AreLexable (textsEntry key xs) := by
  unfold textsEntry
  split
  · exact areLexable_nil
  · exact areLexable_single hkey (lexable_texts xs)

theorem areLexable_countEntry {key : String} (hkey : IsName key) (n : Option Nat) :
    AreLexable (countEntry key n) := areLexable_entry hkey fun k _ => lexable_int k

theorem areLexable_typedValue (comparison : Comparison) {v : Value} (h : v.Everywhere IsLexable) :
    AreLexable [typedValue comparison v] := by
  have hkey (t : ValueType) : IsName t.key ∧ IsName (t.key ++ "Array") := by cases t <;> decide
  unfold typedValue
  split
  · exact areLexable_single (hkey .boolean).1 (lexable_bool _)
  · next items _ =>
    exact areLexable_single (hkey _).2 (lexable_list ((Value.everywhere_seq _ _).mp h).2)
  · exact areLexable_single (hkey _).1 h

mutual

theorem lexable_ofPredicate {p : Predicate}
    (h : ∀ l ∈ p.leaves, l.2.2.Everywhere IsLexable) : (ofPredicate p).Everywhere IsLexable := by
  cases p with
  | leaf path comparison value =>
    have hname : IsName comparison.name := by cases comparison <;> decide
    have hvalue := areLexable_typedValue comparison
      (h (path, comparison, value) (by simp [Predicate.leaves]))
    rw [ofPredicate, lexable_map]
    exact areLexable_cons (by decide) (lexable_texts _)
      (areLexable_cons (by decide) (lexable_word hname) hvalue)
  | group connective operands =>
    have hname : IsName connective.name := by cases connective <;> decide
    rw [ofPredicate, lexable_map]
    exact areLexable_cons (by decide) (lexable_word hname)
      (areLexable_single (by decide) (lexable_list (lexable_ofPredicates h)))

theorem lexable_ofPredicates {ps : List Predicate}
    (h : ∀ l ∈ Predicate.leavesOf ps, l.2.2.Everywhere IsLexable) :
    ∀ v ∈ ofPredicates ps, v.Everywhere IsLexable := by
  cases ps with
  | nil => exact List.forall_mem_nil _
  | cons p rest =>
    obtain ⟨hp, hrest⟩ := List.forall_mem_append.mp h
    exact List.forall_mem_cons.mpr ⟨lexable_ofPredicate hp, lexable_ofPredicates hrest⟩

end

/-- A number that is not below some bound has a literal. -/
theorem lexable_admitted {b : Schema.Bounds} {x : Float} (h : b.Admits x)
    (hb : b.atLeast = some 0.0) : (Value.float x).Everywhere IsLexable :=
  lexable_float (Number.parts_ne_of_nonneg (h.atLeast hb))

variable {c : Clause}

/-- The values that a lawful filter compares with. -/
theorem lexable_leaves (hlawful : c.IsLawful) (hnames : c.HasNames) :
    ∀ l ∈ Predicate.leavesIn c.filter, l.2.2.Everywhere IsLexable := by
  intro l hl w hw
  have hvalue : Predicate.IsOperandValue l.2.2 := by
    cases hfilter : c.filter with
    | none => simp [hfilter, Predicate.leavesIn] at hl
    | some p =>
      rw [hfilter] at hl
      exact ((hlawful.filter_lawful p hfilter).of_leaves l hl).2
  have hbounded := hvalue.bounded w hw
  cases w with
  | float x =>
    intro hx
    simp [Predicate.IsBounded, Number.isFinite, hx] at hbounded
  | word s => exact hnames.words l hl s hw
  | map es => exact hbounded.elim
  | _ => trivial

/-- The name of a search argument. -/
def searchName : Search → String
  | .about .. => "nearText"
  | .words .. => "bm25"
  | .hybrid .. => "hybrid"
  | .nearVector .. => "nearVector"
  | .similar .. => "nearObject"

theorem ofSearch_name (s : Search) : (ofSearch s).1 = searchName s := by
  cases s with
  | nearVector source distance => cases source <;> rfl
  | _ => rfl

theorem isName_searchName (s : Search) : IsName (searchName s) := by
  cases s <;> simp only [searchName] <;> decide

theorem areLexable_ofSearch {s : Search} (hbounded : s.IsBounded)
    (hcomponents : ∀ xs property distance, s = .nearVector (.vector xs property) distance →
      ∀ x ∈ xs, Number.parts x ≠ .infinite true) : AreLexable (ofSearch s).2 := by
  cases s with
  | about concept certainty =>
    have hconcept : AreLexable [("concepts", texts [concept])] :=
      areLexable_single (by decide) (lexable_texts _)
    have hcertainty : AreLexable (entry "certainty" (certainty.map .float)) :=
      areLexable_entry (by decide) fun x hx => lexable_admitted (hbounded x hx) rfl
    exact hconcept.append hcertainty
  | words text properties =>
    have htext : AreLexable [("query", .text text)] :=
      areLexable_single (by decide) (lexable_text text)
    exact htext.append (areLexable_textsEntry (by decide) properties)
  | hybrid text alpha fusion weights =>
    have hname (f : Fusion) : IsName f.name := by cases f <;> decide
    have htext : AreLexable [("query", .text text), ("alpha", .float alpha)] :=
      areLexable_cons (by decide) (lexable_text text)
        (areLexable_single (by decide) (lexable_admitted hbounded rfl))
    have hfusion : AreLexable (entry "fusionType" (fusion.map fun f => .word f.name)) :=
      areLexable_entry (by decide) fun f _ => lexable_word (hname f)
    exact (htext.append hfusion).append (areLexable_textsEntry (by decide) _)
  | nearVector source distance =>
    have hdistance : AreLexable [("distance", .float distance)] :=
      areLexable_single (by decide) (lexable_admitted hbounded rfl)
    cases source with
    | vector components property =>
      have hxs := hcomponents components property distance rfl
      have hvector : (Value.list (components.map .float)).Everywhere IsLexable :=
        lexable_list (List.forall_mem_map.mpr fun x hx => lexable_float (hxs x hx))
      exact areLexable_cons (by decide) hvector hdistance
    | record id property =>
      exact areLexable_cons (by decide) (lexable_text id)
        (areLexable_cons (by decide) (lexable_text property) hdistance)
  | similar id distance =>
    have hid : AreLexable [("id", .text id)] := areLexable_single (by decide) (lexable_text id)
    have hdistance : AreLexable (entry "distance" (distance.map .float)) :=
      areLexable_entry (by decide) fun x hx => lexable_admitted (hbounded x hx) rfl
    exact hid.append hdistance

theorem areLexable_searchArgument (hbounded : c.IsBounded) (hnames : c.HasNames) :
    AreLexable (searchArgument c) := by
  unfold searchArgument
  cases hsearch : c.search with
  | none => exact areLexable_nil
  | some s =>
    have hentries := areLexable_ofSearch (hbounded.search s hsearch)
      fun xs property distance hs => hnames.components xs property distance (hs ▸ hsearch)
    have hname : IsName (ofSearch s).1 := ofSearch_name s ▸ isName_searchName s
    have hcorrected : AreLexable (if c.spellCheck then [("autocorrect", .bool true)] else []) := by
      split
      · exact areLexable_single (by decide) (lexable_bool true)
      · exact areLexable_nil
    have hstrategy :
        AreLexable (if c.filter.isSome then [("filterStrategy", .word "PRE")] else []) := by
      split
      · exact areLexable_single (by decide) (lexable_word (by decide))
      · exact areLexable_nil
    have hall := (hentries.append hcorrected).append hstrategy
    exact areLexable_single hname ((lexable_map _).mpr hall)

theorem areLexable_filterArgument (hlawful : c.IsLawful) (hnames : c.HasNames) :
    AreLexable (filterArgument c) := by
  have hleaves := lexable_leaves hlawful hnames
  refine areLexable_entry (by decide) fun p hp => ?_
  rw [hp] at hleaves
  exact lexable_ofPredicate hleaves

theorem areLexable_groupArgument (c : Clause) : AreLexable (groupArgument c) := by
  refine areLexable_entry (by decide) fun g _ => (lexable_map _).mpr ?_
  have hgroups : AreLexable [("path", texts [g.property]), ("groups", .int g.maxGroups)] :=
    areLexable_cons (by decide) (lexable_texts _) (areLexable_single (by decide) (lexable_int _))
  exact hgroups.append (areLexable_entry (by decide) fun n _ => lexable_int n)

theorem areLexable_sortArgument (c : Clause) : AreLexable (sortArgument c) := by
  have hname (d : Direction) : IsName d.name := by cases d <;> decide
  have hkey (s : SortKey) : AreLexable
      [("path", texts s.path.propertyNames), ("order", .word s.direction.name)] :=
    areLexable_cons (by decide) (lexable_texts _)
      (areLexable_single (by decide) (lexable_word (hname _)))
  unfold sortArgument
  split
  · exact areLexable_nil
  · exact areLexable_single (by decide)
      (lexable_list (List.forall_mem_map.mpr fun s _ => (lexable_map _).mpr (hkey s)))

/-- The arguments of a root field have names for keys and values that lex. -/
theorem areLexable_arguments (hlawful : c.IsLawful) (hbounded : c.IsBounded)
    (hnames : c.HasNames) : AreLexable (memberOf c c.collection).arguments := by
  have hsearched := (areLexable_filterArgument hlawful hnames).append
    (areLexable_searchArgument hbounded hnames)
  unfold memberOf
  split
  · exact (((hsearched.append (areLexable_groupArgument c)).append
      (areLexable_sortArgument c)).append (areLexable_countEntry (by decide) _)).append
        (areLexable_countEntry (by decide) _)
  · exact (hsearched.append (areLexable_entry (by decide) fun g _ => lexable_texts [g])).append
      (areLexable_countEntry (by decide) _)

/-- A name, if something is present. -/
def nameIf (name : String) (present : Bool) : List String := if present then [name] else []

/-- The names of the arguments of a root field. -/
def rootArguments (c : Clause) : List String :=
  nameIf "where" c.filter.isSome ++ (c.search.map searchName).toList ++
    match c.aggregate with
    | none =>
      nameIf "groupBy" c.groupBy.isSome ++ nameIf "sort" (!c.sort.isEmpty) ++
        nameIf "limit" c.limit.isSome ++ nameIf "offset" c.offset.isSome
    | some a => nameIf "groupBy" a.groupBy.isSome ++ nameIf "objectLimit" c.limit.isSome

theorem keys_append (es fs : Entries Value) :
    Entries.keys (es ++ fs) = Entries.keys es ++ Entries.keys fs := List.map_append

theorem keys_entry {α : Type} (key : String) (x? : Option α) (f : α → Value) :
    Entries.keys (entry key (x?.map f)) = nameIf key x?.isSome := by
  cases x? <;> rfl

theorem keys_countEntry (key : String) (n? : Option Nat) :
    Entries.keys (countEntry key n?) = nameIf key n?.isSome := by
  cases n? <;> rfl

theorem keys_searchArgument (c : Clause) :
    Entries.keys (searchArgument c) = (c.search.map searchName).toList := by
  unfold searchArgument
  cases c.search with
  | none => rfl
  | some s => simp [Entries.keys, ofSearch_name]

theorem keys_sortArgument (c : Clause) :
    Entries.keys (sortArgument c) = nameIf "sort" (!c.sort.isEmpty) := by
  unfold sortArgument
  cases c.sort <;> rfl

/-- The arguments of a root field are those of the parts of the clause. -/
theorem keys_arguments (c : Clause) :
    Entries.keys (memberOf c c.collection).arguments = rootArguments c := by
  unfold memberOf rootArguments
  cases c.aggregate with
  | none =>
    simp only [getArguments, keys_append, filterArgument, groupArgument, keys_entry,
      keys_countEntry, keys_searchArgument, keys_sortArgument, List.append_assoc]
  | some a =>
    simp only [aggregateArguments, keys_append, filterArgument, keys_entry, keys_countEntry,
      keys_searchArgument, List.append_assoc]

end Compilation

end Retrieval
