import Retrieval.Proofs.Compact
import Retrieval.Proofs.Compiling
import Retrieval.Proofs.Literals
import Retrieval.Proofs.Stages

/-!
The weights of properties in a search. A list of properties is read as it is meant: a bare name has
the weight one, and digits after a caret are the weight. Main statement: the whole weights that a
search is given are read back from its request exactly if none has more than six digits; a longer
one is written in a form that is no weight.
-/

namespace Retrieval

open Literal (IsName areDigits)
open Number (HasValue)

namespace Search

/-- Whether a character is part of a name that a weight follows. -/
def isBeforeCaret (c : Char) : Bool := c ≠ '^'

/-- The property and the weight that an element of a list of properties means. -/
def readProperty? (s : String) : Option (String × Nat) :=
  match s.toList.dropWhile isBeforeCaret with
  | [] => some (s, 1)
  | _ :: ds =>
    if areDigits ds then
      some (String.ofList (s.toList.takeWhile isBeforeCaret), Json.digitsValue ds)
    else none

/-- A property with a value that stands for a whole weight: an integer, or a float equal to it. -/
structure Gives (given : String × Value) (weight : String × Nat) : Prop where
  name : given.1 = weight.1
  isName : IsName weight.1
  pos : 0 < weight.2
  lt : weight.2 < 2 ^ 53
  value : given.2 = .int weight.2 ∨ ∃ x, given.2 = .float x ∧ HasValue x weight.2

/-- A property with a whole weight as a search keeps it. -/
structure Keeps (kept : String × Float) (weight : String × Nat) : Prop where
  name : kept.1 = weight.1
  isName : IsName weight.1
  pos : 0 < weight.2
  value : HasValue kept.2 weight.2

theorem Gives.exists_keeps {given : String × Value} {weight : String × Nat}
    (h : Gives given weight) : ∃ kept, readWeight given = .valid kept ∧ Keeps kept weight := by
  obtain ⟨name, v⟩ := given
  have hread {x : Float} (hx : Schema.real v = .valid x) :
      readWeight (name, v) = .valid (name, x) := by
    rw [readWeight, hx]
    rfl
  obtain hv | ⟨x, hv, hx⟩ := h.value
  · obtain rfl : v = .int weight.2 := hv
    have hreal : Schema.real (.int weight.2) = .valid (Number.ofRatio false weight.2 1) := by
      rw [Schema.real, Number.ofInt?_natCast h.pos h.lt]
    exact ⟨_, hread hreal, h.name, h.isName, h.pos, Number.hasValue_ofRatio_one h.pos h.lt⟩
  · obtain rfl : v = .float x := hv
    exact ⟨_, hread rfl, h.name, h.isName, h.pos, hx⟩

theorem exists_readWeights {given : Entries Value} {weights : List (String × Nat)}
    (h : List.Forall₂ Gives given weights) (n : Nat) :
    ∃ kept, readWeights n given = .valid kept ∧ List.Forall₂ Keeps kept weights := by
  induction h generalizing n with
  | nil => exact ⟨[], rfl, .nil⟩
  | cons hfirst _ ih =>
    obtain ⟨k, hk, hkeeps⟩ := hfirst.exists_keeps
    obtain ⟨ks, hks, hall⟩ := ih (n + 1)
    refine ⟨k :: ks, ?_, .cons hkeeps hall⟩
    rw [readWeights, hk, hks]
    rfl

theorem isBeforeCaret_of_isName {name : String} (h : IsName name) :
    ∀ c ∈ name.toList, isBeforeCaret c = true := by
  obtain ⟨_, _, -, -, hall⟩ := Literal.exists_cons_of_isName h
  intro c hc
  have hchar := hall c hc
  rw [isBeforeCaret, decide_eq_true_eq]
  rintro rfl
  exact absurd hchar (by decide)

theorem readProperty?_name {name : String} (h : IsName name) :
    readProperty? name = some (name, 1) := by
  rw [readProperty?, List.dropWhile_eq_nil_iff.mpr (isBeforeCaret_of_isName h)]

theorem readProperty?_caret {name : String} (h : IsName name) (ds : List Char) :
    readProperty? (name ++ "^" ++ String.ofList ds) =
      if areDigits ds then some (name, Json.digitsValue ds) else none := by
  have htext : (name ++ "^" ++ String.ofList ds).toList = name.toList ++ '^' :: ds := by simp
  have hstop : ∀ c ∈ ('^' :: ds).head?, isBeforeCaret c = false := by
    rintro c ⟨⟩
    decide
  rw [readProperty?, htext,
    Literal.dropWhile_append_stop (isBeforeCaret_of_isName h) hstop,
    Literal.takeWhile_append_stop (isBeforeCaret_of_isName h) hstop, String.ofList_toList]

/-- A weight is read back as long as it is written with its digits. -/
theorem readProperty?_weighted {kept : String × Float} {weight : String × Nat}
    (h : Keeps kept weight) : readProperty? (Compilation.weighted kept) =
      if weight.2 < 10 ^ 6 then some weight else none := by
  obtain ⟨name, x⟩ := kept
  obtain ⟨property, n⟩ := weight
  obtain ⟨hname, hisName, hpos, hvalue⟩ := h
  obtain rfl : name = property := hname
  dsimp only at hisName hpos hvalue ⊢
  have hone : (x == 1.0) = true ↔ n = 1 := by
    rw [Number.beq_iff hvalue Number.hasValue_one]
    exact_mod_cast Iff.rfl
  unfold Compilation.weighted
  dsimp only
  by_cases hn : n = 1
  · rw [if_pos (hone.mpr hn), readProperty?_name hisName, hn, if_pos (by decide)]
  rw [if_neg (mt hone.mp hn), Number.compact, readProperty?_caret hisName]
  by_cases hlt : n < 10 ^ 6
  · rw [Number.general_of_lt hvalue hpos (by decide) hlt, Literal.areDigits_decimalDigits,
      Literal.digitsValue_decimalDigits, if_pos hlt]
    rfl
  · have hexponent := Number.mem_general_of_le hvalue hpos (by decide) (Nat.not_lt.mp hlt)
    have hdigits : areDigits (Number.general 6 x) = false := by
      rw [← Bool.not_eq_true]
      intro hdigits
      exact absurd (((Literal.areDigits_iff _).mp hdigits).2 'e' hexponent) (by decide)
    rw [hdigits, if_neg hlt]
    rfl

/-- The properties and the weights that a list of properties means. -/
def readProperties? (properties : List String) : Option (List (String × Nat)) :=
  properties.mapM readProperty?

theorem readProperties?_weighted {kept : List (String × Float)} {weights : List (String × Nat)}
    (h : List.Forall₂ Keeps kept weights) : readProperties? (kept.map Compilation.weighted) =
      if ∀ w ∈ weights, w.2 < 10 ^ 6 then some weights else none := by
  induction h with
  | nil => simp [readProperties?]
  | cons hfirst _ ih =>
    rw [readProperties?] at ih ⊢
    rw [List.map_cons, List.mapM_cons, readProperty?_weighted hfirst, ih]
    simp only [List.forall_mem_cons, ite_and]
    split
    · split <;> rfl
    · rfl

/-- The weights of a blended search stand by themselves: what else is given is read as if there were
none. -/
theorem readHybrid_weights {phrase alpha fusion : Value} {plain : Search}
    (h : readHybrid phrase alpha fusion [] = .valid plain) : ∃ text blend how,
      plain = .hybrid text blend how [] ∧
      ∀ {given kept}, readWeights 0 given = .valid kept →
        readHybrid phrase alpha fusion given = .valid (.hybrid text blend how kept) := by
  obtain ⟨withFusion, kept, hfusion, hnone, rfl⟩ := Schema.seq_eq_valid_iff.mp h
  obtain ⟨withAlpha, how, halpha, -, rfl⟩ := Schema.seq_eq_valid_iff.mp hfusion
  obtain ⟨withText, blend, htext, -, rfl⟩ := Schema.seq_eq_valid_iff.mp halpha
  obtain ⟨text, -, rfl⟩ := Schema.map_eq_valid_iff.mp htext
  obtain rfl : [] = kept := Schema.Checked.valid.inj hnone
  refine ⟨text, blend, how, rfl, fun {given kept} hkept => ?_⟩
  refine Schema.seq_eq_valid_iff.mpr ⟨_, kept, hfusion, ?_, rfl⟩
  exact Schema.under_eq_valid_iff.mpr hkept

end Search

namespace Compilation

/-- The texts under the properties of a blended search among some arguments. -/
def propertiesIn (arguments : Entries Value) : List String :=
  match Entries.get? "hybrid" arguments with
  | some (.map es) =>
    (((Entries.get? "properties" es).bind Value.elements?).getD []).filterMap Value.text?
  | _ => []

theorem get?_properties (c : Clause) (text : String) (alpha : Float) (fusion : Option Fusion)
    (weights : List (String × Float)) :
    Entries.get? "properties" ((ofSearch (.hybrid text alpha fusion weights)).2 ++ searchMarks c) =
      if weights.isEmpty then none else some (texts (weights.map weighted)) := by
  have hfusion : Entries.get? "properties"
      (entry "fusionType" (fusion.map fun f => .word f.name)) = none := by
    cases fusion <;> rfl
  have hmarks : Entries.get? "properties" (searchMarks c) = none := by
    unfold searchMarks
    cases c.spellCheck <;> cases c.filter.isSome <;> rfl
  have hstart : Entries.get? "properties" [("query", Value.text text), ("alpha", .float alpha)] =
      none := rfl
  simp only [ofSearch, Entries.get?_append, hstart, hfusion, hmarks, Option.none_or, Option.or_none]
  cases weights <;> rfl

theorem propertiesIn_memberOf {c : Clause} {text : String} {alpha : Float}
    {fusion : Option Fusion} {weights : List (String × Float)}
    (h : c.search = some (.hybrid text alpha fusion weights)) (key : String) :
    propertiesIn (memberOf c key).arguments = weights.map weighted := by
  have hsearch := get?_searchName h key
  rw [searchName] at hsearch
  unfold propertiesIn
  rw [hsearch]
  dsimp only
  rw [get?_properties]
  cases weights with
  | nil => rfl
  | cons w ws => exact Value.filterMap_text?_texts _

end Compilation

namespace Query

open Compilation (propertiesIn)

/-- The texts under the properties of the searches of a request. -/
def propertiesOf (r : Request) : List String := r.members.flatMap fun m => propertiesIn m.arguments

/-- A blended search, then the request for it. -/
def findAndCompile (text alpha fusion weights : Value) : List Call :=
  [.method "find" ⟨[text, alpha, fusion, weights], []⟩, .method "compile" ⟨[], []⟩]

theorem run_findAndCompile_iff {q : Query} {text alpha fusion weights : Value} {r : Request} :
    q.run (findAndCompile text alpha fusion weights) = .ok (.request r) ↔
      ∃ q', q.hybrid text alpha fusion weights = .ok q' ∧ q'.compile = .ok r := by
  have hfirst : q.call (.method "find" ⟨[text, alpha, fusion, weights], []⟩) =
      ((q.hybrid text alpha fusion weights).map .query).mapError BuildError.toFailure := rfl
  have hsecond (q' : Query) :
      q'.call (.method "compile" ⟨[], []⟩) = q'.compile.map .request := rfl
  rw [findAndCompile, run, hfirst]
  cases q.hybrid text alpha fusion weights with
  | error e => simp [Except.map, Except.mapError]
  | ok q' =>
    simp only [Except.map, Except.mapError, run, hsecond]
    cases hcompile : q'.compile <;> simp [hcompile]

theorem hybrid_map (q : Query) (text alpha fusion : Value) (given : Entries Value) :
    q.hybrid text alpha fusion (.map given) =
      clausePart "Find" (Search.readHybrid text alpha fusion given) >>= fun s =>
        q.withSearch s := by
  cases given <;> rfl

/-- The weights of a blended search are of no concern to the rules of a clause. -/
theorem problem?_hybrid (c : Clause) (registry : Option Registry) (text : String) (alpha : Float)
    (fusion : Option Fusion) (weights : List (String × Float)) :
    { c with search := some (.hybrid text alpha fusion weights) }.problem? registry =
      { c with search := some (.hybrid text alpha fusion []) }.problem? registry := rfl

/-- A search that is accepted without weights is accepted with any, which it keeps as they are
read. -/
theorem exists_hybrid {q plain : Query} {text alpha fusion : Value} {given : Entries Value}
    {kept : List (String × Float)} (hplain : q.hybrid text alpha fusion .null = .ok plain)
    (hkept : Search.readWeights 0 given = .valid kept) : ∃ q' phrase blend how,
      q.hybrid text alpha fusion (.map given) = .ok q' ∧
      q'.clause = { plain.clause with search := some (.hybrid phrase blend how kept) } := by
  have hnull : q.hybrid text alpha fusion .null = q.hybrid text alpha fusion (.map []) := rfl
  rw [hnull, hybrid_map] at hplain
  obtain ⟨s, hs, hwith⟩ := bind_eq_ok_iff.mp hplain
  obtain ⟨phrase, blend, how, rfl, hread⟩ := Search.readHybrid_weights (clausePart_eq_ok_iff.mp hs)
  unfold withSearch at hwith
  cases hfree : q.clause.search with
  | some present =>
    rw [hfree] at hwith
    cases hwith
  | none =>
    rw [hfree] at hwith
    obtain ⟨hallowed, rfl⟩ := adopt_eq_ok_iff.mp hwith
    refine ⟨{ q with clause := { q.clause with search := some (.hybrid phrase blend how kept) } },
      phrase, blend, how, ?_, rfl⟩
    rw [hybrid_map, clausePart_eq_ok_iff.mpr (hread hkept), ok_bind]
    unfold withSearch
    rw [hfree]
    exact adopt_eq_ok_iff.mpr ⟨(problem?_hybrid ..).trans hallowed, rfl⟩

variable {name : Value} {registry : Option Registry} {start : Query} {calls : List Call}
  {text alpha fusion : Value}

theorem exists_request_of_gives (hstart : collection name registry = .ok start) {bare : Request}
    (hbare : (start.after calls).run (findAndCompile text alpha fusion .null) = .ok (.request bare))
    {given : Entries Value} {weights : List (String × Nat)}
    (hgiven : List.Forall₂ Search.Gives given weights) :
    ∃ r, (start.after calls).run (findAndCompile text alpha fusion (.map given)) =
        .ok (.request r) ∧
      (Search.readProperties? (propertiesOf r) =
        if ∀ w ∈ weights, w.2 < 10 ^ 6 then some weights else none) := by
  obtain ⟨plain, hplain, hbare⟩ := run_findAndCompile_iff.mp hbare
  obtain ⟨kept, hkept, hkeeps⟩ := Search.exists_readWeights hgiven 0
  obtain ⟨q', phrase, blend, how, hfind, hclause⟩ := exists_hybrid hplain hkept
  have hsound := (isSound_collection hstart).after calls
  have hlawful {weights : Value} {next : Query}
      (h : (start.after calls).hybrid text alpha fusion weights = .ok next) :
      next.clause.IsLawful := by
    obtain ⟨e, he, -, hmakes⟩ := hsound.exists_makes (isEditing_hybrid text alpha fusion weights) h
    exact (hsound.of_makes he hmakes).lawful
  obtain ⟨r, hr⟩ := Compilation.exists_compile_of_search (hlawful hplain) (hlawful hfind) hclause
    ⟨bare, compile_of_compile hbare⟩
  have hsearch : q'.clause.search = some (.hybrid phrase blend how kept) := by rw [hclause]
  have hcompile : q'.compile = .ok r := by
    have hcomplete : q'.complete = .ok q'.clause := by
      simp [complete, Clause.complete, hsearch]
    rw [compile, hcomplete]
    exact mapError_eq_ok_iff.mpr hr
  have hproperties : propertiesOf r = kept.map Compilation.weighted := by
    rw [Compilation.compile_eq] at hr
    obtain ⟨body, -, rfl⟩ := map_eq_ok_iff.mp hr
    rw [← Compilation.propertiesIn_memberOf hsearch q'.clause.collection]
    exact List.flatMap_singleton _ _
  refine ⟨r, run_findAndCompile_iff.mpr ⟨q', hfind, hcompile⟩, ?_⟩
  rw [hproperties, Search.readProperties?_weighted hkeeps]

/-- A search that has a request without weights has one with whole weights. Its properties are read
back as the weights exactly if none of these has more than six digits, and then no other weights
have a request with the same properties. -/
theorem weights_read_back (hstart : collection name registry = .ok start) {bare : Request}
    (hbare : (start.after calls).run (findAndCompile text alpha fusion .null) = .ok (.request bare))
    {given : Entries Value} {weights : List (String × Nat)}
    (hgiven : List.Forall₂ Search.Gives given weights) :
    ∃ r, (start.after calls).run (findAndCompile text alpha fusion (.map given)) =
        .ok (.request r) ∧
      (Search.readProperties? (propertiesOf r) =
        if ∀ w ∈ weights, w.2 < 10 ^ 6 then some weights else none) ∧
      ((∀ w ∈ weights, w.2 < 10 ^ 6) → ∀ others weights' r',
        List.Forall₂ Search.Gives others weights' →
        (start.after calls).run (findAndCompile text alpha fusion (.map others)) =
          .ok (.request r') →
        propertiesOf r' = propertiesOf r → weights' = weights) := by
  obtain ⟨r, hr, hread⟩ := exists_request_of_gives hstart hbare hgiven
  refine ⟨r, hr, hread, fun hsmall others weights' r' hothers hr' hsame => ?_⟩
  obtain ⟨s, hs, hread'⟩ := exists_request_of_gives hstart hbare hothers
  obtain rfl : s = r' := by
    rw [hs] at hr'
    injection hr' with hanswer
    injection hanswer
  rw [hsame, hread, if_pos hsmall] at hread'
  split at hread'
  · exact (Option.some.inj hread').symm
  · cases hread'

/-- Two weights of two digits and of one are read back, and one of seven digits is lost. -/
theorem weights_read_back_title : ∃ start r long,
    collection (.text "Book") none = .ok start ∧
    start.run (findAndCompile (.text "sea") (.float 0.5) .null
      (.map [("title", .int 20), ("body", .int 1)])) = .ok (.request r) ∧
    Search.readProperties? (propertiesOf r) = some [("title", 20), ("body", 1)] ∧
    start.run (findAndCompile (.text "sea") (.float 0.5) .null (.map [("title", .int 1234567)])) =
      .ok (.request long) ∧
    Search.readProperties? (propertiesOf long) = none := by
  have hstart : collection (.text "Book") none = .ok { clause := { collection := "Book" } } := rfl
  obtain ⟨bare, hbare⟩ : ∃ bare, (({ clause := { collection := "Book" } } : Query).after []).run
      (findAndCompile (.text "sea") (.float 0.5) .null .null) = .ok (.request bare) := ⟨_, rfl⟩
  have hgives (property : String) (hname : IsName property) (n : Nat) (hpos : 0 < n)
      (hlt : n < 2 ^ 53) : Search.Gives (property, .int n) (property, n) :=
    ⟨rfl, hname, hpos, hlt, .inl rfl⟩
  obtain ⟨r, hr, hread, -⟩ := weights_read_back hstart hbare
    (.cons (hgives "title" (by decide) 20 (by decide) (by decide))
      (.cons (hgives "body" (by decide) 1 (by decide) (by decide)) .nil))
  obtain ⟨long, hlong, hlost, -⟩ := weights_read_back hstart hbare
    (.cons (hgives "title" (by decide) 1234567 (by decide) (by decide)) .nil)
  exact ⟨_, r, long, hstart, hr, hread.trans (if_pos (by decide)), hlong,
    hlost.trans (if_neg (by decide))⟩

end Query

end Retrieval
