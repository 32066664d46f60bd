import Retrieval.Proofs.Arguments
import Retrieval.Proofs.Members
import Retrieval.Proofs.SelectionOutlines

/-!
The outline of a compiled document. Main statement: the document of a query has one section with
one root field, that of the collection, and its arguments and fields are those of the parts of the
clause, whatever the texts in it are, as long as those that enter without quotes are names.
-/

namespace Retrieval

open Document
open Literal (IsName)

namespace Compilation

/-- Texts that ask for one field each. -/
abbrev AskEach (texts : List String) (shapes : List Shape) : Prop :=
  List.Forall₂ (fun text shape => Asks text [shape]) texts shapes

theorem askEach_bare {names : List String} (h : ∀ name ∈ names, IsName name) :
    AskEach names (names.map .bare) := by
  induction names with
  | nil => exact .nil
  | cons name rest ih =>
    obtain ⟨hname, hrest⟩ := List.forall_mem_cons.mp h
    exact .cons (asks_name name hname) (ih hrest)

theorem asks_braced {text inside : String} {head : Head} {shapes : List Shape}
    (h : Asks text [.field head []]) (h' : Asks inside shapes) (hne : shapes ≠ []) :
    Asks (text ++ " " ++ braced inside) [.field head shapes] := by
  have htext : text ++ " " ++ braced inside = text ++ " \x7b " ++ inside ++ " \x7d" := by
    simp [braced, ← String.toList_inj]
  rw [htext]
  exact h.nested h' hne

/-- A field that is written with the blank behind it. -/
theorem asks_named {start name inside : String} {shapes : List Shape} (hstart : start = name ++ " ")
    (hname : IsName name) (h : Asks inside shapes) (hne : shapes ≠ []) :
    Asks (start ++ braced inside) [.field { name } shapes] := by
  rw [hstart]
  exact asks_braced (asks_name name hname) h hne

theorem asks_over {text inside : String} {head : Head} (h : Asks text [.field head []])
    (names : List String) (hinside : inside = " ".intercalate names)
    (hnames : ∀ name ∈ names, IsName name) (hne : names ≠ []) :
    Asks (text ++ " " ++ braced inside) [Shape.over head names] := by
  rw [hinside]
  exact asks_braced h (asks_intercalate (askEach_bare hnames)) (by simpa using hne)

theorem asks_namedOver {start name inside : String} (hstart : start = name ++ " ")
    (hname : IsName name) (names : List String) (hinside : inside = " ".intercalate names)
    (hnames : ∀ name ∈ names, IsName name) (hne : names ≠ []) :
    Asks (start ++ braced inside) [Shape.over { name } names] := by
  rw [hstart]
  exact asks_over (asks_name name hname) names hinside hnames hne

/-- What is asked for about the spelling of a search text. -/
def spellCheckShape : Shape :=
  .field { name := "spellCheck" }
    (["originalText", "didYouMean", "location", "numberOfCorrections"].map .bare ++
      [Shape.over { name := "changes" } ["original", "corrected"]])

theorem asks_spellCheckFields : Asks spellCheckFields [spellCheckShape] := by
  have hnames : AskEach ["originalText", "didYouMean", "location", "numberOfCorrections"]
      (["originalText", "didYouMean", "location", "numberOfCorrections"].map .bare) :=
    askEach_bare (by decide)
  have hchanges : Asks ("changes " ++ braced "original corrected")
      [Shape.over { name := "changes" } ["original", "corrected"]] :=
    asks_namedOver (by simp) (by decide) ["original", "corrected"] (by simp) (by decide) (by simp)
  have hinside := (asks_intercalate hnames).append hchanges
  have hfield := asks_braced (asks_name "spellCheck" (by decide)) hinside (by simp)
  simpa [spellCheckFields, spellCheckShape, braced] using hfield

def groupShape : Shape :=
  .field { name := "group" }
    [.bare "id", Shape.over { name := "groupedBy" } ["path", "value"], .bare "count"]

theorem asks_groupedBy : Asks ("groupedBy " ++ braced "path value")
    [Shape.over { name := "groupedBy" } ["path", "value"]] :=
  asks_namedOver (by simp) (by decide) ["path", "value"] (by simp) (by decide) (by simp)

theorem asks_groupFields : Asks groupFields [groupShape] := by
  have hinside := ((asks_name "id" (by decide)).append asks_groupedBy).append
    (asks_name "count" (by decide))
  have hfield := asks_braced (asks_name "group" (by decide)) hinside (by simp)
  simpa [groupFields, groupShape, braced] using hfield

/-- What is asked for of the generated part. -/
def generationShape : Generation → Shape
  | .perRecord _ options =>
    Shape.over
      { name := "generate", arguments := "singleResult" :: Entries.keys (ofOptions options) }
      ["singleResult", "error"]
  | .overAll _ _ options =>
    Shape.over
      { name := "generate", arguments := "groupedResult" :: Entries.keys (ofOptions options) }
      ["groupedResult", "error"]
  | .ask _ properties options =>
    Shape.over
      { name := "answer"
        arguments := "question" :: (Entries.keys (textsEntry "properties" properties) ++
          Entries.keys (ofOptions options)) }
      ["result", "sources", "error"]

theorem areLexable_ofOptions {o : GenerationOptions} (h : o.IsBounded) :
    AreLexable (ofOptions o) := by
  have hprovider : AreLexable (entry "provider" (o.provider.map .text)) :=
    areLexable_entry (by decide) fun t _ => lexable_text t
  have hmodel : AreLexable (entry "model" (o.model.map .text)) :=
    areLexable_entry (by decide) fun t _ => lexable_text t
  have htemperature : AreLexable (entry "temperature" (o.temperature.map .float)) :=
    areLexable_entry (by decide) fun x hx => lexable_admitted (h x hx) rfl
  have htokens : AreLexable (countEntry "maxTokens" o.maxTokens) :=
    areLexable_countEntry (by decide) o.maxTokens
  have hall := ((hprovider.append hmodel).append htemperature).append htokens
  unfold ofOptions
  dsimp only
  split
  · exact areLexable_nil
  · exact areLexable_single (by decide) ((lexable_map _).mpr hall)

theorem areLexable_ofPrompt {name : String} (hname : IsName name) (p : Prompt) :
    AreLexable (ofPrompt name p) := by
  cases p with
  | text t => exact areLexable_single hname (lexable_text t)
  | chat messages =>
    have hmessage (m : ChatMessage) : (ofMessage m).Everywhere IsLexable :=
      (lexable_map _).mpr (areLexable_cons (by decide) (lexable_text _)
        (areLexable_single (by decide) (lexable_text _)))
    exact areLexable_single (by decide)
      (lexable_list (List.forall_mem_map.mpr fun m _ => hmessage m))

theorem asks_generationField {g : Generation} (h : g.IsBounded) {text : String}
    (htext : generationField g = .ok text) : Asks text [generationShape g] := by
  cases g with
  | perRecord prompt options =>
    obtain ⟨args, hargs, hjoined⟩ := bind_eq_ok_iff.mp htext
    obtain rfl := Except.ok.inj hjoined
    have hprompt : AreLexable (ofPrompt "prompt" prompt) := areLexable_ofPrompt (by decide) prompt
    have hresult : AreLexable [("singleResult", .map (ofPrompt "prompt" prompt))] :=
      areLexable_single (by decide) ((lexable_map _).mpr hprompt)
    have hlexable := hresult.append (areLexable_ofOptions h)
    have hfield := (asks_name "generate" (by decide)).arguments hargs hlexable
    exact asks_over hfield ["singleResult", "error"] (by simp) (by decide) (by simp)
  | overAll task properties options =>
    obtain ⟨args, hargs, hjoined⟩ := bind_eq_ok_iff.mp htext
    obtain rfl := Except.ok.inj hjoined
    have htask : AreLexable (ofPrompt "task" task) := areLexable_ofPrompt (by decide) task
    have hproperties : AreLexable (textsEntry "properties" properties) :=
      areLexable_textsEntry (by decide) properties
    have hresult : AreLexable
        [("groupedResult", .map (ofPrompt "task" task ++ textsEntry "properties" properties))] :=
      areLexable_single (by decide) ((lexable_map _).mpr (htask.append hproperties))
    have hlexable := hresult.append (areLexable_ofOptions h)
    have hfield := (asks_name "generate" (by decide)).arguments hargs hlexable
    exact asks_over hfield ["groupedResult", "error"] (by simp) (by decide) (by simp)
  | ask question properties options =>
    obtain ⟨args, hargs, hjoined⟩ := bind_eq_ok_iff.mp htext
    obtain rfl := Except.ok.inj hjoined
    have hquestion : AreLexable [("question", .text question)] :=
      areLexable_single (by decide) (lexable_text question)
    have hproperties : AreLexable (textsEntry "properties" properties) :=
      areLexable_textsEntry (by decide) properties
    have hlexable := (hquestion.append hproperties).append (areLexable_ofOptions h)
    have hfield := (asks_name "answer" (by decide)).arguments hargs hlexable
    have hkeys : Entries.keys ([("question", .text question)] ++
        textsEntry "properties" properties ++ ofOptions options) =
          "question" :: (Entries.keys (textsEntry "properties" properties) ++
            Entries.keys (ofOptions options)) := by
      rw [keys_append, keys_append, List.append_assoc]
      rfl
    rw [hkeys] at hfield
    exact asks_over hfield ["result", "sources", "error"] (by simp) (by decide) (by simp)

variable {c : Clause}

/-- What is asked for about each record beside its properties. -/
def additionalShapes (c : Clause) : List Shape :=
  (match c.search with
    | some search => (searchMetadata search).map .bare
    | none => if c.generation.isSome || c.groupBy.isSome then [.bare "id"] else [])
    ++ (if c.rerank.isSome then
      [Shape.over { name := "rerank", arguments := ["property", "query"] } ["score"]] else [])
    ++ (if c.spellCheck then [spellCheckShape] else [])
    ++ (if c.groupBy.isSome then [groupShape] else [])
    ++ (c.generation.map generationShape).toList

theorem AskEach.append {texts more : List String} {shapes others : List Shape}
    (h : AskEach texts shapes) (h' : AskEach more others) :
    AskEach (texts ++ more) (shapes ++ others) := List.rel_append h h'

theorem askEach_single {text : String} {shape : Shape} (h : Asks text [shape]) :
    AskEach [text] [shape] := .cons h .nil

theorem askEach_if {text : String} {shape : Shape} (h : Asks text [shape]) (present : Bool) :
    AskEach (if present then [text] else []) (if present then [shape] else []) := by
  cases present with
  | false => exact .nil
  | true => exact askEach_single h

theorem askEach_metadata (c : Clause) : AskEach
    (match c.search with
      | some search => searchMetadata search
      | none => if c.generation.isSome || c.groupBy.isSome then ["id"] else [])
    (match c.search with
      | some search => (searchMetadata search).map .bare
      | none => if c.generation.isSome || c.groupBy.isSome then [.bare "id"] else []) := by
  cases c.search with
  | none => exact askEach_if (asks_name "id" (by decide)) _
  | some s =>
    refine askEach_bare ?_
    cases s <;> simp only [searchMetadata] <;> decide

theorem askEach_rerankTexts {texts : List String} (htexts : rerankTexts c = .ok texts) :
    AskEach texts (if c.rerank.isSome then
      [Shape.over { name := "rerank", arguments := ["property", "query"] } ["score"]] else []) := by
  unfold rerankTexts at htexts
  cases hc : c.rerank with
  | none =>
    rw [hc] at htexts
    obtain rfl := Except.ok.inj htexts
    exact .nil
  | some r =>
    rw [hc] at htexts
    obtain ⟨args, hargs, hjoined⟩ := bind_eq_ok_iff.mp htexts
    obtain rfl := Except.ok.inj hjoined
    have hlexable : AreLexable [("property", .text r.property), ("query", .text r.query)] :=
      areLexable_cons (by decide) (lexable_text _)
        (areLexable_single (by decide) (lexable_text _))
    have hfield := (asks_name "rerank" (by decide)).arguments hargs hlexable
    exact askEach_single (asks_over hfield ["score"] (by simp) (by decide) (by simp))

theorem askEach_generationTexts (h : c.IsBounded) {texts : List String}
    (htexts : generationTexts c = .ok texts) :
    AskEach texts (c.generation.map generationShape).toList := by
  unfold generationTexts at htexts
  cases hc : c.generation with
  | none =>
    rw [hc] at htexts
    obtain rfl := Except.ok.inj htexts
    exact .nil
  | some g =>
    rw [hc] at htexts
    obtain ⟨text, htext, hjoined⟩ := bind_eq_ok_iff.mp htexts
    obtain rfl := Except.ok.inj hjoined
    exact askEach_single (asks_generationField (h.generation g hc) htext)

theorem askEach_additionalFields (h : c.IsBounded) {texts : List String}
    (htexts : additionalFields c = .ok texts) : AskEach texts (additionalShapes c) := by
  obtain ⟨generated, hgenerated, hmore⟩ := bind_eq_ok_iff.mp htexts
  obtain ⟨rerank, hrerank, hjoined⟩ := bind_eq_ok_iff.mp hmore
  obtain rfl := Except.ok.inj hjoined
  exact ((((askEach_metadata c).append (askEach_rerankTexts hrerank)).append
    (askEach_if asks_spellCheckFields _)).append (askEach_if asks_groupFields _)).append
      (askEach_generationTexts h hgenerated)

/-- The fields that a query for records asks for explicitly. -/
def chosenShapes (c : Clause) : List Shape :=
  SelectionTree.shapes (SelectionTree.ofPaths c.selection)
    ++ if (additionalShapes c).isEmpty then []
      else [.field { name := "_additional" } (additionalShapes c)]

/-- The fields of a query for records. -/
def getShapes (c : Clause) : List Shape :=
  if (chosenShapes c).isEmpty then [Shape.over { name := "_additional" } ["id"]]
  else chosenShapes c

theorem AskEach.isEmpty_eq {texts : List String} {shapes : List Shape} (h : AskEach texts shapes) :
    texts.isEmpty = shapes.isEmpty := by
  cases h <;> rfl

theorem askEach_getFields (hlawful : c.IsLawful) (hbounded : c.IsBounded) (hnames : c.HasNames)
    {texts : List String} (htexts : getFields c = .ok texts) : AskEach texts (getShapes c) := by
  obtain ⟨additional, hadditional, hmore⟩ := bind_eq_ok_iff.mp htexts
  obtain ⟨selected, hselected, hjoined⟩ := bind_eq_ok_iff.mp hmore
  obtain rfl := Except.ok.inj hjoined
  obtain ⟨-, rfl⟩ := selectedFields_eq_ok_iff.mp hselected
  have heach := askEach_additionalFields hbounded hadditional
  have hselection : AskEach (SelectionTree.fields (SelectionTree.ofPaths c.selection))
      (SelectionTree.shapes (SelectionTree.ofPaths c.selection)) :=
    SelectionTree.asks_fields (SelectionTree.areNamed_ofPaths
      (fun p hp => (hlawful.selection_plain p hp).alternates) hnames.selection)
  have hchosen : AskEach
      (SelectionTree.fields (SelectionTree.ofPaths c.selection) ++
        (if additional.isEmpty then []
          else ["_additional " ++ braced (" ".intercalate additional)])) (chosenShapes c) := by
    refine hselection.append ?_
    rw [heach.isEmpty_eq]
    split
    · exact .nil
    · next hne =>
      exact askEach_single (asks_named (by simp) (by decide) (asks_intercalate heach)
        (by simpa using hne))
  unfold getShapes
  rw [hchosen.isEmpty_eq]
  split
  · exact askEach_single (asks_namedOver (by simp) (by decide) ["id"] (by simp) (by decide)
      (by simp))
  · exact hchosen

def metricShape : Metric → Shape
  | .topOccurrences => Shape.over { name := "topOccurrences" } ["value", "occurs"]
  | m => .bare m.name

theorem asks_metricField (m : Metric) : Asks (metricField m) [metricShape m] := by
  cases m with
  | topOccurrences =>
    exact asks_namedOver (by simp) (by decide) ["value", "occurs"] (by simp) (by decide) (by simp)
  | _ => exact asks_name _ (by decide)

/-- The fields of a query for statistics. -/
def aggregateShapes (a : Aggregate) : List Shape :=
  [Shape.over { name := "meta" } ["count"]]
    ++ (if a.groupBy.isSome then [Shape.over { name := "groupedBy" } ["path", "value"]] else [])
    ++ a.metrics.filterMap fun (property, metrics) =>
      if metrics.isEmpty then none
      else some (.field { name := property } (metrics.map metricShape))

theorem askEach_metricFields (ms : List Metric) :
    AskEach (ms.map metricField) (ms.map metricShape) := by
  induction ms with
  | nil => exact .nil
  | cons m rest ih => exact .cons (asks_metricField m) ih

theorem askEach_metrics {metrics : List (String × List Metric)}
    (h : ∀ e ∈ metrics, e.2 ≠ [] → IsName e.1) : AskEach
      (metrics.filterMap fun (property, ms) =>
        if ms.isEmpty then none
        else some (property ++ " " ++ braced (" ".intercalate (ms.map metricField))))
      (metrics.filterMap fun (property, ms) =>
        if ms.isEmpty then none else some (.field { name := property } (ms.map metricShape))) := by
  induction metrics with
  | nil => exact .nil
  | cons e rest ih =>
    obtain ⟨property, ms⟩ := e
    obtain ⟨hproperty, hrest⟩ := List.forall_mem_cons.mp h
    cases ms with
    | nil => exact ih hrest
    | cons m more =>
      exact .cons (asks_braced (asks_name property (hproperty (by simp)))
        (asks_intercalate (askEach_metricFields (m :: more))) (by simp)) (ih hrest)

theorem askEach_aggregateFields {a : Aggregate} (h : ∀ e ∈ a.metrics, e.2 ≠ [] → IsName e.1) :
    AskEach (aggregateFields a) (aggregateShapes a) := by
  have hcount : Asks ("meta " ++ braced "count") [Shape.over { name := "meta" } ["count"]] :=
    asks_namedOver (by simp) (by decide) ["count"] (by simp) (by decide) (by simp)
  exact ((askEach_single hcount).append (askEach_if asks_groupedBy _)).append (askEach_metrics h)

/-- What the root field of a clause asks for. -/
def rootShapes (c : Clause) : List Shape :=
  match c.aggregate with
  | none => getShapes c
  | some a => aggregateShapes a

theorem rootShapes_ne_nil (c : Clause) : rootShapes c ≠ [] := by
  unfold rootShapes
  split
  · unfold getShapes
    split
    · simp
    · next h => simpa using h
  · simp [aggregateShapes]

theorem askEach_fieldTexts (hlawful : c.IsLawful) (hbounded : c.IsBounded) (hnames : c.HasNames)
    {texts : List String} (htexts : fieldTexts c = .ok texts) : AskEach texts (rootShapes c) := by
  unfold fieldTexts at htexts
  unfold rootShapes
  cases haggregate : c.aggregate with
  | none =>
    rw [haggregate] at htexts
    exact askEach_getFields hlawful hbounded hnames htexts
  | some a =>
    rw [haggregate] at htexts
    obtain rfl := Except.ok.inj htexts
    exact askEach_aggregateFields (hnames.metrics a haggregate)

/-- The root field of a clause. -/
def rootShape (c : Clause) : Shape :=
  .field { name := c.collection, arguments := rootArguments c } (rootShapes c)

theorem asks_root (hlawful : c.IsLawful) (hbounded : c.IsBounded) (hnames : c.HasNames)
    {body : String} (hbody : bodyText c = .ok body) :
    Asks (c.collection ++ body) [rootShape c] := by
  unfold bodyText at hbody
  split at hbody
  · cases hbody
  obtain ⟨texts, htexts, hmore⟩ := bind_eq_ok_iff.mp hbody
  obtain ⟨args, hargs, hjoined⟩ := bind_eq_ok_iff.mp hmore
  obtain rfl := Except.ok.inj hjoined
  have hhead := (asks_name _ hnames.collection).arguments hargs
    (areLexable_arguments hlawful hbounded hnames)
  rw [keys_arguments] at hhead
  have hfields := asks_intercalate (askEach_fieldTexts hlawful hbounded hnames htexts)
  have hroot := asks_braced hhead hfields (rootShapes_ne_nil c)
  simpa [rootShape, String.append_assoc] using hroot

theorem operation_memberOf (c : Clause) (key : String) :
    (memberOf c key).operation = c.operation := by
  unfold memberOf Clause.operation
  cases c.aggregate <;> rfl

theorem outline_document (hlawful : c.IsLawful) (hbounded : c.IsBounded) (hnames : c.HasNames)
    {r : Request} (hr : compile c = .ok r) :
    outline r.query = some [.field { name := c.operation.name } [rootShape c]] := by
  rw [compile_eq] at hr
  obtain ⟨body, hbody, rfl⟩ := map_eq_ok_iff.mp hr
  have hname : IsName c.operation.name := by
    cases c.operation <;> decide
  have hsection := asks_braced (asks_name _ hname) (asks_root hlawful hbounded hnames hbody)
    (List.cons_ne_nil _ _)
  have hquery : (requestOf c body).query =
      braced (c.operation.name ++ " " ++ braced (c.collection ++ body)) := by
    rw [requestOf, document_single, operation_memberOf]
    rfl
  rw [hquery]
  exact outline_of_asks hsection (List.cons_ne_nil _ _)

end Compilation

namespace Query

open Compilation (rootShape rootArguments)

theorem compile_of_compile {q : Query} {r : Request} (h : q.compile = .ok r) :
    Compilation.compile q.clause = .ok r := by
  unfold compile complete Clause.complete at h
  split at h
  · cases h
  · next c hc =>
    split at hc
    · cases hc
    · cases hc
      exact mapError_eq_ok_iff.mp h

/-- Whatever steps made a query, its document asks for one thing only: there is one section, with
the collection as its one root field, whose arguments and fields are those of the parts of the
clause. Every bracket is closed. -/
theorem outline_compile {name : Value} {registry : Option Registry} {q : Query}
    (h : collection name registry = .ok q) (calls : List Call) {r : Request}
    (hr : (q.after calls).compile = .ok r) (hnames : (q.after calls).clause.HasNames) :
    outline r.query = some [.field { name := (q.after calls).clause.operation.name }
      [rootShape (q.after calls).clause]] ∧
    ∃ ls, lex r.query.toList = some ls ∧ IsBalanced ls := by
  have hsound := (isSound_collection h).after calls
  have houtline := Compilation.outline_document hsound.lawful hsound.bounded hnames
    (compile_of_compile hr)
  exact ⟨houtline, isBalanced_of_outline houtline⟩

/-- Texts that try to close what they stand in. -/
def hostileTexts : List Call :=
  [.method "select" ⟨[.text "name", .text "books.0.title"], []⟩,
    .method "about" ⟨[.text "poetry\"\x7d) \x7b Secret \x7d"], []⟩,
    .restrict [.expression (.apply "Equal" [.text "name", .text "\"]\x7d) \x7b token \x7d \x7d"])],
    .method "generate_from_one" ⟨[.text "About \x7bname\x7d: \") \x7b"], []⟩]

theorem clause_hostileTexts {q : Query} (h : collection (.text "Author") none = .ok q) :
    (q.after hostileTexts).clause = {
      collection := "Author"
      selection := [⟨"name", []⟩, ⟨"books", [.index 0, .property "title"]⟩]
      filter := some (.leaf ⟨"name", []⟩ .equal (.text "\"]\x7d) \x7b token \x7d \x7d"))
      search := some (.about "poetry\"\x7d) \x7b Secret \x7d" none)
      generation := some
        (.perRecord (.text "About \x7bname\x7d: \") \x7b") ⟨none, none, none, none⟩) } := by
  obtain rfl := Except.ok.inj h
  rfl

theorem outline_compile_hostileTexts : ∃ q r, collection (.text "Author") none = .ok q ∧
    (q.after hostileTexts).compile = .ok r ∧
    outline r.query = some [.field { name := "Get" } [rootShape (q.after hostileTexts).clause]] ∧
    rootArguments (q.after hostileTexts).clause = ["where", "nearText"] ∧
    ∃ ls, lex r.query.toList = some ls ∧ IsBalanced ls := by
  have hstart : collection (.text "Author") none = .ok { clause := { collection := "Author" } } :=
    rfl
  have hclause := clause_hostileTexts hstart
  obtain ⟨r, hr⟩ : ∃ r, (({ clause := { collection := "Author" } } : Query).after
      hostileTexts).compile = .ok r := ⟨_, rfl⟩
  have hnames : (({ clause := { collection := "Author" } } : Query).after
      hostileTexts).clause.HasNames := by
    rw [hclause]
    refine ⟨by decide, by decide, by simp, ?_, by simp⟩
    intro l hl s hs
    obtain rfl := List.mem_singleton.mp hl
    cases hs
  obtain ⟨houtline, hbalanced⟩ := outline_compile hstart hostileTexts hr hnames
  exact ⟨_, r, hstart, hr, houtline, by rw [hclause]; rfl, hbalanced⟩

-- a selected property whose name is none closes the root field and opens another
example : (Compilation.compile
    { collection := "Author", selection := [⟨"name \x7d Secret \x7b token", []⟩] }).map (·.query) =
      .ok "\x7b Get \x7b Author \x7b name \x7d Secret \x7b token \x7d \x7d \x7d" := by rfl

example : outline "\x7b Get \x7b Author \x7b name \x7d Secret \x7b token \x7d \x7d \x7d" =
    some [.field { name := "Get" } [.field { name := "Author" } [.bare "name"],
      .field { name := "Secret" } [.bare "token"]]] := by cbv

end Query

end Retrieval
