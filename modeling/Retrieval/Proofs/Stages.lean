import Retrieval.Proofs.Documents

/-!
The stages of a query and where they show. Main statement: the arguments of the root field and the
pipeline of its member are those of the parts that the clause has, in the order of the stages, the
text lists the arguments in that order, and the search argument tells of a filter and of corrected
spelling without losing an entry of its own.
-/

namespace Retrieval

/-- What the root field of a clause may be given. -/
inductive RootArgument
  | filter
  | search
  | group
  | sort
  | limit
  | offset
  deriving DecidableEq, Repr

/-- The arguments of an operation, in order. -/
def Operation.arguments : Operation → List RootArgument
  | .get => [.filter, .search, .group, .sort, .limit, .offset]
  | .aggregate => [.filter, .search, .group, .limit]

/-- The stages of an operation, in order. -/
def Operation.stages : Operation → List Stage
  | .get => [.filter, .search, .rerank, .group, .sort, .paginate, .generate]
  | .aggregate => [.filter, .search, .group, .paginate, .aggregate]

/-- The name under which the limit is given. -/
def Operation.limitName : Operation → String
  | .get => "limit"
  | .aggregate => "objectLimit"

namespace Clause

/-- Whether a clause has the part that a stage applies. -/
def has (c : Clause) : Stage → Bool
  | .filter => c.filter.isSome
  | .search => c.search.isSome
  | .rerank => c.rerank.isSome
  | .group => c.groupBy.isSome || c.aggregate.any fun a => a.groupBy.isSome
  | .sort => !c.sort.isEmpty
  | .paginate => c.limit.isSome || c.offset.isSome
  | .generate => c.generation.isSome
  | .aggregate => c.aggregate.isSome

/-- The name of an argument, if the clause has the part that it is made of. -/
def argumentName? (c : Clause) : RootArgument → Option String
  | .filter => if c.filter.isSome then some "where" else none
  | .search => c.search.map Compilation.searchName
  | .group => if c.has .group then some "groupBy" else none
  | .sort => if c.sort.isEmpty then none else some "sort"
  | .limit => if c.limit.isSome then some c.operation.limitName else none
  | .offset => if c.offset.isSome then some "offset" else none

theorem operation_of_no_aggregate {c : Clause} (h : c.aggregate = none) : c.operation = .get := by
  simp [operation, h]

theorem operation_of_aggregate {c : Clause} {a : Aggregate} (h : c.aggregate = some a) :
    c.operation = .aggregate := by simp [operation, h]

end Clause

namespace Literal

open Retrieval.Text (joinWith)

/-- Arguments between parentheses, each key before its literal. -/
def argumentList (keys literals : List String) : String :=
  if keys.isEmpty then ""
  else
    "(" ++ ", ".intercalate (List.zipWith (fun key literal => key ++ ": " ++ literal) keys literals)
      ++ ")"

theorem ofList_joinWith (pieces : List String) :
    String.ofList (joinWith separator (pieces.map String.toList)) = ", ".intercalate pieces := by
  induction pieces with
  | nil => rfl
  | cons piece rest ih =>
    cases rest with
    | nil => simp [joinWith]
    | cons next more =>
      rw [String.intercalate_cons_cons, ← ih]
      simp [joinWith, separator, ← String.toList_inj]

theorem fieldChars_eq (room : Nat) (es : Entries Value) :
    fieldChars room es = ((es.map (·.2)).mapM (render room)).map fun literals =>
      (List.zipWith (fun key literal => key ++ ": " ++ literal) (Entries.keys es) literals).map
        String.toList := by
  induction es with
  | nil => rfl
  | cons e rest ih =>
    obtain ⟨key, v⟩ := e
    rw [fieldChars, ih, List.map_cons, List.mapM_cons]
    cases hchars : chars room v with
    | error violation => simp [render, hchars, Except.map, bind, Except.bind]
    | ok cs =>
      cases (rest.map (·.2)).mapM (render room) with
      | error violation => simp [render, hchars, Except.map, bind, Except.bind]
      | ok literals =>
        simp [render, hchars, Except.map, bind, Except.bind, pure, Except.pure, Entries.keys]

/-- The arguments of a field are listed in their order. -/
theorem arguments_eq (room : Nat) (es : Entries Value) :
    arguments room es =
      ((es.map (·.2)).mapM (render room)).map (argumentList (Entries.keys es)) := by
  cases es with
  | nil => rfl
  | cons e rest =>
    rw [arguments, if_neg (by simp), fieldChars_eq]
    cases ((e :: rest).map (·.2)).mapM (render room) with
    | error violation => rfl
    | ok literals =>
      have hkeys : (Entries.keys (e :: rest)).isEmpty = false := rfl
      simp only [Except.map, ok_bind, argumentList, hkeys, ← ofList_joinWith]
      simp [pure, Except.pure, ← String.toList_inj]

end Literal

namespace Compilation

variable {c : Clause}

theorem nameIf_eq (name : String) (present : Bool) :
    nameIf name present = (if present then some name else none).toList := by
  cases present <;> rfl

/-- The arguments of a root field are those that the clause has, in the order of the operation. -/
theorem rootArguments_eq (h : c.IsConsistent) :
    rootArguments c = c.operation.arguments.filterMap c.argumentName? := by
  unfold rootArguments
  cases haggregate : c.aggregate with
  | none =>
    simp [Clause.operation_of_no_aggregate haggregate, Operation.arguments,
      List.filterMap_eq_flatMap_toList, Clause.argumentName?, Clause.has, haggregate, nameIf_eq,
      Operation.limitName]
  | some a =>
    obtain ⟨-, -, -, hgroupBy, -⟩ := h.aggregate (by simp [haggregate])
    simp [Clause.operation_of_aggregate haggregate, Operation.arguments,
      List.filterMap_eq_flatMap_toList, Clause.argumentName?, Clause.has, haggregate, hgroupBy,
      nameIf_eq, Operation.limitName]

/-- No part of a consistent clause is without a place among the arguments of its operation. -/
theorem mem_arguments_of_isSome (h : c.IsConsistent) {a : RootArgument}
    (ha : (c.argumentName? a).isSome) : a ∈ c.operation.arguments := by
  cases haggregate : c.aggregate with
  | none =>
    rw [Clause.operation_of_no_aggregate haggregate]
    cases a <;> decide
  | some statistics =>
    obtain ⟨-, -, hsort, -, hoffset, -⟩ := h.aggregate (by simp [haggregate])
    rw [Clause.operation_of_aggregate haggregate]
    cases a with
    | sort => simp [Clause.argumentName?, hsort] at ha
    | offset => simp [Clause.argumentName?, hoffset] at ha
    | _ => decide

theorem filter_cons_stage (s : Stage) (ss : List Stage) (p : Stage → Bool) :
    (s :: ss).filter p = stage s (p s) ++ ss.filter p := by
  cases hs : p s <;> simp [stage, hs]

/-- The pipeline is made of the stages that the clause has, in the order of the operation. -/
theorem pipeline_memberOf (h : c.IsConsistent) (key : String) :
    (memberOf c key).pipeline = c.operation.stages.filter c.has := by
  unfold memberOf
  cases haggregate : c.aggregate with
  | none =>
    simp [Clause.operation_of_no_aggregate haggregate, Operation.stages, filter_cons_stage,
      getPipeline, Clause.has, haggregate]
  | some a =>
    obtain ⟨-, -, -, hgroupBy, hoffset, -⟩ := h.aggregate (by simp [haggregate])
    simp [Clause.operation_of_aggregate haggregate, Operation.stages, filter_cons_stage,
      aggregatePipeline, Clause.has, haggregate, hgroupBy, hoffset]

/-- No part of a consistent clause is without a place among the stages of its operation. -/
theorem mem_stages_of_has (h : c.IsConsistent) {s : Stage} (hs : c.has s = true) :
    s ∈ c.operation.stages := by
  cases haggregate : c.aggregate with
  | none =>
    rw [Clause.operation_of_no_aggregate haggregate]
    cases s with
    | aggregate => simp [Clause.has, haggregate] at hs
    | _ => decide
  | some statistics =>
    obtain ⟨hgeneration, hrerank, hsort, -⟩ := h.aggregate (by simp [haggregate])
    rw [Clause.operation_of_aggregate haggregate]
    cases s with
    | rerank => simp [Clause.has, hrerank] at hs
    | sort => simp [Clause.has, hsort] at hs
    | generate => simp [Clause.has, hgeneration] at hs
    | _ => decide

/-- The names that the entries of a search may have. -/
def entryNames : Search → List String
  | .about .. => ["concepts", "certainty"]
  | .words .. => ["query", "properties"]
  | .hybrid .. => ["query", "alpha", "fusionType", "properties"]
  | .nearVector (.vector ..) _ => ["vector", "distance"]
  | .nearVector (.record ..) _ => ["sourceId", "targetProperty", "distance"]
  | .similar .. => ["id", "distance"]

/-- The names of what a clause adds to the entries of its search. -/
def markNames : List String := ["autocorrect", "filterStrategy"]

theorem nodup_entryNames (s : Search) : (entryNames s ++ markNames).Nodup := by
  cases s with
  | nearVector source distance => cases source <;> simp [entryNames, markNames]
  | _ => simp [entryNames, markNames]

theorem nameIf_sublist (name : String) (present : Bool) : (nameIf name present).Sublist [name] := by
  cases present <;> simp [nameIf]

theorem keys_textsEntry (key : String) (xs : List String) :
    Entries.keys (textsEntry key xs) = nameIf key (!xs.isEmpty) := by
  cases xs <;> rfl

theorem keys_ofSearch_sublist (s : Search) :
    (Entries.keys (ofSearch s).2).Sublist (entryNames s) := by
  cases s with
  | about concept certainty =>
    simp only [ofSearch, keys_append, keys_entry]
    exact (List.Sublist.refl ["concepts"]).append (nameIf_sublist _ _)
  | words text properties =>
    simp only [ofSearch, keys_append, keys_textsEntry]
    exact (List.Sublist.refl ["query"]).append (nameIf_sublist _ _)
  | hybrid text alpha fusion weights =>
    simp only [ofSearch, keys_append, keys_entry, keys_textsEntry]
    exact ((List.Sublist.refl ["query", "alpha"]).append (nameIf_sublist _ _)).append
      (nameIf_sublist _ _)
  | nearVector source distance => cases source <;> exact .refl _
  | similar id distance =>
    simp only [ofSearch, keys_append, keys_entry]
    exact (List.Sublist.refl ["id"]).append (nameIf_sublist _ _)

/-- The entries of a search with what a clause adds to them: that spelling is corrected, and that a
filter applies before the search. -/
structure IsMarked (c : Clause) (own es : Entries Value) : Prop where
  kept : ∀ key v, Entries.get? key own = some v → Entries.get? key es = some v
  distinct : (Entries.keys es).Nodup
  others : ∀ key ∈ Entries.keys es, key ∈ Entries.keys own ∨ key ∈ markNames
  autocorrect : Entries.get? "autocorrect" es = if c.spellCheck then some (.bool true) else none
  filterStrategy :
    Entries.get? "filterStrategy" es = if c.filter.isSome then some (.word "PRE") else none

/-- What a clause adds to the entries of its search. -/
def searchMarks (c : Clause) : Entries Value :=
  (if c.spellCheck then [("autocorrect", .bool true)] else [])
    ++ (if c.filter.isSome then [("filterStrategy", .word "PRE")] else [])

theorem keys_searchMarks_sublist (c : Clause) :
    (Entries.keys (searchMarks c)).Sublist markNames := by
  unfold searchMarks
  rw [keys_append]
  cases c.spellCheck <;> cases c.filter.isSome <;> decide

theorem searchArgument_of_search {s : Search} (h : c.search = some s) :
    searchArgument c = [(searchName s, .map ((ofSearch s).2 ++ searchMarks c))] := by
  simp [searchArgument, h, ofSearch_name, searchMarks]

theorem isMarked_searchMarks (c : Clause) (s : Search) :
    IsMarked c (ofSearch s).2 ((ofSearch s).2 ++ searchMarks c) := by
  have hdistinct : (Entries.keys (ofSearch s).2 ++ markNames).Nodup :=
    (nodup_entryNames s).sublist ((keys_ofSearch_sublist s).append (.refl _))
  have hown (key : String) (hkey : key ∈ markNames) : Entries.get? key (ofSearch s).2 = none := by
    rw [Entries.get?_eq_none_iff]
    exact fun hmem => (List.nodup_append.mp hdistinct).2.2 key hmem key hkey rfl
  constructor
  case kept =>
    intro key v hv
    rw [Entries.get?_append, hv, Option.some_or]
  case distinct =>
    rw [keys_append]
    exact hdistinct.sublist ((List.Sublist.refl _).append (keys_searchMarks_sublist c))
  case others =>
    intro key hkey
    rw [keys_append] at hkey
    exact (List.mem_append.mp hkey).imp_right fun hmark => (keys_searchMarks_sublist c).subset hmark
  case autocorrect =>
    rw [Entries.get?_append, hown _ (by decide), Option.none_or, searchMarks]
    cases c.spellCheck <;> cases c.filter.isSome <;> rfl
  case filterStrategy =>
    rw [Entries.get?_append, hown _ (by decide), Option.none_or, searchMarks]
    cases c.spellCheck <;> cases c.filter.isSome <;> rfl

/-- A member and the text of its root field show the stages of a clause: the arguments and the
pipeline are those of the parts that the clause has, all of them and in the order of the operation,
the text lists the arguments in that order, and the search argument keeps its own entries. -/
structure IsStaged (c : Clause) (alias? : Option String) (m : Member) (text : String) : Prop where
  operation : m.operation = c.operation
  arguments : Entries.keys m.arguments = c.operation.arguments.filterMap c.argumentName?
  arguments_distinct : (Entries.keys m.arguments).Nodup
  arguments_complete : ∀ a, (c.argumentName? a).isSome → a ∈ c.operation.arguments
  text : ∃ literals fields,
    (m.arguments.map (·.2)).mapM (Literal.render maxLevels) = .ok literals ∧
      text = headText c alias? ++ Literal.argumentList (Entries.keys m.arguments) literals ++ " " ++
        braced fields
  pipeline : m.pipeline = c.operation.stages.filter c.has
  pipeline_complete : ∀ s, c.has s = true → s ∈ c.operation.stages
  search : ∀ s, c.search = some s → ∃ es,
    Entries.get? (searchName s) m.arguments = some (.map es) ∧ IsMarked c (ofSearch s).2 es

theorem nodup_rootArguments (c : Clause) : (rootArguments c).Nodup := by
  have hall : (["where"] ++ (c.search.map searchName).toList ++
      ["groupBy", "sort", "limit", "offset", "objectLimit"]).Nodup := by
    cases c.search with
    | none => simp
    | some s => cases s <;> simp [searchName]
  have hstart : (nameIf "where" c.filter.isSome ++ (c.search.map searchName).toList).Sublist
      (["where"] ++ (c.search.map searchName).toList) := (nameIf_sublist _ _).append (.refl _)
  refine hall.sublist (hstart.append ?_)
  cases c.aggregate with
  | none =>
    refine ((((nameIf_sublist _ _).append (nameIf_sublist _ _)).append
      (nameIf_sublist _ _)).append (nameIf_sublist _ _)).trans ?_
    decide
  | some a =>
    refine ((nameIf_sublist _ _).append (nameIf_sublist _ _)).trans ?_
    decide

theorem get?_searchName {s : Search} (h : c.search = some s) (key : String) :
    Entries.get? (searchName s) (memberOf c key).arguments =
      some (.map ((ofSearch s).2 ++ searchMarks c)) := by
  have hfilter : Entries.get? (searchName s) (filterArgument c) = none := by
    rw [Entries.get?_eq_none_iff, filterArgument, keys_entry]
    intro hmem
    have hwhere := (nameIf_sublist _ _).subset hmem
    cases s <;> simp [searchName] at hwhere
  have hsearch : Entries.get? (searchName s) (searchArgument c) =
      some (.map ((ofSearch s).2 ++ searchMarks c)) := by
    rw [searchArgument_of_search h]
    exact if_pos rfl
  unfold memberOf
  cases c.aggregate <;>
    simp [getArguments, aggregateArguments, Entries.get?_append, hfilter, hsearch]

theorem isStaged_of_compileMember (h : c.IsConsistent) {alias? : Option String} {m : Member}
    {text : String} (hm : compileMember c alias? = .ok (m, text)) : IsStaged c alias? m text := by
  rw [compileMember_eq] at hm
  obtain ⟨body, hbody, hpair⟩ := map_eq_ok_iff.mp hm
  obtain ⟨rfl, rfl⟩ := Prod.mk.inj hpair
  have harguments := memberOf_arguments c (alias?.getD c.collection) c.collection
  constructor
  case operation => exact operation_memberOf c _
  case arguments => rw [harguments, keys_arguments, rootArguments_eq h]
  case arguments_distinct =>
    rw [harguments, keys_arguments]
    exact nodup_rootArguments c
  case arguments_complete => exact fun a ha => mem_arguments_of_isSome h ha
  case text =>
    unfold bodyText at hbody
    split at hbody
    · cases hbody
    obtain ⟨fields, -, hmore⟩ := bind_eq_ok_iff.mp hbody
    obtain ⟨args, hargs, hjoined⟩ := bind_eq_ok_iff.mp hmore
    obtain rfl := Except.ok.inj hjoined
    rw [Literal.arguments_eq] at hargs
    obtain ⟨literals, hliterals, rfl⟩ := map_eq_ok_iff.mp hargs
    refine ⟨literals, " ".intercalate fields, by rw [harguments, hliterals], ?_⟩
    rw [harguments, String.append_assoc, String.append_assoc, String.append_assoc]
  case pipeline => exact pipeline_memberOf h _
  case pipeline_complete => exact fun s hs => mem_stages_of_has h hs
  case search =>
    exact fun s hs => ⟨_, get?_searchName hs _, isMarked_searchMarks c s⟩

end Compilation

namespace Query

open Compilation (compileMember document IsStaged)

/-- Whatever steps made a query, its root field shows the stages in their order, alone and under
any alias. The request of the query is made of this member and this text. -/
theorem stages_shown {name : Value} {registry : Option Registry} {q : Query}
    (h : collection name registry = .ok q) (calls : List Call) :
    (∀ alias? m text, compileMember (q.after calls).clause alias? = .ok (m, text) →
      IsStaged (q.after calls).clause alias? m text) ∧
    ∀ r, (q.after calls).compile = .ok r → ∃ m text,
      compileMember (q.after calls).clause none = .ok (m, text) ∧
      r.members = [m] ∧ r.query = document [(m, text)] := by
  have hconsistent := ((isSound_collection h).after calls).lawful.toIsConsistent
  refine ⟨fun alias? m text hm => Compilation.isStaged_of_compileMember hconsistent hm, ?_⟩
  intro r hr
  obtain ⟨⟨m, text⟩, hm, hrequest⟩ := bind_eq_ok_iff.mp (compile_of_compile hr)
  obtain rfl := Except.ok.inj hrequest
  exact ⟨m, text, hm, rfl, rfl⟩

/-- Parts given in another order than that of the stages. -/
def lateFilter : List Call :=
  [.method "limit" ⟨[.int 5], []⟩, .method "sort" ⟨[.text "born"], []⟩,
    .method "generate_from_one" ⟨[.text "About \x7bname\x7d"], []⟩,
    .method "about" ⟨[.text "poetry"], []⟩, .method "spell_check" ⟨[], []⟩,
    .method "rerank" ⟨[.text "best", .text "name"], []⟩,
    .restrict [.expression (.apply "IsNull" [.text "died"])]]

theorem stages_shown_lateFilter : ∃ q r m es, collection (.text "Author") none = .ok q ∧
    (q.after lateFilter).compile = .ok r ∧ r.members = [m] ∧
    Entries.keys m.arguments = ["where", "nearText", "sort", "limit"] ∧
    m.pipeline = [.filter, .search, .rerank, .sort, .paginate, .generate] ∧
    Entries.get? "nearText" m.arguments = some (.map es) ∧
    Entries.get? "concepts" es = some (.list [.text "poetry"]) ∧
    Entries.get? "filterStrategy" es = some (.word "PRE") ∧
    Entries.get? "autocorrect" es = some (.bool true) := by
  have hstart : collection (.text "Author") none = .ok { clause := { collection := "Author" } } :=
    rfl
  obtain ⟨r, hr⟩ : ∃ r, (({ clause := { collection := "Author" } } : Query).after
      lateFilter).compile = .ok r := ⟨_, rfl⟩
  obtain ⟨hstaged, hrequest⟩ := stages_shown hstart lateFilter
  obtain ⟨m, text, hm, hmembers, -⟩ := hrequest r hr
  obtain ⟨es, hes, hmarked⟩ := (hstaged none m text hm).search (.about "poetry" none) rfl
  exact ⟨_, r, m, es, hstart, hr, hmembers, (hstaged none m text hm).arguments,
    (hstaged none m text hm).pipeline, hes, hmarked.kept _ _ rfl, hmarked.filterStrategy,
    hmarked.autocorrect⟩

end Query

end Retrieval
