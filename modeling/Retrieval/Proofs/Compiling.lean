import Retrieval.Proofs.Clauses
import Retrieval.Proofs.Received
import Retrieval.Proofs.Rendering

/-!
What the builder accepts compiles within limits. The values that a filter is given become values
that can be expressed, and no step spoils them. Main statement: a clause that was put together from
data, whether by steps or from the body of a call, has no fault, and neither has a batch of such
clauses; where there is room, they compile exactly if their numbers are short.
-/

namespace Retrieval

open Compilation (compile compileBatch bodyText HasLiteral)
open Value (IsData)

namespace Predicate

mutual

/-- What a field is compared with can be expressed: sequences have become tuples, and dates
texts. -/
theorem yields_renders_frozen (v : Value) (h : v.Everywhere IsData) :
    Yields Value.Renders (frozen v) := by
  cases v with
  | seq kind items =>
    refine (yields_renders_frozenItems items ((Value.everywhere_seq _ _).mp h).2).bind
      fun xs hxs => yields_ok ?_
    exact (Value.renders_tuple xs).mpr hxs
  | float x =>
    rw [frozen]
    split
    · exact yields_ok (by simp)
    · exact yields_error _
  | map es => exact yields_error _
  | «foreign» => exact absurd rfl h.here
  | _ => exact yields_ok (by simp)

theorem yields_renders_frozenItems (vs : List Value) (h : ∀ v ∈ vs, v.Everywhere IsData) :
    Yields (fun xs => ∀ x ∈ xs, Value.Renders x) (frozenItems vs) := by
  cases vs with
  | nil => exact yields_ok (List.forall_mem_nil _)
  | cons v rest =>
    obtain ⟨hv, hrest⟩ := List.forall_mem_cons.mp h
    exact (yields_renders_frozen v hv).bind fun x hx =>
      (yields_renders_frozenItems rest hrest).bind fun xs hxs =>
        yields_ok (List.forall_mem_cons.mpr ⟨hx, hxs⟩)

end

/-- A predicate whose comparisons can be expressed. -/
abbrev HasLiterals (p : Predicate) : Prop := ∀ l ∈ p.leaves, HasLiteral l

theorem isHereditary_hasLiterals : IsHereditary IsData HasLiterals where
  readable _ h := h
  leaf path c v _ hv := by
    refine (yields_renders_frozen v hv).bind fun x hx => (yields_true _).bind fun _ _ =>
      (yields_true _).bind fun p _ => yields_ok ?_
    exact List.forall_mem_singleton.mpr (.inr hx)
  group _ _ _ := forall_leavesOf

end Predicate

namespace Query

/-- A sound query whose filter can be expressed. -/
structure IsCompilable (q : Query) : Prop where
  sound : q.IsSound
  literals : ∀ l ∈ Predicate.leavesIn q.clause.filter, HasLiteral l

theorem IsCompilable.exists_compile_iff {q : Query} (h : q.IsCompilable) :
    (∃ request, Compilation.compile q.clause = .ok request) ↔
      q.clause.HasShortNumbers ∧ q.clause.HasRoom :=
  (Compilation.exists_compile_iff_hasRoom h.sound.lawful).trans (and_iff_right h.literals)

theorem IsCompilable.noViolation {q : Query} (h : q.IsCompilable) :
    NoViolation (bodyText q.clause) :=
  Compilation.noViolation_bodyText h.sound.lawful.collection_ne h.literals

/-- A way of going on that leads from compilable queries to compilable ones only. -/
def Keeps (f : Query → Build Query) : Prop :=
  ∀ q : Query, q.IsCompilable → Yields IsCompilable (f q)

theorem Keeps.bind {f g : Query → Build Query} (hf : Keeps f) (hg : Keeps g) :
    Keeps fun q => f q >>= g := fun q hq => (hf q hq).bind hg

theorem Keeps.ite {f g : Query → Build Query} (p : Prop) [Decidable p] (hf : Keeps f)
    (hg : Keeps g) : Keeps fun q => if p then f q else g q := by
  split
  · exact hf
  · exact hg

/-- The filter is written by restrictions only. -/
theorem IsCompilable.of_makes {q q' : Query} {e : Edit} (h : q.IsCompilable) (he : e.IsLawful)
    (hpart : e.part? ≠ some .filter) (hmakes : e.Makes q q') : q'.IsCompilable := by
  refine ⟨h.sound.of_makes he hmakes, ?_⟩
  rw [hmakes.result]
  cases e with
  | restrict p => exact absurd rfl hpart
  | _ => exact h.literals

theorem keeps_of_isEditing {part? : Option Part} {f : Query → Build Query}
    (h : IsEditing part? f) (hpart : part? ≠ some .filter) : Keeps f := by
  intro q hq q' hf
  obtain ⟨e, he, rfl, hmakes⟩ := hq.sound.exists_makes h hf
  exact hq.of_makes he hpart hmakes

theorem keeps_restrict {input : Predicate.Input} (h : input.Everywhere IsData) :
    Keeps fun q => q.restrict input := by
  intro q hq q' hf
  obtain ⟨p?, hp, hadopt⟩ := bind_eq_ok_iff.mp hf
  have hnew := Predicate.yields_of_isHereditary Predicate.isHereditary_hasLiterals input h p? hp
  obtain ⟨e, he, -, hmakes⟩ := hq.sound.exists_makes (isEditing_restrict input) hf
  refine ⟨hq.sound.of_makes he hmakes, ?_⟩
  rw [(adopt_eq_ok_iff.mp hadopt).2, Predicate.leavesIn_both]
  refine List.forall_mem_append.mpr ⟨hq.literals, ?_⟩
  cases p? with
  | none => exact List.forall_mem_nil _
  | some p => exact hnew p rfl

/-- A step whose filters hold data. -/
def Call.IsData : Call → Prop
  | .restrict inputs => ∀ input ∈ inputs, input.Everywhere Value.IsData
  | .method _ _ => True

theorem isCompilable_collection {name : Value} {registry : Option Registry} :
    Yields IsCompilable (collection name registry) := by
  intro q hq
  refine ⟨isSound_collection hq, ?_⟩
  unfold collection at hq
  split at hq
  · cases hq
  · split at hq
    · cases hq
    · cases hq
      exact List.forall_mem_nil _

/-- One step leads from a compilable query to a compilable query, if it leads to one at all. -/
theorem IsCompilable.call {q q' : Query} {c : Call} (h : q.IsCompilable) (hc : c.IsData)
    (hcall : q.call c = .ok (.query q')) : q'.IsCompilable := by
  cases c with
  | restrict inputs =>
    match inputs, hc with
    | [input], hc => exact keeps_restrict (hc input (by simp)) q h q' (answered_iff.mp hcall)
  | method name args =>
    obtain ⟨name, hname⟩ | ⟨e, he, hpart, hmakes⟩ := h.sound.call_cases hcall
    · exact isCompilable_collection q' hname
    · have hother : partNames.lookup name ≠ some .filter := by
        intro hlookup
        have hmem := mem_of_lookup_eq_some hlookup
        simp [partNames] at hmem
      exact h.of_makes he (hpart ▸ hother) hmakes

theorem IsCompilable.after {q : Query} (h : q.IsCompilable) {calls : List Call}
    (hcalls : ∀ c ∈ calls, c.IsData) : (q.after calls).IsCompilable :=
  after_of_call (fun c hc _ _ hq => hq.call (hcalls c hc)) h

end Query

namespace Api

open Query (Keeps IsCompilable keeps_of_isEditing)

theorem keeps_ok : Keeps fun q => .ok q := fun _ hq => yields_ok hq

theorem keeps_misuse : Keeps fun _ => misuse := fun _ _ => yields_error _

theorem keeps_refuse (e : ConfigurationError) : Keeps fun _ => refuse e :=
  fun _ _ => yields_error _

theorem keeps_withPart {α : Type} {part : Option α} {add : Query → α → Build Query}
    (h : ∀ a ∈ part, Keeps fun q => add q a) : Keeps (withPart part add) := by
  cases part with
  | none => exact keeps_ok
  | some a => exact h a rfl

theorem keeps_addSearch (s : SearchBody) : Keeps fun q => addSearch q s := by
  cases s with
  | about concept certainty => exact keeps_of_isEditing (Query.isEditing_about _ _) (by decide)
  | words text properties => exact keeps_of_isEditing (Query.isEditing_words _ _) (by decide)
  | hybrid text alpha fusion weights =>
    exact keeps_of_isEditing (Query.isEditing_hybrid _ _ _ _) (by decide)
  | nearVector vector id property distance =>
    exact keeps_of_isEditing (Query.isEditing_nearVector _ _ _ _) (by decide)
  | similar id distance => exact keeps_of_isEditing (Query.isEditing_similar _ _) (by decide)

theorem keeps_addSort (keys : List SortBody) : Keeps fun q => addSort q keys := by
  induction keys with
  | nil => exact keeps_ok
  | cons s rest ih =>
    have hsort : Keeps fun q => q.sort (.text s.field) (.text s.direction) :=
      keeps_of_isEditing (Query.isEditing_sort _ _) (by decide)
    exact hsort.bind ih

theorem keeps_withOptions {step : String} (positional : List Value) (named options : Entries Value)
    (hstep : step ≠ "collection") (hpart : Query.partNames.lookup step ≠ some .filter) :
    Keeps fun q => withOptions q step positional named options := by
  unfold withOptions
  split
  · exact keeps_misuse
  · exact keeps_of_isEditing (Query.isEditing_applyNamed step _ hstep) hpart

theorem keeps_addGeneration (g : GenerationBody) : Keeps fun q => addGeneration q g := by
  unfold addGeneration
  dsimp only
  split
  · exact keeps_withOptions _ _ _ (by decide) (by decide)
  · exact keeps_withOptions _ _ _ (by decide) (by decide)
  · split
    · exact keeps_refuse _
    · split
      · exact keeps_refuse _
      · exact keeps_withOptions _ _ _ (by decide) (by decide)

theorem keeps_addAggregate (a : AggregateBody) : Keeps fun q => addAggregate q a :=
  keeps_of_isEditing (Query.isEditing_aggregate _ _) (by decide)

/-- The query of a body whose filter holds data is compilable. -/
theorem isCompilable_assemble {b : QueryBody} (registry : Option Registry)
    (hb : ∀ fs ∈ b.restriction, (Value.map fs).Everywhere IsData) :
    Yields IsCompilable (b.assemble registry) := by
  have hselect : Keeps fun q => q.select (b.select.map .text) :=
    keeps_of_isEditing (Query.isEditing_select _) (by decide)
  have hrestrict : Keeps (withPart (restrictionOf b) fun q es => q.restrict (.value (.map es))) :=
    keeps_withPart fun fs hfs => Query.keeps_restrict (hb fs (Option.mem_filter_iff.mp hfs).1)
  have hsearch : Keeps (withPart b.search addSearch) := keeps_withPart fun s _ => keeps_addSearch s
  have hrerank : Keeps (withPart b.rerank fun q r => q.rerank (.text r.query) (.text r.property)) :=
    keeps_withPart fun _ _ => keeps_of_isEditing (Query.isEditing_rerank _ _) (by decide)
  have hspell : Keeps fun q => q.spellCheck (.bool true) := keeps_of_isEditing
    (Query.isEditing_adopt (e := .spellCheck true) trivial rfl fun _ => rfl) (by decide)
  have hgroup : Keeps (withPart b.groupBy fun q g =>
      q.groupBy (.text g.property) (.int g.maxGroups) (ofOption .int g.objectsPerGroup)) :=
    keeps_withPart fun _ _ => keeps_of_isEditing (Query.isEditing_groupBy _ _ _) (by decide)
  have hlimit : Keeps (withPart b.limit fun q n => q.limit (.int n)) :=
    keeps_withPart fun _ _ => keeps_of_isEditing (Query.isEditing_limit _) (by decide)
  have hoffset : Keeps (withPart b.offset fun q n => q.offset (.int n)) :=
    keeps_withPart fun _ _ => keeps_of_isEditing (Query.isEditing_offset _) (by decide)
  have hgenerate : Keeps (withPart b.generate addGeneration) :=
    keeps_withPart fun g _ => keeps_addGeneration g
  have haggregate : Keeps (withPart b.aggregate addAggregate) :=
    keeps_withPart fun a _ => keeps_addAggregate a
  -- the parts from the groups on follow the spelling, and those from the filter on the selection
  have hlast := hgroup.bind ((keeps_addSort b.sort).bind
    (hlimit.bind (hoffset.bind (hgenerate.bind haggregate))))
  have hspelled := Query.Keeps.ite (b.spellCheck = true) (hspell.bind hlast) (keeps_ok.bind hlast)
  have hrest := hrestrict.bind (hsearch.bind (hrerank.bind hspelled))
  have hall := Query.Keeps.ite (b.select.isEmpty = true) (keeps_ok.bind hrest) (hselect.bind hrest)
  exact Query.isCompilable_collection.bind hall

/-- A query in the body of a call that can be sent: the only one, or one of a batch. -/
inductive Brings (c : Call) (b : QueryBody) : Prop
  | single {content : Content} : c.payload.check = .ok () → contentOf c = .ok content →
    readContent readQuery content = .valid b → Brings c b
  | batch {content : Content} {bodies : BatchBody} : c.payload.check = .ok () →
    contentOf c = .ok content → readContent readBatch content = .valid bodies →
    b ∈ bodies.queries → Brings c b

theorem Brings.isData {c : Call} {b : QueryBody} (h : Brings c b) :
    ∀ fs ∈ b.restriction, (Value.map fs).Everywhere IsData := by
  cases h with
  | @single content hsent hcontent hread =>
    cases content with
    | data v => exact isData_of_readQuery (isData_of_contentOf hsent hcontent) hread
    | _ => cases hread
  | @batch content bodies hsent hcontent hread hmem =>
    cases content with
    | data v => exact isData_of_readBatch (isData_of_contentOf hsent hcontent) hread b hmem
    | _ => cases hread

end Api

/-- A clause that was put together from data: by steps, whichever of them succeed, or from a query
in the body of a call. -/
inductive Clause.IsBuilt : Clause → Prop
  | steps {name : Value} {registry : Option Registry} {q : Query} {calls : List Query.Call} :
    Query.collection name registry = .ok q → (∀ c ∈ calls, c.IsData) →
      IsBuilt (q.after calls).clause
  | received {call : Api.Call} {body : Api.QueryBody} {registry : Option Registry} {q : Query} :
    Api.Brings call body → body.assemble registry = .ok q → IsBuilt q.clause

theorem Clause.IsBuilt.exists_query {c : Clause} (h : c.IsBuilt) :
    ∃ q : Query, q.IsCompilable ∧ q.clause = c := by
  cases h with
  | steps hq hcalls => exact ⟨_, (Query.isCompilable_collection _ hq).after hcalls, rfl⟩
  | received hbrings hq => exact ⟨_, Api.isCompilable_assemble _ hbrings.isData _ hq, rfl⟩

theorem Clause.IsBuilt.exists_compile_iff {c : Clause} (h : c.IsBuilt) :
    (∃ request, compile c = .ok request) ↔ c.HasShortNumbers ∧ c.HasRoom := by
  obtain ⟨q, hq, rfl⟩ := h.exists_query
  exact hq.exists_compile_iff

theorem Clause.IsBuilt.noViolation {c : Clause} (h : c.IsBuilt) : NoViolation (bodyText c) := by
  obtain ⟨q, hq, rfl⟩ := h.exists_query
  exact hq.noViolation

theorem Clause.IsBuilt.ne_violation {c : Clause} (h : c.IsBuilt) {e : CompileError}
    (hcompile : compile c = .error e) : ∀ cause, e ≠ .violation cause := by
  rintro cause rfl
  exact Compilation.noViolation_compile h.noViolation cause hcompile

namespace Compilation

/-- What was put together from data has no fault, by itself and in a batch under either strategy.
Where there is room for it, it compiles exactly if its numbers are short. -/
theorem compile_of_isBuilt (clauses : List Clause) (h : ∀ c ∈ clauses, c.IsBuilt) :
    (∀ c ∈ clauses, NoViolation (compile c)) ∧
    (∀ strategy, NoViolation (compileBatch clauses strategy)) ∧
    (∀ c ∈ clauses, c.HasRoom → ((∃ request, compile c = .ok request) ↔ c.HasShortNumbers)) ∧
    ∀ strategy, (∀ c ∈ clauses, c.HasRoom) →
      ((∃ plan, compileBatch clauses strategy = .ok plan) ↔
        ∀ c ∈ clauses, c.HasShortNumbers) := by
  have hcompile : ∀ c ∈ clauses, c.HasRoom →
      ((∃ request, compile c = .ok request) ↔ c.HasShortNumbers) := fun c hc hroom =>
    (h c hc).exists_compile_iff.trans (and_iff_left hroom)
  refine ⟨fun c hc => noViolation_compile (h c hc).noViolation,
    fun strategy => noViolation_compileBatch strategy fun c hc => (h c hc).noViolation, hcompile,
    fun strategy hroom => ?_⟩
  rw [exists_compileBatch_iff]
  exact forall₂_congr fun c hc => hcompile c hc (hroom c hc)

/-- A filter with a date and a set inside a tuple. -/
def nestedFilter : List Query.Call :=
  [.restrict [.expression (.join .or [
    .apply "LessThan" [.text "born", .date ⟨1900, 1, 1⟩],
    .apply "ContainsAny" [.text "tags", .seq .tuple [.seq .set [.text "a"], .text "b"]]])]]

/-- What is asked for about the year of a book. -/
def yearsFilter : Entries Value :=
  [("year", .map [("$gte", .int 1990), ("$in", .list [.int 1991])])]

/-- A call for the books of some years, and the query in its body. -/
def yearsCall : Api.Call :=
  { method := "POST", path := "/query", headers := [],
    payload := .data (.map [("collection", .text "Book"), ("where", .map yearsFilter)]) }

def yearsBody : Api.QueryBody :=
  ⟨"Book", [], some yearsFilter, none, none, false, none, [], none, none, none, none⟩

/-- The clauses of a script and of a call go together in one document. -/
theorem compile_of_isBuilt_nestedFilter : ∃ q r plan,
    Query.collection (.text "Author") none = .ok q ∧ Api.Brings yearsCall yearsBody ∧
      yearsBody.assemble none = .ok r ∧
      (Predicate.leavesIn (q.after nestedFilter).clause.filter).length = 2 ∧
      compileBatch [(q.after nestedFilter).clause, r.clause] .multiplexed = .ok plan := by
  have hstart : ∃ q, Query.collection (.text "Author") none = .ok q ∧
      (Predicate.leavesIn (q.after nestedFilter).clause.filter).length = 2 ∧
      ∃ request, compile (q.after nestedFilter).clause = .ok request := ⟨_, rfl, rfl, _, rfl⟩
  obtain ⟨q, hq, hlength, hfirst⟩ := hstart
  have hdata : ∀ c ∈ nestedFilter, c.IsData := by
    have htext (s : String) : (Value.text s).Everywhere Value.IsData :=
      Value.everywhere_of_scalar (by simp) (by simp) (by simp [Value.IsData])
    have hdate (d : Date) : (Value.date d).Everywhere Value.IsData :=
      Value.everywhere_of_scalar (by simp) (by simp) (by simp [Value.IsData])
    simp [nestedFilter, Query.Call.IsData, Predicate.Input.Everywhere, Predicate.Expr.Everywhere,
      Predicate.AllEverywhere, Value.IsData, htext, hdate]
  have hcontent : Api.contentOf yearsCall =
      .ok (.data (.map [("collection", .text "Book"), ("where", .map yearsFilter)])) := rfl
  have hbrings : Api.Brings yearsCall yearsBody := .single rfl hcontent rfl
  have hcompiled : (match yearsBody.assemble none with
      | .ok r => (compile r.clause).isOk
      | .error _ => false) = true := by decide +kernel
  obtain ⟨r, hr, hsecond⟩ : ∃ r, yearsBody.assemble none = .ok r ∧
      ∃ request, compile r.clause = .ok request := by
    cases hr : yearsBody.assemble none with
    | error e => simp [hr] at hcompiled
    | ok r =>
      cases hrequest : compile r.clause with
      | error e => simp [hr, hrequest, Except.isOk, Except.toBool] at hcompiled
      | ok request => exact ⟨r, rfl, request, hrequest⟩
  have hbuilt : ∀ c ∈ [(q.after nestedFilter).clause, r.clause], c.IsBuilt := by
    simp only [List.forall_mem_cons]
    exact ⟨.steps hq hdata, .received hbrings hr, List.forall_mem_nil _⟩
  have hlimits : ∀ c ∈ [(q.after nestedFilter).clause, r.clause],
      c.HasShortNumbers ∧ c.HasRoom := by
    intro c hc
    refine (hbuilt c hc).exists_compile_iff.mp ?_
    obtain rfl | rfl : c = (q.after nestedFilter).clause ∨ c = r.clause := by simpa using hc
    · exact hfirst
    · exact hsecond
  obtain ⟨-, -, -, hplans⟩ := compile_of_isBuilt _ hbuilt
  obtain ⟨plan, hplan⟩ := (hplans .multiplexed fun c hc => (hlimits c hc).2).mpr
    fun c hc => (hlimits c hc).1
  exact ⟨q, r, plan, hq, hbrings, hr, hlength, hplan⟩

/-- A limit with too many digits. -/
def longLimit : List Query.Call := [.method "limit" ⟨[.int Number.leastLong], []⟩]

/-- A filter on years inside alternatives. -/
def yearsWithin : (depth : Nat) → Entries Value
  | 0 => [("year", .int 2020)]
  | depth + 1 => [("$or", .list [.map [("year", .int 1990)], .map (yearsWithin depth)])]

/-- A filter with more levels than there is room for. -/
def deepFilter : List Query.Call := [.restrict [.value (.map (yearsWithin 260))]]

theorem isData_yearsWithin (depth : Nat) : (Value.map (yearsWithin depth)).Everywhere IsData := by
  have hyear (n : Int) : (Value.map [("year", .int n)]).Everywhere IsData :=
    Value.isData_map (List.forall_mem_singleton.mpr
      (Value.everywhere_of_scalar (by simp) (by simp) (by simp [IsData])))
  induction depth with
  | zero => exact hyear 2020
  | succ depth ih =>
    refine Value.isData_map (List.forall_mem_singleton.mpr (Value.isData_list ?_))
    exact List.forall_mem_cons.mpr ⟨hyear 1990, List.forall_mem_singleton.mpr ih⟩

/-- Not all that is put together from data compiles: a number is too long, or there is no room. -/
theorem uncompiled_of_isBuilt : ∃ q, Query.collection (.text "Book") none = .ok q ∧
    ((q.after longLimit).clause.IsBuilt ∧
      (compile (q.after longLimit).clause).map (fun _ => ()) = .error .integerTooLong) ∧
    (q.after deepFilter).clause.IsBuilt ∧
      (compile (q.after deepFilter).clause).map (fun _ => ()) = .error .tooNested := by
  have hstart : Query.collection (.text "Book") none = .ok { clause := { collection := "Book" } } :=
    rfl
  refine ⟨_, hstart, ⟨.steps hstart ?_, by decide +kernel⟩, .steps hstart ?_, by decide +kernel⟩
  · exact List.forall_mem_singleton.mpr trivial
  · exact List.forall_mem_singleton.mpr (List.forall_mem_singleton.mpr (isData_yearsWithin 260))

end Compilation

end Retrieval
