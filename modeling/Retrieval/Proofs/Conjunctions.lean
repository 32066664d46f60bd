import Retrieval.Proofs.Reordering

/-!
What filters mean. A predicate holds or not by the truth of its comparisons, and an absent one
always holds. Main statement: conjunction is associative with the absent predicate as its unit, and
however many restrictions a query is given, from whatever templates, its filter is the conjunction
of them all, with their comparisons in the order of the steps.
-/

namespace Retrieval

namespace Predicate

variable {truth : FieldPath × Comparison × Value → Bool}

mutual

/-- Whether a predicate holds, by the truth of its comparisons. -/
def holds (truth : FieldPath × Comparison × Value → Bool) : Predicate → Bool
  | .leaf path comparison value => truth (path, comparison, value)
  | .group .and operands => allHold truth operands
  | .group .or operands => anyHolds truth operands

def allHold (truth : FieldPath × Comparison × Value → Bool) : List Predicate → Bool
  | [] => true
  | p :: ps => holds truth p && allHold truth ps

def anyHolds (truth : FieldPath × Comparison × Value → Bool) : List Predicate → Bool
  | [] => false
  | p :: ps => holds truth p || anyHolds truth ps

end

/-- Whether a predicate that may be absent holds. -/
def holdsIn (truth : FieldPath × Comparison × Value → Bool) : Option Predicate → Bool
  | none => true
  | some p => p.holds truth

@[simp] theorem holdsIn_none : holdsIn truth none = true := rfl

@[simp] theorem allHold_append (ps qs : List Predicate) :
    allHold truth (ps ++ qs) = (allHold truth ps && allHold truth qs) := by
  induction ps with
  | nil => rfl
  | cons p ps ih => simp [allHold, ih, Bool.and_assoc]

@[simp] theorem allHold_conjuncts (p : Predicate) : allHold truth p.conjuncts = p.holds truth := by
  cases p with
  | leaf path comparison value => simp [conjuncts, allHold]
  | group c ps => cases c <;> simp [conjuncts, allHold, holds]

/-- Both predicates hold exactly if each of them does. -/
theorem holdsIn_both (p q : Option Predicate) :
    holdsIn truth (both p q) = (holdsIn truth p && holdsIn truth q) := by
  cases p with
  | none => simp
  | some p =>
    cases q with
    | none => simp
    | some q => simp [both, holdsIn, holds]

/-- A predicate that has the comparisons of some others, one after another, and holds exactly if
all of them do. -/
structure IsConjunctionOf (ps : List (Option Predicate)) (p : Option Predicate) : Prop where
  leaves : leavesIn p = ps.flatMap leavesIn
  holds : ∀ truth, holdsIn truth p = ps.all (holdsIn truth)

theorem isConjunctionOf_single (p : Option Predicate) : IsConjunctionOf [p] p :=
  ⟨by simp, fun truth => by simp⟩

theorem IsConjunctionOf.both {ps qs : List (Option Predicate)} {p q : Option Predicate}
    (hp : IsConjunctionOf ps p) (hq : IsConjunctionOf qs q) :
    IsConjunctionOf (ps ++ qs) (both p q) where
  leaves := by rw [leavesIn_both, hp.leaves, hq.leaves, List.flatMap_append]
  holds truth := by rw [holdsIn_both, hp.holds, hq.holds, List.all_append]

theorem isConjunctionOf_both (p q : Option Predicate) : IsConjunctionOf [p, q] (both p q) :=
  (isConjunctionOf_single p).both (isConjunctionOf_single q)

/-- Predicates that are added in turn to one that is there. -/
theorem IsConjunctionOf.foldl_both {qs : List (Option Predicate)} {q : Option Predicate}
    (h : IsConjunctionOf qs q) (ps : List (Option Predicate)) :
    IsConjunctionOf (qs ++ ps) (ps.foldl Predicate.both q) := by
  induction ps generalizing qs q with
  | nil => simpa using h
  | cons p rest ih => simpa using ih (h.both (isConjunctionOf_single p))

end Predicate

namespace Query

open Predicate (IsConjunctionOf both)

/-- What a step restricts a query by. -/
def Call.inputs : Call → List Predicate.Input
  | .restrict inputs => inputs
  | .method _ _ => []

/-- What steps restrict a query by, in their order. -/
def restrictionsIn (calls : List Call) : List Predicate.Input := calls.flatMap Call.inputs

/-- The filter is written by restrictions only. -/
theorem part?_method_ne_filter (name : String) (args : Arguments) :
    (Call.method name args).part? ≠ some .filter := by
  intro hpart
  have hmem := mem_of_lookup_eq_some (show partNames.lookup name = some .filter from hpart)
  simp [partNames] at hmem

theorem filter_write {e : Edit} (h : e.part? ≠ some .filter) (c : Clause) :
    (e.write c).filter = c.filter := by
  cases e with
  | restrict p => exact absurd rfl h
  | _ => rfl

/-- A restriction that is accepted adds the predicate of its input. -/
theorem filter_of_restrict {q q' : Query} {input : Predicate.Input}
    (h : q.restrict input = .ok q') :
    ∃ p, input.normalize = .ok p ∧ q'.clause.filter = both q.clause.filter p := by
  obtain ⟨p, hp, hadopt⟩ := bind_eq_ok_iff.mp h
  refine ⟨p, hp, ?_⟩
  rw [(adopt_eq_ok_iff.mp hadopt).2]

/-- One step adds what it restricts by to the filter of a sound query. -/
theorem IsSound.filter_of_call {q q' : Query} {c : Call} (h : q.IsSound)
    (hstart : ∀ args, c ≠ .method "collection" args) (hcall : q.call c = .ok (.query q')) :
    ∃ ps, c.inputs.mapM Predicate.Input.normalize = .ok ps ∧
      q'.clause.filter = ps.foldl both q.clause.filter := by
  cases c with
  | restrict inputs =>
    match inputs with
    | [input] =>
      obtain ⟨p, hp, hfilter⟩ := filter_of_restrict (answered_iff.mp hcall)
      exact ⟨[p], (mapM_eq_ok_iff _ _ _).mpr (by simp [Call.inputs, hp]), hfilter⟩
    | [] | _ :: _ :: _ => cases hcall
  | method name args =>
    obtain ⟨f, hf, hiff⟩ := exists_isEditing (.method name args) hstart
    obtain ⟨e, -, hpart, hmakes⟩ := h.exists_makes hf ((hiff q q').mp hcall)
    refine ⟨[], rfl, ?_⟩
    rw [hmakes.result]
    exact filter_write (hpart ▸ part?_method_ne_filter name args) q.clause

/-- Steps add what they restrict by, one after another. -/
theorem IsSound.filter_of_run {q r : Query} {calls : List Call} (h : q.IsSound)
    (hstart : ∀ args, .method "collection" args ∉ calls) (hrun : q.run calls = .ok (.query r)) :
    ∃ ps, (restrictionsIn calls).mapM Predicate.Input.normalize = .ok ps ∧
      r.clause.filter = ps.foldl both q.clause.filter := by
  induction calls generalizing q with
  | nil =>
    cases hrun
    exact ⟨[], rfl, rfl⟩
  | cons c cs ih =>
    obtain ⟨next, hcall, hrest⟩ := run_cons_iff.mp hrun
    obtain ⟨ps, hps, hnext⟩ := h.filter_of_call
      (fun args hc => hstart args (hc ▸ List.mem_cons_self)) hcall
    obtain ⟨qs, hqs, hlast⟩ := ih (h.call hcall)
      (fun args hmem => hstart args (List.mem_cons_of_mem _ hmem)) hrest
    rw [mapM_eq_ok_iff] at hps hqs
    refine ⟨ps ++ qs, (mapM_eq_ok_iff _ _ _).mpr ?_, by rw [List.foldl_append, ← hnext, hlast]⟩
    rw [restrictionsIn, List.flatMap_cons, List.map_append, List.map_append, hps]
    exact congrArg _ hqs

/-- A query in between can be kept as a template without changing where steps lead to. -/
theorem run_append_iff {q r : Query} {cs ds : List Call} :
    q.run (cs ++ ds) = .ok (.query r) ↔
      ∃ template, q.run cs = .ok (.query template) ∧ template.run ds = .ok (.query r) := by
  induction cs generalizing q with
  | nil => simp [run]
  | cons c cs ih =>
    simp only [List.cons_append, run_cons_iff, ih]
    constructor
    · rintro ⟨next, hcall, template, hrun, hrest⟩
      exact ⟨template, ⟨next, hcall, hrun⟩, hrest⟩
    · rintro ⟨template, ⟨next, hcall, hrun⟩, hrest⟩
      exact ⟨next, hcall, template, hrun, hrest⟩

/-- A restriction by nothing is no step at all. -/
theorem IsSound.run_restrict_nothing {q : Query} (h : q.IsSound) :
    q.run [.restrict [.value (.map [])]] = .ok (.query q) := by
  have hrestrict : q.restrict (.value (.map [])) = .ok q := by
    have hadopt : q.adopt { q.clause with filter := both q.clause.filter none } = .ok q := by
      rw [adopt_eq_ok_iff, Predicate.both_none_right]
      exact ⟨h.accepted, rfl⟩
    exact hadopt
  exact run_cons_iff.mpr ⟨q, answered_iff.mpr hrestrict, rfl⟩

/-- A restriction that can be read is accepted exactly if the fields that it compares may be
named. -/
theorem IsSound.exists_restrict_iff {q : Query} (h : q.IsSound) {input : Predicate.Input}
    {p : Option Predicate} (hp : input.normalize = .ok p) :
    (∃ q', q.restrict input = .ok q') ↔ ∀ l ∈ Predicate.leavesIn p,
      Clause.MayName q.registry q.clause.collection l.1.root := by
  obtain ⟨hconsistent, hroots⟩ := (Clause.problem?_eq_none_iff _ _).mp h.accepted
  have hrestrict : q.restrict input = q.adopt ((Edit.restrict p).write q.clause) := by
    unfold restrict
    rw [hp]
    rfl
  simp only [hrestrict, adopt_eq_ok_iff, exists_and_left, exists_eq, and_true,
    Clause.problem?_eq_none_iff]
  constructor
  · rintro ⟨-, hnames⟩ l hl
    exact hnames _ (mem_fieldRoots_of_mem_roots (e := .restrict p) (List.mem_map_of_mem hl) _)
  · intro hnames
    -- the rules on the combination of parts do not look at the filter
    refine ⟨⟨hconsistent.1, hconsistent.2, hconsistent.3, hconsistent.4⟩, fun root hroot => ?_⟩
    obtain hroot | hroot := mem_fieldRoots_write hroot
    · exact hroots root hroot
    · obtain ⟨l, hl, rfl⟩ := List.mem_map.mp hroot
      exact hnames l hl

theorem exists_run_cons_iff {q : Query} {c : Call} {cs : List Call} :
    (∃ r, q.run (c :: cs) = .ok (.query r)) ↔
      ∃ next, q.call c = .ok (.query next) ∧ ∃ r, next.run cs = .ok (.query r) := by
  simp only [run_cons_iff]
  constructor
  · rintro ⟨r, next, hcall, hrest⟩
    exact ⟨next, hcall, r, hrest⟩
  · rintro ⟨next, hcall, r, hrest⟩
    exact ⟨r, next, hcall, hrest⟩

theorem IsSound.exists_run_restrictions_iff {q : Query} (h : q.IsSound)
    {inputs : List Predicate.Input} {ps : List (Option Predicate)}
    (hps : inputs.mapM Predicate.Input.normalize = .ok ps) :
    (∃ r, q.run (inputs.map fun input => .restrict [input]) = .ok (.query r)) ↔
      ∀ p ∈ ps, ∀ l ∈ Predicate.leavesIn p,
        Clause.MayName q.registry q.clause.collection l.1.root := by
  rw [mapM_eq_ok_iff] at hps
  induction inputs generalizing q ps with
  | nil =>
    obtain rfl := List.map_eq_nil_iff.mp hps.symm
    simp [run]
  | cons input rest ih =>
    cases ps with
    | nil => cases hps
    | cons p ps =>
      obtain ⟨hp, hrest⟩ := List.cons.inj hps
      rw [List.map_cons, exists_run_cons_iff, List.forall_mem_cons, ← h.exists_restrict_iff hp]
      -- an accepted restriction leaves the collection and the registry as they were
      have hnext (next : Query) (hcall : q.call (.restrict [input]) = .ok (.query next)) :
          (∃ r, next.run (rest.map fun input => .restrict [input]) = .ok (.query r)) ↔
            ∀ p ∈ ps, ∀ l ∈ Predicate.leavesIn p,
              Clause.MayName q.registry q.clause.collection l.1.root := by
        rw [ih (h.call hcall) hrest]
        obtain ⟨p', -, hadopt⟩ := bind_eq_ok_iff.mp (answered_iff.mp hcall)
        rw [(adopt_eq_ok_iff.mp hadopt).2]
      constructor
      · rintro ⟨next, hcall, hrun⟩
        exact ⟨⟨next, answered_iff.mp hcall⟩, (hnext next hcall).mp hrun⟩
      · rintro ⟨⟨next, hrestrict⟩, hnames⟩
        have hcall : q.call (.restrict [input]) = .ok (.query next) := answered_iff.mpr hrestrict
        exact ⟨next, hcall, (hnext next hcall).mpr hnames⟩

/-- How the restrictions of a query go together: nothing is no restriction; steps may be taken from
a template that other steps lead to; restrictions that can be read are accepted exactly if the
fields they compare may be named; and whatever steps are taken, the filter is the conjunction of the
one before and of all that they restrict by. -/
structure ConjoinsRestrictions (q : Query) : Prop where
  nothing : q.run [.restrict [.value (.map [])]] = .ok (.query q)
  templates : ∀ (cs ds : List Call) (r : Query), q.run (cs ++ ds) = .ok (.query r) ↔
    ∃ template, q.run cs = .ok (.query template) ∧ template.run ds = .ok (.query r)
  accepted : ∀ (inputs : List Predicate.Input) (ps : List (Option Predicate)),
    inputs.mapM Predicate.Input.normalize = .ok ps →
      ((∃ r, q.run (inputs.map fun input => .restrict [input]) = .ok (.query r)) ↔
        ∀ p ∈ ps, ∀ l ∈ Predicate.leavesIn p,
          Clause.MayName q.registry q.clause.collection l.1.root)
  filter : ∀ (calls : List Call) (r : Query), (∀ args, .method "collection" args ∉ calls) →
    q.run calls = .ok (.query r) →
      ∃ ps, (restrictionsIn calls).mapM Predicate.Input.normalize = .ok ps ∧
        IsConjunctionOf (q.clause.filter :: ps) r.clause.filter

theorem IsSound.conjoinsRestrictions {q : Query} (h : q.IsSound) : q.ConjoinsRestrictions where
  nothing := h.run_restrict_nothing
  templates _ _ _ := run_append_iff
  accepted _ _ := h.exists_run_restrictions_iff
  filter calls r hstart hrun := by
    obtain ⟨ps, hps, hfilter⟩ := h.filter_of_run hstart hrun
    refine ⟨ps, hps, ?_⟩
    rw [hfilter]
    exact (Predicate.isConjunctionOf_single _).foldl_both ps

/-- Conjunction is associative with the absent predicate as its unit, has the comparisons of both
sides and holds exactly if both do. So the restrictions of every query go together in one
conjunction, whatever steps it was made by. -/
theorem restrictions_conjoined :
    (∀ a b c, both (both a b) c = both a (both b c)) ∧
    (∀ a, both none a = a ∧ both a none = a) ∧
    (∀ a b, IsConjunctionOf [a, b] (both a b)) ∧
    ∀ (name : Value) (registry : Option Registry) (start : Query),
      collection name registry = .ok start →
        ∀ earlier : List Call, (start.after earlier).ConjoinsRestrictions := by
  refine ⟨Predicate.both_assoc, fun a => ⟨rfl, Predicate.both_none_right a⟩,
    Predicate.isConjunctionOf_both, fun name registry start hstart earlier => ?_⟩
  exact ((isSound_collection hstart).after earlier).conjoinsRestrictions

/-- A template for living authors, of whom five are wanted. -/
def livingAuthors : List Call :=
  [.method "limit" ⟨[.int 5], []⟩, .restrict [.expression (.apply "IsNull" [.text "died"])]]

/-- Two more restrictions with nothing between them, from a copy of the template. -/
def bornOrNamed : List Call :=
  [.method "clone" ⟨[], []⟩,
    .restrict [.expression (.apply "GreaterThan" [.text "born", .int 1900])],
    .restrict [.value (.map [])],
    .restrict [.expression (.join .or [.apply "Equal" [.text "name", .text "Ada"],
      .apply "Like" [.text "name", .text "B*"]])]]

theorem restrictions_conjoined_living : ∃ start r ps,
    collection (.text "Author") none = .ok start ∧
      (start.after livingAuthors).run bornOrNamed = .ok (.query r) ∧
      (restrictionsIn bornOrNamed).mapM Predicate.Input.normalize = .ok ps ∧
      IsConjunctionOf ((start.after livingAuthors).clause.filter :: ps) r.clause.filter ∧
      (Predicate.leavesIn r.clause.filter).map (·.1.root) = ["died", "born", "name", "name"] := by
  have hstart : collection (.text "Author") none = .ok { clause := { collection := "Author" } } :=
    rfl
  have hrun : ∃ r, (({ clause := { collection := "Author" } } : Query).after livingAuthors).run
      bornOrNamed = .ok (.query r) ∧
      (Predicate.leavesIn r.clause.filter).map (·.1.root) = ["died", "born", "name", "name"] :=
    ⟨_, rfl, rfl⟩
  obtain ⟨r, hr, hroots⟩ := hrun
  obtain ⟨ps, hps, hconjunction⟩ := (restrictions_conjoined.2.2.2 _ _ _ hstart livingAuthors).filter
    bornOrNamed r (by simp [bornOrNamed]) hr
  exact ⟨_, r, ps, hstart, hr, hps, hconjunction, hroots⟩

end Query

end Retrieval
