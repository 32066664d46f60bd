import Retrieval.Predicate.Shorthand
import Retrieval.Proofs.Levels
import Retrieval.Proofs.Values

/-!
What the paths and filters that a query is given come to. Main statements: a path that is read has
proper names and no two indexes in a row, and every predicate that a filter comes to is made of
comparisons of such paths with plain values, joined at least two at a time.
-/

namespace Retrieval

variable {α β : Type}

/-- Whatever a way of building comes to has a property. -/
def Yields (P : α → Prop) (x : Build α) : Prop := ∀ a, x = .ok a → P a

theorem yields_ok {P : α → Prop} {a : α} (h : P a) : Yields P (.ok a : Build α) :=
  fun _ hb => Except.ok.inj hb ▸ h

theorem yields_error {P : α → Prop} (e : BuildError) : Yields P (.error e : Build α) :=
  fun _ hb => nomatch hb

theorem Yields.bind {P : α → Prop} {Q : β → Prop} {x : Build α} {f : α → Build β}
    (h : Yields P x) (hf : ∀ a, P a → Yields Q (f a)) : Yields Q (x >>= f) := by
  intro b hb
  obtain ⟨a, ha, hfa⟩ := bind_eq_ok_iff.mp hb
  exact hf a (h a ha) b hfa

theorem Yields.map {P : α → Prop} {Q : β → Prop} {x : Build α} {f : α → β}
    (h : Yields P x) (hf : ∀ a, P a → Q (f a)) : Yields Q (f <$> x) := by
  intro b hb
  obtain ⟨a, ha, rfl⟩ := map_eq_ok_iff.mp hb
  exact hf a (h a ha)

theorem yields_true (x : Build α) : Yields (fun _ => True) x := fun _ _ => trivial

namespace FieldPath

/-- A path that starts with a property, has no two indexes in a row, and no property whose name is
empty or all digits. -/
structure IsPlain (p : FieldPath) : Prop where
  starts : ∃ name, p.segments.head? = some (.property name)
  alternates : Alternates false p.segments
  names : ∀ name ∈ p.propertyNames, name ≠ "" ∧ Text.isAllDigitLike name.toList = false

theorem names_of_readSegments {raw : String} {afterIndex : Bool} {parts : List (List Char)}
    {segments : List Segment} (h : readSegments raw afterIndex parts = .ok segments)
    {name : String} (hname : name ∈ segments.filterMap Segment.name?) :
    name ≠ "" ∧ Text.isAllDigitLike name.toList = false := by
  induction parts generalizing afterIndex segments with
  | nil =>
    obtain rfl := Except.ok.inj h
    cases hname
  | cons part rest ih =>
    rw [readSegments] at h
    by_cases hempty : (Text.trim part).isEmpty = true
    · rw [if_pos hempty] at h
      cases h
    rw [if_neg hempty] at h
    by_cases hdigits : Text.isAllDigitLike (Text.trim part) = true
    · rw [if_pos hdigits] at h
      cases afterIndex with
      | true => cases h
      | false =>
        rw [if_neg (by decide)] at h
        cases hindex : readIndex (Text.trim part) with
        | error e =>
          rw [hindex] at h
          cases h
        | ok i =>
          rw [hindex] at h
          obtain ⟨steps, hsteps, rfl⟩ := map_eq_ok_iff.mp h
          exact ih hsteps hname
    · rw [if_neg hdigits] at h
      obtain ⟨steps, hsteps, rfl⟩ := map_eq_ok_iff.mp h
      obtain rfl | hrest := List.mem_cons.mp hname
      · refine ⟨fun hnil => hempty ?_, by simpa using hdigits⟩
        simpa using congrArg String.toList hnil
      · exact ih hsteps hrest

theorem isPlain_of_parse {raw : String} {p : FieldPath} (h : parse raw = .ok p) : p.IsPlain := by
  refine ⟨⟨p.root, rfl⟩, alternates_of_parse h, fun name hname => ?_⟩
  unfold parse at h
  by_cases hblank : Text.isAllBlank raw = true
  · rw [if_pos hblank] at h
    cases h
  rw [if_neg hblank] at h
  cases hread : readSegments raw false (Text.splitAt '.' (Text.trim raw.toList)) with
  | error e =>
    rw [hread] at h
    cases h
  | ok segments =>
    have hnames (hmem : name ∈ segments.filterMap Segment.name?) :=
      names_of_readSegments hread hmem
    rw [hread] at h
    cases segments with
    | nil => cases h
    | cons step rest =>
      cases step with
      | index i => cases h
      | property root =>
        obtain rfl := Except.ok.inj h
        exact hnames hname

end FieldPath

theorem yields_pathOf (v : Value) : Yields FieldPath.IsPlain (pathOf v) := by
  intro p hp
  cases hv : FieldPath.ofValue v with
  | error e =>
    rw [pathOf, hv] at hp
    cases hp
  | ok path =>
    rw [pathOf, hv] at hp
    obtain rfl := Except.ok.inj hp
    unfold FieldPath.ofValue at hv
    cases htext : v.text? with
    | none =>
      rw [htext] at hv
      cases hv
    | some raw =>
      rw [htext] at hv
      exact FieldPath.isPlain_of_parse hv

namespace Predicate

/-- A value that is no mapping and no infinite number. -/
def IsBounded : Value → Prop
  | .map _ => False
  | .float x => Number.isFinite x = true
  | _ => True

/-- What a field may be compared with: no mapping and no infinite number stands in it at any depth,
and the elements of a list are of one family. -/
structure IsOperandValue (v : Value) : Prop where
  bounded : v.Everywhere IsBounded
  uniform : ∀ kind items, v = .seq kind items → ∀ a ∈ items, ∀ b ∈ items, family a = family b

/-- A predicate whose comparisons and groups are all proper ones. -/
inductive IsLawful : Predicate → Prop
  | leaf {path : FieldPath} {comparison : Comparison} {value : Value} :
    path.IsPlain → IsOperandValue value → IsLawful (.leaf path comparison value)
  | group {connective : Connective} {operands : List Predicate} :
    2 ≤ operands.length → (∀ p ∈ operands, IsLawful p) → IsLawful (.group connective operands)

/-- What is no sequence is settled as no sequence, of the same family. -/
theorem frozen_of_scalar {v x : Value} (hseq : ∀ kind items, v ≠ .seq kind items)
    (h : frozen v = .ok x) : (∀ kind items, x ≠ .seq kind items) ∧ family x = family v := by
  cases v with
  | seq kind items => exact absurd rfl (hseq kind items)
  | float y =>
    rw [frozen] at h
    split at h <;> cases h
    exact ⟨by simp, rfl⟩
  | map es => cases h
  | _ =>
    cases h
    exact ⟨by simp, rfl⟩

mutual

theorem yields_frozen (v : Value) : Yields (Value.Everywhere IsBounded) (frozen v) := by
  cases v with
  | seq kind items =>
    refine (yields_frozenItems items).bind fun xs hxs => yields_ok ?_
    rw [Value.everywhere_seq]
    exact ⟨trivial, hxs⟩
  | float x =>
    rw [frozen]
    split
    · next hfinite => exact yields_ok (Value.everywhere_of_scalar (by simp) (by simp) hfinite)
    · exact yields_error _
  | map es => exact yields_error _
  | _ => exact yields_ok (Value.everywhere_of_scalar (by simp) (by simp) trivial)

theorem yields_frozenItems (vs : List Value) :
    Yields (fun xs => ∀ x ∈ xs, Value.Everywhere IsBounded x) (frozenItems vs) := by
  cases vs with
  | nil => exact yields_ok (by simp)
  | cons v rest =>
    refine (yields_frozen v).bind fun x hx => (yields_frozenItems rest).bind fun xs hxs =>
      yields_ok ?_
    simpa using ⟨hx, hxs⟩

end

theorem mem_familiesOf {v : Value} {vs : List Value} (h : v ∈ vs) : family v ∈ familiesOf vs := by
  rw [familiesOf, List.mem_filter]
  exact ⟨by cases family v <;> simp, List.any_eq_true.mpr ⟨v, h, by simp⟩⟩

/-- The elements of a list that passes the check are of one family. -/
theorem uniform_of_checkFamilies {path v : Value} (h : checkFamilies path v = .ok ()) :
    ∀ kind items, v = .seq kind items → ∀ a ∈ items, ∀ b ∈ items, family a = family b := by
  rintro kind items rfl a ha b hb
  have hlength : ¬ 1 < (familiesOf items).length := by
    intro hlong
    simp [checkFamilies, hlong, refuse] at h
  have hone : ∀ f ∈ familiesOf items, ∀ g ∈ familiesOf items, f = g := by
    cases hfamilies : familiesOf items with
    | nil => simp
    | cons f rest =>
      cases rest with
      | nil => simp
      | cons g more => exact absurd (by simp [hfamilies]) hlength
  exact hone _ (mem_familiesOf ha) _ (mem_familiesOf hb)

theorem yields_comparing (path : Value) (c : Comparison) (v : Value) :
    Yields IsLawful (comparing path c v) := by
  refine (yields_frozen v).bind fun x hx => ?_
  refine Yields.bind (P := fun _ => checkFamilies path x = .ok ()) (fun u hu => hu) fun u hu => ?_
  exact (yields_pathOf path).bind fun p hp =>
    yields_ok (.leaf hp ⟨hx, uniform_of_checkFamilies hu⟩)

/-- A value that a comparison may be made with. Whether a field is null is asked with a truth value;
the other comparisons take any value. -/
def Takes (comparison : Comparison) (v : Value) : Prop := comparison = .isNull → ∃ b, v = .bool b

theorem takes_bool (comparison : Comparison) (b : Bool) : Takes comparison (.bool b) :=
  fun _ => ⟨b, rfl⟩

/-- No operator but those for null tests makes one. -/
theorem takes_of_lookup {operators : List (String × Comparison)} {operator : String}
    {comparison : Comparison} (hnull : ∀ o ∈ operators, o.2 ≠ .isNull)
    (h : operators.lookup operator = some comparison) (v : Value) : Takes comparison v :=
  fun heq => absurd heq (hnull _ (mem_of_lookup_eq_some h))

/-- A property of predicates that comparisons with certain values have, and that joined predicates
have if their operands do. Only an object without a reading may be kept out of the values. -/
structure IsHereditary (ok : Value → Prop) (P : Predicate → Prop) : Prop where
  readable : ∀ v, v ≠ .foreign → ok v
  leaf : ∀ path comparison v, Takes comparison v → v.Everywhere ok →
    Yields P (comparing path comparison v)
  group : ∀ connective operands, 2 ≤ operands.length → (∀ p ∈ operands, P p) →
    P (.group connective operands)

theorem isHereditary_isLawful : IsHereditary (fun _ => True) IsLawful where
  readable _ _ := trivial
  leaf path c v _ _ := yields_comparing path c v
  group _ _ := .group

/-- Predicates that are made one after another. -/
abbrev AreLawful (ps : List Predicate) : Prop := ∀ p ∈ ps, IsLawful p

section

variable {ok : Value → Prop} {P : Predicate → Prop}

theorem IsHereditary.everywhere_bool (h : IsHereditary ok P) (b : Bool) :
    (Value.bool b).Everywhere ok :=
  Value.everywhere_of_scalar (by simp) (by simp) (h.readable _ (by simp))

theorem IsHereditary.everywhere_text (h : IsHereditary ok P) (s : String) :
    (Value.text s).Everywhere ok :=
  Value.everywhere_of_scalar (by simp) (by simp) (h.readable _ (by simp))

theorem IsHereditary.everywhere_list (h : IsHereditary ok P) {vs : List Value}
    (hvs : ∀ v ∈ vs, v.Everywhere ok) : (Value.list vs).Everywhere ok :=
  (Value.everywhere_seq _ _).mpr ⟨h.readable _ (by simp), hvs⟩

theorem IsHereditary.everywhere_elements (h : IsHereditary ok P) {v : Value} {vs : List Value}
    (hv : v.Everywhere ok) (hvs : v.elements? = some vs) : ∀ w ∈ vs, w.Everywhere ok := by
  cases v with
  | text s =>
    obtain rfl := Option.some.inj hvs
    exact List.forall_mem_map.mpr fun c _ => h.everywhere_text _
  | word s =>
    obtain rfl := Option.some.inj hvs
    exact List.forall_mem_map.mpr fun c _ => h.everywhere_text _
  | seq kind items =>
    obtain rfl := Option.some.inj hvs
    exact ((Value.everywhere_seq _ _).mp hv).2
  | map es =>
    obtain rfl := Option.some.inj hvs
    exact List.forall_mem_map.mpr fun e _ => h.everywhere_text _
  | _ => cases hvs

theorem yields_comparingElements (h : IsHereditary ok P) (path : Value) {c : Comparison}
    (hc : ∀ v, Takes c v) {v : Value} (hv : v.Everywhere ok) :
    Yields P (comparingElements path c v) := by
  unfold comparingElements
  split
  · next vs hvs => exact h.leaf _ _ _ (hc _) (h.everywhere_list (h.everywhere_elements hv hvs))
  · exact yields_error _

theorem yields_joined (h : IsHereditary ok P) (c : Connective) {ps : List Predicate}
    (hps : ∀ p ∈ ps, P p) : Yields P (joined c ps) := by
  unfold joined
  split
  · exact yields_error _
  · exact yields_ok (hps _ (by simp))
  · next hnil hone =>
    refine yields_ok (h.group c ps ?_ hps)
    match ps with
    | [] => exact absurd rfl hnil
    | [p] => exact absurd rfl (hone p)
    | p :: q :: rest => simp

theorem yields_single {x : Build Predicate} (h : Yields P x) :
    Yields (fun ps => ∀ p ∈ ps, P p) (do return [← x]) :=
  h.bind fun _ hp => yields_ok (List.forall_mem_singleton.mpr hp)

theorem yields_cons {x : Build Predicate} {xs : Build (List Predicate)} (h : Yields P x)
    (hs : Yields (fun ps => ∀ p ∈ ps, P p) xs) :
    Yields (fun ps => ∀ p ∈ ps, P p) (do let p ← x; let ps ← xs; return p :: ps) :=
  h.bind fun _ hp => hs.bind fun _ hps => yields_ok (List.forall_mem_cons.mpr ⟨hp, hps⟩)

theorem yields_append {xs ys : Build (List Predicate)} (hx : Yields (fun ps => ∀ p ∈ ps, P p) xs)
    (hy : Yields (fun ps => ∀ p ∈ ps, P p) ys) :
    Yields (fun ps => ∀ p ∈ ps, P p) (do let ps ← xs; let qs ← ys; return ps ++ qs) :=
  hx.bind fun _ hps => hy.bind fun _ hqs => yields_ok (List.forall_mem_append.mpr ⟨hps, hqs⟩)

theorem yields_ofOperator (h : IsHereditary ok P) (key operator : String) {operand : Value}
    (hv : operand.Everywhere ok) : Yields P (ofOperator key operator operand) := by
  unfold ofOperator
  split
  · exact h.leaf _ _ _ (takes_bool _ _) (h.everywhere_bool _)
  · split
    · next c hc => exact h.leaf _ _ _ (takes_of_lookup (by decide) hc _) hv
    · exact yields_error _

theorem yields_ofOperators (h : IsHereditary ok P) (key : String)
    {operators : List (String × Value)} (hvs : ∀ o ∈ operators, o.2.Everywhere ok) :
    Yields (fun ps => ∀ p ∈ ps, P p) (ofOperators key operators) := by
  induction operators with
  | nil => exact yields_ok (List.forall_mem_nil _)
  | cons o rest ih =>
    obtain ⟨ho, hrest⟩ := List.forall_mem_cons.mp hvs
    exact yields_cons (yields_ofOperator h key o.1 ho) (ih hrest)

theorem yields_ofField (h : IsHereditary ok P) (key : String) {v : Value} (hv : v.Everywhere ok) :
    Yields (fun ps => ∀ p ∈ ps, P p) (ofField key v) := by
  unfold ofField
  split
  · exact yields_error _
  · exact yields_ofOperators h _ ((Value.everywhere_map _).mp hv).2
  · exact yields_single (h.leaf _ _ _ (takes_bool _ _) (h.everywhere_bool _))
  · exact yields_single (h.leaf _ _ _ (by simp [Takes]) hv)
  · exact yields_single (h.leaf _ _ _ (by simp [Takes])
      (h.everywhere_list ((Value.everywhere_seq _ _).mp hv).2))
  · exact yields_single (h.leaf _ _ _ (by simp [Takes]) hv)

mutual

theorem yields_ofShorthand (h : IsHereditary ok P) (v : Value) (hv : v.Everywhere ok) :
    Yields P (ofShorthand v) := by
  cases v with
  | map entries =>
    cases entries with
    | nil => exact yields_error _
    | cons e rest =>
      exact (yields_ofEntries h (e :: rest) ((Value.everywhere_map _).mp hv).2).bind
        fun ps hps => yields_joined h .and hps
  | _ =>
    rw [ofShorthand]
    · split
      · exact yields_error _
      · exact yields_error _
    all_goals simp

theorem yields_ofEntries (h : IsHereditary ok P) (entries : List (String × Value))
    (hvs : ∀ e ∈ entries, e.2.Everywhere ok) :
    Yields (fun ps => ∀ p ∈ ps, P p) (ofEntries entries) := by
  cases entries with
  | nil => exact yields_ok (List.forall_mem_nil _)
  | cons e rest =>
    obtain ⟨he, hrest⟩ := List.forall_mem_cons.mp hvs
    exact yields_append (yields_ofEntry h e.1 e.2 he) (yields_ofEntries h rest hrest)

theorem yields_ofEntry (h : IsHereditary ok P) (key : String) (v : Value) (hv : v.Everywhere ok) :
    Yields (fun ps => ∀ p ∈ ps, P p) (ofEntry key v) := by
  cases v with
  | seq kind items =>
    have hitems := ((Value.everywhere_seq _ _).mp hv).2
    have hjoined := fun c => yields_single ((yields_ofShorthands h items hitems).bind fun ps hps =>
      yields_joined h c hps)
    rw [ofEntry]
    split
    · split
      · simpa using hjoined _
      · simpa using hjoined _
      · exact yields_error _
    · split
      · exact yields_error _
      · exact yields_ofField h key hv
  | _ =>
    rw [ofEntry]
    · split
      · exact yields_error _
      · split
        · exact yields_error _
        · exact yields_ofField h key hv
    all_goals simp

theorem yields_ofShorthands (h : IsHereditary ok P) (vs : List Value)
    (hvs : ∀ v ∈ vs, v.Everywhere ok) :
    Yields (fun ps => ∀ p ∈ ps, P p) (ofShorthands vs) := by
  cases vs with
  | nil => exact yields_ok (List.forall_mem_nil _)
  | cons v rest =>
    obtain ⟨hv, hrest⟩ := List.forall_mem_cons.mp hvs
    exact yields_cons (yields_ofShorthand h v hv) (yields_ofShorthands h rest hrest)

end

theorem yields_applied (h : IsHereditary ok P) (operator : String) {args : List Value}
    (hargs : ∀ a ∈ args, a.Everywhere ok) : Yields P (applied operator args) := by
  unfold applied
  split
  · next c path value hc =>
    exact h.leaf _ _ _ (takes_of_lookup (by decide) hc value) (hargs _ (by simp))
  · next c path values hc _ =>
    exact yields_comparingElements h _ (takes_of_lookup (by decide) hc) (hargs _ (by simp))
  · split
    · exact h.leaf _ _ _ (takes_bool _ _) (h.everywhere_bool _)
    · split
      · exact h.leaf _ _ _ (takes_bool _ _) (h.everywhere_bool _)
      · exact yields_error _
  · split
    · exact h.leaf _ _ _ (takes_bool _ _) (h.everywhere_bool _)
    · exact yields_error _
  · exact yields_error _

/-- A term that is no predicate, or one with a property. -/
def Term.Has (P : Predicate → Prop) : Term → Prop
  | .predicate p => P p
  | .value _ => True

theorem yields_joinedTerms (h : IsHereditary ok P) (c : Connective) {terms : List Term}
    (hterms : ∀ t ∈ terms, t.Has P) : Yields P (joinedTerms c terms) := by
  unfold joinedTerms
  split
  · exact yields_error _
  · refine Yields.bind (P := fun ps => ∀ p ∈ ps, P p) (fun ps hps p hp => ?_)
      fun ps hps => yields_joined h c hps
    -- each predicate is the one of a term
    obtain ⟨i, hi⟩ := List.getElem?_of_mem hp
    have hlength := length_of_mapM_eq_ok hps
    obtain ⟨hlt, -⟩ := List.getElem?_eq_some_iff.mp hi
    obtain ⟨q, hq, hqi⟩ := getElem?_of_mapM_eq_ok hps
      (List.getElem?_eq_getElem (hlength ▸ hlt : i < terms.length))
    obtain rfl : q = p := Option.some.inj (hqi.symm.trans hi)
    have hterm := hterms _ (List.getElem_mem (hlength ▸ hlt))
    split at hq
    · next hpredicate =>
      obtain rfl := Except.ok.inj hq
      rwa [hpredicate] at hterm
    · cases hq

end

mutual

/-- A property holds everywhere inside the values that operators are applied to. -/
def Expr.Everywhere (ok : Value → Prop) : Expr → Prop
  | .apply _ args => ∀ a ∈ args, a.Everywhere ok
  | .join _ operands => AllEverywhere ok operands
  | .value _ => True

def AllEverywhere (ok : Value → Prop) : List Expr → Prop
  | [] => True
  | e :: es => e.Everywhere ok ∧ AllEverywhere ok es

end

/-- A property holds everywhere inside the values of an input. -/
def Input.Everywhere (ok : Value → Prop) : Input → Prop
  | .value v => v.Everywhere ok
  | .expression e => e.Everywhere ok
  | .normalized input => input.Everywhere ok

mutual

theorem Expr.everywhere_true (e : Expr) : e.Everywhere fun _ => True := by
  cases e with
  | apply operator args => exact fun _ _ _ _ => trivial
  | join c operands => exact allEverywhere_true operands
  | value v => trivial

theorem allEverywhere_true (es : List Expr) : AllEverywhere (fun _ => True) es := by
  cases es with
  | nil => trivial
  | cons e rest => exact ⟨e.everywhere_true, allEverywhere_true rest⟩

end

theorem Input.everywhere_true (input : Input) : input.Everywhere fun _ => True := by
  induction input with
  | value v => exact fun _ _ => trivial
  | expression e => exact e.everywhere_true
  | normalized input ih => exact ih

section

variable {ok : Value → Prop} {P : Predicate → Prop}

mutual

theorem yields_evaluate (h : IsHereditary ok P) (e : Expr) (he : e.Everywhere ok) :
    Yields (Term.Has P) e.evaluate := by
  cases e with
  | apply operator args => exact (yields_applied h operator he).bind fun p hp => yields_ok hp
  | join c operands =>
    exact (yields_evaluateAll h operands he).bind fun ts hts =>
      (yields_joinedTerms h c hts).bind fun p hp => yields_ok hp
  | value v => exact yields_ok trivial

theorem yields_evaluateAll (h : IsHereditary ok P) (es : List Expr) (hes : AllEverywhere ok es) :
    Yields (fun ts => ∀ t ∈ ts, Term.Has P t) (evaluateAll es) := by
  cases es with
  | nil => exact yields_ok (List.forall_mem_nil _)
  | cons e rest =>
    exact (yields_evaluate h e hes.1).bind fun t ht =>
      (yields_evaluateAll h rest hes.2).bind fun ts hts =>
        yields_ok (List.forall_mem_cons.mpr ⟨ht, hts⟩)

end

/-- Every predicate that an input comes to has a property that passes from its comparisons on. -/
theorem yields_of_isHereditary (h : IsHereditary ok P) (input : Input)
    (hinput : input.Everywhere ok) :
    Yields (fun p? => ∀ p, p? = some p → P p) input.normalize := by
  induction input with
  | value v =>
    unfold Input.normalize
    split
    · exact yields_ok (by simp)
    · next entries _ hvalue =>
      obtain rfl := Input.value.inj hvalue
      exact (yields_ofShorthand h _ hinput).map fun p hp => by simpa using hp
    · exact yields_error _
    all_goals simp_all
  | expression e =>
    rw [Input.normalize]
    refine (yields_evaluate h e hinput).bind fun t ht => ?_
    cases t with
    | predicate p => exact yields_ok fun q hq => Option.some.inj hq ▸ ht
    | value v => exact yields_error _
  | normalized input ih =>
    rw [Input.normalize]
    refine (ih hinput).bind fun p? hp => ?_
    cases p? with
    | none => exact yields_error _
    | some p => exact yields_ok hp

end

/-- What holds of the comparisons of each operand holds of all of them. -/
theorem forall_leavesOf {Q : FieldPath × Comparison × Value → Prop} {ps : List Predicate}
    (h : ∀ p ∈ ps, ∀ l ∈ p.leaves, Q l) : ∀ l ∈ leavesOf ps, Q l := by
  induction ps with
  | nil => exact List.forall_mem_nil _
  | cons p rest ih =>
    obtain ⟨hp, hrest⟩ := List.forall_mem_cons.mp h
    exact List.forall_mem_append.mpr ⟨hp, ih hrest⟩

/-- Every predicate that an input comes to is lawful. -/
theorem yields_normalize (input : Input) :
    Yields (fun p? => ∀ p, p? = some p → IsLawful p) input.normalize :=
  yields_of_isHereditary isHereditary_isLawful input input.everywhere_true

theorem isLawful_conjuncts {p : Predicate} (h : IsLawful p) :
    1 ≤ p.conjuncts.length ∧ ∀ q ∈ p.conjuncts, IsLawful q := by
  cases h with
  | leaf hpath hvalue => exact ⟨by simp [conjuncts], by simpa [conjuncts] using .leaf hpath hvalue⟩
  | @group connective operands hlength hall =>
    cases connective with
    | and => exact ⟨by simp only [conjuncts]; omega, hall⟩
    | or => exact ⟨by simp [conjuncts], by simpa [conjuncts] using .group hlength hall⟩

/-- The conjunction of lawful predicates is lawful. -/
theorem isLawful_both {left right : Option Predicate} (hleft : ∀ p, left = some p → IsLawful p)
    (hright : ∀ p, right = some p → IsLawful p) : ∀ p, both left right = some p → IsLawful p := by
  cases left with
  | none => exact hright
  | some p =>
    cases right with
    | none => exact hleft
    | some q =>
      rintro _ ⟨⟩
      obtain ⟨hp, hps⟩ := isLawful_conjuncts (hleft p rfl)
      obtain ⟨hq, hqs⟩ := isLawful_conjuncts (hright q rfl)
      refine .group (by rw [List.length_append]; omega) fun r hr => ?_
      obtain hr | hr := List.mem_append.mp hr
      · exact hps r hr
      · exact hqs r hr

mutual

/-- What is compared in a lawful predicate is a plain path with a proper value. -/
theorem IsLawful.of_leaves {p : Predicate} (h : IsLawful p) :
    ∀ l ∈ p.leaves, l.1.IsPlain ∧ IsOperandValue l.2.2 := by
  cases h with
  | leaf hpath hvalue => simpa [leaves] using ⟨hpath, hvalue⟩
  | group hlength hall => exact isLawful_leavesOf hall

theorem isLawful_leavesOf {ps : List Predicate} (h : AreLawful ps) :
    ∀ l ∈ leavesOf ps, l.1.IsPlain ∧ IsOperandValue l.2.2 := by
  cases ps with
  | nil => simp [leavesOf]
  | cons p rest =>
    intro l hl
    obtain hl | hl := List.mem_append.mp hl
    · exact (h p (by simp)).of_leaves l hl
    · exact isLawful_leavesOf (fun q hq => h q (by simp [hq])) l hl

end

end Predicate

end Retrieval
