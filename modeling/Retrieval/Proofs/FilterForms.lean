import Retrieval.Predicate.Shorthand
import Retrieval.Proofs.Traversal

/-!
The two forms of a filter. A mapping in shorthand is spelled out, entry by entry, as an expression
of operators. Main statement: the mapping and the expression come to the same predicate, or both are
refused. They need not be refused for the same reason: an empty mapping inside a connective is
refused as such, but spelled out it is a conjunction without operands.
-/

namespace Retrieval.Predicate

/-- The constructor that each operator of the shorthand stands for. -/
def constructorNames : List (String × String) :=
  [("$eq", "Equal"), ("$ne", "NotEqual"), ("$gt", "GreaterThan"), ("$gte", "GreaterThanEqual"),
    ("$lt", "LessThan"), ("$lte", "LessThanEqual"), ("$like", "Like"), ("$in", "ContainsAny"),
    ("$all", "ContainsAll")]

/-- One operator with its operand, spelled out. What is no operator has no constructor. -/
def operatorExpr (key operator : String) (operand : Value) : Expr :=
  if operator = "$exists" then .apply "IsNull" [.text key, .bool !operand.isTruthy]
  else
    match constructorNames.lookup operator with
    | some name => .apply name [.text key, operand]
    | none => .value operand

/-- A path with what it is compared with, spelled out. -/
def fieldExprs (key : String) : Value → List Expr
  | .map operators => operators.map fun o => operatorExpr key o.1 o.2
  | .null => [.apply "IsNull" [.text key, .bool true]]
  | .seq .frozenSet items => [.apply "Equal" [.text key, .seq .frozenSet items]]
  | .seq kind items => [.apply "ContainsAny" [.text key, .seq kind items]]
  | v => [.apply "Equal" [.text key, v]]

mutual

/-- A mapping in shorthand, spelled out: what its entries ask for is joined by one conjunction. -/
def spelledOut : Value → Expr
  | .map entries => .join .and (entryExprs entries)
  | v => .value v

def entryExprs : List (String × Value) → List Expr
  | [] => []
  | (key, value) :: rest => exprsOfEntry key value ++ entryExprs rest

/-- One entry: a connective is one operand, and a path one for each of its operators. -/
def exprsOfEntry (key : String) : Value → List Expr
  | .seq kind items =>
    match connectives.lookup key with
    | some c => [.join c (spelledOutAll items)]
    | none => fieldExprs key (.seq kind items)
  | v => fieldExprs key v

def spelledOutAll : List Value → List Expr
  | [] => []
  | v :: vs => spelledOut v :: spelledOutAll vs

end

/-- An operator of the shorthand; the two that compare with elements need a sequence. -/
def IsOperator (operator : String) (operand : Value) : Prop :=
  operator = "$exists" ∨ ∃ name, constructorNames.lookup operator = some name ∧
    (name = "ContainsAny" ∨ name = "ContainsAll" → ∃ kind items, operand = .seq kind items)

/-- What a path may be compared with: any value, but a mapping must hold operators. -/
def IsOperand : Value → Prop
  | .map operators => operators ≠ [] ∧ ∀ o ∈ operators, IsOperator o.1 o.2
  | _ => True

mutual

/-- A mapping in shorthand in which all operators and connectives are known ones. -/
def IsShorthand : Value → Prop
  | .map entries => AreEntries entries
  | _ => False

def AreEntries : List (String × Value) → Prop
  | [] => True
  | (key, value) :: rest => IsEntry key value ∧ AreEntries rest

/-- An entry: a connective with a list of mappings, or a path with what it is compared with. -/
def IsEntry (key : String) : Value → Prop
  | .seq kind items =>
    ((connectives.lookup key).isSome ∧ (kind = .list ∨ kind = .tuple) ∧ AreShorthands items) ∨
      key.startsWith "$" = false
  | v => key.startsWith "$" = false ∧ IsOperand v

def AreShorthands : List Value → Prop
  | [] => True
  | v :: vs => IsShorthand v ∧ AreShorthands vs

end

variable {α β γ δ : Type}

/-- Two ways of building that are both refused, or come to things that are related. -/
def Agree (R : α → β → Prop) (x : Build α) (y : Build β) : Prop :=
  (∃ a b, x = .ok a ∧ y = .ok b ∧ R a b) ∨ ((∃ cause, x = refuse cause) ∧ ∃ cause, y = refuse cause)

theorem agree_ok {R : α → β → Prop} {a : α} {b : β} (h : R a b) : Agree R (.ok a) (.ok b) :=
  .inl ⟨a, b, rfl, rfl, h⟩

theorem agree_refuse {R : α → β → Prop} (c d : ConfigurationError) :
    Agree R (refuse c) (refuse d) :=
  .inr ⟨⟨c, rfl⟩, d, rfl⟩

theorem Agree.bind {R : α → β → Prop} {S : γ → δ → Prop} {x : Build α} {y : Build β}
    {f : α → Build γ} {g : β → Build δ} (h : Agree R x y)
    (hfg : ∀ a b, R a b → Agree S (f a) (g b)) : Agree S (x >>= f) (y >>= g) := by
  obtain ⟨a, b, rfl, rfl, hab⟩ | ⟨⟨c, rfl⟩, d, rfl⟩ := h
  · exact hfg a b hab
  · exact agree_refuse c d

/-- A way of building that comes to something or is refused with a cause. -/
def Decided (x : Build α) : Prop := Agree Eq x x

theorem decided_ok (a : α) : Decided (.ok a) := agree_ok rfl

theorem decided_refuse (c : ConfigurationError) : Decided (refuse c : Build α) := agree_refuse c c

theorem Decided.bind {x : Build α} {f : α → Build β} (h : Decided x)
    (hf : ∀ a, Decided (f a)) : Decided (x >>= f) :=
  Agree.bind h fun a _ hab => hab ▸ hf a

mutual

theorem frozen_decided (v : Value) : Decided (frozen v) := by
  cases v with
  | seq kind items => exact (frozenItems_decided items).bind fun _ => decided_ok _
  | float x =>
    rw [frozen]
    split
    · exact decided_ok _
    · exact decided_refuse _
  | map es => exact decided_refuse _
  | _ => exact decided_ok _

theorem frozenItems_decided (vs : List Value) : Decided (frozenItems vs) := by
  cases vs with
  | nil => exact decided_ok _
  | cons v rest =>
    exact (frozen_decided v).bind fun _ => (frozenItems_decided rest).bind fun _ => decided_ok _

end

theorem checkFamilies_decided (path v : Value) : Decided (checkFamilies path v) := by
  unfold checkFamilies
  split
  · dsimp only
    split
    · exact decided_refuse _
    · exact decided_ok _
  · exact decided_ok _

theorem pathOf_decided (v : Value) : Decided (pathOf v) := by
  unfold pathOf
  split
  · exact decided_ok _
  · exact decided_refuse _

/-- A comparison that cannot be made is refused with a cause. -/
theorem comparing_decided (path : Value) (c : Comparison) (v : Value) :
    Decided (comparing path c v) :=
  (frozen_decided v).bind fun _ => (checkFamilies_decided path _).bind fun _ =>
    (pathOf_decided path).bind fun _ => decided_ok _

/-- Sequences of all kinds are compared with alike. -/
theorem comparing_seq (path : Value) (c : Comparison) (kind other : SeqKind) (items : List Value) :
    comparing path c (.seq kind items) = comparing path c (.seq other items) := by
  simp only [comparing, frozen]

theorem joined_decided (c : Connective) (ps : List Predicate) : Decided (joined c ps) := by
  unfold joined
  split
  · exact decided_refuse _
  · exact decided_ok _
  · exact decided_ok _

/-- Predicates are joined as terms like they are by themselves. -/
theorem joinedTerms_predicates (c : Connective) (ps : List Predicate) :
    joinedTerms c (ps.map Term.predicate) = joined c ps := by
  cases ps with
  | nil => rfl
  | cons p rest =>
    unfold joinedTerms
    rw [if_neg (by simp)]
    dsimp only
    rw [(mapM_eq_ok_iff _ _ (p :: rest)).mpr (by simp), ok_bind]

/-- A predicate by itself and as the term of an expression. -/
def IsTerm (p : Predicate) (t : Term) : Prop := t = .predicate p

def AreTerms (ps : List Predicate) (ts : List Term) : Prop := ts = ps.map Term.predicate

/-- An expression that makes one predicate. -/
def Makes (p : Build Predicate) (e : Expr) : Prop := Agree IsTerm p e.evaluate

/-- Expressions that make the predicates one after another. -/
def MakeAll (ps : Build (List Predicate)) (es : List Expr) : Prop :=
  Agree AreTerms ps (evaluateAll es)

theorem Decided.asTerm {p : Build Predicate} (hp : Decided p) :
    Agree IsTerm p (do return .predicate (← p)) := by
  obtain ⟨a, -, rfl, -, -⟩ | ⟨⟨c, rfl⟩, -⟩ := hp
  · exact agree_ok rfl
  · exact agree_refuse c c

theorem makes_apply {p : Build Predicate} {operator : String} {args : List Value}
    (hp : Decided p) (h : applied operator args = p) : Makes p (.apply operator args) := by
  unfold Makes
  rw [Expr.evaluate, h]
  exact hp.asTerm

theorem makeAll_nil : MakeAll (.ok []) [] := agree_ok rfl

theorem makeAll_cons {p : Build Predicate} {ps : Build (List Predicate)} {e : Expr}
    {es : List Expr} (hp : Makes p e) (hps : MakeAll ps es) :
    MakeAll (do let a ← p; let as ← ps; return a :: as) (e :: es) := by
  refine Agree.bind hp fun a t hat => Agree.bind hps fun as ts hats => agree_ok ?_
  rw [IsTerm] at hat
  rw [AreTerms] at hats ⊢
  rw [hat, hats, List.map_cons]

theorem makeAll_single {p : Build Predicate} {e : Expr} (hp : Makes p e) :
    MakeAll (do return [← p]) [e] :=
  Agree.bind hp fun _ _ hat => agree_ok (congrArg ([·]) hat)

theorem evaluateAll_append (es fs : List Expr) :
    evaluateAll (es ++ fs) = (do
      let ts ← evaluateAll es
      let us ← evaluateAll fs
      return ts ++ us) := by
  induction es with
  | nil => cases h : evaluateAll fs <;> simp [evaluateAll, h] <;> rfl
  | cons e rest ih =>
    rw [List.cons_append, evaluateAll, evaluateAll, ih]
    cases e.evaluate with
    | error cause => rfl
    | ok t =>
      cases evaluateAll rest with
      | error cause => rfl
      | ok ts => cases evaluateAll fs <;> rfl

theorem makeAll_append {ps qs : Build (List Predicate)} {es fs : List Expr}
    (hps : MakeAll ps es) (hqs : MakeAll qs fs) :
    MakeAll (do let as ← ps; let bs ← qs; return as ++ bs) (es ++ fs) := by
  unfold MakeAll
  rw [evaluateAll_append]
  refine Agree.bind hps fun as ts hts => Agree.bind hqs fun bs us hus => agree_ok ?_
  rw [AreTerms] at hts hus ⊢
  rw [hts, hus, List.map_append]

/-- What is made one after another is joined alike. -/
theorem makeAll_join {ps : Build (List Predicate)} {es : List Expr} (h : MakeAll ps es)
    (c : Connective) : Makes (ps >>= joined c) (.join c es) := by
  refine Agree.bind h fun as ts hts => ?_
  rw [AreTerms] at hts
  rw [hts, joinedTerms_predicates]
  exact (joined_decided c as).asTerm

/-- The constructor of an operator makes the operator's own comparison. -/
theorem applied_constructor {operator name : String} {operand : Value}
    (hname : constructorNames.lookup operator = some name)
    (hseq : name = "ContainsAny" ∨ name = "ContainsAll" → ∃ kind items, operand = .seq kind items)
    (path : Value) : ∃ c, shorthandOperators.lookup operator = some c ∧
      applied name [path, operand] = comparing path c operand := by
  have hmem := mem_of_lookup_eq_some hname
  simp only [constructorNames, List.mem_cons, Prod.mk.injEq, List.not_mem_nil, or_false] at hmem
  obtain ⟨rfl, rfl⟩ | ⟨rfl, rfl⟩ | ⟨rfl, rfl⟩ | ⟨rfl, rfl⟩ | ⟨rfl, rfl⟩ | ⟨rfl, rfl⟩ | ⟨rfl, rfl⟩ |
    ⟨rfl, rfl⟩ | ⟨rfl, rfl⟩ := hmem
  case' inr.inr.inr.inr.inr.inr.inr.inl =>
    obtain ⟨kind, items, rfl⟩ := hseq (.inl rfl)
    exact ⟨.containsAny, rfl, comparing_seq path _ .list kind items⟩
  case' inr.inr.inr.inr.inr.inr.inr.inr =>
    obtain ⟨kind, items, rfl⟩ := hseq (.inr rfl)
    exact ⟨.containsAll, rfl, comparing_seq path _ .list kind items⟩
  all_goals exact ⟨_, rfl, rfl⟩

theorem ofOperator_makes (key : String) {operator : String} {operand : Value}
    (h : IsOperator operator operand) :
    Makes (ofOperator key operator operand) (operatorExpr key operator operand) := by
  unfold ofOperator operatorExpr
  by_cases hexists : operator = "$exists"
  · rw [if_pos hexists, if_pos hexists]
    exact makes_apply (comparing_decided _ _ _) rfl
  · rw [if_neg hexists, if_neg hexists]
    obtain ⟨name, hname, hseq⟩ := h.resolve_left hexists
    obtain ⟨c, hc, happlied⟩ := applied_constructor hname hseq (.text key)
    rw [hname, hc]
    exact makes_apply (comparing_decided _ _ _) happlied

theorem ofOperators_makeAll (key : String) {operators : List (String × Value)}
    (h : ∀ o ∈ operators, IsOperator o.1 o.2) :
    MakeAll (ofOperators key operators) (operators.map fun o => operatorExpr key o.1 o.2) := by
  induction operators with
  | nil => exact makeAll_nil
  | cons o rest ih =>
    exact makeAll_cons (ofOperator_makes key (h o (by simp))) (ih fun x hx => h x (by simp [hx]))

theorem ofField_makeAll (key : String) {v : Value} (h : IsOperand v) :
    MakeAll (ofField key v) (fieldExprs key v) := by
  have hmake : ∀ (c : Comparison) (w : Value) (name : String) (args : List Value),
      applied name args = comparing (.text key) c w →
      MakeAll (do return [← comparing (.text key) c w]) [.apply name args] :=
    fun c w _ _ happlied => makeAll_single (makes_apply (comparing_decided _ c w) happlied)
  cases v with
  | map operators =>
    obtain ⟨hne, hall⟩ := h
    cases operators with
    | nil => exact absurd rfl hne
    | cons o rest => exact ofOperators_makeAll key hall
  | null => exact hmake .isNull (.bool true) "IsNull" [.text key, .bool true] rfl
  | seq kind items =>
    cases kind with
    | frozenSet => exact hmake .equal _ "Equal" [.text key, .seq .frozenSet items] rfl
    | list => exact hmake .containsAny _ "ContainsAny" [.text key, .seq .list items] rfl
    | tuple => exact hmake .containsAny _ "ContainsAny" [.text key, .seq .tuple items] rfl
    | set => exact hmake .containsAny _ "ContainsAny" [.text key, .seq .set items] rfl
  | _ => exact hmake .equal _ "Equal" [.text key, _] rfl

/-- A key without a dollar sign is that of a path. -/
theorem lookup_connectives {key : String} (h : key.startsWith "$" = false) :
    connectives.lookup key = none := by
  cases hkey : connectives.lookup key with
  | none => rfl
  | some c =>
    have hmem := mem_of_lookup_eq_some hkey
    simp only [connectives, List.mem_cons, Prod.mk.injEq, List.not_mem_nil, or_false] at hmem
    obtain ⟨rfl, -⟩ | ⟨rfl, -⟩ := hmem
    · exact absurd h (by decide +kernel)
    · exact absurd h (by decide +kernel)

/-- An entry under such a key compares the path with its value. -/
theorem ofEntry_of_path {key : String} (h : key.startsWith "$" = false) (v : Value) :
    ofEntry key v = ofField key v := by
  have hlookup := lookup_connectives h
  cases v <;> simp [ofEntry, hlookup, h]

theorem ofPath_makeAll {key : String} {v : Value} (hkey : key.startsWith "$" = false)
    (h : IsOperand v) : MakeAll (ofEntry key v) (exprsOfEntry key v) := by
  have hlookup := lookup_connectives hkey
  have hexprs : exprsOfEntry key v = fieldExprs key v := by
    cases v <;> simp [exprsOfEntry, hlookup]
  rw [ofEntry_of_path hkey, hexprs]
  exact ofField_makeAll key h

mutual

theorem ofShorthand_makes (v : Value) (h : IsShorthand v) :
    Makes (ofShorthand v) (spelledOut v) := by
  cases v with
  | map entries =>
    cases entries with
    | nil => exact agree_refuse .emptyFilter (.noOperands Connective.and.name)
    | cons e rest => exact makeAll_join (ofEntries_makeAll (e :: rest) h) .and
  | _ => exact h.elim

theorem ofEntries_makeAll (entries : List (String × Value)) (h : AreEntries entries) :
    MakeAll (ofEntries entries) (entryExprs entries) := by
  cases entries with
  | nil => exact makeAll_nil
  | cons e rest =>
    obtain ⟨key, value⟩ := e
    exact makeAll_append (ofEntry_makeAll key value h.1) (ofEntries_makeAll rest h.2)

theorem ofEntry_makeAll (key : String) (v : Value) (h : IsEntry key v) :
    MakeAll (ofEntry key v) (exprsOfEntry key v) := by
  cases v with
  | seq kind items =>
    obtain ⟨hkey, hkind, hitems⟩ | hpath := h
    · obtain ⟨c, hc⟩ := Option.isSome_iff_exists.mp hkey
      have hjoined := makeAll_single (makeAll_join (ofShorthands_makeAll items hitems) c)
      rw [ofEntry, exprsOfEntry, hc]
      obtain rfl | rfl := hkind
      · simpa using hjoined
      · simpa using hjoined
    · exact ofPath_makeAll hpath trivial
  | _ => exact ofPath_makeAll h.1 h.2

theorem ofShorthands_makeAll (vs : List Value) (h : AreShorthands vs) :
    MakeAll (ofShorthands vs) (spelledOutAll vs) := by
  cases vs with
  | nil => exact makeAll_nil
  | cons v rest => exact makeAll_cons (ofShorthand_makes v h.1) (ofShorthands_makeAll rest h.2)

end

/-- A mapping in shorthand and the expression that spells it out come to the same predicate, or both
are refused. -/
theorem forms_agree (entries : List (String × Value)) (hne : entries ≠ [])
    (h : IsShorthand (.map entries)) :
    (∃ p, (Input.value (.map entries)).normalize = .ok (some p) ∧
        (Input.expression (spelledOut (.map entries))).normalize = .ok (some p)) ∨
      ((∃ cause, (Input.value (.map entries)).normalize = refuse cause) ∧
        ∃ cause, (Input.expression (spelledOut (.map entries))).normalize = refuse cause) := by
  have hvalue : (Input.value (.map entries)).normalize = some <$> ofShorthand (.map entries) := by
    cases entries with
    | nil => exact absurd rfl hne
    | cons e rest => rfl
  obtain ⟨p, t, hp, ht, rfl⟩ | ⟨⟨c, hc⟩, d, hd⟩ := ofShorthand_makes _ h
  · rw [hvalue, hp, Input.normalize, ht]
    exact .inl ⟨p, rfl, rfl⟩
  · rw [hvalue, hc, Input.normalize, hd]
    exact .inr ⟨⟨c, rfl⟩, d, rfl⟩

/-- Two operators on one path, and a disjunction of two mappings. -/
def recentOrNamed : List (String × Value) :=
  [("year", .map [("$gte", .int 2000), ("$in", .seq .set [.int 2001])]),
    ("$or", .list [.map [("lang", .text "en")], .map [("lang", .map [("$exists", .int 0)])]])]

/-- What both forms of the filter come to. -/
def recentOrNamedPredicate : Predicate :=
  .group .and [.leaf ⟨"year", []⟩ .greaterThanEqual (.int 2000),
    .leaf ⟨"year", []⟩ .containsAny (.seq .tuple [.int 2001]),
    .group .or [.leaf ⟨"lang", []⟩ .equal (.text "en"), .leaf ⟨"lang", []⟩ .isNull (.bool true)]]

theorem forms_agree_recentOrNamed :
    (Input.value (.map recentOrNamed)).normalize = .ok (some recentOrNamedPredicate) ∧
      (Input.expression (spelledOut (.map recentOrNamed))).normalize =
        .ok (some recentOrNamedPredicate) := by
  have hyear : IsOperand (.map [("$gte", .int 2000), ("$in", .seq .set [.int 2001])]) := by
    refine ⟨by simp, fun o ho => .inr ?_⟩
    obtain rfl | rfl : o = ("$gte", .int 2000) ∨ o = ("$in", .seq .set [.int 2001]) := by
      simpa using ho
    · exact ⟨"GreaterThanEqual", rfl, fun hname => absurd hname (by decide)⟩
    · exact ⟨"ContainsAny", rfl, fun _ => ⟨_, _, rfl⟩⟩
  have hlang : IsOperand (.map [("$exists", .int 0)]) := by
    refine ⟨by simp, fun o ho => .inl ?_⟩
    rw [List.mem_singleton.mp ho]
  have hdollar : "year".startsWith "$" = false ∧ "lang".startsWith "$" = false := by
    decide +kernel
  have hshorthand : IsShorthand (.map recentOrNamed) :=
    ⟨⟨hdollar.1, hyear⟩, .inl ⟨rfl, .inl rfl, ⟨⟨hdollar.2, trivial⟩, trivial⟩,
      ⟨⟨hdollar.2, hlang⟩, trivial⟩, trivial⟩, trivial⟩
  have hexpr : (Input.expression (spelledOut (.map recentOrNamed))).normalize =
      .ok (some recentOrNamedPredicate) := rfl
  refine ⟨?_, hexpr⟩
  obtain ⟨p, hvalue, hp⟩ | ⟨-, c, hc⟩ :=
    forms_agree recentOrNamed (by simp [recentOrNamed]) hshorthand
  · rw [hvalue, ← hp, hexpr]
  · rw [hexpr] at hc
    cases hc

end Retrieval.Predicate
