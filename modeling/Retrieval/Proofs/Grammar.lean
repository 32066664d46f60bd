import Retrieval.Proofs.Judgements

/-!
The grammar of the shorthand for filters. Main statement: a mapping comes to a filter exactly if it
is in the grammar, and the empty mapping to none; all else is refused with a cause, except where
something that is present but no mapping is the first operand of a connective to be out of the
grammar: that is a misuse.
-/

namespace Retrieval.Predicate

/-- An operator with its operand. To ask whether there is a value, any operand will do. -/
def IsOperation (operator : String) (operand : Value) : Prop :=
  operator = "$exists" ∨ (shorthandOperators.lookup operator).isSome ∧ IsOperandValue operand

/-- What may stand under a path: a proper value, or operators with their operands. -/
inductive IsFieldOperand : Value → Prop
  | value {v : Value} : IsOperandValue v → IsFieldOperand v
  | operators {operators : List (String × Value)} :
    operators ≠ [] → (∀ o ∈ operators, IsOperation o.1 o.2) → IsFieldOperand (.map operators)

mutual

/-- A mapping in the grammar: there are entries, and all of them are in the grammar. -/
inductive InGrammar : Value → Prop
  | mapping {entries : List (String × Value)} :
    entries ≠ [] → (∀ e ∈ entries, EntryInGrammar e.1 e.2) → InGrammar (.map entries)

/-- An entry in the grammar: a connective with mappings that are, or a path with what may stand
under it. -/
inductive EntryInGrammar : String → Value → Prop
  | group {key : String} {connective : Connective} {kind : SeqKind} {items : List Value} :
    connectives.lookup key = some connective → kind = .list ∨ kind = .tuple → items ≠ [] →
      (∀ v ∈ items, InGrammar v) → EntryInGrammar key (.seq kind items)
  | field {key : String} {v : Value} :
    key.startsWith "$" = false → IsPathKey key → IsFieldOperand v → EntryInGrammar key v

end

mutual

/-- A value that is present but no mapping, or a mapping whose first entry out of the grammar leads to
such a value. -/
inductive Breaks : Value → Prop
  | present {v : Value} : (∀ entries, v ≠ .map entries) → v.isTruthy = true → Breaks v
  | mapping {before after : List (String × Value)} {e : String × Value} :
    (∀ x ∈ before, EntryInGrammar x.1 x.2) → EntryBreaks e.1 e.2 →
      Breaks (.map (before ++ e :: after))

/-- A connective whose first operand out of the grammar is or leads to such a value. -/
inductive EntryBreaks : String → Value → Prop
  | group {key : String} {connective : Connective} {kind : SeqKind} {before after : List Value}
    {v : Value} : connectives.lookup key = some connective → kind = .list ∨ kind = .tuple →
      (∀ x ∈ before, InGrammar x) → Breaks v → EntryBreaks key (.seq kind (before ++ v :: after))

end

theorem breaks_map_iff (entries : List (String × Value)) : Breaks (.map entries) ↔
    FirstBad (fun e => EntryInGrammar e.1 e.2) (fun e => EntryBreaks e.1 e.2) entries := by
  constructor
  · intro h
    cases h with
    | present hmap => exact absurd rfl (hmap entries)
    | mapping hbefore he => exact ⟨_, _, _, rfl, hbefore, he⟩
  · rintro ⟨before, e, after, rfl, hbefore, he⟩
    exact .mapping hbefore he

theorem inGrammar_map_iff (entries : List (String × Value)) :
    InGrammar (.map entries) ↔ entries ≠ [] ∧ ∀ e ∈ entries, EntryInGrammar e.1 e.2 :=
  ⟨fun h => by cases h with | mapping hne hall => exact ⟨hne, hall⟩, fun h => .mapping h.1 h.2⟩

/-- A key that stands for a connective starts with a dollar sign. -/
theorem startsWith_of_lookup {key : String} {c : Connective}
    (h : connectives.lookup key = some c) : key.startsWith "$" = true := by
  rw [← Bool.not_eq_false]
  intro hfalse
  rw [lookup_connectives hfalse] at h
  cases h

section

variable {key : String}

theorem entryInGrammar_group_iff {c : Connective} (h : connectives.lookup key = some c)
    (kind : SeqKind) (items : List Value) : EntryInGrammar key (.seq kind items) ↔
      (kind = .list ∨ kind = .tuple) ∧ items ≠ [] ∧ ∀ v ∈ items, InGrammar v := by
  constructor
  · intro hentry
    cases hentry with
    | group _ hkind hne hall => exact ⟨hkind, hne, hall⟩
    | field hdollar => exact absurd (startsWith_of_lookup h) (by simp [hdollar])
  · exact fun ⟨hkind, hne, hall⟩ => .group h hkind hne hall

theorem entryBreaks_group_iff {c : Connective} (h : connectives.lookup key = some c)
    (kind : SeqKind) (items : List Value) : EntryBreaks key (.seq kind items) ↔
      (kind = .list ∨ kind = .tuple) ∧ FirstBad InGrammar Breaks items := by
  constructor
  · intro hentry
    cases hentry with
    | group _ hkind hbefore hv => exact ⟨hkind, _, _, _, rfl, hbefore, hv⟩
  · rintro ⟨hkind, before, v, after, rfl, hbefore, hv⟩
    exact .group h hkind hbefore hv

/-- Only a sequence can stand under a connective. -/
theorem judges_listExpected {c : Connective} (h : connectives.lookup key = some c) {v : Value}
    (hseq : ∀ kind items, v ≠ .seq kind items) :
    Judges (refuse (.listExpected key) : Build (List Predicate)) (EntryInGrammar key v)
      (EntryBreaks key v) := by
  refine (judges_refuse _).congr ⟨False.elim, fun hentry => ?_⟩ ⟨False.elim, fun hentry => ?_⟩
  · cases hentry with
    | group => exact hseq _ _ rfl
    | field hdollar => exact absurd (startsWith_of_lookup h) (by simp [hdollar])
  · cases hentry with
    | group => exact hseq _ _ rfl

theorem entryInGrammar_path_iff (h : key.startsWith "$" = false) (v : Value) :
    EntryInGrammar key v ↔ IsPathKey key ∧ IsFieldOperand v := by
  constructor
  · intro hentry
    cases hentry with
    | group hlookup => exact absurd (startsWith_of_lookup hlookup) (by simp [h])
    | field _ hkey hv => exact ⟨hkey, hv⟩
  · exact fun ⟨hkey, hv⟩ => .field h hkey hv

/-- Under any other key an entry is out of the grammar, but cannot break. -/
theorem not_entryInGrammar (hlookup : connectives.lookup key = none)
    (hdollar : key.startsWith "$" = true) (v : Value) : ¬ EntryInGrammar key v := by
  intro h
  cases h with
  | group hsome => exact absurd hsome (by simp [hlookup])
  | field hfalse => exact absurd hdollar (by simp [hfalse])

theorem not_entryBreaks (hlookup : connectives.lookup key = none) (v : Value) :
    ¬ EntryBreaks key v := by
  intro h
  cases h with
  | group hsome => exact absurd hsome (by simp [hlookup])

end

/-- One operator: known, and with an operand of its kind. -/
theorem judges_ofOperator (key operator : String) (operand : Value) :
    Judges (ofOperator key operator operand) (IsPathKey key ∧ IsOperation operator operand) False := by
  unfold ofOperator
  split
  · next hexists =>
    refine (judges_comparing key .isNull _).congr ?_ Iff.rfl
    simp [IsOperation, hexists, isOperandValue_bool]
  next hexists =>
  split
  · next c hc =>
    refine (judges_comparing key c operand).congr ?_ Iff.rfl
    simp [IsOperation, hexists, hc]
  · next hnone =>
    refine (judges_refuse _).congr ?_ Iff.rfl
    simp [IsOperation, hexists, hnone]

theorem judges_ofOperators (key : String) (operators : List (String × Value)) :
    Judges (ofOperators key operators)
      (∀ o ∈ operators, IsPathKey key ∧ IsOperation o.1 o.2) False := by
  induction operators with
  | nil => exact (judges_ok []).congr (by simp) Iff.rfl
  | cons o rest ih =>
    refine ((judges_ofOperator key o.1 o.2).both ih List.cons).congr ?_ (by simp)
    rw [List.forall_mem_cons]

theorem isFieldOperand_iff {v : Value} (h : ∀ entries, v ≠ .map entries) :
    IsFieldOperand v ↔ IsOperandValue v := by
  constructor
  · intro hv
    cases hv with
    | value hvalue => exact hvalue
    | operators => exact absurd rfl (h _)
  · exact .value

theorem isFieldOperand_map_iff (operators : List (String × Value)) :
    IsFieldOperand (.map operators) ↔
      operators ≠ [] ∧ ∀ o ∈ operators, IsOperation o.1 o.2 := by
  constructor
  · intro h
    cases h with
    | value hvalue => exact absurd hvalue (not_isOperandValue_map operators)
    | operators hne hall => exact ⟨hne, hall⟩
  · exact fun h => .operators h.1 h.2

/-- A path with what stands under it. -/
theorem judges_ofField (key : String) (v : Value) :
    Judges (ofField key v) (IsPathKey key ∧ IsFieldOperand v) False := by
  have hcompare (c : Comparison) (w : Value) (h : IsOperandValue w ↔ IsFieldOperand v) :
      Judges (do return [← comparing (.text key) c w]) (IsPathKey key ∧ IsFieldOperand v) False :=
    ((judges_comparing key c w).map ([·])).congr (and_congr_right fun _ => h) Iff.rfl
  cases v with
  | map operators =>
    cases operators with
    | nil =>
      refine (judges_refuse _).congr ?_ Iff.rfl
      simp [isFieldOperand_map_iff]
    | cons o rest =>
      refine (judges_ofOperators key (o :: rest)).congr ?_ Iff.rfl
      rw [isFieldOperand_map_iff]
      constructor
      · exact fun h => ⟨(h o List.mem_cons_self).1, List.cons_ne_nil o rest, fun x hx => (h x hx).2⟩
      · exact fun ⟨hkey, _, hall⟩ x hx => ⟨hkey, hall x hx⟩
  | null =>
    refine hcompare .isNull (.bool true) ?_
    simp [isFieldOperand_iff, isOperandValue_bool, isOperandValue_null]
  | seq kind items =>
    have hseq (other : SeqKind) :
        IsOperandValue (.seq other items) ↔ IsFieldOperand (.seq kind items) :=
      (isOperandValue_seq other kind items).trans (isFieldOperand_iff (by simp)).symm
    cases kind with
    | frozenSet => exact hcompare .equal _ (hseq .frozenSet)
    | list => exact hcompare .containsAny _ (hseq .list)
    | tuple => exact hcompare .containsAny _ (hseq .list)
    | set => exact hcompare .containsAny _ (hseq .list)
  | _ => exact hcompare .equal _ (isFieldOperand_iff (by simp)).symm

/-- Joining fails only without predicates. -/
theorem judges_joined (c : Connective) (ps : List Predicate) :
    Judges (joined c ps) (ps ≠ []) False := by
  unfold joined
  split
  · exact (judges_refuse _).congr (by simp) Iff.rfl
  · exact (judges_ok _).congr (by simp) Iff.rfl
  · next hnil _ => exact (judges_ok _).congr (by simpa using hnil) Iff.rfl

theorem yields_single_ne_nil (x : Build Predicate) : Yields (· ≠ []) (do return [← x]) :=
  (yields_true x).bind fun p _ => yields_ok (List.cons_ne_nil p [])

/-- A path has at least one comparison. -/
theorem yields_ofField_ne_nil (key : String) (v : Value) : Yields (· ≠ []) (ofField key v) := by
  unfold ofField
  split
  · exact yields_error _
  · next operators hne =>
    cases operators with
    | nil => exact absurd rfl (hne)
    | cons o rest =>
      exact (yields_true _).bind fun p _ => (yields_true _).bind fun ps _ =>
        yields_ok (List.cons_ne_nil p ps)
  all_goals exact yields_single_ne_nil _

theorem yields_ofEntry_ne_nil (key : String) (v : Value) : Yields (· ≠ []) (ofEntry key v) := by
  unfold ofEntry
  split
  · split
    · split
      · exact (yields_true _).bind fun ps _ => yields_single_ne_nil (joined _ ps)
      · exact (yields_true _).bind fun ps _ => yields_single_ne_nil (joined _ ps)
      · exact yields_error _
    · split
      · exact yields_error _
      · exact yields_ofField_ne_nil key _
  · split
    · exact yields_error _
    · split
      · exact yields_error _
      · exact yields_ofField_ne_nil key _

/-- Entries come to predicates, and only no entries come to none. -/
theorem ne_nil_of_ofEntries {entries : List (String × Value)} {ps : List Predicate}
    (h : ofEntries entries = .ok ps) : ps ≠ [] ↔ entries ≠ [] := by
  cases entries with
  | nil =>
    cases h
    simp
  | cons e rest =>
    obtain ⟨qs, hqs, hmore⟩ := bind_eq_ok_iff.mp h
    obtain ⟨rs, -, hps⟩ := bind_eq_ok_iff.mp hmore
    cases hps
    have hne := yields_ofEntry_ne_nil e.1 e.2 qs hqs
    simp [hne]

theorem ne_nil_of_ofShorthands {vs : List Value} {ps : List Predicate}
    (h : ofShorthands vs = .ok ps) : ps ≠ [] ↔ vs ≠ [] := by
  cases vs with
  | nil =>
    cases h
    simp
  | cons v rest =>
    obtain ⟨q, -, hmore⟩ := bind_eq_ok_iff.mp h
    obtain ⟨qs, -, hps⟩ := bind_eq_ok_iff.mp hmore
    cases hps
    simp

/-- A value that is no mapping is refused if it counts as absent, and else is a misuse. -/
theorem judges_present {v : Value} (h : ∀ entries, v ≠ .map entries) :
    Judges (if v.isTruthy then misuse else refuse .emptyFilter : Build Predicate) (InGrammar v)
      (Breaks v) := by
  have hgrammar : ¬ InGrammar v := fun hv => by
    cases hv with
    | mapping => exact h _ rfl
  have hbreaks : Breaks v ↔ v.isTruthy = true := by
    constructor
    · intro hv
      cases hv with
      | present _ htruthy => exact htruthy
      | mapping => exact absurd rfl (h _)
    · exact .present h
  split
  · next htruthy => exact judges_misuse.congr (by simp [hgrammar]) (by simp [hbreaks, htruthy])
  · next habsent => exact (judges_refuse _).congr (by simp [hgrammar]) (by simp [hbreaks, habsent])

/-- An entry under a key that is no connective. -/
theorem judges_ofPath {key : String} (hlookup : connectives.lookup key = none) (v : Value) :
    Judges (if key.startsWith "$" then refuse (.unknownLogical key) else ofField key v)
      (EntryInGrammar key v) (EntryBreaks key v) := by
  have hbreaks := not_entryBreaks hlookup v
  split
  · next hdollar =>
    have hgrammar := not_entryInGrammar hlookup hdollar v
    exact (judges_refuse _).congr (by simp [hgrammar]) (by simp [hbreaks])
  · next hpath =>
    refine (judges_ofField key v).congr ?_ (by simp [hbreaks])
    rw [entryInGrammar_path_iff (by simpa using hpath)]

mutual

theorem judges_ofShorthand (v : Value) : Judges (ofShorthand v) (InGrammar v) (Breaks v) := by
  cases v with
  | map entries =>
    cases entries with
    | nil =>
      refine (judges_refuse _).congr (by simp [inGrammar_map_iff]) ?_
      simp [breaks_map_iff, not_firstBad_nil]
    | cons e rest =>
      refine ((judges_ofEntries (e :: rest)).bind fun ps hps =>
        (judges_joined .and ps).congr (ne_nil_of_ofEntries hps) Iff.rfl).congr ?_ ?_
      · rw [inGrammar_map_iff, and_comm]
      · rw [breaks_map_iff]
        simp
  | _ =>
    rw [ofShorthand]
    · exact judges_present (by simp)
    all_goals simp

theorem judges_ofEntries (entries : List (String × Value)) :
    Judges (ofEntries entries) (∀ e ∈ entries, EntryInGrammar e.1 e.2)
      (FirstBad (fun e => EntryInGrammar e.1 e.2) (fun e => EntryBreaks e.1 e.2) entries) := by
  cases entries with
  | nil => exact (judges_ok []).congr (by simp) (by simp [not_firstBad_nil])
  | cons e rest =>
    refine ((judges_ofEntry e.1 e.2).both (judges_ofEntries rest) (· ++ ·)).congr ?_ ?_
    · rw [List.forall_mem_cons]
    · rw [firstBad_cons]

theorem judges_ofEntry (key : String) (v : Value) :
    Judges (ofEntry key v) (EntryInGrammar key v) (EntryBreaks key v) := by
  cases v with
  | seq kind items =>
    rw [ofEntry]
    cases hlookup : connectives.lookup key with
    | none => exact judges_ofPath hlookup _
    | some c =>
      have hgroup : Judges (do return [← joined c (← ofShorthands items)])
          ((∀ v ∈ items, InGrammar v) ∧ items ≠ []) (FirstBad InGrammar Breaks items) :=
        ((judges_ofShorthands items).bind fun ps hps =>
          ((judges_joined c ps).map ([·])).congr (ne_nil_of_ofShorthands hps) Iff.rfl).congr
            Iff.rfl (by simp)
      have hgood := entryInGrammar_group_iff hlookup kind items
      have hbad := entryBreaks_group_iff hlookup kind items
      cases kind with
      | list | tuple => exact hgroup.congr (by simp [hgood, and_comm]) (by simp [hbad])
      | set | frozenSet => exact (judges_refuse _).congr (by simp [hgood]) (by simp [hbad])
  | _ =>
    rw [ofEntry]
    · cases hlookup : connectives.lookup key with
      | none => exact judges_ofPath hlookup _
      | some c => exact judges_listExpected hlookup (by simp)
    all_goals simp

theorem judges_ofShorthands (vs : List Value) :
    Judges (ofShorthands vs) (∀ v ∈ vs, InGrammar v) (FirstBad InGrammar Breaks vs) := by
  cases vs with
  | nil => exact (judges_ok []).congr (by simp) (by simp [not_firstBad_nil])
  | cons v rest =>
    refine ((judges_ofShorthand v).both (judges_ofShorthands rest) List.cons).congr ?_ ?_
    · rw [List.forall_mem_cons]
    · rw [firstBad_cons]

end

/-- An empty mapping comes to no filter, one in the grammar to a filter, and all others are refused
unless they break. -/
theorem normalize_mapping (entries : List (String × Value)) :
    ((Input.value (.map entries)).normalize = .ok none ↔ entries = []) ∧
      ((∃ p, (Input.value (.map entries)).normalize = .ok (some p)) ↔ InGrammar (.map entries)) ∧
      ((Input.value (.map entries)).normalize = misuse ↔ Breaks (.map entries)) ∧
      ((∃ cause, (Input.value (.map entries)).normalize = refuse cause) ↔
        entries ≠ [] ∧ ¬ InGrammar (.map entries) ∧ ¬ Breaks (.map entries)) := by
  cases entries with
  | nil =>
    have hgrammar : ¬ InGrammar (.map []) := by simp [inGrammar_map_iff]
    have hbreaks : ¬ Breaks (.map []) := by simp [breaks_map_iff, not_firstBad_nil]
    simp [Input.normalize, hgrammar, hbreaks, misuse, refuse]
  | cons e rest =>
    have hjudges : Judges (Input.value (.map (e :: rest))).normalize (InGrammar (.map (e :: rest)))
        (Breaks (.map (e :: rest))) := (judges_ofShorthand (.map (e :: rest))).map some
    have hsome : ∀ p?, (Input.value (.map (e :: rest))).normalize = .ok p? → ∃ p, p? = some p := by
      intro p? hp
      obtain ⟨p, -, rfl⟩ := map_eq_ok_iff.mp hp
      exact ⟨p, rfl⟩
    have hnone : (Input.value (.map (e :: rest))).normalize ≠ .ok none := by
      intro h
      obtain ⟨p, hp⟩ := hsome none h
      cases hp
    refine ⟨by simp [hnone], ?_, hjudges.misuse_iff, ?_⟩
    · rw [← hjudges.ok_iff]
      constructor
      · rintro ⟨p, hp⟩
        exact ⟨some p, hp⟩
      · rintro ⟨p?, hp⟩
        obtain ⟨p, rfl⟩ := hsome p? hp
        exact ⟨p, hp⟩
    · rw [hjudges.refuse_iff]
      simp

/-- One disjunct. -/
def eitherOf (v : Value) : Value := .map [("$or", .list [v])]

/-- A number in place of a mapping is a misuse, a zero there is refused, and with a mapping there is
a filter. -/
theorem normalize_mapping_eitherOf :
    (Input.value (eitherOf (.int 5))).normalize = misuse ∧
      (∃ cause, (Input.value (eitherOf (.int 0))).normalize = refuse cause) ∧
      ∃ p, (Input.value (eitherOf (.map [("year", .int 5)]))).normalize = .ok (some p) := by
  have hor : connectives.lookup "$or" = some .or := rfl
  have hgrammar (v : Value) : InGrammar (eitherOf v) ↔ InGrammar v := by
    have hgroup := entryInGrammar_group_iff hor .list [v]
    simpa [eitherOf, Value.list, inGrammar_map_iff] using hgroup
  have hbreaks (v : Value) : Breaks (eitherOf v) ↔ Breaks v := by
    have hgroup := entryBreaks_group_iff hor .list [v]
    simpa [eitherOf, Value.list, breaks_map_iff, firstBad_cons, not_firstBad_nil] using hgroup
  have hzero : ¬ InGrammar (.int 0) ∧ ¬ Breaks (.int 0) := by
    constructor
    · intro h
      cases h
    · intro h
      cases h with
      | present _ htruthy => cases htruthy
  have hyear : InGrammar (.map [("year", .int 5)]) := by
    refine .mapping (List.cons_ne_nil _ _) (List.forall_mem_singleton.mpr ?_)
    refine .field (by decide +kernel) ⟨⟨"year", []⟩, rfl⟩ (.value ⟨?_, by simp⟩)
    exact Value.everywhere_of_scalar (by simp) (by simp) trivial
  refine ⟨?_, ?_, ?_⟩
  · exact (normalize_mapping _).2.2.1.mpr ((hbreaks _).mpr (.present (by simp) rfl))
  · refine (normalize_mapping _).2.2.2.mpr ⟨List.cons_ne_nil _ _, ?_, ?_⟩
    · exact fun h => hzero.1 ((hgrammar _).mp h)
    · exact fun h => hzero.2 ((hbreaks _).mp h)
  · exact (normalize_mapping _).2.1.mpr ((hgrammar _).mpr hyear)

end Retrieval.Predicate
