import Retrieval.Proofs.Clauses

/-!
The order of the steps. A part of the clause depends only on the steps that write it, and the rules
that a clause breaks it breaks after any further step too, so that it suffices to look at the last
clause. Main statement: two orders of the same steps that agree on the steps of each part, and in
both of which no search comes after a reranking or a spell check, succeed together and then lead to
the same clause.
-/

namespace Retrieval

namespace Clause

/-- The clause with one of its parts only. -/
def keep : Query.Part → Clause → Clause
  | .selection, c => { collection := c.collection, selection := c.selection }
  | .filter, c => { collection := c.collection, filter := c.filter }
  | .search, c => { collection := c.collection, search := c.search }
  | .rerank, c => { collection := c.collection, rerank := c.rerank }
  | .spellCheck, c => { collection := c.collection, spellCheck := c.spellCheck }
  | .groupBy, c => { collection := c.collection, groupBy := c.groupBy }
  | .sort, c => { collection := c.collection, sort := c.sort }
  | .limit, c => { collection := c.collection, limit := c.limit }
  | .offset, c => { collection := c.collection, offset := c.offset }
  | .generation, c => { collection := c.collection, generation := c.generation }
  | .aggregate, c => { collection := c.collection, aggregate := c.aggregate }

/-- A clause is made of its parts. -/
theorem eq_of_keep {c d : Clause} (h : ∀ part, c.keep part = d.keep part) : c = d := by
  have hselection := h .selection
  have hfilter := h .filter
  have hsearch := h .search
  have hrerank := h .rerank
  have hspellCheck := h .spellCheck
  have hgroupBy := h .groupBy
  have hsort := h .sort
  have hlimit := h .limit
  have hoffset := h .offset
  have hgeneration := h .generation
  have haggregate := h .aggregate
  cases c
  cases d
  simp_all [keep]

end Clause

namespace Query

/-- The parts that only one step may write. -/
def Part.isSingle : Part → Bool
  | .search | .generation | .aggregate => true
  | _ => false

/-- Two edits do not write a part that only one may write. -/
def Edit.Apart (d e : Edit) : Prop :=
  ∀ part, d.part? = some part → e.part? = some part → part.isSingle = false

/-- The names of the fields that an edit adds to those of the clause. -/
def Edit.roots : Edit → List String
  | .select paths => paths.map FieldPath.root
  | .restrict p => (Predicate.leavesIn p).map fun l => l.1.root
  | .groupBy g => [g.property]
  | .sort key => [key.path.root]
  | _ => []

/-- The clause after some edits. -/
def writeAll (es : List Edit) (c : Clause) : Clause := es.foldl (fun c e => e.write c) c

@[simp] theorem writeAll_nil (c : Clause) : writeAll [] c = c := rfl

@[simp] theorem writeAll_cons (e : Edit) (es : List Edit) (c : Clause) :
    writeAll (e :: es) c = writeAll es (e.write c) := rfl

theorem keep_write (part : Part) (e : Edit) (c : Clause) : (e.write c).keep part =
    if e.part? = some part then e.write (c.keep part) else c.keep part := by
  cases e <;> cases part <;> rfl

/-- A part of a clause depends only on the edits of the part. -/
theorem keep_writeAll (part : Part) (es : List Edit) (c : Clause) : (writeAll es c).keep part =
    writeAll (es.filter fun e => e.part? == some part) (c.keep part) := by
  induction es generalizing c with
  | nil => rfl
  | cons e es ih =>
    rw [writeAll_cons, ih, keep_write]
    by_cases h : e.part? = some part <;> simp [h]

/-- Edits that agree on each part lead to the same clause. -/
theorem writeAll_congr {es fs : List Edit} (c : Clause)
    (h : ∀ part, es.filter (fun e => e.part? == some part) =
      fs.filter fun e => e.part? == some part) :
    writeAll es c = writeAll fs c :=
  Clause.eq_of_keep fun part => by rw [keep_writeAll, keep_writeAll, h]

theorem isTaken_write_eq_false_iff (d e : Edit) (c : Clause) :
    d.isTaken (e.write c) = false ↔ d.isTaken c = false ∧ e.Apart d := by
  cases d <;> cases e <;> simp [Edit.isTaken, Edit.write, Edit.Apart, Edit.part?, Part.isSingle]

theorem foldl_withPath_eq_nil {paths selection : List FieldPath}
    (h : paths.foldl withPath selection = []) : selection = [] := by
  induction paths generalizing selection with
  | nil => exact h
  | cons p rest ih =>
    have hmore : withPath selection p = [] := ih h
    unfold withPath at hmore
    split at hmore
    · exact hmore
    · exact absurd hmore (by simp)

/-- An edit mends no broken rule, unless it is the search that was missing or a spell check. -/
theorem isConsistent_of_write {e : Edit} {c : Clause} (h : (e.write c).IsConsistent)
    (hsearch : e.part? = some .search → c.rerank = none ∧ c.spellCheck = false)
    (hspell : e.part? = some .spellCheck → c.spellCheck = false) : c.IsConsistent := by
  obtain ⟨hrerank, hspellCheck, hgroup, haggregate⟩ := h
  constructor
  · intro hpresent
    cases e with
    | search s => simp [(hsearch rfl).1] at hpresent
    | rerank r => exact hrerank rfl
    | _ => exact hrerank hpresent
  · intro hpresent
    cases e with
    | search s => simp [(hsearch rfl).2] at hpresent
    | spellCheck enabled => simp [hspell rfl] at hpresent
    | _ => exact hspellCheck hpresent
  · intro hpresent
    cases e with
    | rerank r => exact hgroup rfl
    | groupBy g => cases hgroup hpresent
    | _ => exact hgroup hpresent
  · intro hpresent
    cases e with
    | select paths =>
      obtain ⟨hgeneration, hrerank, hsort, hgroup, hoffset, hselection, hspellCheck⟩ :=
        haggregate hpresent
      exact ⟨hgeneration, hrerank, hsort, hgroup, hoffset, foldl_withPath_eq_nil hselection,
        hspellCheck⟩
    | spellCheck enabled =>
      obtain ⟨hgeneration, hrerank, hsort, hgroup, hoffset, hselection, -⟩ :=
        haggregate hpresent
      exact ⟨hgeneration, hrerank, hsort, hgroup, hoffset, hselection, hspell rfl⟩
    | aggregate a => exact haggregate rfl
    | _ =>
      simp_all [Edit.write]

theorem mem_foldl_withPath {paths selection : List FieldPath} {p : FieldPath} :
    p ∈ paths.foldl withPath selection ↔ p ∈ selection ∨ p ∈ paths := by
  induction paths generalizing selection with
  | nil => simp
  | cons first rest ih =>
    rw [List.foldl_cons, ih]
    by_cases hfirst : first ∈ selection
    · have hsame : withPath selection first = selection := by simp [withPath, hfirst]
      rw [hsame, List.mem_cons]
      constructor
      · rintro (hp | hp)
        · exact .inl hp
        · exact .inr (.inr hp)
      · rintro (hp | rfl | hp)
        · exact .inl hp
        · exact .inl hfirst
        · exact .inr hp
    · simp [withPath, hfirst, or_assoc]

theorem mem_fieldRoots_iff {c : Clause} {root : String} : root ∈ c.fieldRoots ↔
    (∃ p ∈ c.selection, p.root = root) ∨ (∃ l ∈ Predicate.leavesIn c.filter, l.1.root = root) ∨
      (∃ key ∈ c.sort, key.path.root = root) ∨ ∃ g, c.groupBy = some g ∧ g.property = root := by
  simp [Clause.fieldRoots]

/-- The names in a clause after an edit are names of before or of the edit. -/
theorem mem_fieldRoots_write {e : Edit} {c : Clause} {root : String}
    (h : root ∈ (e.write c).fieldRoots) : root ∈ c.fieldRoots ∨ root ∈ e.roots := by
  rw [mem_fieldRoots_iff] at h ⊢
  cases e with
  | select paths =>
    obtain ⟨p, hp, hroot⟩ | hrest := h
    · obtain hp | hp := mem_foldl_withPath.mp hp
      · exact .inl (.inl ⟨p, hp, hroot⟩)
      · exact .inr (List.mem_map.mpr ⟨p, hp, hroot⟩)
    · exact .inl (.inr hrest)
  | restrict p =>
    obtain hselection | ⟨l, hl, hroot⟩ | hrest := h
    · exact .inl (.inl hselection)
    · rw [Edit.write, Predicate.leavesIn_both, List.mem_append] at hl
      obtain hl | hl := hl
      · exact .inl (.inr (.inl ⟨l, hl, hroot⟩))
      · exact .inr (List.mem_map.mpr ⟨l, hl, hroot⟩)
    · exact .inl (.inr (.inr hrest))
  | groupBy g =>
    obtain hselection | hfilter | hsort | ⟨grouping, hgrouping, hroot⟩ := h
    · exact .inl (.inl hselection)
    · exact .inl (.inr (.inl hfilter))
    · exact .inl (.inr (.inr (.inl hsort)))
    · obtain rfl := Option.some.inj hgrouping
      exact .inr (List.mem_singleton.mpr hroot.symm)
  | sort key =>
    obtain hselection | hfilter | ⟨k, hk, hroot⟩ | hgroup := h
    · exact .inl (.inl hselection)
    · exact .inl (.inr (.inl hfilter))
    · obtain hk | hk := List.mem_append.mp hk
      · exact .inl (.inr (.inr (.inl ⟨k, hk, hroot⟩)))
      · rw [List.mem_singleton.mp hk] at hroot
        exact .inr (List.mem_singleton.mpr hroot.symm)
    · exact .inl (.inr (.inr (.inr hgroup)))
  | _ => exact .inl h

/-- All names of an edit are in the clause after it. -/
theorem mem_fieldRoots_of_mem_roots {e : Edit} {root : String} (h : root ∈ e.roots) (c : Clause) :
    root ∈ (e.write c).fieldRoots := by
  rw [mem_fieldRoots_iff]
  cases e with
  | select paths =>
    obtain ⟨p, hp, hroot⟩ := List.mem_map.mp h
    exact .inl ⟨p, mem_foldl_withPath.mpr (.inr hp), hroot⟩
  | restrict p =>
    obtain ⟨l, hl, hroot⟩ := List.mem_map.mp h
    refine .inr (.inl ⟨l, ?_, hroot⟩)
    rw [Edit.write, Predicate.leavesIn_both, List.mem_append]
    exact .inr hl
  | groupBy g => exact .inr (.inr (.inr ⟨g, rfl, (List.mem_singleton.mp h).symm⟩))
  | sort key =>
    exact .inr (.inr (.inl ⟨key, List.mem_append_right _ (List.mem_singleton.mpr rfl),
      (List.mem_singleton.mp h).symm⟩))
  | _ => cases h

/-- Edits come in order on top of a clause: a search comes neither after a reranking nor after a
spell check, and there is at most one spell check. -/
structure InOrder (es : List Edit) (c : Clause) : Prop where
  search : ∀ e ∈ es, e.part? = some .search → c.rerank = none ∧ c.spellCheck = false
  spellCheck : ∀ e ∈ es, e.part? = some .spellCheck → c.spellCheck = false
  searches : es.Pairwise fun d e => d.part? = some .rerank ∨ d.part? = some .spellCheck →
    e.part? ≠ some .search
  spellChecks : es.Pairwise fun d e => d.part? = some .spellCheck → e.part? ≠ some .spellCheck

theorem InOrder.tail {e : Edit} {es : List Edit} {c : Clause} (h : InOrder (e :: es) c) :
    InOrder es (e.write c) := by
  obtain ⟨hsearch, hspellCheck, hsearches, hspellChecks⟩ := h
  rw [List.pairwise_cons] at hsearches hspellChecks
  refine ⟨fun d hd hpart => ?_, fun d hd hpart => ?_, hsearches.2, hspellChecks.2⟩
  · obtain ⟨hrerank, hspell⟩ := hsearch d (List.mem_cons_of_mem _ hd) hpart
    have hafter := hsearches.1 d hd
    cases e with
    | rerank r => exact absurd hpart (hafter (.inl rfl))
    | spellCheck enabled => exact absurd hpart (hafter (.inr rfl))
    | _ => exact ⟨hrerank, hspell⟩
  · have hspell := hspellCheck d (List.mem_cons_of_mem _ hd) hpart
    have hafter := hspellChecks.1 d hd
    cases e with
    | spellCheck enabled => exact absurd hpart (hafter rfl)
    | _ => exact hspell

/-- If the clause after some edits in order is consistent, so is the one before. -/
theorem isConsistent_of_writeAll {es : List Edit} {c : Clause} (h : (writeAll es c).IsConsistent)
    (horder : InOrder es c) : c.IsConsistent := by
  induction es generalizing c with
  | nil => exact h
  | cons e es ih =>
    exact isConsistent_of_write (ih h horder.tail) (horder.search e (by simp))
      (horder.spellCheck e (by simp))

/-- Going from one query to another by edits, each of which is allowed. -/
def MakeAll : List Edit → Query → Query → Prop
  | [], q, q' => q' = q
  | e :: es, q, q' => ∃ next, e.Makes q next ∧ MakeAll es next q'

theorem clause_of_makeAll {es : List Edit} {q q' : Query} (h : MakeAll es q q') :
    q'.clause = writeAll es q.clause := by
  induction es generalizing q with
  | nil => exact congrArg clause h
  | cons e es ih =>
    obtain ⟨next, hmakes, hrest⟩ := h
    rw [ih hrest, hmakes.result]
    rfl

/-- Edits in order are all allowed exactly if no single part is written twice, the clause that they
lead to is consistent, and they name fields of the collection only. -/
theorem exists_makeAll_iff {es : List Edit} {q : Query}
    (hq : q.clause.problem? q.registry = none) (horder : InOrder es q.clause) :
    (∃ q', MakeAll es q q') ↔ (∀ e ∈ es, e.isTaken q.clause = false) ∧ es.Pairwise Edit.Apart ∧
      (writeAll es q.clause).IsConsistent ∧
      ∀ e ∈ es, ∀ root ∈ e.roots, Clause.MayName q.registry q.clause.collection root := by
  obtain ⟨hconsistent, hroots⟩ := (Clause.problem?_eq_none_iff _ _).mp hq
  induction es generalizing q with
  | nil => simpa [MakeAll] using hconsistent
  | cons e es ih =>
    have hcollection := e.collection_write q.clause
    constructor
    · rintro ⟨q', next, hmakes, hrest⟩
      obtain ⟨hfree, haccepted, rfl⟩ := hmakes
      obtain ⟨hafter, hnames⟩ := (Clause.problem?_eq_none_iff _ _).mp haccepted
      obtain ⟨hfrees, hapart, hlast, hothers⟩ :=
        (ih haccepted horder.tail hafter hnames).mp ⟨q', hrest⟩
      have hstill : ∀ d ∈ es, d.isTaken q.clause = false ∧ e.Apart d :=
        fun d hd => (isTaken_write_eq_false_iff d e _).mp (hfrees d hd)
      refine ⟨List.forall_mem_cons.mpr ⟨hfree, fun d hd => (hstill d hd).1⟩,
        List.pairwise_cons.mpr ⟨fun d hd => (hstill d hd).2, hapart⟩, hlast,
        List.forall_mem_cons.mpr ⟨fun root hroot => ?_, fun d hd root hroot => ?_⟩⟩
      · rw [← hcollection]
        exact hnames root (mem_fieldRoots_of_mem_roots hroot _)
      · rw [← hcollection]
        exact hothers d hd root hroot
    · rintro ⟨hfree, hapart, hlast, hnames⟩
      rw [List.forall_mem_cons] at hfree hnames
      rw [List.pairwise_cons] at hapart
      have hafter := isConsistent_of_writeAll (c := e.write q.clause) hlast horder.tail
      have hroots' : ∀ root ∈ (e.write q.clause).fieldRoots,
          Clause.MayName q.registry (e.write q.clause).collection root := by
        intro root hroot
        rw [hcollection]
        obtain hroot | hroot := mem_fieldRoots_write hroot
        · exact hroots root hroot
        · exact hnames.1 root hroot
      have haccepted := (Clause.problem?_eq_none_iff _ _).mpr ⟨hafter, hroots'⟩
      have hfrees : ∀ d ∈ es, d.isTaken (e.write q.clause) = false :=
        fun d hd => (isTaken_write_eq_false_iff d e _).mpr ⟨hfree.2 d hd, hapart.1 d hd⟩
      have hothers : ∀ d ∈ es, ∀ root ∈ d.roots,
          Clause.MayName q.registry (e.write q.clause).collection root := by
        rw [hcollection]
        exact hnames.2
      obtain ⟨q', hq'⟩ := (ih (q := { q with clause := e.write q.clause }) haccepted horder.tail
        hafter hroots').mpr ⟨hfrees, hapart.2, hlast, hothers⟩
      exact ⟨q', _, ⟨hfree.1, haccepted, rfl⟩, hq'⟩

theorem Edit.Apart.symm {d e : Edit} (h : d.Apart e) : e.Apart d :=
  fun part he hd => h part hd he

/-- Edits that are the same up to their order, and in the same order on each part, are allowed
together. -/
theorem exists_makeAll_congr {es fs : List Edit} {q : Query}
    (hq : q.clause.problem? q.registry = none) (hes : InOrder es q.clause)
    (hfs : InOrder fs q.clause) (hperm : es.Perm fs)
    (hparts : ∀ part, es.filter (fun e => e.part? == some part) =
      fs.filter fun e => e.part? == some part) :
    (∃ q', MakeAll es q q') ↔ ∃ q', MakeAll fs q q' := by
  have hmem (P : Edit → Prop) : (∀ e ∈ es, P e) ↔ ∀ e ∈ fs, P e :=
    forall_congr' fun e => by rw [hperm.mem_iff]
  rw [exists_makeAll_iff hq hes, exists_makeAll_iff hq hfs, writeAll_congr q.clause hparts, hmem,
    hperm.pairwise_iff Edit.Apart.symm, hmem fun e => ∀ root ∈ e.roots, _]

theorem exists_fresh {name : Value} {registry : Option Registry} {q : Query}
    (h : collection name registry = .ok q) : ∃ s, q.clause = { collection := s } := by
  obtain ⟨s, rfl⟩ := exists_eq_of_collection h
  exact ⟨s, rfl⟩

/-- Whether a step writes a part. -/
def Call.writes (part : Part) (c : Call) : Bool := c.part? == some part

/-- No search is added after a reranking or a spell check. -/
def SearchFirst (calls : List Call) : Prop :=
  calls.Pairwise fun c d => c.writes .rerank = true ∨ c.writes .spellCheck = true →
    d.writes .search = false

theorem run_cons_iff {q q' : Query} {c : Call} {cs : List Call} :
    q.run (c :: cs) = .ok (.query q') ↔
      ∃ next, q.call c = .ok (.query next) ∧ next.run cs = .ok (.query q') := by
  rw [run]
  cases hcall : q.call c with
  | error e => simp
  | ok answer =>
    cases answer with
    | query next => simp
    | complete c => cases cs <;> simp
    | request r => cases cs <;> simp

/-- A step that never answers a query stops every run. -/
theorem run_ne_query {calls : List Call} {c : Call} (hc : c ∈ calls)
    (hnever : ∀ q q' : Query, q.call c ≠ .ok (.query q')) (q q' : Query) :
    q.run calls ≠ .ok (.query q') := by
  intro hrun
  induction calls generalizing q with
  | nil => cases hc
  | cons d cs ih =>
    obtain ⟨next, hcall, hrest⟩ := run_cons_iff.mp hrun
    obtain rfl | hc := List.mem_cons.mp hc
    · exact hnever q next hcall
    · exact ih hc next hrest

/-- The edits that steps make, if each of them can succeed. -/
structure Performs (edit : Call → Edit) (calls : List Call) : Prop where
  part : ∀ c ∈ calls, (edit c).part? = c.part?
  makes : ∀ c ∈ calls, ∀ q : Query, q.clause.problem? q.registry = none →
    ∀ q', q.call c = .ok (.query q') ↔ (edit c).Makes q q'

theorem exists_performs {calls : List Call} (hstart : ∀ args, .method "collection" args ∉ calls) :
    (∃ c ∈ calls, ∀ q q' : Query, q.call c ≠ .ok (.query q')) ∨
      ∃ edit, Performs edit calls := by
  by_cases hnever : ∃ c ∈ calls, ∀ q q' : Query, q.call c ≠ .ok (.query q')
  · exact .inl hnever
  refine .inr ?_
  have heach : ∀ c, ∃ e : Edit, c ∈ calls → e.part? = c.part? ∧
      ∀ q : Query, q.clause.problem? q.registry = none →
        ∀ q', q.call c = .ok (.query q') ↔ e.Makes q q' := by
    intro c
    by_cases hc : c ∈ calls
    · obtain ⟨f, hf, hiff⟩ := exists_isEditing c fun args h => hstart args (h ▸ hc)
      obtain hfails | ⟨e, -, hpart, hmakes⟩ := hf.never_or_makes
      · exact absurd ⟨c, hc, fun q q' h => hfails q q' ((hiff q q').mp h)⟩ hnever
      · exact ⟨e, fun _ => ⟨hpart, fun q hq q' => (hiff q q').trans (hmakes q hq q')⟩⟩
    · exact ⟨.keep, fun h => absurd h hc⟩
  obtain ⟨edit, hedit⟩ := Classical.axiomOfChoice heach
  exact ⟨edit, fun c hc => (hedit c hc).1, fun c hc => (hedit c hc).2⟩

theorem run_eq_ok_iff {edit : Call → Edit} {calls : List Call} (h : Performs edit calls)
    {q q' : Query} (hq : q.clause.problem? q.registry = none) :
    q.run calls = .ok (.query q') ↔ MakeAll (calls.map edit) q q' := by
  induction calls generalizing q with
  | nil => simp [run, MakeAll, eq_comm]
  | cons c cs ih =>
    have hrest : Performs edit cs := ⟨fun d hd => h.part d (List.mem_cons_of_mem _ hd),
      fun d hd => h.makes d (List.mem_cons_of_mem _ hd)⟩
    rw [run_cons_iff, List.map_cons, MakeAll]
    refine exists_congr fun next => ?_
    rw [h.makes c (by simp) q hq next]
    refine and_congr_right fun hmakes => ih hrest ?_
    rw [hmakes.result]
    exact hmakes.accepted

theorem filter_map_edit {edit : Call → Edit} {calls : List Call} (h : Performs edit calls)
    (part : Part) : (calls.map edit).filter (fun e => e.part? == some part) =
      (calls.filter (·.writes part)).map edit := by
  rw [List.filter_map]
  congr 1
  refine List.filter_congr fun c hc => ?_
  simp [Call.writes, h.part c hc]

theorem pairwise_of_length_filter_le {α : Type} {p : α → Bool} {xs : List α}
    (h : (xs.filter p).length ≤ 1) : xs.Pairwise fun x y => p x = true → p y = false := by
  induction xs with
  | nil => exact .nil
  | cons x rest ih =>
    by_cases hx : p x = true
    · rw [List.filter_cons_of_pos hx, List.length_cons] at h
      have hnone : rest.filter p = [] := List.eq_nil_of_length_eq_zero (by omega)
      refine List.pairwise_cons.mpr ⟨fun y hy _ => ?_, ih (by simp [hnone])⟩
      simpa using List.filter_eq_nil_iff.mp hnone y hy
    · rw [List.filter_cons_of_neg hx] at h
      exact List.pairwise_cons.mpr ⟨fun y _ hpx => absurd hpx hx, ih h⟩

theorem inOrder_map {edit : Call → Edit} {calls : List Call} (h : Performs edit calls)
    (hsearch : SearchFirst calls) (hspell : (calls.filter (·.writes .spellCheck)).length ≤ 1)
    (name : String) : InOrder (calls.map edit) { collection := name } := by
  have hwrites : ∀ c ∈ calls, ∀ part, (edit c).part? = some part ↔ c.writes part = true := by
    intro c hc part
    simp [Call.writes, h.part c hc]
  refine ⟨fun e _ _ => ⟨rfl, rfl⟩, fun e _ _ => rfl, ?_, ?_⟩
  · rw [List.pairwise_map]
    refine hsearch.imp_of_mem fun hc hd himp => ?_
    rw [hwrites _ hc, hwrites _ hc, Ne, hwrites _ hd, Bool.not_eq_true]
    exact himp
  · rw [List.pairwise_map]
    refine (pairwise_of_length_filter_le hspell).imp_of_mem fun hc hd himp => ?_
    rw [hwrites _ hc, Ne, hwrites _ hd, Bool.not_eq_true]
    exact himp

/-- Two orders of the same steps on a collection succeed together, and then lead to the same clause
and the same body of a request, if they agree on the steps of each part, search before they rerank
or check the spelling, and check the spelling once at most. -/
theorem run_reordered {name : Value} {registry : Option Registry} {q : Query}
    (h : collection name registry = .ok q) {calls others : List Call} (hperm : calls.Perm others)
    (hparts : ∀ part, calls.filter (·.writes part) = others.filter (·.writes part))
    (hspell : (calls.filter (·.writes .spellCheck)).length ≤ 1)
    (hsearch : SearchFirst calls) (hsearch' : SearchFirst others)
    (hstart : ∀ args, .method "collection" args ∉ calls) :
    ((∃ r, q.run calls = .ok (.query r)) ↔ ∃ r, q.run others = .ok (.query r)) ∧
      ∀ r r', q.run calls = .ok (.query r) → q.run others = .ok (.query r') →
        r.clause = r'.clause ∧ r.compile.map Request.body = r'.compile.map Request.body := by
  have hq := (isSound_collection h).accepted
  obtain ⟨s, hs⟩ := exists_fresh h
  obtain ⟨c, hc, hnever⟩ | ⟨edit, hedit⟩ := exists_performs hstart
  · have hfails := run_ne_query hc hnever q
    have hfails' := run_ne_query (hperm.mem_iff.mp hc) hnever q
    exact ⟨⟨fun ⟨r, hr⟩ => absurd hr (hfails r), fun ⟨r, hr⟩ => absurd hr (hfails' r)⟩,
      fun r r' hr => absurd hr (hfails r)⟩
  have hedit' : Performs edit others :=
    ⟨fun c hc => hedit.part c (hperm.mem_iff.mpr hc),
      fun c hc => hedit.makes c (hperm.mem_iff.mpr hc)⟩
  have hedits : ∀ part, (calls.map edit).filter (fun e => e.part? == some part) =
      (others.map edit).filter fun e => e.part? == some part := by
    intro part
    rw [filter_map_edit hedit, filter_map_edit hedit', hparts]
  simp only [run_eq_ok_iff hedit hq, run_eq_ok_iff hedit' hq]
  refine ⟨?_, fun r r' hr hr' => ?_⟩
  · refine exists_makeAll_congr hq ?_ ?_ (hperm.map edit) hedits
    · rw [hs]
      exact inOrder_map hedit hsearch hspell s
    · rw [hs]
      exact inOrder_map hedit' hsearch' (hparts .spellCheck ▸ hspell) s
  · have hclause : r.clause = r'.clause := by
      rw [clause_of_makeAll hr, clause_of_makeAll hr', writeAll_congr q.clause hedits]
    refine ⟨hclause, ?_⟩
    simp only [compile, complete, hclause]

/-- A filter and a limit. -/
def restrictions : List Call :=
  [.restrict [.expression (.apply "Equal" [.text "name", .text "Ada"])],
    .method "limit" ⟨[.int 5], []⟩]

/-- A search whose hits are ordered again. -/
def rankedSearch : List Call :=
  [.method "about" ⟨[.text "poetry"], []⟩, .method "rerank" ⟨[.text "best", .text "name"], []⟩]

theorem run_reordered_restrictions : ∃ r r' : Query,
    run { clause := { collection := "Author" } } (restrictions ++ rankedSearch) = .ok (.query r) ∧
      run { clause := { collection := "Author" } } (rankedSearch ++ restrictions) =
        .ok (.query r') ∧
      r.clause = r'.clause ∧ r.compile.map Request.body = r'.compile.map Request.body := by
  have hsearch : SearchFirst (restrictions ++ rankedSearch) := by
    unfold SearchFirst
    decide
  have hsearch' : SearchFirst (rankedSearch ++ restrictions) := by
    unfold SearchFirst
    decide
  have hstart : collection (.text "Author") none = .ok { clause := { collection := "Author" } } :=
    rfl
  have hperm : (restrictions ++ rankedSearch).Perm (rankedSearch ++ restrictions) :=
    List.perm_append_comm
  have hboth := run_reordered hstart hperm
    (fun part => by cases part <;> rfl) (by decide) hsearch hsearch'
    (by simp [restrictions, rankedSearch])
  obtain ⟨r', hr'⟩ := hboth.1.mp ⟨_, rfl⟩
  exact ⟨_, r', rfl, hr', hboth.2 _ _ rfl hr'⟩

end Query

end Retrieval
