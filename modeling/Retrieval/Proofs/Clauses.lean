import Mathlib.Data.List.DropRight
import Retrieval.Proofs.Steps

/-!
What holds of the clause of every query, however it was put together. Every edit that is adopted
preserves it. Main statement: whatever steps a script tries on a collection, with whatever
arguments, the clause that they lead to is lawful.
-/

namespace Retrieval

namespace Text

theorem isBlank_of_dropWhile_eq_cons {cs rest : List Char} {c : Char}
    (h : cs.dropWhile isBlank = c :: rest) : isBlank c = false := by
  have hhead := List.head?_dropWhile_not isBlank cs
  rw [h] at hhead
  simpa using hhead

theorem trim_eq (cs : List Char) : trim cs = (cs.dropWhile isBlank).rdropWhile isBlank := rfl

theorem trim_trim (cs : List Char) : trim (trim cs) = trim cs := by
  -- a trimmed text starts as the text without its leading blanks does
  have hstart : (trim cs).dropWhile isBlank = trim cs := by
    cases h : trim cs with
    | nil => rfl
    | cons c rest =>
      obtain ⟨more, hmore⟩ := List.rdropWhile_prefix isBlank (cs.dropWhile isBlank)
      rw [← trim_eq, h] at hmore
      simp [isBlank_of_dropWhile_eq_cons hmore.symm]
  rw [trim_eq, hstart, trim_eq, List.rdropWhile_idempotent]

theorem trim_eq_nil_iff (cs : List Char) : trim cs = [] ↔ ∀ c ∈ cs, isBlank c = true := by
  rw [trim_eq, List.rdropWhile_eq_nil_iff]
  constructor
  · intro h
    rw [← List.dropWhile_eq_nil_iff]
    cases hdrop : cs.dropWhile isBlank with
    | nil => rfl
    | cons c rest =>
      have hc := h c (by simp [hdrop])
      rw [isBlank_of_dropWhile_eq_cons hdrop] at hc
      cases hc
  · intro h
    simp [List.dropWhile_eq_nil_iff.mpr h]

theorem stripped_stripped (s : String) : stripped (stripped s) = stripped s := by
  simp [stripped, trim_trim]

theorem stripped_ne_empty {s : String} (h : isAllBlank s = false) : stripped s ≠ "" := by
  intro hempty
  have hnil : trim s.toList = [] := by simpa [stripped] using hempty
  have hblank : isAllBlank s = true := by
    rw [isAllBlank, List.all_eq_true]
    exact (trim_eq_nil_iff s.toList).mp hnil
  rw [hblank] at h
  cases h

end Text

/-- The rules on the combination of parts and on each part by itself. -/
structure Clause.IsLawful (c : Clause) : Prop extends c.IsConsistent where
  collection_ne : c.collection ≠ ""
  collection_stripped : Text.stripped c.collection = c.collection
  selection_nodup : c.selection.Nodup
  selection_plain : ∀ p ∈ c.selection, p.IsPlain
  filter_lawful : ∀ p, c.filter = some p → p.IsLawful
  sort_plain : ∀ key ∈ c.sort, key.path.IsPlain ∧ key.path.hasIndex = false

/-- The numbers of a clause are within their bounds. -/
structure Clause.IsBounded (c : Clause) : Prop where
  search : ∀ s, c.search = some s → s.IsBounded
  generation : ∀ g, c.generation = some g → g.IsBounded

namespace Query

/-- The clause is lawful with its numbers within their bounds, and its fields are those of the
collection. -/
structure IsSound (q : Query) : Prop where
  lawful : q.clause.IsLawful
  bounded : q.clause.IsBounded
  accepted : q.clause.problem? q.registry = none

/-- Paths stay distinct and keep what holds of each when one is added. -/
theorem foldl_withPath (P : FieldPath → Prop) (paths selection : List FieldPath)
    (hnodup : selection.Nodup) (hselection : ∀ p ∈ selection, P p) (hpaths : ∀ p ∈ paths, P p) :
    (paths.foldl withPath selection).Nodup ∧ ∀ p ∈ paths.foldl withPath selection, P p := by
  induction paths generalizing selection with
  | nil => exact ⟨hnodup, hselection⟩
  | cons p rest ih =>
    rw [List.foldl_cons]
    have hrest : ∀ p ∈ rest, P p := fun x hx => hpaths x (List.mem_cons_of_mem _ hx)
    by_cases hp : p ∈ selection
    · have hsame : withPath selection p = selection := by simp [withPath, hp]
      rw [hsame]
      exact ih selection hnodup hselection hrest
    · have hmore : withPath selection p = selection ++ [p] := by simp [withPath, hp]
      rw [hmore]
      refine ih _ ?_ ?_ hrest
      · rw [List.nodup_append]
        exact ⟨hnodup, by simp, by rintro a ha b hb rfl; simp_all⟩
      · intro x hx
        obtain hx | hx := List.mem_append.mp hx
        · exact hselection x hx
        · rw [List.mem_singleton.mp hx]
          exact hpaths p (by simp)

/-- An edit that is adopted leads from a sound query to a sound one. -/
theorem IsSound.of_makes {q q' : Query} {e : Edit} (h : q.IsSound) (he : e.IsLawful)
    (hmakes : e.Makes q q') : q'.IsSound := by
  have hconsistent := ((Clause.problem?_eq_none_iff _ _).mp hmakes.accepted).1
  have hfilter : ∀ p, (e.write q.clause).filter = some p → p.IsLawful := by
    cases e with
    | restrict p => exact Predicate.isLawful_both h.lawful.filter_lawful he
    | _ => exact h.lawful.filter_lawful
  have hselection : (e.write q.clause).selection.Nodup ∧
      ∀ p ∈ (e.write q.clause).selection, p.IsPlain := by
    cases e with
    | select paths =>
      exact foldl_withPath _ paths _ h.lawful.selection_nodup h.lawful.selection_plain he
    | _ => exact ⟨h.lawful.selection_nodup, h.lawful.selection_plain⟩
  have hsort : ∀ key ∈ (e.write q.clause).sort, key.path.IsPlain ∧ key.path.hasIndex = false := by
    cases e with
    | sort key =>
      intro k hk
      obtain hk | hk := List.mem_append.mp hk
      · exact h.lawful.sort_plain k hk
      · rw [List.mem_singleton.mp hk]
        exact he
    | _ => exact h.lawful.sort_plain
  have hbounded : (e.write q.clause).IsBounded := by
    cases e with
    | search s => exact ⟨fun _ hs => Option.some.inj hs ▸ he, h.bounded.generation⟩
    | generation g => exact ⟨h.bounded.search, fun _ hg => Option.some.inj hg ▸ he⟩
    | _ => exact ⟨h.bounded.search, h.bounded.generation⟩
  have hcollection := e.collection_write q.clause
  rw [hmakes.result]
  exact ⟨{ hconsistent with
    collection_ne := hcollection ▸ h.lawful.collection_ne
    collection_stripped := hcollection ▸ h.lawful.collection_stripped
    selection_nodup := hselection.1
    selection_plain := hselection.2
    filter_lawful := hfilter
    sort_plain := hsort }, hbounded, hmakes.accepted⟩

/-- A query starts with nothing but its collection. -/
theorem exists_eq_of_collection {name : Value} {registry : Option Registry} {q : Query}
    (h : collection name registry = .ok q) :
    ∃ s, q = { clause := { collection := s }, registry } := by
  unfold collection at h
  split at h
  · cases h
  · split at h
    · cases h
    · obtain rfl := Except.ok.inj h
      exact ⟨_, rfl⟩

/-- A query is sound from the start. -/
theorem isSound_collection {name : Value} {registry : Option Registry} {q : Query}
    (h : collection name registry = .ok q) : q.IsSound := by
  unfold collection at h
  cases htext : name.text? with
  | none =>
    rw [htext] at h
    cases h
  | some s =>
    simp only [htext] at h
    cases hblank : Text.isAllBlank s with
    | true =>
      rw [if_pos hblank] at h
      cases h
    | false =>
      rw [if_neg (by simp [hblank])] at h
      obtain rfl := Except.ok.inj h
      have hconsistent : Clause.IsConsistent { collection := Text.stripped s } := by
        constructor <;> simp
      refine ⟨{ hconsistent with
        collection_ne := Text.stripped_ne_empty hblank
        collection_stripped := Text.stripped_stripped s
        selection_nodup := List.nodup_nil
        selection_plain := by simp
        filter_lawful := by simp
        sort_plain := by simp }, ⟨by simp, by simp⟩, ?_⟩
      rw [Clause.problem?_eq_none_iff]
      exact ⟨hconsistent, by simp [Clause.fieldRoots, Predicate.leavesIn]⟩

/-- The step `collection` starts a query anew. -/
theorem exists_collection_of_call {q q' : Query} {args : Arguments}
    (h : q.call (.method "collection" args) = .ok (.query q')) :
    ∃ name, collection name none = .ok q' := by
  have happlied : q.applyNamed "collection" args = .ok q' := answered_iff.mp h
  unfold applyNamed at happlied
  simp only [show ("collection" = "select") = False by decide, if_false] at happlied
  split at happlied
  · cases happlied
  next signature hsignature =>
  obtain rfl := Option.some.inj hsignature
  split at happlied
  · cases happlied
  next values options hbind =>
  match values, length_of_bind hbind with
  | [name, registry, executor], _ =>
    cases registry with
    | null =>
      cases executor with
      | null => exact ⟨name, happlied⟩
      | _ => cases happlied
    | _ => cases happlied

/-- A step that goes on from a sound query makes a lawful edit. -/
theorem IsSound.exists_makes {part? : Option Part} {f : Query → Build Query} {q q' : Query}
    (h : q.IsSound) (hf : IsEditing part? f) (hnext : f q = .ok q') :
    ∃ e : Edit, e.IsLawful ∧ e.part? = part? ∧ e.Makes q q' := by
  obtain hnever | ⟨e, he, hpart, hmakes⟩ := hf.never_or_makes
  · exact absurd hnext (hnever q q')
  · exact ⟨e, he, hpart, (hmakes q h.accepted q').mp hnext⟩

/-- A step that answers a query starts anew, or it makes a lawful edit of its part. -/
theorem IsSound.call_cases {q q' : Query} {c : Call} (h : q.IsSound)
    (hcall : q.call c = .ok (.query q')) :
    (∃ name, collection name none = .ok q') ∨
      ∃ e : Edit, e.IsLawful ∧ e.part? = c.part? ∧ e.Makes q q' := by
  by_cases hstart : ∃ args, c = .method "collection" args
  · obtain ⟨args, rfl⟩ := hstart
    exact .inl (exists_collection_of_call hcall)
  · have hother : ∀ args, c ≠ .method "collection" args := fun args hc => hstart ⟨args, hc⟩
    obtain ⟨f, hf, hiff⟩ := exists_isEditing c hother
    exact .inr (h.exists_makes hf ((hiff q q').mp hcall))

/-- One step leads from a sound query to a sound query, if it leads to one at all. -/
theorem IsSound.call {q q' : Query} {c : Call} (h : q.IsSound)
    (hcall : q.call c = .ok (.query q')) : q'.IsSound := by
  obtain ⟨name, hname⟩ | ⟨e, he, -, hmakes⟩ := h.call_cases hcall
  · exact isSound_collection hname
  · exact h.of_makes he hmakes

/-- The query after a script has tried some steps: one that answers no query leaves it as it was. -/
def after (q : Query) : List Call → Query
  | [] => q
  | c :: cs =>
    match q.call c with
    | .ok (.query next) => next.after cs
    | _ => q.after cs

/-- What every step keeps that answers a query holds after a script. -/
theorem after_of_call {P : Query → Prop} {calls : List Call}
    (hstep : ∀ c ∈ calls, ∀ q q' : Query, P q → q.call c = .ok (.query q') → P q') {q : Query}
    (hq : P q) : P (q.after calls) := by
  induction calls generalizing q with
  | nil => exact hq
  | cons c cs ih =>
    obtain ⟨hc, hcs⟩ := List.forall_mem_cons.mp hstep
    rw [Query.after]
    split
    · next next hcall => exact ih hcs (hc q next hq hcall)
    · exact ih hcs hq

theorem IsSound.after {q : Query} (h : q.IsSound) (calls : List Call) :
    (q.after calls).IsSound :=
  after_of_call (fun _ _ _ _ hq => hq.call) h

/-- A number of records is a whole number that is not negative; any other value is refused. -/
theorem count_eq_ok_iff {name : String} {v : Value} {n : Nat} :
    count name v = .ok n ↔ v = .int n := by
  cases v with
  | int m =>
    rw [count]
    split
    · next hneg =>
      refine ⟨nofun, fun h => ?_⟩
      have hm : m = n := Value.int.inj h
      omega
    · next hpos =>
      simp only [Except.ok.injEq, Value.int.injEq]
      omega
  | _ => exact ⟨nofun, nofun⟩

/-- A step that writes a part of the clause as it is given, and takes whole numbers only that are
not negative. -/
structure TakesCounts (step : Value → Build Query) (part : Clause → Option Nat) : Prop where
  written : ∀ v q', step v = .ok q' → ∃ n : Nat, v = .int n ∧ part q'.clause = some n
  refused : ∀ v, (∀ n : Nat, v ≠ .int n) → ∃ e, step v = .error e

theorem takesCounts_of_adopt {q : Query} {name : String} {step : Value → Build Query}
    {write : Nat → Clause} {part : Clause → Option Nat}
    (hstep : ∀ v, step v = count name v >>= fun n => q.adopt (write n))
    (hpart : ∀ n, part (write n) = some n) : TakesCounts step part where
  written v q' h := by
    rw [hstep] at h
    obtain ⟨n, hn, hadopt⟩ := bind_eq_ok_iff.mp h
    obtain rfl := (adopt_eq_ok_iff.mp hadopt).2
    exact ⟨n, count_eq_ok_iff.mp hn, hpart n⟩
  refused v h := by
    rw [hstep]
    cases hcount : count name v with
    | error e => exact ⟨e, rfl⟩
    | ok n => exact absurd (count_eq_ok_iff.mp hcount) (h n)

/-- Whatever steps are tried on a collection, with whatever arguments, the clause is lawful; and how
many records it asks for, and from where on, is only ever a whole number that is not negative. -/
theorem lawful_after {name : Value} {registry : Option Registry} {q : Query}
    (h : collection name registry = .ok q) (calls : List Call) :
    (q.after calls).clause.IsLawful ∧
      TakesCounts (q.after calls).limit (·.limit) ∧
      TakesCounts (q.after calls).offset (·.offset) :=
  ⟨((isSound_collection h).after calls).lawful,
    takesCounts_of_adopt (fun _ => rfl) fun _ => rfl,
    takesCounts_of_adopt (fun _ => rfl) fun _ => rfl⟩

/-- A search whose hits are ordered again, a grouping that is refused, and a filter. -/
def refusedGrouping : List Call :=
  [.method "about" ⟨[.text "poetry"], []⟩, .method "rerank" ⟨[.text "best", .text "name"], []⟩,
    .method "group_by" ⟨[.text "name", .int 3], []⟩,
    .restrict [.expression (.join .and [.apply "GreaterThan" [.text "born", .int 1800],
      .apply "Like" [.text "name", .text "A*"]])]]

theorem lawful_after_refusedGrouping : ∃ q, collection (.text " Author ") none = .ok q ∧
    (q.after refusedGrouping).clause.IsLawful ∧
    (q.after refusedGrouping).clause.rerank.isSome ∧
    (q.after refusedGrouping).clause.groupBy = none ∧
    (Predicate.leavesIn (q.after refusedGrouping).clause.filter).length = 2 ∧
    ∃ e, (q.after refusedGrouping).limit (.bool true) = .error e := by
  have hstart : collection (.text " Author ") none = .ok { clause := { collection := "Author" } } :=
    rfl
  obtain ⟨hlawful, hlimit, -⟩ := lawful_after hstart refusedGrouping
  exact ⟨_, hstart, hlawful, rfl, rfl, rfl, hlimit.refused (.bool true) fun n => nofun⟩

end Query

end Retrieval
