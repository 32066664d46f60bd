import Retrieval.Proofs.Combination
import Retrieval.Proofs.Reports

/-!
Which members of a combined request the errors of its answer go to. Main statement: an error that
names a key goes to the member with that key and to no other one, and an error that names no key
goes to every member. An error that names a key which no member has goes to none.
-/

namespace Retrieval

namespace Envelope

open Schema
open Compilation

variable {m n : Member} {es : Entries Value}

/-- A name or a position as a step of a path. -/
def step? : Value → Option ErrorStep
  | .text s => some (.name s)
  | .int n => some (.index n)
  | _ => none

/-- The path that a reported error gives. -/
def pathOf (es : Entries Value) : List Value := itemsIn (Entries.get? "path" es)

/-- What an error says about its code. -/
def codeOf (es : Entries Value) : Value := field "code" (inside "extensions" es)

/-- A text, or a mapping with a text as its message. If it has a path, then that is a list of names
and positions, and if it has a code, then that is a text. -/
def IsWellFormed : Value → Prop
  | .text _ => True
  | .map es => (∃ s, Entries.get? "message" es = some (.text s)) ∧
      IsItems (Entries.get? "path" es) ∧ (∀ step ∈ pathOf es, (step? step).isSome = true) ∧
      IsFields (Entries.get? "extensions" es) ∧ (codeOf es = .null ∨ ∃ s, codeOf es = .text s)
  | _ => False

/-- The second step of a reported error's path, if there is one. -/
def secondStep : Value → Option Value
  | .map es => (pathOf es)[1]?
  | _ => none

/-- A reported error goes to a member unless its path names another key. -/
def concerns (m : Member) (v : Value) : Bool :=
  (secondStep v).all fun step => step.text? == some m.resultKey

/-- A reported error, as a result gives it. -/
def described : Value → ReportedError
  | .map es => ⟨((Entries.get? "message" es).bind Value.text?).getD "",
      (pathOf es).filterMap step?, (codeOf es).text?⟩
  | v => ⟨(v.text?).getD "", [], none⟩

theorem items_readStep_of_isSome {path : List Value}
    (h : ∀ step ∈ path, (step? step).isSome = true) :
    items readStep path = .valid (path.filterMap step?) := by
  rw [items_eq_valid_iff]
  induction path with
  | nil => rfl
  | cons v rest ih =>
    obtain ⟨hv, hrest⟩ := List.forall_mem_cons.mp h
    cases v with
    | text s => exact congrArg (_ :: ·) (ih hrest)
    | int n => exact congrArg (_ :: ·) (ih hrest)
    | _ => simp [step?] at hv

theorem isForeign_pathOf (es : Entries Value) :
    isForeign m true (pathOf es) = !concerns m (.map es) := by
  have hsecond : secondStep (.map es) = (pathOf es)[1]? := rfl
  rw [concerns, hsecond]
  match pathOf es with
  | [] => rfl
  | [_] => rfl
  | _ :: key :: _ => rfl

/-- A well-formed error is read as it is by the members that it goes to, and skipped by others. -/
theorem readError_of_isWellFormed {v : Value} (h : IsWellFormed v) :
    readError m true v = .ok (if concerns m v then some (described v) else none) := by
  cases v with
  | text s => rfl
  | map es =>
    obtain ⟨⟨s, hs⟩, hpath, hsteps, hextensions, hcode⟩ := h
    have hmessage : messageOf es = ((Entries.get? "message" es).bind Value.text?).getD "" := by
      rw [messageOf, hs]
      rfl
    have hread : optional text (codeOf es) = .valid (codeOf es).text? := by
      obtain hcode | ⟨s, hcode⟩ := hcode <;> rw [hcode] <;> rfl
    refine readError_map_eq_ok_iff.mpr ⟨pathOf es, elements_of_isItems hpath, ?_⟩
    rw [isForeign_pathOf]
    cases concerns m (.map es) with
    | false => exact .inl ⟨rfl, rfl⟩
    | true =>
      refine .inr ⟨rfl, _, _, _, blockAt_of_isFields hextensions, items_readStep_of_isSome hsteps,
        hread, ?_⟩
      rw [hmessage]
      rfl
  | _ => exact h.elim

theorem readErrors_of_isWellFormed {vs : List Value} (h : ∀ v ∈ vs, IsWellFormed v) :
    readErrors m true vs = .ok ((vs.filter (concerns m)).map described) := by
  induction vs with
  | nil => rfl
  | cons v rest ih =>
    obtain ⟨hv, hrest⟩ := List.forall_mem_cons.mp h
    rw [readErrors, readError_of_isWellFormed hv, ih hrest, List.filter_cons]
    cases concerns m v <;> rfl

theorem secondStep_cases {v key : Value} (h : IsWellFormed v) (hkey : secondStep v = some key) :
    (∃ s, key = .text s) ∨ ∃ i, key = .int i := by
  cases v with
  | map es =>
    have hstep := h.2.2.1 key (List.mem_of_getElem? hkey)
    cases key with
    | text s => exact .inl ⟨s, rfl⟩
    | int i => exact .inr ⟨i, rfl⟩
    | _ => cases hstep
  | _ => cases hkey

/-- Members of a combined request have different keys. -/
theorem eq_of_resultKey_eq {clauses : List Clause} (hm : m ∈ clauses.mapIdx (memberIn .multiplexed))
    (hn : n ∈ clauses.mapIdx (memberIn .multiplexed)) (h : m.resultKey = n.resultKey) : m = n := by
  obtain ⟨i, hi, rfl⟩ := List.mem_mapIdx.mp hm
  obtain ⟨j, hj, rfl⟩ := List.mem_mapIdx.mp hn
  obtain rfl : i = j := slotAlias_injective (by
    simpa only [memberIn, memberOf_resultKey, Compilation.aliasIn, Option.getD_some] using h)
  rfl

/-- The errors in a member's result are those that go to it, in the order in which they were
reported, and then those for its dropped items. -/
theorem errors_of_normalize {reports : List Value} {r : QueryResult}
    (hreports : Entries.get? "errors" es = some (.list reports))
    (hwell : ∀ v ∈ reports, IsWellFormed v)
    (hread : (normalize m true (.map es)).outcome = .ok r) :
    ∃ notes, r.errors = (reports.filter (concerns m)).map described ++ notes ∧
      ∀ e ∈ notes, ∃ i, e.path = itemPath m i := by
  obtain ⟨found, errors, items, bare, hfound, herrors, -, rfl⟩ := exists_hasBody hread
  obtain rfl : reports = found :=
    Except.ok.inj ((elementsAt_of_get? hreports).symm.trans hfound)
  obtain rfl := Except.ok.inj ((readErrors_of_isWellFormed hwell).symm.trans herrors)
  refine ⟨_, by rw [QueryResult.errors_withErrors, droppedErrors_strays], ?_⟩
  intro e he
  obtain ⟨i, -, rfl⟩ := List.mem_map.mp he
  exact ⟨i, rfl⟩

/-- The errors of an answer to a combined request are handed to its members by the keys that their
paths name. -/
theorem errors_attributed {clauses : List Clause} {plan : BatchPlan} {request : Request}
    {reports : List Value} (hplan : compileBatch clauses .multiplexed = .ok plan)
    (hrequest : request ∈ plan.requests)
    (hreports : Entries.get? "errors" es = some (.list reports))
    (hwell : ∀ v ∈ reports, IsWellFormed v) :
    (∀ m ∈ request.members, ∀ r,
      (normalize m request.multiplexed (.map es)).outcome = .ok r →
        ∃ notes, r.errors = (reports.filter (concerns m)).map described ++ notes ∧
          ∀ e ∈ notes, ∃ i, e.path = itemPath m i) ∧
    ∀ v ∈ reports,
      (secondStep v = none → ∀ m ∈ request.members, concerns m v = true) ∧
      (∀ m ∈ request.members, secondStep v = some (.text m.resultKey) →
        ∀ n ∈ request.members, concerns n v = true ↔ n = m) ∧
      ∀ key, secondStep v = some key → (∀ m ∈ request.members, key ≠ .text m.resultKey) →
        ∀ m ∈ request.members, concerns m v = false := by
  obtain ⟨hmembers, hmode⟩ := members_of_compileBatch hplan hrequest
  refine ⟨fun m _ r hread => errors_of_normalize hreports hwell (hmode ▸ hread), fun v hv =>
    ⟨fun hnone m _ => ?_, fun m hm hkey n hn => ?_, fun key hkey hother m hm => ?_⟩⟩
  · rw [concerns, hnone]
    rfl
  · rw [concerns, hkey]
    constructor
    · intro hconcerns
      have hsame : m.resultKey = n.resultKey := by simpa [Value.text?] using hconcerns
      exact eq_of_resultKey_eq (hmembers ▸ hn) (hmembers ▸ hm) hsame.symm
    · rintro rfl
      simp [Value.text?]
  · obtain ⟨s, rfl⟩ | ⟨i, rfl⟩ := secondStep_cases (hwell v hv) hkey
    · have hne : s ≠ m.resultKey := fun heq => hother m hm (congrArg Value.text heq)
      simpa [concerns, hkey, Value.text?] using hne
    · rw [concerns, hkey]
      rfl

/-- An error that names a key. -/
def namedReport (key : String) : Value :=
  .map [("message", .text "lost"), ("path", .list [.text "Get", .text key])]

/-- An answer to two members, with a text and two errors that name keys. -/
def mixedAnswer : Entries Value :=
  [("data", .map [("Get", .map [("q0", .list []), ("q1", .list [])])]),
    ("errors", .list [.text "slow", namedReport "q1", namedReport "q7"])]

theorem isWellFormed_namedReport (key : String) : IsWellFormed (namedReport key) :=
  ⟨⟨_, rfl⟩, .inr (.inr ⟨_, rfl⟩), by simp [pathOf, itemsIn, Entries.get?, step?, Value.list],
    .inl rfl, .inl rfl⟩

/-- The text goes to both members, the error of the second key to the second member, and the error
of a key that no member has goes to none. -/
theorem errors_attributed_mixed : ∃ plan request m n r s,
    compileBatch [{ collection := "Author" }, { collection := "Book" }] .multiplexed = .ok plan ∧
      plan.requests = [request] ∧ request.members = [m, n] ∧
      (normalize m true (.map mixedAnswer)).outcome = .ok r ∧
      (normalize n true (.map mixedAnswer)).outcome = .ok s ∧
      (∃ notes, r.errors = described (.text "slow") :: notes) ∧
      (∃ notes, s.errors = described (.text "slow") :: described (namedReport "q1") :: notes) ∧
      concerns m (namedReport "q7") = false ∧ concerns n (namedReport "q7") = false := by
  have hcompiled : ∃ plan request m n r s,
      compileBatch [{ collection := "Author" }, { collection := "Book" }] .multiplexed =
        .ok plan ∧ plan.requests = [request] ∧ request.members = [m, n] ∧
      request.multiplexed = true ∧ m.resultKey = "q0" ∧ n.resultKey = "q1" ∧
      (normalize m true (.map mixedAnswer)).outcome = .ok r ∧
      (normalize n true (.map mixedAnswer)).outcome = .ok s :=
    ⟨_, _, _, _, _, _, rfl, rfl, rfl, rfl, rfl, rfl, rfl, rfl⟩
  obtain ⟨plan, request, m, n, r, s, hplan, hrequest, hmembers, hmode, hm, hn, hr, hs⟩ :=
    hcompiled
  have hwell : ∀ v ∈ [.text "slow", namedReport "q1", namedReport "q7"], IsWellFormed v := by
    refine List.forall_mem_cons.mpr ⟨trivial, ?_⟩
    simp [isWellFormed_namedReport]
  have hmember : request ∈ plan.requests := hrequest ▸ List.mem_singleton_self request
  have hreports : Entries.get? "errors" mixedAnswer =
      some (.list [.text "slow", namedReport "q1", namedReport "q7"]) := rfl
  obtain ⟨hresults, hgoes⟩ := errors_attributed hplan hmember hreports hwell
  rw [hmembers, hmode] at hresults
  rw [hmembers] at hgoes
  have hslow := (hgoes (.text "slow") (by simp)).1 rfl
  have hlost := (hgoes (namedReport "q1") (by simp)).2.1 n (by simp) (by rw [hn]; rfl)
  have hgone := (hgoes (namedReport "q7") (by simp)).2.2 (.text "q7") rfl (by simp [hm, hn])
  have hne : m ≠ n := fun heq => absurd (hm.symm.trans ((congrArg _ heq).trans hn)) (by decide)
  simp only [List.forall_mem_cons, List.not_mem_nil, false_implies, implies_true, and_true,
    iff_true, hne, iff_false, Bool.not_eq_true] at hslow hlost hgone hresults
  obtain ⟨hfirst, hsecond⟩ := hresults
  obtain ⟨notes, hnotes, -⟩ := hfirst r hr
  obtain ⟨others, hothers, -⟩ := hsecond s hs
  simp only [List.filter_cons, hslow, hlost, hgone] at hnotes hothers
  exact ⟨plan, request, m, n, r, s, hplan, hrequest, hmembers, hr, hs, ⟨notes, hnotes⟩,
    ⟨others, hothers⟩, hgone⟩

end Envelope

end Retrieval
