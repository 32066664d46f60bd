import Retrieval.Proofs.Members

/-!
One document for several clauses, against one document for each. The clauses are listed by their
order in a batch, and by their operation in its document. Main statement: clauses compile into one
document exactly if each of them compiles by itself; then each has its own member, under the alias of
its position, and each section lists the root fields of the single documents under these aliases.
-/

namespace Retrieval.Compilation

theorem map_mapIdx {α β γ : Type} (f : Nat → α → β) (g : β → γ) (xs : List α) :
    (xs.mapIdx f).map g = xs.mapIdx fun i x => g (f i x) := by
  simp [List.mapIdx_eq_zipIdx_map]

/-- What a clause compiles to by itself: its member, and the text of its root field. -/
structure Single where
  member : Member
  root : String

/-- A document with one root field, in the section of its operation. -/
def Single.request (s : Single) : Request :=
  ⟨braced (s.member.operation.name ++ " " ++ braced s.root), [s.member], false⟩

/-- The member at a position of a batch: its result stands under the alias of the position. -/
def aliasedMember (i : Nat) (s : Single) : Member := { s.member with resultKey := slotAlias i }

/-- The root field at a position of a batch. -/
def aliasedRoot (i : Nat) (s : Single) : String := slotAlias i ++ ": " ++ s.root

/-- The root fields of one operation, under their aliases and in the order of the batch. -/
def rootsOf (operation : Operation) (singles : List Single) : List String :=
  ((singles.mapIdx fun i s => (s.member.operation, aliasedRoot i s)).filter
    (·.1 = operation)).map (·.2)

/-- The section of one operation, if some clause has it. -/
def sharedSection? (singles : List Single) (operation : Operation) : Option String :=
  if singles.any (·.member.operation = operation) then
    some (operation.name ++ " " ++ braced (" ".intercalate (rootsOf operation singles)))
  else none

/-- The document of several clauses: what gets records stands before what aggregates them. -/
def sharedDocument (singles : List Single) : String :=
  braced (" ".intercalate ([.get, .aggregate].filterMap (sharedSection? singles)))

/-- A clause by itself, given the text of its body. -/
def singleOf (c : Clause) (body : String) : Single :=
  ⟨memberOf c c.collection, headText c none ++ body⟩

theorem request_singleOf (c : Clause) (body : String) :
    (singleOf c body).request = requestOf c body := by
  rw [requestOf, document_single]
  rfl

/-- The alias enters a member as the key of its result only. -/
theorem aliasedMember_singleOf (i : Nat) (c : Clause) (body : String) :
    aliasedMember i (singleOf c body) = memberOf c (slotAlias i) := by
  unfold aliasedMember singleOf memberOf
  cases c.aggregate <;> rfl

/-- The alias enters a root field at its front only. -/
theorem aliasedRoot_singleOf (i : Nat) (c : Clause) (body : String) :
    aliasedRoot i (singleOf c body) = headText c (some (slotAlias i)) ++ body := by
  simp [aliasedRoot, singleOf, headText, String.append_assoc]

/-- Each clause by itself, given the texts of the bodies. -/
def singlesOf (clauses : List Clause) (bodies : List String) : List Single :=
  (clauses.zip bodies).map fun x => singleOf x.1 x.2

theorem renderedIn_eq (clauses : List Clause) (bodies : List String) :
    renderedIn clauses bodies =
      (singlesOf clauses bodies).mapIdx fun i s => (aliasedMember i s, aliasedRoot i s) := by
  rw [renderedIn, singlesOf]
  refine List.ext_getElem? fun i => ?_
  simp only [List.getElem?_mapIdx, List.getElem?_map, Option.map_map]
  congr 1
  funext x
  exact Prod.ext (aliasedMember_singleOf i x.1 x.2).symm (aliasedRoot_singleOf i x.1 x.2).symm

theorem map_compile_of_bodies {clauses : List Clause} {bodies : List String}
    (h : clauses.mapM bodyText = .ok bodies) :
    clauses.map compile = (singlesOf clauses bodies).map fun s => .ok s.request := by
  rw [mapM_eq_ok_iff] at h
  induction clauses generalizing bodies with
  | nil => rfl
  | cons c rest ih =>
    cases bodies with
    | nil => cases h
    | cons body bodies =>
      obtain ⟨hbody, hrest⟩ := List.cons.inj h
      rw [List.map_cons, ih hrest, compile_eq, hbody]
      simp [singlesOf, Except.map, request_singleOf]

theorem rootsOf_eq_nil_iff (operation : Operation) (singles : List Single) :
    rootsOf operation singles = [] ↔
      singles.any (·.member.operation = operation) = false := by
  rw [rootsOf, List.map_eq_nil_iff, List.filter_eq_nil_iff, List.any_eq_false]
  constructor
  · intro h s hs
    obtain ⟨i, hi, rfl⟩ := List.getElem_of_mem hs
    simpa using h _ (List.mem_mapIdx.mpr ⟨i, hi, rfl⟩)
  · intro h x hx
    obtain ⟨i, hi, rfl⟩ := List.mem_mapIdx.mp hx
    simpa using h _ (List.getElem_mem hi)

/-- A section holds the root fields of its operation. -/
theorem sectionText_aliased (singles : List Single) (operation : Operation) :
    sectionText operation (singles.mapIdx fun i s => (aliasedMember i s, aliasedRoot i s)) =
      (sharedSection? singles operation).toList := by
  have hroots : ((singles.mapIdx fun i s => (aliasedMember i s, aliasedRoot i s)).filter
      fun r => r.1.operation = operation).map (·.2) = rootsOf operation singles := by
    have hmap := map_mapIdx (fun i s => (aliasedMember i s, aliasedRoot i s))
      (fun r => (r.1.operation, r.2)) singles
    rw [rootsOf]
    dsimp only [aliasedMember] at hmap
    rw [← hmap, List.filter_map, List.map_map]
    rfl
  unfold sectionText sharedSection?
  rw [hroots]
  cases hany : singles.any (·.member.operation = operation) with
  | false => simp [(rootsOf_eq_nil_iff operation singles).mpr hany]
  | true =>
    have hne : (rootsOf operation singles).isEmpty = false := by
      rw [List.isEmpty_eq_false_iff, ne_eq, rootsOf_eq_nil_iff, hany]
      decide
    simp [hne]

theorem document_aliased (singles : List Single) :
    document (singles.mapIdx fun i s => (aliasedMember i s, aliasedRoot i s)) =
      sharedDocument singles := by
  unfold document sharedDocument
  rw [sectionText_aliased, sectionText_aliased]
  cases hget : sharedSection? singles .get <;>
    cases haggregate : sharedSection? singles .aggregate <;> simp [hget, haggregate]

theorem nodup_aliases (singles : List Single) :
    ((singles.mapIdx aliasedMember).map (·.resultKey)).Nodup := by
  have hkeys : (singles.mapIdx aliasedMember).map (·.resultKey) =
      (List.range singles.length).map slotAlias := by
    refine List.ext_getElem (by simp) fun i _ _ => ?_
    simp [aliasedMember]
  rw [hkeys]
  exact List.pairwise_map.mpr (List.nodup_range.imp slotAlias_ne)

/-- A batch compiles into one document exactly if each of its clauses compiles by itself. Its members
are then those of the single requests, under different aliases, and its document holds the root
fields of the single documents under these aliases, section by section. -/
theorem multiplexed_refines (clauses : List Clause) :
    ((∃ plan, compileBatch clauses .multiplexed = .ok plan) ↔
        ∀ c ∈ clauses, ∃ request, compile c = .ok request) ∧
      ∀ plan, clauses ≠ [] → compileBatch clauses .multiplexed = .ok plan →
        ∃ singles : List Single,
          clauses.map compile = singles.map (fun s => .ok s.request) ∧
          plan.strategy = .multiplexed ∧
          plan.requests = [⟨sharedDocument singles, singles.mapIdx aliasedMember, true⟩] ∧
          ((singles.mapIdx aliasedMember).map (·.resultKey)).Nodup ∧
          plan.slots = (List.range clauses.length).map fun i => (0, i) := by
  refine ⟨exists_compileBatch_iff clauses .multiplexed, fun plan hne hplan => ?_⟩
  obtain ⟨bodies, hbodies, rfl⟩ := exists_bodies hplan
  have hempty : clauses.isEmpty = false := List.isEmpty_eq_false_iff.mpr hne
  refine ⟨singlesOf clauses bodies, map_compile_of_bodies hbodies, ?_, ?_, nodup_aliases _, rfl⟩
  · simp [planIn, hempty]
  · simp [planIn, requestsIn, hempty, renderedIn_eq, document_aliased, map_mapIdx]

/-- Records between two statistics. -/
def mixedClauses : List Clause :=
  [{ collection := "Book", aggregate := some ⟨[("price", [.mean])], none⟩ },
    { collection := "Author", selection := [⟨"name", []⟩] },
    { collection := "Book", aggregate := some ⟨[], some "lang"⟩ }]

/-- The document that they share. -/
def mixedDocument : String :=
  "\x7b Get \x7b q1: Author \x7b name \x7d \x7d " ++
    "Aggregate \x7b q0: Book \x7b meta \x7b count \x7d price \x7b mean \x7d \x7d " ++
    "q2: Book(groupBy: [\"lang\"]) \x7b meta \x7b count \x7d " ++
    "groupedBy \x7b path value \x7d \x7d \x7d \x7d"

/-- The records come first in the document, and second among the members. -/
theorem multiplexed_refines_mixed : ∃ plan singles,
    mixedClauses ≠ [] ∧ compileBatch mixedClauses .multiplexed = .ok plan ∧
      mixedClauses.map compile = singles.map (fun s => .ok s.request) ∧
      plan.requests = [⟨sharedDocument singles, singles.mapIdx aliasedMember, true⟩] ∧
      plan.requests.map (·.query) = [mixedDocument] ∧
      plan.requests.map (fun r => r.members.map (·.operation)) = [[.aggregate, .get, .aggregate]] ∧
      plan.slots = [(0, 0), (0, 1), (0, 2)] := by
  have hcompiled : ∃ plan, compileBatch mixedClauses .multiplexed = .ok plan ∧
      plan.requests.map (·.query) = [mixedDocument] ∧
      plan.requests.map (fun r => r.members.map (·.operation)) =
        [[.aggregate, .get, .aggregate]] := ⟨_, rfl, by decide +kernel, rfl⟩
  obtain ⟨plan, hplan, hquery, hoperations⟩ := hcompiled
  have hne : mixedClauses ≠ [] := by simp [mixedClauses]
  obtain ⟨singles, hsingles, -, hrequests, -, hslots⟩ :=
    (multiplexed_refines mixedClauses).2 plan hne hplan
  exact ⟨plan, singles, hne, hplan, hsingles, hrequests, hquery, hoperations, hslots⟩

end Retrieval.Compilation
