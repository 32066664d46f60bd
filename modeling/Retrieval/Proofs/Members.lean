import Retrieval.Compilation.Document
import Retrieval.Proofs.Traversal

/-!
What compiling makes of each clause. The alias of a clause enters its text only at the front and its
member only as the key of the result, so a clause compiles under one alias exactly if it compiles
under any other or under none.
-/

namespace Retrieval.Compilation

/-- What a clause asks for: the fields of records, or those of statistics. -/
def fieldTexts (c : Clause) : Compiled (List String) :=
  match c.aggregate with
  | none => getFields c
  | some a => .ok (aggregateFields a)

/-- The text of a clause's root field after the name of its collection. -/
def bodyText (c : Clause) : Compiled String :=
  if c.collection.isEmpty then violated .noCollection
  else do
    let fields ← fieldTexts c
    let args ← Literal.arguments maxLevels (memberOf c c.collection).arguments
    return args ++ " " ++ braced (" ".intercalate fields)

/-- The name of a root field, after its alias if it has one. -/
def headText (c : Clause) (alias? : Option String) : String :=
  match alias? with
  | some name => name ++ ": " ++ c.collection
  | none => c.collection

theorem memberOf_arguments (c : Clause) (key other : String) :
    (memberOf c key).arguments = (memberOf c other).arguments := by
  unfold memberOf
  split <;> rfl

theorem memberOf_resultKey (c : Clause) {key : String} : (memberOf c key).resultKey = key := by
  unfold memberOf
  cases c.aggregate <;> rfl

/-- The member and the text of a clause, apart from the alias. -/
theorem compileMember_eq (c : Clause) (alias? : Option String) :
    compileMember c alias? = (bodyText c).map fun body =>
      (memberOf c (alias?.getD c.collection), headText c alias? ++ body) := by
  unfold compileMember bodyText fieldTexts headText
  split
  · rfl
  · dsimp only
    rw [memberOf_arguments c (alias?.getD c.collection) c.collection]
    generalize Literal.arguments maxLevels (memberOf c c.collection).arguments = rendered
    cases c.aggregate with
    | none =>
      cases getFields c with
      | error v => rfl
      | ok fields =>
        cases alias? <;> cases rendered <;>
          simp [bind, Except.bind, pure, Except.pure, Except.map, String.append_assoc]
    | some a =>
      cases alias? <;> cases rendered <;>
        simp [bind, Except.bind, pure, Except.pure, Except.map, String.append_assoc]

/-- The document of one root field. -/
theorem document_single (m : Member) (text : String) :
    document [(m, text)] = braced (m.operation.name ++ " " ++ braced text) := by
  cases hoperation : m.operation <;> simp [document, sectionText, hoperation]

/-- The request of a clause, given the text of its body. -/
def requestOf (c : Clause) (body : String) : Request :=
  ⟨document [(memberOf c c.collection, headText c none ++ body)], [memberOf c c.collection], false⟩

theorem compile_eq (c : Clause) : compile c = (bodyText c).map (requestOf c) := by
  unfold compile
  rw [compileMember_eq]
  cases bodyText c <;> rfl

/-- A clause compiles exactly if it has a body. -/
theorem exists_compile_iff (c : Clause) :
    (∃ r, compile c = .ok r) ↔ ∃ body, bodyText c = .ok body := by
  rw [compile_eq]
  cases bodyText c <;> simp [Except.map]

theorem compileMembers_eq (n : Nat) (clauses : List Clause) :
    compileMembers n clauses = (clauses.mapM bodyText).map fun bodies =>
      (clauses.zip bodies).mapIdx fun i x =>
        (memberOf x.1 (slotAlias (n + i)), headText x.1 (some (slotAlias (n + i))) ++ x.2) := by
  induction clauses generalizing n with
  | nil => rfl
  | cons c rest ih =>
    rw [compileMembers, compileMember_eq, ih, List.mapM_cons]
    cases bodyText c with
    | error v => rfl
    | ok body =>
      cases rest.mapM bodyText with
      | error v => rfl
      | ok bodies =>
        simp [bind, Except.bind, pure, Except.pure, Except.map, List.mapIdx_cons, Nat.add_assoc,
          Nat.add_comm 1]

/-- The alias of clause `k` of a batch: there is one only in a combined document. -/
def aliasIn (strategy : BatchStrategy) (k : Nat) : Option String :=
  match strategy with
  | .multiplexed => some (slotAlias k)
  | .independent => none

theorem slotAlias_injective {i j : Nat} (h : slotAlias i = slotAlias j) : i = j := by
  have hrepr : i.repr = j.repr := (String.append_right_inj "q").mp h
  have hdigits : Nat.toDigits 10 i = Nat.toDigits 10 j := by
    rw [← Nat.toList_repr, ← Nat.toList_repr, hrepr]
  rw [← Nat.ofDigitChars_ten_toDigits (n := i), hdigits, Nat.ofDigitChars_ten_toDigits]

theorem slotAlias_ne {i j : Nat} (h : i ≠ j) : slotAlias i ≠ slotAlias j :=
  fun heq => h (slotAlias_injective heq)

/-- Where clause `k` of a batch stands: the position of its request, and its own inside. -/
def placeIn (strategy : BatchStrategy) (k : Nat) : Nat × Nat :=
  match strategy with
  | .multiplexed => (0, k)
  | .independent => (k, 0)

/-- The member of clause `k` of a batch. -/
def memberIn (strategy : BatchStrategy) (k : Nat) (c : Clause) : Member :=
  memberOf c ((aliasIn strategy k).getD c.collection)

/-- How many requests a batch of `n` clauses takes. -/
def requestCount (strategy : BatchStrategy) (n : Nat) : Nat :=
  match strategy with
  | .multiplexed => min n 1
  | .independent => n

/-- The root fields of clauses in one document. -/
def renderedIn (clauses : List Clause) (bodies : List String) : List (Member × String) :=
  (clauses.zip bodies).mapIdx fun i x =>
    (memberIn .multiplexed i x.1, headText x.1 (aliasIn .multiplexed i) ++ x.2)

/-- The requests of clauses, given the texts of their bodies. -/
def requestsIn (strategy : BatchStrategy) (clauses : List Clause) (bodies : List String) :
    List Request :=
  match strategy with
  | .multiplexed =>
    if clauses.isEmpty then []
    else
      [⟨document (renderedIn clauses bodies), (renderedIn clauses bodies).map (·.1), true⟩]
  | .independent => List.zipWith requestOf clauses bodies

theorem mapM_compile (clauses : List Clause) :
    clauses.mapM compile =
      (clauses.mapM bodyText).map (requestsIn .independent clauses) := by
  induction clauses with
  | nil => rfl
  | cons c rest ih =>
    rw [List.mapM_cons, List.mapM_cons, ih, compile_eq]
    cases bodyText c with
    | error v => rfl
    | ok body => cases rest.mapM bodyText <;> rfl

/-- The plan of clauses, given the texts of their bodies. -/
def planIn (strategy : BatchStrategy) (clauses : List Clause) (bodies : List String) : BatchPlan :=
  ⟨if clauses.isEmpty then .independent else strategy, requestsIn strategy clauses bodies,
    (List.range clauses.length).map (placeIn strategy)⟩

/-- Under either strategy a batch compiles as far as the bodies of its clauses do. -/
theorem compileBatch_eq (clauses : List Clause) (strategy : BatchStrategy) :
    compileBatch clauses strategy =
      (clauses.mapM bodyText).map (planIn strategy clauses) := by
  cases strategy with
  | multiplexed =>
    cases clauses with
    | nil => rfl
    | cons c rest =>
      unfold compileBatch
      rw [compileMembers_eq]
      cases hbodies : (c :: rest).mapM bodyText with
      | error v => rfl
      | ok bodies =>
        simp [Except.map, bind, Except.bind, pure, Except.pure, planIn, requestsIn, renderedIn,
          memberIn, aliasIn, placeIn]
  | independent =>
    unfold compileBatch
    rw [mapM_compile]
    cases hbodies : clauses.mapM bodyText with
    | error v => rfl
    | ok bodies =>
      have hlength := length_of_mapM_eq_ok hbodies
      simp [Except.map, bind, Except.bind, pure, Except.pure, planIn, requestsIn, placeIn, hlength]

theorem exists_compileBatch_iff (clauses : List Clause) (strategy : BatchStrategy) :
    (∃ plan, compileBatch clauses strategy = .ok plan) ↔
      ∀ c ∈ clauses, ∃ request, compile c = .ok request := by
  simp only [exists_compile_iff, ← exists_mapM_eq_ok_iff]
  rw [compileBatch_eq]
  cases clauses.mapM bodyText <;> simp [Except.map]

variable {strategy : BatchStrategy} {clauses : List Clause} {plan : BatchPlan}

theorem exists_bodies (hplan : compileBatch clauses strategy = .ok plan) :
    ∃ bodies, clauses.mapM bodyText = .ok bodies ∧ planIn strategy clauses bodies = plan := by
  rw [compileBatch_eq] at hplan
  exact map_eq_ok_iff.mp hplan

theorem slots_of_compileBatch (hplan : compileBatch clauses strategy = .ok plan) :
    plan.slots = (List.range clauses.length).map (placeIn strategy) := by
  obtain ⟨bodies, -, rfl⟩ := exists_bodies hplan
  rfl

theorem length_requests_of_compileBatch (hplan : compileBatch clauses strategy = .ok plan) :
    plan.requests.length = requestCount strategy clauses.length := by
  obtain ⟨bodies, hbodies, rfl⟩ := exists_bodies hplan
  cases strategy with
  | multiplexed => cases clauses <;> simp [planIn, requestsIn, requestCount]
  | independent => simp [planIn, requestsIn, requestCount, length_of_mapM_eq_ok hbodies]

/-- The place of a clause in the plan holds its own member. -/
theorem place_of_compileBatch (hplan : compileBatch clauses strategy = .ok plan) {k : Nat}
    {c : Clause} (hk : clauses[k]? = some c) :
    ∃ request, plan.requests[(placeIn strategy k).1]? = some request ∧
      request.members[(placeIn strategy k).2]? = some (memberIn strategy k c) ∧
      request.multiplexed = (strategy == .multiplexed) := by
  obtain ⟨bodies, hbodies, rfl⟩ := exists_bodies hplan
  obtain ⟨body, -, hbody⟩ := getElem?_of_mapM_eq_ok hbodies hk
  cases strategy with
  | multiplexed =>
    have hne : clauses.isEmpty = false := by
      cases clauses with
      | nil => simp at hk
      | cons c rest => rfl
    have hzip : (clauses.zip bodies)[k]? = some (c, body) :=
      List.getElem?_zip_eq_some.mpr ⟨hk, hbody⟩
    refine ⟨⟨document (renderedIn clauses bodies), (renderedIn clauses bodies).map (·.1), true⟩,
      ?_, ?_, rfl⟩
    · simp [planIn, requestsIn, placeIn, hne]
    · simp [placeIn, renderedIn, List.getElem?_mapIdx, hzip]
  | independent =>
    refine ⟨requestOf c body, ?_, rfl, rfl⟩
    simp [planIn, requestsIn, placeIn, List.getElem?_zipWith, hk, hbody]

/-- The request of a clause that is sent alone is the one it compiles to. -/
theorem compile_of_compileBatch (hplan : compileBatch clauses .independent = .ok plan) {k : Nat}
    {c : Clause} (hk : clauses[k]? = some c) :
    ∃ request, plan.requests[k]? = some request ∧ compile c = .ok request := by
  obtain ⟨bodies, hbodies, rfl⟩ := exists_bodies hplan
  obtain ⟨body, hc, hbody⟩ := getElem?_of_mapM_eq_ok hbodies hk
  refine ⟨requestOf c body, ?_, by rw [compile_eq, hc]; rfl⟩
  simp [planIn, requestsIn, List.getElem?_zipWith, hk, hbody]

/-- The member of a clause in the plan is what the clause compiles to under its alias. -/
theorem compileMember_of_compileBatch (hplan : compileBatch clauses strategy = .ok plan) {k : Nat}
    {c : Clause} (hk : clauses[k]? = some c) :
    ∃ text, compileMember c (aliasIn strategy k) = .ok (memberIn strategy k c, text) := by
  obtain ⟨bodies, hbodies, -⟩ := exists_bodies hplan
  obtain ⟨body, hc, -⟩ := getElem?_of_mapM_eq_ok hbodies hk
  exact ⟨headText c (aliasIn strategy k) ++ body, by rw [compileMember_eq, hc]; rfl⟩

/-- A combined request holds one member for each clause, in order. -/
theorem members_of_compileBatch (hplan : compileBatch clauses .multiplexed = .ok plan)
    {request : Request} (hrequest : request ∈ plan.requests) :
    request.members = clauses.mapIdx (memberIn .multiplexed) ∧ request.multiplexed = true := by
  obtain ⟨bodies, hbodies, rfl⟩ := exists_bodies hplan
  obtain rfl : request =
      ⟨document (renderedIn clauses bodies), (renderedIn clauses bodies).map (·.1), true⟩ := by
    unfold planIn requestsIn at hrequest
    split at hrequest
    · cases hrequest
    · exact List.mem_singleton.mp hrequest
  refine ⟨List.ext_getElem? fun k => ?_, rfl⟩
  simp only [renderedIn, List.getElem?_map, List.getElem?_mapIdx]
  cases hk : clauses[k]? with
  | none =>
    have hzip : (clauses.zip bodies)[k]? = none := by
      have hlength := List.getElem?_eq_none_iff.mp hk
      rw [List.getElem?_eq_none_iff, List.length_zip]
      omega
    rw [hzip]
    rfl
  | some c =>
    obtain ⟨body, -, hbody⟩ := getElem?_of_mapM_eq_ok hbodies hk
    have hzip : (clauses.zip bodies)[k]? = some (c, body) :=
      List.getElem?_zip_eq_some.mpr ⟨hk, hbody⟩
    rw [hzip]
    rfl

end Retrieval.Compilation
