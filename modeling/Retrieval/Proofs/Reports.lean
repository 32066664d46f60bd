import Retrieval.Proofs.Dropping

/-!
What the errors of an answer cost. An error that can be read for a member is added to the member's
result, and one that cannot be read takes the result away. Main statement: a result is kept exactly
if every reported error can be read.
-/

namespace Retrieval

namespace Envelope

open Schema

variable {m : Member} {multiplexed : Bool} {es : Entries Value}

/-- A text, or something that denotes an integer of 64 bits if it is a float. -/
def IsStep : Value → Prop
  | .text _ => True
  | .word _ => True
  | .int _ => True
  | .bool _ => True
  | .float x => Number.isFinite x = true ∧ (Number.toInt? x).isSome = true ∧
      -integerBound < x ∧ x < integerBound
  | _ => False

/-- A reported error that can be read for a member. A mapping is looked into unless it is an error
of another member; then its path holds steps only, and a code is a text. -/
def IsReadable (m : Member) (multiplexed : Bool) : Value → Prop
  | .map es => ∃ path, elementsAt "path" es = .ok path ∧
      (isForeign m multiplexed path = true ∨ (∀ step ∈ path, IsStep step) ∧
        ∃ extensions, blockAt "extensions" es = .ok extensions ∧
          (field "code" extensions = .null ∨ (field "code" extensions).text?.isSome = true))
  | _ => True

theorem exists_readStep_iff (v : Value) : (∃ s, readStep v = .valid s) ↔ IsStep v := by
  cases v with
  | float x =>
    simp only [readStep, integer, IsStep]
    cases Number.isFinite x with
    | false => simp [Checked.refuse]
    | true =>
      cases Number.toInt? x with
      | none => simp [Checked.refuse]
      | some n =>
        by_cases hbounds : -integerBound < x ∧ x < integerBound
        · simp [hbounds]
        · simp [hbounds, Checked.refuse]
  | _ => simp [readStep, integer, IsStep, Checked.refuse]

theorem exists_optionalText_iff (v : Value) :
    (∃ code, optional text v = .valid code) ↔ v = .null ∨ v.text?.isSome = true := by
  cases v <;> simp [Schema.optional, text, Value.text?, Checked.refuse]

theorem exists_readError_iff (v : Value) :
    (∃ found, readError m multiplexed v = .ok found) ↔ IsReadable m multiplexed v := by
  cases v with
  | map es =>
    simp only [readError_map_eq_ok_iff, IsReadable, ← exists_readStep_iff,
      ← exists_items_eq_valid_iff, ← exists_optionalText_iff]
    constructor
    · rintro ⟨found, path, hpath, ⟨hforeign, -⟩ | ⟨-, ext, steps, code, hext, hsteps, hcode, -⟩⟩
      · exact ⟨path, hpath, .inl hforeign⟩
      · exact ⟨path, hpath, .inr ⟨⟨steps, hsteps⟩, ext, hext, code, hcode⟩⟩
    · rintro ⟨path, hpath, hread⟩
      cases hforeign : isForeign m multiplexed path with
      | true => exact ⟨none, path, hpath, .inl ⟨hforeign, rfl⟩⟩
      | false =>
        obtain ⟨⟨steps, hsteps⟩, ext, hext, code, hcode⟩ :=
          hread.resolve_left (by simp [hforeign])
        exact ⟨_, path, hpath, .inr ⟨hforeign, ext, steps, code, hext, hsteps, hcode, rfl⟩⟩
  | _ => simp [readError, IsReadable]

theorem exists_readErrors_iff (vs : List Value) :
    (∃ errors, readErrors m multiplexed vs = .ok errors) ↔
      ∀ v ∈ vs, IsReadable m multiplexed v := by
  simp only [← exists_readError_iff]
  induction vs with
  | nil => simp [readErrors]
  | cons v rest ih =>
    rw [List.forall_mem_cons, ← ih]
    simp only [readErrors_cons_eq_ok_iff]
    constructor
    · rintro ⟨_, found, more, hfound, hmore, -⟩
      exact ⟨⟨found, hfound⟩, more, hmore⟩
    · rintro ⟨⟨found, hfound⟩, more, hmore⟩
      exact ⟨_, found, more, hfound, hmore, rfl⟩

/-- An answer with a list of errors. -/
def withReports (reports : List Value) (es : Entries Value) : Entries Value :=
  Entries.set "errors" (.list reports) es

theorem elementsAt_withReports (reports : List Value) (es : Entries Value) :
    elementsAt "errors" (withReports reports es) = .ok reports :=
  elementsAt_of_get? (Entries.get?_set_same ..)

/-- Errors that are put in leave the body of an answer as it is. -/
theorem HasBody.withReports {items : List Value} {bare : QueryResult} (h : HasBody m es items bare)
    (reports : List Value) : HasBody m (withReports reports es) items bare := by
  obtain ⟨totals, htotals, hbare⟩ := h.exists_totals
  refine ⟨?_, totals, ?_, hbare⟩
  · rw [← h.section_eq, section?, section?, blockAt, blockAt, Envelope.withReports,
      Entries.get?_set_other _ _ (by decide)]
  · rw [← htotals, totalsOf, totalsOf, blockAt, blockAt, Envelope.withReports,
      Entries.get?_set_other _ _ (by decide)]

/-- Whatever errors are put into an answer with a result: the result stays as it is but for its
errors if each of them can be read, and it is lost if one of them cannot. -/
theorem result_kept_of_readable {r : QueryResult}
    (hread : (normalize m multiplexed (.map es)).outcome = .ok r) (reports : List Value) :
    ((∀ v ∈ reports, IsReadable m multiplexed v) → ∃ errors,
      (normalize m multiplexed (.map (withReports reports es))).outcome =
        .ok (r.withErrors errors)) ∧
    ((∃ v ∈ reports, ¬ IsReadable m multiplexed v) → ∃ fault,
      (normalize m multiplexed (.map (withReports reports es))).outcome = .error fault) := by
  obtain ⟨_, _, items, bare, -, -, hbody, rfl⟩ := exists_hasBody hread
  have houtcome : (normalize m multiplexed (.map (withReports reports es))).outcome =
      (readErrors m multiplexed reports).map fun errors =>
        bare.withErrors (errors ++ droppedErrors m errors (strays 0 items)) :=
    (hbody.withReports reports).normalize_eq (elementsAt_withReports ..)
  constructor
  · intro hreadable
    obtain ⟨errors, herrors⟩ := (exists_readErrors_iff reports).mpr hreadable
    rw [houtcome, herrors]
    exact ⟨_, congrArg Except.ok (QueryResult.withErrors_withErrors ..).symm⟩
  · rintro ⟨v, hv, hunreadable⟩
    cases herrors : readErrors m multiplexed reports with
    | ok errors =>
      exact absurd ((exists_readErrors_iff reports).mp ⟨errors, herrors⟩ v hv) hunreadable
    | error fault =>
      rw [houtcome, herrors]
      exact ⟨fault, rfl⟩

/-- An answer with one author and no errors. -/
def soundAnswer : Entries Value :=
  [("data", .map [("Get", .map [("Author", .list [.map [("name", .text "Ada")]])])])]

/-- An error about the first author, with a code. -/
def codedReport (code : Value) : Value :=
  .map [("message", .text "lost"), ("path", .list [.text "Get", .text "Author", .int 0]),
    ("extensions", .map [("code", code)])]

theorem isReadable_codedReport_iff (code : Value) :
    IsReadable authorMember false (codedReport code) ↔
      code = .null ∨ code.text?.isSome = true := by
  constructor
  · rintro ⟨path, -, hforeign | ⟨-, extensions, hextensions, hcode⟩⟩
    · cases hforeign
    · obtain rfl := Except.ok.inj hextensions
      exact hcode
  · exact fun hcode => ⟨_, rfl, .inr ⟨by simp [IsStep], _, rfl, hcode⟩⟩

/-- A code that is a text is kept with the author; a code that is a number takes the author away. -/
theorem result_kept_of_readable_author : ∃ r,
    (normalize authorMember false (.map soundAnswer)).outcome = .ok r ∧ r.size = 1 ∧
      (∃ errors, (normalize authorMember false
        (.map (withReports [codedReport (.text "500")] soundAnswer))).outcome =
          .ok (r.withErrors errors)) ∧
      ∃ fault, (normalize authorMember false
        (.map (withReports [codedReport (.int 500)] soundAnswer))).outcome = .error fault := by
  have hread : ∃ r, (normalize authorMember false (.map soundAnswer)).outcome = .ok r ∧
      r.size = 1 := ⟨_, rfl, rfl⟩
  obtain ⟨r, hr, hsize⟩ := hread
  have hkept := (result_kept_of_readable hr [codedReport (.text "500")]).1
  have hlost := (result_kept_of_readable hr [codedReport (.int 500)]).2
  simp only [List.mem_singleton, forall_eq, exists_eq_left, isReadable_codedReport_iff]
    at hkept hlost
  exact ⟨r, hr, hsize, hkept (.inr rfl), hlost (by simp [Value.text?])⟩

end Envelope

end Retrieval
