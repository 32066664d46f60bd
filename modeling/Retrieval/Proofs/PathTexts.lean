import Retrieval.Proofs.Digits
import Retrieval.Proofs.Splitting

/-!
The texts of paths. Main statement: a text is read as a path exactly if each of its parts between
the points stands for a step, the first part is no index and no two indexes follow one another; the
path is then read back from its own text, which is the same for all texts that are read as it.
-/

namespace Retrieval.FieldPath

open Text

variable {raw : String} {p : FieldPath} {part : List Char} {parts : List (List Char)}
  {step : Segment} {steps : List Segment} {afterIndex : Bool}

/-- The parts of a text between its points, without the blanks around them. -/
def partsOf (raw : String) : List (List Char) := (splitAt '.' (trim raw.toList)).map trim

/-- The step that a part stands for: digits are an index, if they are a numeral, and all else is a
name. -/
def stepOf? (part : List Char) : Option Segment :=
  if isAllDigitLike part then
    (Number.readInt (String.ofList part)).toOption.map fun n => .index n.toNat
  else some (.property (String.ofList part))

/-- No two of some steps in a row are indexes; of each it is told whether it is one. -/
def AreApart (indexes : List Bool) : Prop := indexes.IsChain fun a b => a = false ∨ b = false

/-- Parts that make a path. -/
structure MakePath (parts : List (List Char)) : Prop where
  filled : ∀ part ∈ parts, part ≠ []
  starts : ∀ part ∈ parts.head?, isAllDigitLike part = false
  apart : AreApart (parts.map isAllDigitLike)
  readable : ∀ part ∈ parts, isAllDigitLike part = true →
    ∃ n, Number.readInt (String.ofList part) = .ok n

theorem stepOf?_eq_some_iff : stepOf? part = some step ↔
    (isAllDigitLike part = true ∧ ∃ n, Number.readInt (String.ofList part) = .ok n ∧
      step = .index n.toNat) ∨
    isAllDigitLike part = false ∧ step = .property (String.ofList part) := by
  unfold stepOf?
  cases isAllDigitLike part with
  | false => simp [eq_comm]
  | true => cases Number.readInt (String.ofList part) <;> simp [Except.toOption, eq_comm]

/-- The parts that look like digits are the indexes. -/
theorem isIndex_of_stepOf? (h : stepOf? part = some step) :
    step.isIndex = isAllDigitLike part := by
  obtain ⟨hdigits, n, -, rfl⟩ | ⟨hdigits, rfl⟩ := stepOf?_eq_some_iff.mp h <;> rw [hdigits] <;> rfl

theorem indexes_of_map_stepOf? (h : parts.map stepOf? = steps.map some) :
    parts.map isAllDigitLike = steps.map Segment.isIndex := by
  induction parts generalizing steps with
  | nil =>
    cases steps with
    | nil => rfl
    | cons step rest => cases h
  | cons part more ih =>
    cases steps with
    | nil => cases h
    | cons step rest =>
      obtain ⟨hstep, hrest⟩ := List.cons.inj h
      rw [List.map_cons, List.map_cons, ih hrest, isIndex_of_stepOf? hstep]

theorem readSegments_cons_eq_ok_iff :
    readSegments raw afterIndex (part :: parts) = .ok steps ↔ trim part ≠ [] ∧
      (afterIndex = false ∨ isAllDigitLike (trim part) = false) ∧
      ∃ step rest, stepOf? (trim part) = some step ∧
        readSegments raw (isAllDigitLike (trim part)) parts = .ok rest ∧ steps = step :: rest := by
  have hcons (step : Segment) (found : Except PathError (List Segment)) :
      found.map (step :: ·) = .ok steps ↔ ∃ rest, found = .ok rest ∧ steps = step :: rest := by
    rw [map_eq_ok_iff]
    exact exists_congr fun rest => and_congr_right' eq_comm
  rw [readSegments]
  by_cases hempty : trim part = []
  · simp [hempty]
  rw [if_neg (by simpa using hempty)]
  cases hdigits : isAllDigitLike (trim part) with
  | false => simp [hempty, stepOf?, hdigits, hcons]
  | true =>
    cases afterIndex with
    | true => simp
    | false =>
      cases hread : Number.readInt (String.ofList (trim part)) with
      | error e => simp [readIndex, stepOf?, hdigits, hread, Except.toOption]
      | ok n => simp [hempty, readIndex, stepOf?, hdigits, hread, Except.toOption, hcons]

/-- Parts are read as steps exactly if no part is empty, no two indexes follow one another and each
part stands for its step. -/
theorem readSegments_eq_ok_iff : readSegments raw afterIndex parts = .ok steps ↔
    (∀ part ∈ parts.map trim, part ≠ []) ∧
      AreApart (afterIndex :: (parts.map trim).map isAllDigitLike) ∧
      (parts.map trim).map stepOf? = steps.map some := by
  induction parts generalizing afterIndex steps with
  | nil => cases steps <;> simp [readSegments, AreApart]
  | cons part rest ih =>
    rw [readSegments_cons_eq_ok_iff]
    simp only [ih, List.map_cons, List.forall_mem_cons, AreApart, List.isChain_cons_cons]
    constructor
    · rintro ⟨hne, hafter, step, more, hstep, ⟨hfilled, hapart, hsteps⟩, rfl⟩
      exact ⟨⟨hne, hfilled⟩, ⟨hafter, hapart⟩, by rw [hstep, hsteps, List.map_cons]⟩
    · rintro ⟨⟨hne, hfilled⟩, ⟨hafter, hapart⟩, hsteps⟩
      cases steps with
      | nil => cases hsteps
      | cons step more =>
        obtain ⟨hstep, hmore⟩ := List.cons.inj hsteps
        exact ⟨hne, hafter, step, more, hstep, ⟨hfilled, hapart, hmore⟩, rfl⟩

theorem partsOf_ne_nil (raw : String) : partsOf raw ≠ [] := by
  simp [partsOf, splitAt_ne_nil]

/-- A text is read as a path exactly if its parts are filled, with indexes apart, and stand for the
steps of the path. -/
theorem parse_eq_ok_iff : parse raw = .ok p ↔ (∀ part ∈ partsOf raw, part ≠ []) ∧
    AreApart ((partsOf raw).map isAllDigitLike) ∧
    (partsOf raw).map stepOf? = p.segments.map some := by
  have hread {steps : List Segment} :
      readSegments raw false (splitAt '.' (trim raw.toList)) = .ok steps ↔
        (∀ part ∈ partsOf raw, part ≠ []) ∧ AreApart ((partsOf raw).map isAllDigitLike) ∧
          (partsOf raw).map stepOf? = steps.map some := by
    rw [readSegments_eq_ok_iff]
    have hstart (indexes : List Bool) : AreApart (false :: indexes) ↔ AreApart indexes := by
      cases indexes <;> simp [AreApart]
    rw [hstart]
    rfl
  unfold parse
  by_cases hblank : isAllBlank raw = true
  · have htrim : trim raw.toList = [] :=
      (trim_eq_nil_iff _).mpr (by simpa [isAllBlank] using hblank)
    have hparts : partsOf raw = [[]] := by rw [partsOf, htrim]; rfl
    simp [hblank, hparts]
  · rw [if_neg hblank, ← hread]
    cases readSegments raw false (splitAt '.' (trim raw.toList)) with
    | error e => simp
    | ok steps =>
      obtain ⟨root, rest⟩ := p
      cases steps with
      | nil => simp
      | cons step more => cases step <;> simp

/-- Which texts are read as paths. -/
theorem exists_parse_iff : (∃ p, parse raw = .ok p) ↔ MakePath (partsOf raw) := by
  constructor
  · rintro ⟨p, hp⟩
    obtain ⟨hfilled, hapart, hsteps⟩ := parse_eq_ok_iff.mp hp
    refine ⟨hfilled, fun part hpart => ?_, hapart, fun part hpart hdigits => ?_⟩
    · have hstep : stepOf? part = some (.property p.root) := by
        have hhead := congrArg List.head? hsteps
        rw [List.head?_map, Option.mem_def.mp hpart] at hhead
        exact Option.some.inj hhead
      exact (isIndex_of_stepOf? hstep).symm
    · obtain ⟨step, -, hstep⟩ := List.mem_map.mp (hsteps ▸ List.mem_map_of_mem hpart)
      obtain ⟨-, n, hn, -⟩ | ⟨hother, -⟩ := stepOf?_eq_some_iff.mp hstep.symm
      · exact ⟨n, hn⟩
      · rw [hdigits] at hother
        cases hother
  · intro h
    have hall : ∀ step? ∈ (partsOf raw).map stepOf?, step?.isSome = true := by
      rw [List.forall_mem_map]
      intro part hpart
      cases hdigits : isAllDigitLike part with
      | false => simp [stepOf?, hdigits]
      | true =>
        obtain ⟨n, hn⟩ := h.readable part hpart hdigits
        simp [stepOf?, hdigits, hn, Except.toOption]
    have hsteps : (partsOf raw).map stepOf? = ((partsOf raw).filterMap stepOf?).map some := by
      rw [List.map_filterMap_some_eq_filter_map_isSome, List.filter_eq_self.mpr hall]
    generalize (partsOf raw).filterMap stepOf? = steps at hsteps
    -- the first step is a property, as the first part looks like none of digits
    obtain ⟨first, rest, hparts⟩ := List.exists_cons_of_ne_nil (partsOf_ne_nil raw)
    have hfirst : stepOf? first = some (.property (String.ofList first)) := by
      have hname := h.starts first (by simp [hparts])
      simp [stepOf?, hname]
    cases steps with
    | nil => simp [hparts] at hsteps
    | cons step more =>
      have hstep : stepOf? first = some step := by
        rw [hparts] at hsteps
        exact (List.cons.inj hsteps).1
      obtain rfl := Option.some.inj (hfirst.symm.trans hstep)
      exact ⟨⟨String.ofList first, more⟩, parse_eq_ok_iff.mpr ⟨h.filled, h.apart, hsteps⟩⟩

/-- A part that comes back when it is cut out of a text. -/
structure IsPart (part : List Char) : Prop where
  filled : part ≠ []
  trimmed : trim part = part
  unpointed : '.' ∉ part

theorem isPart_of_mem_partsOf (h : part ∈ partsOf raw) (hne : part ≠ []) : IsPart part := by
  obtain ⟨piece, hpiece, rfl⟩ := List.mem_map.mp h
  refine ⟨hne, trim_trim piece, fun hpoint => not_mem_of_mem_splitAt hpiece ?_⟩
  have hkept := List.rdropWhile_prefix isBlank (piece.dropWhile isBlank)
  exact (List.dropWhile_suffix isBlank).subset (hkept.subset hpoint)

theorem isPart_of_isDigitLike (hne : part ≠ []) (h : ∀ c ∈ part, isDigitLike c = true) :
    IsPart part := by
  refine ⟨hne, trim_eq_self_iff.mpr ⟨fun c hc => ?_, fun c hc => ?_⟩, fun hpoint => ?_⟩
  · exact not_isBlank_of_isDigitLike (h c (List.mem_of_mem_head? hc))
  · exact not_isBlank_of_isDigitLike (h c (List.mem_of_mem_getLast? hc))
  · exact absurd (h '.' hpoint) (by decide)

/-- The text of the step that a part stands for is a part that stands for this step. -/
theorem isPart_text (hpart : IsPart part) (h : stepOf? part = some step) :
    IsPart step.text.toList ∧ stepOf? step.text.toList = some step := by
  obtain ⟨hdigits, n, hn, rfl⟩ | ⟨hdigits, rfl⟩ := stepOf?_eq_some_iff.mp h
  · obtain ⟨⟨-, hfew⟩, rfl⟩ := (Number.readInt_eq_ok_iff hdigits).mp hn
    have hlike := isAllDigitLike_toString (Number.digitsAfter 0 part)
    obtain ⟨hne, hall⟩ := isAllDigitLike_iff.mp hlike
    refine ⟨isPart_of_isDigitLike hne hall, stepOf?_eq_some_iff.mpr (.inl ⟨hlike, _, ?_, rfl⟩)⟩
    have hlength : (Nat.toDigits 10 (Number.digitsAfter 0 part)).length ≤ Number.maxDigits :=
      (Number.length_toDigits_le part).trans (max_le (by decide) hfew)
    rw [String.ofList_toList]
    exact Number.readInt_toString hlength
  · have htext : (Segment.property (String.ofList part)).text.toList = part :=
      String.toList_ofList
    rw [htext]
    exact ⟨hpart, h⟩

theorem toList_text (p : FieldPath) :
    p.text.toList = joinWith ['.'] (p.segments.map fun step => step.text.toList) := by
  rw [text, String.toList_intercalate, joinWith_eq_intercalate, List.map_map]
  rfl

/-- Texts of steps that come back as parts are the parts of the text that they make. -/
theorem partsOf_text (h : ∀ step ∈ p.segments, IsPart step.text.toList) :
    partsOf p.text = p.segments.map fun step => step.text.toList := by
  have hparts : ∀ part ∈ p.segments.map (fun step => step.text.toList), IsPart part :=
    List.forall_mem_map.mpr h
  rw [partsOf, toList_text, trim_joinWith fun part hpart =>
      ⟨(hparts part hpart).filled, (hparts part hpart).trimmed⟩,
    splitAt_joinWith (by simp [segments]) fun part hpart => (hparts part hpart).unpointed]
  exact (List.map_congr_left fun part hpart => (hparts part hpart).trimmed).trans (List.map_id _)

/-- A path that was read is read back from its text. -/
theorem parse_text (h : parse raw = .ok p) : parse p.text = .ok p := by
  obtain ⟨hfilled, hapart, hsteps⟩ := parse_eq_ok_iff.mp h
  have hstep : ∀ step ∈ p.segments,
      IsPart step.text.toList ∧ stepOf? step.text.toList = some step := by
    intro step hstep
    obtain ⟨part, hpart, hpartStep⟩ := List.mem_map.mp (hsteps ▸ List.mem_map_of_mem hstep)
    exact isPart_text (isPart_of_mem_partsOf hpart (hfilled part hpart)) hpartStep
  have htexts : (p.segments.map fun step => step.text.toList).map stepOf? =
      p.segments.map some := by
    rw [List.map_map]
    exact List.map_congr_left fun step hmem => (hstep step hmem).2
  rw [parse_eq_ok_iff, partsOf_text fun step hmem => (hstep step hmem).1]
  refine ⟨List.forall_mem_map.mpr fun step hmem => (hstep step hmem).1.filled, ?_, htexts⟩
  rw [indexes_of_map_stepOf? htexts, ← indexes_of_map_stepOf? hsteps]
  exact hapart

/-- Which texts are read as paths, and that the text of a path is the one form that all texts which
are read as it come down to. -/
theorem canonical_text (raw : String) :
    ((∃ p, parse raw = .ok p) ↔ MakePath (partsOf raw)) ∧
    ∀ p, parse raw = .ok p → (partsOf raw).map stepOf? = p.segments.map some ∧
      parse p.text = .ok p ∧
      ∀ other q, parse other = .ok q → (p = q ↔ p.text = q.text) := by
  refine ⟨exists_parse_iff, fun p hp => ⟨(parse_eq_ok_iff.mp hp).2.2, parse_text hp, ?_⟩⟩
  intro other q hq
  refine ⟨congrArg text, fun htext => ?_⟩
  have hsame := (parse_text hp).symm.trans ((congrArg parse htext).trans (parse_text hq))
  exact Except.ok.inj hsame

/-- Blanks around the parts and digits of other scripts leave no trace in the text. -/
theorem canonical_text_padded : ∃ p,
    parse " images . ٠٧ .url" = .ok p ∧
    p.segments = [.property "images", .index 7, .property "url"] ∧
    p.text = "images.7.url" ∧ parse "images.7.url" = .ok p ∧
    ¬ MakePath (partsOf "images.²") := by
  have hread : parse " images . ٠٧ .url" = .ok ⟨"images", [.index 7, .property "url"]⟩ := rfl
  obtain ⟨-, hback, -⟩ := (canonical_text " images . ٠٧ .url").2 _ hread
  have hrefused : ¬ ∃ p, parse "images.²" = .ok p := by
    rintro ⟨p, hp⟩
    cases hp
  exact ⟨_, hread, rfl, rfl, hback, fun h => hrefused ((canonical_text "images.²").1.mpr h)⟩

end Retrieval.FieldPath
