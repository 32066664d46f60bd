import Retrieval.Proofs.Clauses
import Retrieval.Text.Split

/-!
Cutting a text that was joined, and trimming what blanks were put around. Main statements: the
pieces come back if none of them holds the separator, a padded text is trimmed like the text itself,
and there is nothing to trim from what is joined from trimmed pieces.
-/

namespace Retrieval.Text

variable {sep : Char} {cs piece : List Char} {pieces : List (List Char)}

theorem splitAt_eq_splitOn (sep : Char) (cs : List Char) : splitAt sep cs = cs.splitOn sep := by
  induction cs with
  | nil => rfl
  | cons c cs ih =>
    rw [splitAt, ih]
    simp only [List.splitOn, List.splitOnP_cons_eq_if_modifyHead, beq_iff_eq]
    split
    · rfl
    · cases hrest : List.splitOnP (· == sep) cs with
      | nil => exact absurd hrest (List.splitOnP_ne_nil _ _)
      | cons piece pieces => rfl

theorem joinWith_eq_intercalate (sep : List Char) (pieces : List (List Char)) :
    joinWith sep pieces = sep.intercalate pieces := by
  induction pieces with
  | nil => rfl
  | cons piece rest ih =>
    cases rest with
    | nil => simp [joinWith]
    | cons next more => rw [joinWith, ih, List.intercalate_cons_cons]; simp

/-- A separating text of one character cuts as the character does. -/
theorem splitOnText_singleton (sep : Char) (cs : List Char) :
    splitOnText [sep] cs = splitAt sep cs := by
  unfold splitOnText
  induction cs with
  | nil => rfl
  | cons c cs ih =>
    rw [splitOnText.go, splitAt, ← ih]
    by_cases hc : c = sep
    · simp [hc]
    · simp [hc, Ne.symm hc]

theorem splitAt_joinWith (hne : pieces ≠ []) (h : ∀ piece ∈ pieces, sep ∉ piece) :
    splitAt sep (joinWith [sep] pieces) = pieces := by
  rw [splitAt_eq_splitOn, joinWith_eq_intercalate, List.splitOn_intercalate sep h hne]

theorem not_mem_of_mem_splitAt (h : piece ∈ splitAt sep cs) : sep ∉ piece := by
  induction cs generalizing piece with
  | nil => simp_all [splitAt]
  | cons c cs ih =>
    rw [splitAt] at h
    by_cases hc : c = sep
    · rw [if_pos hc] at h
      obtain rfl | h := List.mem_cons.mp h
      · simp
      · exact ih h
    · rw [if_neg hc] at h
      cases hrest : splitAt sep cs with
      | nil => exact absurd hrest (splitAt_ne_nil sep cs)
      | cons next more =>
        rw [hrest] at h ih
        obtain rfl | h := List.mem_cons.mp h
        · simp [Ne.symm hc, ih (List.mem_cons_self)]
        · exact ih (List.mem_cons_of_mem _ h)

/-- There is nothing to trim exactly if no blank stands at either end. -/
theorem trim_eq_self_iff : trim cs = cs ↔
    (∀ c ∈ cs.head?, isBlank c = false) ∧ ∀ c ∈ cs.getLast?, isBlank c = false := by
  have hstart : cs.dropWhile isBlank = cs ↔ ∀ c ∈ cs.head?, isBlank c = false := by
    cases cs <;> simp [List.dropWhile_eq_self_iff]
  have hend : cs.rdropWhile isBlank = cs ↔ ∀ c ∈ cs.getLast?, isBlank c = false := by
    cases cs <;> simp [List.rdropWhile_eq_self_iff, List.getLast?_eq_some_getLast]
  rw [← hstart, ← hend, trim_eq]
  constructor
  · intro h
    have hkept := List.rdropWhile_prefix isBlank (cs.dropWhile isBlank)
    rw [h] at hkept
    have hwhole : cs.dropWhile isBlank = cs :=
      (List.dropWhile_suffix isBlank).eq_of_length_le hkept.length_le
    exact ⟨hwhole, by rwa [hwhole] at h⟩
  · rintro ⟨hdrop, hrdrop⟩
    rw [hdrop, hrdrop]

/-- Blanks around a text are trimmed. -/
theorem trim_padded {before after : List Char} (hbefore : ∀ c ∈ before, isBlank c = true)
    (hafter : ∀ c ∈ after, isBlank c = true) : trim (before ++ cs ++ after) = trim cs := by
  have hend (xs : List Char) : (xs ++ after).rdropWhile isBlank = xs.rdropWhile isBlank := by
    rw [List.rdropWhile, List.reverse_append, List.dropWhile_append_of_pos fun c hc =>
      hafter c (List.mem_reverse.mp hc)]
    rfl
  rw [trim_eq, trim_eq, List.append_assoc, List.dropWhile_append_of_pos hbefore,
    List.dropWhile_append]
  by_cases hcs : cs.dropWhile isBlank = []
  · rw [hcs, if_pos List.isEmpty_nil, List.dropWhile_eq_nil_iff.mpr hafter]
  · rw [if_neg (by simpa using hcs), hend]

/-- What is trimmed from a text are blanks. -/
theorem exists_padding (cs : List Char) : ∃ before after, (∀ c ∈ before, isBlank c = true) ∧
    (∀ c ∈ after, isBlank c = true) ∧ cs = before ++ trim cs ++ after := by
  refine ⟨cs.takeWhile isBlank, (cs.dropWhile isBlank).rtakeWhile isBlank,
    fun c hc => List.mem_takeWhile_imp hc, fun c hc => List.mem_rtakeWhile_imp hc, ?_⟩
  rw [trim_eq, List.append_assoc, List.rdropWhile_append_rtakeWhile, List.takeWhile_append_dropWhile]

theorem head?_joinWith (h : ∀ piece ∈ pieces, piece ≠ []) :
    (joinWith [sep] pieces).head? = pieces.head?.bind List.head? := by
  cases pieces with
  | nil => rfl
  | cons piece rest =>
    cases rest with
    | nil => rfl
    | cons next more =>
      rw [joinWith_eq_intercalate, List.intercalate_cons_cons, List.append_assoc,
        List.head?_append_of_ne_nil _ (h piece List.mem_cons_self)]
      rfl

theorem getLast?_joinWith (h : ∀ piece ∈ pieces, piece ≠ []) :
    (joinWith [sep] pieces).getLast? = pieces.getLast?.bind List.getLast? := by
  induction pieces with
  | nil => rfl
  | cons piece rest ih =>
    cases rest with
    | nil => rfl
    | cons next more =>
      have hrest := ih fun p hp => h p (List.mem_cons_of_mem _ hp)
      have hlast : (next :: more).getLast (by simp) ≠ [] :=
        h _ (List.mem_cons_of_mem _ (List.getLast_mem _))
      rw [joinWith_eq_intercalate] at hrest ⊢
      rw [List.intercalate_cons_cons, List.getLast?_append, hrest, List.getLast?_cons_cons,
        List.getLast?_eq_some_getLast (by simp), Option.bind_some,
        List.getLast?_eq_some_getLast hlast]
      rfl

/-- What is joined from trimmed pieces begins and ends with what they do. -/
theorem trim_joinWith (h : ∀ piece ∈ pieces, piece ≠ [] ∧ trim piece = piece) :
    trim (joinWith [sep] pieces) = joinWith [sep] pieces := by
  have hne : ∀ piece ∈ pieces, piece ≠ [] := fun piece hpiece => (h piece hpiece).1
  rw [trim_eq_self_iff, head?_joinWith hne, getLast?_joinWith hne]
  constructor
  · intro c hc
    obtain ⟨piece, hpiece, hc⟩ := Option.bind_eq_some_iff.mp hc
    exact (trim_eq_self_iff.mp (h piece (List.mem_of_mem_head? hpiece)).2).1 c hc
  · intro c hc
    obtain ⟨piece, hpiece, hc⟩ := Option.bind_eq_some_iff.mp hc
    exact (trim_eq_self_iff.mp (h piece (List.mem_of_mem_getLast? hpiece)).2).2 c hc

end Retrieval.Text
