import Retrieval.Proofs.Traversal
import Retrieval.Template

/-!
Where the placeholders of a template are. The parts of a template are told by its text alone, and
what follows after all open braces are closed does not change them. Main statement: a template is
filled in part by part, and what comes from a record in the place of a placeholder is never looked
at again.
-/

namespace Retrieval.Template

open Retrieval.Text

variable {cs ds name seen : List Char} {st : Option (List Char)} {c : Char}
  {record other : Entries Value}

/-- What may stand inside a placeholder: a letter or an underscore, then word characters and
points. -/
def IsName : List Char → Prop
  | [] => False
  | c :: rest => isInitial c = true ∧ ∀ d ∈ rest, isInner d = true

/-- A placeholder stands somewhere in a text. -/
def HasPlaceholder (cs name : List Char) : Prop := IsName name ∧ written name <:+: cs

/-- A closing brace follows somewhere after each opening one: no brace is opened after the last
one that closes, and none at all where none closes. -/
def IsClosed (cs : List Char) : Prop :=
  ∀ before after, cs = before ++ '\x7b' :: after → '\x7d' ∈ after

theorem isClosed_nil : IsClosed [] := by
  intro before after h
  simp at h

theorem isClosed_cons : IsClosed (c :: cs) ↔ (c = '\x7b' → '\x7d' ∈ cs) ∧ IsClosed cs := by
  constructor
  · intro h
    exact ⟨fun hc => h [] cs (congrArg (· :: cs) hc),
      fun before after heq => h (c :: before) after (congrArg (c :: ·) heq)⟩
  · rintro ⟨hhead, hrest⟩ before after heq
    cases before with
    | nil =>
      obtain ⟨rfl, rfl⟩ := List.cons.inj heq
      exact hhead rfl
    | cons d before => exact hrest before after (List.cons.inj heq).2

instance decidableIsClosed : DecidablePred IsClosed
  | [] => .isTrue isClosed_nil
  | _ :: cs =>
    have := decidableIsClosed cs
    decidable_of_iff _ isClosed_cons.symm

/-- The parts that one character brings to an end, and what is open after it. -/
def step : Option (List Char) → Char → List Piece × Option (List Char)
  | none, c => if c = '\x7b' then ([], some []) else ([.literal c], none)
  | some [], c =>
    if isInitial c then ([], some [c])
    else if c = '\x7b' then ([.literal '\x7b'], some [])
    else ([.literal '\x7b', .literal c], none)
  | some seen, c =>
    if c = '\x7d' then ([.placeholder seen.reverse], none)
    else if isInner c then ([], some (c :: seen))
    else if c = '\x7b' then (literals ('\x7b' :: seen.reverse), some [])
    else (literals ('\x7b' :: seen.reverse) ++ [.literal c], none)

/-- The characters since an open brace, which may turn out to begin a placeholder. -/
def pending : Option (List Char) → List Char
  | none => []
  | some seen => '\x7b' :: seen.reverse

theorem scan_nil (st : Option (List Char)) : scan [] st = literals (pending st) := by
  cases st <;> rfl

theorem scan_cons (c : Char) (cs : List Char) (st : Option (List Char)) :
    scan (c :: cs) st = (step st c).1 ++ scan cs (step st c).2 := by
  match st with
  | none => rw [scan, step]; split <;> rfl
  | some [] =>
    rw [scan, step]
    split
    · rfl
    · split <;> rfl
  | some (d :: seen) =>
    rw [scan, step]
    · split
      · rfl
      · split
        · rfl
        · split <;> simp
    · simp
    · simp

/-- The parts that a text brings to an end. -/
def ended : List Char → Option (List Char) → List Piece
  | [], _ => []
  | c :: cs, st => (step st c).1 ++ ended cs (step st c).2

/-- What is open after a text. -/
def opened : List Char → Option (List Char) → Option (List Char)
  | [], st => st
  | c :: cs, st => opened cs (step st c).2

theorem scan_append (cs ds : List Char) (st : Option (List Char)) :
    scan (cs ++ ds) st = ended cs st ++ scan ds (opened cs st) := by
  induction cs generalizing st with
  | nil => rfl
  | cons c cs ih => rw [List.cons_append, scan_cons, ih, ended, opened, List.append_assoc]

theorem not_isInner_opening : isInner '\x7b' = false := by decide +kernel

theorem not_isInner_closing : isInner '\x7d' = false := by decide +kernel

theorem step_closing (st : Option (List Char)) : (step st '\x7d').2 = none := by
  match st with
  | none => rfl
  | some [] => rfl
  | some (_ :: _) => rfl

theorem step_opening (st : Option (List Char)) : (step st '\x7b').2 = some [] := by
  match st with
  | none => rfl
  | some [] => rfl
  | some (d :: seen) =>
    rw [step]
    · simp [not_isInner_opening]
    · simp

theorem step_none (h : c ≠ '\x7b') : (step none c).2 = none := by
  rw [step, if_neg h]

/-- After a text with all its braces closed nothing is open. -/
theorem opened_eq_none (h : IsClosed cs) (hst : st = none ∨ '\x7d' ∈ cs) : opened cs st = none := by
  induction cs generalizing st with
  | nil => simpa [opened] using hst
  | cons c cs ih =>
    obtain ⟨hhead, hrest⟩ := isClosed_cons.mp h
    refine ih hrest ?_
    -- what a brace opens is closed further on, and one that closes leaves nothing open
    by_cases hopening : c = '\x7b'
    · exact .inr (hhead hopening)
    by_cases hclosing : c = '\x7d'
    · exact .inl (hclosing ▸ step_closing st)
    obtain rfl | hmem := hst
    · exact .inl (step_none hopening)
    · exact .inr ((List.mem_cons.mp hmem).resolve_left (Ne.symm hclosing))

/-- The parts of a closed text are not changed by what follows. -/
theorem pieces_append (h : IsClosed cs) (ds : List Char) :
    pieces (cs ++ ds) = pieces cs ++ pieces ds := by
  have hnone := opened_eq_none h (.inl (Eq.refl none))
  have hself := scan_append cs [] none
  rw [List.append_nil, hnone, scan_nil] at hself
  rw [pieces, scan_append, hnone, pieces, hself]
  simp [pending, literals, pieces]

theorem chars_step (st : Option (List Char)) (c : Char) :
    (step st c).1.flatMap Piece.chars ++ pending (step st c).2 = pending st ++ [c] := by
  match st with
  | none => rw [step]; split <;> simp_all [pending, Piece.chars]
  | some [] =>
    rw [step]
    split
    · rfl
    · split <;> simp_all [pending, Piece.chars]
  | some (d :: seen) =>
    rw [step]
    · split
      · next h => simp [pending, Piece.chars, written, h]
      · split
        · simp [pending]
        · split <;> simp_all [pending, Piece.chars, flatMap_literals]
    · simp

theorem chars_scan (cs : List Char) (st : Option (List Char)) :
    (scan cs st).flatMap Piece.chars = pending st ++ cs := by
  induction cs generalizing st with
  | nil => rw [scan_nil, flatMap_literals, List.append_nil]
  | cons c cs ih =>
    rw [scan_cons, List.flatMap_append, ih, ← List.append_assoc, chars_step, List.append_assoc]
    rfl

/-- The parts of a text, as they are written, are the text. -/
theorem chars_pieces (cs : List Char) : (pieces cs).flatMap Piece.chars = cs := chars_scan cs none

/-- What was read since an open brace may stand inside a placeholder. -/
def MayGoOn (st : Option (List Char)) : Prop := ∀ seen ∈ st, seen = [] ∨ IsName seen.reverse

theorem isName_concat (h : IsName name) (hc : isInner c = true) : IsName (name ++ [c]) := by
  cases name with
  | nil => exact h.elim
  | cons first rest =>
    refine ⟨h.1, fun d hd => ?_⟩
    obtain hd | hd := List.mem_append.mp hd
    · exact h.2 d hd
    · rwa [List.mem_singleton.mp hd]

theorem mayGoOn_step (h : MayGoOn st) (c : Char) :
    (∀ name, .placeholder name ∈ (step st c).1 → IsName name) ∧ MayGoOn (step st c).2 := by
  match st with
  | none => rw [step]; split <;> simp [MayGoOn]
  | some [] =>
    rw [step]
    split
    · next hc => simp [MayGoOn, IsName, hc]
    · split <;> simp [MayGoOn]
  | some (d :: seen) =>
    have hname : IsName (d :: seen).reverse := (h _ rfl).resolve_left (by simp)
    rw [step]
    · split
      · simpa [MayGoOn] using hname
      · split
        · next hc =>
          have hmore := isName_concat hname hc
          simp_all [MayGoOn]
        · split <;> simp [MayGoOn, literals]
    · simp

theorem isName_of_mem_scan (h : MayGoOn st) (hmem : .placeholder name ∈ scan cs st) :
    IsName name := by
  induction cs generalizing st with
  | nil => simp [scan_nil, literals] at hmem
  | cons c cs ih =>
    obtain ⟨hnames, hnext⟩ := mayGoOn_step h c
    rw [scan_cons] at hmem
    exact (List.mem_append.mp hmem).elim (hnames name) (ih hnext)

theorem scan_inner {rest : List Char} (h : ∀ d ∈ rest, isInner d = true) (seen : List Char)
    (last : Char) (cs : List Char) :
    scan (rest ++ '\x7d' :: cs) (some (last :: seen)) =
      .placeholder ((last :: seen).reverse ++ rest) :: scan cs none := by
  induction rest generalizing seen last with
  | nil => rw [List.nil_append, scan_cons, List.append_nil]; rfl
  | cons d rest ih =>
    obtain ⟨hd, hrest⟩ := List.forall_mem_cons.mp h
    have hclosing : d ≠ '\x7d' := by
      rintro rfl
      simp [not_isInner_closing] at hd
    have hstep : step (some (last :: seen)) d = ([], some (d :: last :: seen)) := by
      rw [step, if_neg hclosing, if_pos hd]
      simp
    rw [List.cons_append, scan_cons, hstep, ih hrest]
    simp

/-- A name up to its closing brace is a placeholder. -/
theorem scan_name (h : IsName name) (cs : List Char) :
    scan (name ++ '\x7d' :: cs) (some []) = .placeholder name :: scan cs none := by
  cases name with
  | nil => exact h.elim
  | cons c rest =>
    rw [List.cons_append, scan_cons, step, if_pos h.1]
    exact scan_inner h.2 [] c cs

/-- The parts of a text that are placeholders are those that stand in it. -/
theorem placeholder_mem_pieces_iff : .placeholder name ∈ pieces cs ↔ HasPlaceholder cs name := by
  constructor
  · intro h
    refine ⟨isName_of_mem_scan (by simp [MayGoOn]) h, ?_⟩
    obtain ⟨before, after, hsplit⟩ := List.append_of_mem h
    refine ⟨before.flatMap Piece.chars, after.flatMap Piece.chars, ?_⟩
    rw [← chars_pieces cs, hsplit]
    simp [Piece.chars]
  · rintro ⟨hname, before, after, rfl⟩
    have hwritten : before ++ written name ++ after =
        before ++ '\x7b' :: (name ++ '\x7d' :: after) := by simp [written]
    rw [pieces, hwritten, scan_append, scan_cons, step_opening, scan_name hname]
    simp

/-- A text without a placeholder has only characters that stand for themselves. -/
theorem pieces_eq_literals (h : ∀ name, ¬ HasPlaceholder cs name) : pieces cs = literals cs := by
  have hmap : ∀ ps : List Piece, (∀ name, .placeholder name ∉ ps) →
      ps = literals (ps.flatMap Piece.chars) := by
    intro ps hps
    induction ps with
    | nil => rfl
    | cons p ps ih =>
      have hrest := ih fun name hmem => hps name (List.mem_cons_of_mem p hmem)
      cases p with
      | literal c => exact congrArg (Piece.literal c :: ·) hrest
      | placeholder name => exact absurd List.mem_cons_self (hps name)
  have hself := hmap (pieces cs) fun name hmem => h name (placeholder_mem_pieces_iff.mp hmem)
  rwa [chars_pieces] at hself

/-- A name in braces is one placeholder and nothing else. -/
theorem pieces_written (h : IsName name) : pieces (written name) = [.placeholder name] :=
  scan_name h []

theorem fillPieces_eq (record : Entries Value) (ps : List Piece) :
    fillPieces record ps = List.flatten <$> ps.mapM (Piece.fill record) := by
  induction ps with
  | nil => rfl
  | cons p ps ih =>
    rw [fillPieces, ih, List.mapM_cons]
    cases p.fill record with
    | error e => rfl
    | ok cs => cases ps.mapM (Piece.fill record) <;> rfl

/-- Parts are filled in one after the other. -/
theorem fillPieces_append (record : Entries Value) (ps qs : List Piece) :
    fillPieces record (ps ++ qs) =
      do return (← fillPieces record ps) ++ (← fillPieces record qs) := by
  simp only [fillPieces_eq, List.mapM_append]
  cases ps.mapM (Piece.fill record) with
  | error e => rfl
  | ok texts =>
    cases qs.mapM (Piece.fill record) with
    | error e => rfl
    | ok more => exact congrArg Except.ok List.flatten_append

theorem fillPieces_literals (record : Entries Value) (cs : List Char) :
    fillPieces record (literals cs) = .ok cs := by
  induction cs with
  | nil => rfl
  | cons c cs ih => rw [literals, List.map_cons, fillPieces, ← literals, ih]; rfl

/-- A part is filled in the same way from records that agree about its placeholder. -/
theorem fillPieces_congr {ps : List Piece}
    (h : ∀ name, .placeholder name ∈ ps → find? record name = find? other name) :
    fillPieces record ps = fillPieces other ps := by
  have hfill : ∀ p ∈ ps, p.fill record = p.fill other := by
    intro p hp
    cases p with
    | literal c => rfl
    | placeholder name => rw [Piece.fill, Piece.fill, h name hp]
  induction ps with
  | nil => rfl
  | cons p ps ih =>
    obtain ⟨hhead, hrest⟩ := List.forall_mem_cons.mp hfill
    have htail := ih (fun name hmem => h name (List.mem_cons_of_mem p hmem)) hrest
    rw [fillPieces, fillPieces, hhead, htail]

theorem fill_append {t₁ : String} (h : IsClosed t₁.toList) (t₂ : String) (record : Entries Value) :
    fill (t₁ ++ t₂) record = do return (← fill t₁ record) ++ (← fill t₂ record) := by
  rw [fill, String.toList_append, pieces_append h, fillPieces_append, fill, fill]
  cases fillPieces record (pieces t₁.toList) with
  | error e => rfl
  | ok a =>
    cases fillPieces record (pieces t₂.toList) with
    | error e => rfl
    | ok b => exact congrArg Except.ok String.ofList_append

theorem fill_written (h : IsName name) (record : Entries Value) :
    fill (String.ofList (written name)) record =
      String.ofList <$> (Piece.placeholder name).fill record := by
  rw [fill, String.toList_ofList, pieces_written h, fillPieces, fillPieces]
  cases (Piece.placeholder name).fill record with
  | error e => rfl
  | ok cs => simp

/-- Templates are filled in once and part by part. Where the first of two texts leaves no brace
open, their templates are filled in independently. A single placeholder gives way to the text of the
value it finds, and stays as it is if it finds nothing or a null. A text without placeholders stays
as it is. No other part of a record than those that the placeholders of the template itself name
has any effect, whatever the texts are that come from the record. -/
theorem fill_local (t₁ t₂ : String) (record other : Entries Value) :
    (IsClosed t₁.toList →
      fill (t₁ ++ t₂) record = do return (← fill t₁ record) ++ (← fill t₂ record)) ∧
    (∀ name, IsName name →
      (∀ v, find? record name = .ok (some v) → v ≠ .null →
        fill (String.ofList (written name)) record = .ok (Value.display v)) ∧
      (find? record name = .ok none ∨ find? record name = .ok (some .null) →
        fill (String.ofList (written name)) record = .ok (String.ofList (written name)))) ∧
    ((∀ name, ¬ HasPlaceholder t₁.toList name) → fill t₁ record = .ok t₁) ∧
    ((∀ name, HasPlaceholder t₁.toList name → find? record name = find? other name) →
      fill t₁ record = fill t₁ other) := by
  refine ⟨fun h => fill_append h t₂ record, fun name hname => ⟨fun v hfind hv => ?_, ?_⟩,
    fun h => ?_, fun h => ?_⟩
  · have hpiece : (Piece.placeholder name).fill record = .ok (Value.display v).toList := by
      rw [Piece.fill, hfind]
      cases v <;> first | rfl | exact absurd rfl hv
    rw [fill_written hname, hpiece]
    exact congrArg Except.ok String.ofList_toList
  · rintro (hfind | hfind)
    · rw [fill_written hname, Piece.fill, hfind]; rfl
    · rw [fill_written hname, Piece.fill, hfind]; rfl
  · rw [fill, pieces_eq_literals h, fillPieces_literals]
    exact congrArg Except.ok String.ofList_toList
  · rw [fill, fill, fillPieces_congr fun name hmem => h name (placeholder_mem_pieces_iff.mp hmem)]

/-- A record whose name looks like a placeholder for another of its fields. -/
def disguised (secret : String) : Entries Value :=
  [("name", .text "\x7bsecret\x7d"), ("secret", .text secret)]

/-- What looks like a placeholder in a record is left as it is. -/
theorem fill_local_disguised :
    IsClosed "Dear \x7bname\x7d".toList ∧
    fill ("Dear \x7bname\x7d" ++ ", \x7bword\x7d") (disguised "pearl") =
      .ok "Dear \x7bsecret\x7d, \x7bword\x7d" ∧
    fill "\x7bname\x7d" (disguised "pearl") = .ok "\x7bsecret\x7d" ∧
    fill "\x7bword\x7d" (disguised "pearl") = .ok "\x7bword\x7d" ∧
    fill "Dear \x7bname\x7d" (disguised "pearl") = fill "Dear \x7bname\x7d" (disguised "shell") ∧
    fill "Dear \x7b name\x7d" (disguised "pearl") = .ok "Dear \x7b name\x7d" := by
  have hclosed : IsClosed "Dear \x7bname\x7d".toList := by decide +kernel
  have hname : find? (disguised "pearl") "name".toList = .ok (some (.text "\x7bsecret\x7d")) := rfl
  have hword : find? (disguised "pearl") "word".toList = .ok none := rfl
  have hdear : pieces "Dear \x7bname\x7d".toList =
      literals "Dear ".toList ++ [.placeholder "name".toList] := by decide +kernel
  have htail : pieces ", \x7bword\x7d".toList =
      literals ", ".toList ++ [.placeholder "word".toList] := by decide +kernel
  have hspaced : pieces "Dear \x7b name\x7d".toList = literals "Dear \x7b name\x7d".toList := by
    decide +kernel
  obtain ⟨happend, hsingle, -, hsame⟩ :=
    fill_local "Dear \x7bname\x7d" ", \x7bword\x7d" (disguised "pearl") (disguised "shell")
  obtain ⟨-, -, hplain, -⟩ := fill_local "Dear \x7b name\x7d" "" (disguised "pearl") []
  refine ⟨hclosed, ?_, ?_, ?_, hsame fun name hmem => ?_, hplain fun name hmem => ?_⟩
  · rw [happend hclosed, fill, hdear, fill, htail]; rfl
  · have hmem : .placeholder "name".toList ∈ pieces "Dear \x7bname\x7d".toList :=
      hdear ▸ List.mem_concat_self
    exact (hsingle _ (placeholder_mem_pieces_iff.mp hmem).1).1 _ hname (by simp)
  · have hmem : .placeholder "word".toList ∈ pieces ", \x7bword\x7d".toList :=
      htail ▸ List.mem_concat_self
    exact (hsingle _ (placeholder_mem_pieces_iff.mp hmem).1).2 (.inl hword)
  · rw [← placeholder_mem_pieces_iff, hdear] at hmem
    obtain rfl : name = "name".toList := by simpa [literals] using hmem
    rfl
  · rw [← placeholder_mem_pieces_iff, hspaced] at hmem
    simp [literals] at hmem

end Retrieval.Template
