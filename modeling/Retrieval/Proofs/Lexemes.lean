import Mathlib.Data.List.TakeWhile
import Retrieval.Literal
import Retrieval.Proofs.Numerals

/-!
The lexemes of a document: marks, names, numerals and strings. Commas and white space only separate
them. A text that lexes to some lexemes does so in front of everything that cannot go on with its
last lexeme. Main statements: names, numerals and written strings are one lexeme each, and texts
side by side lex side by side.
-/

namespace Retrieval.Document

open Retrieval.Literal

inductive Lexeme
  | mark (c : Char)
  | name (name : String)
  | numeral (cs : List Char)
  /-- A string with what stands between its quotes. -/
  | string (cs : List Char)
  deriving DecidableEq, Repr

/-- What the lexer is in the middle of. The characters of a lexeme are kept last first. -/
inductive Scan
  | between
  /-- Right after a string, where another quote would make both quotes of a block. -/
  | closed
  | name (done : List Char)
  | numeral (done : List Char)
  | string (done : List Char)
  | escape (done : List Char)
  | unit (left : Nat) (done : List Char)
  deriving DecidableEq, Repr

def marks : List Char := ['\x7b', '\x7d', '(', ')', '[', ']', ':']

/-- What stands between lexemes without a meaning of its own. -/
def blanks : List Char := [' ', ',', '\n', '\r', '\t']

/-- The characters that may stand after a backslash. -/
def escapes : List Char := ['"', '\\', '/', 'b', 'f', 'n', 'r', 't']

/-- The characters that go on with a numeral, if only to make it malformed. -/
def isNumeralChar (c : Char) : Bool := isNameChar c || c = '.' || c = '+' || c = '-'

/-- A character between lexemes. -/
def begin? (c : Char) : Option (List Lexeme × Scan) :=
  if c ∈ blanks then some ([], .between)
  else if c ∈ marks then some ([.mark c], .between)
  else if c = '"' then some ([], .string [])
  else if isNameStart c then some ([], .name [c])
  else if c.isDigit || c = '-' then some ([], .numeral [c])
  else none

/-- The lexeme that ends where no more characters go on with it; nothing inside a string. -/
def Scan.ended? : Scan → Option (List Lexeme)
  | .between => some []
  | .closed => some []
  | .name done => some [.name (String.ofList done.reverse)]
  | .numeral done => if isNumeral done.reverse then some [.numeral done.reverse] else none
  | _ => none

/-- Ends a lexeme before a character. -/
def Scan.endBefore (s : Scan) (c : Char) : Option (List Lexeme × Scan) := do
  let ended ← s.ended?
  let (begun, next) ← begin? c
  return (ended ++ begun, next)

/-- Takes one character: the lexemes that it completes, and where the lexer stands after it. -/
def Scan.step : Scan → Char → Option (List Lexeme × Scan)
  | .between, c => begin? c
  | .closed, c => if c = '"' then none else begin? c
  | .name done, c =>
    if isNameChar c then some ([], .name (c :: done)) else endBefore (.name done) c
  | .numeral done, c =>
    if isNumeralChar c then some ([], .numeral (c :: done)) else endBefore (.numeral done) c
  | .string done, c =>
    if c = '"' then some ([.string done.reverse], .closed)
    else if c = '\\' then some ([], .escape (c :: done))
    else if c.toNat < 0x20 then none
    else some ([], .string (c :: done))
  | .escape done, c =>
    if c = 'u' then some ([], .unit 4 (c :: done))
    else if c ∈ escapes then some ([], .string (c :: done))
    else none
  | .unit left done, c =>
    if (Text.hexValue? c).isNone then none
    else if left ≤ 1 then some ([], .string (c :: done))
    else some ([], .unit (left - 1) (c :: done))

/-- The lexemes of some characters, from where the lexer stands. -/
def scan : Scan → List Char → Option (List Lexeme)
  | s, [] => s.ended?
  | s, c :: cs => do
    let (ls, next) ← s.step c
    let rest ← scan next cs
    return ls ++ rest

/-- The lexemes of some characters; nothing if they are no lexemes. -/
def lex (cs : List Char) : Option (List Lexeme) := scan .between cs

/-- Characters that end every lexeme but a string. -/
def IsBreak (c : Char) : Prop := c ∈ blanks ++ marks

instance (c : Char) : Decidable (IsBreak c) := inferInstanceAs (Decidable (c ∈ blanks ++ marks))

/-- What follows does not go on with a lexeme before it. -/
def Breaks (rest : List Char) : Prop := ∀ c ∈ rest.head?, IsBreak c

/-- Some characters lex to some lexemes, in front of everything that does not go on with them. -/
def Lexes (cs : List Char) (ls : List Lexeme) : Prop :=
  ∀ rest, Breaks rest → lex (cs ++ rest) = (lex rest).map (ls ++ ·)

theorem breaks_nil : Breaks [] := by simp [Breaks]

theorem breaks_cons {c : Char} (h : IsBreak c) (cs : List Char) : Breaks (c :: cs) := by
  rintro d ⟨⟩
  exact h

theorem scan_cons {s next : Scan} {c : Char} {ls : List Lexeme} (h : s.step c = some (ls, next))
    (cs : List Char) : scan s (c :: cs) = (scan next cs).map (ls ++ ·) := by
  cases hrest : scan next cs <;> simp [scan, h, hrest]

theorem scan_cons_silent {s next : Scan} {c : Char} (h : s.step c = some ([], next))
    (cs : List Char) : scan s (c :: cs) = scan next cs := by
  simp [scan, h]

@[simp] theorem lex_nil : lex [] = some [] := rfl

theorem lex_blank {c : Char} (h : c ∈ blanks) (cs : List Char) :
    lex (c :: cs) = lex cs := scan_cons_silent (by simp [Scan.step, begin?, h]) cs

theorem not_blank_of_mark {c : Char} (h : c ∈ marks) : c ∉ blanks := by
  have hall : marks.all (fun d => !blanks.contains d) = true := by decide
  simpa using List.all_eq_true.mp hall c h

theorem lex_mark {c : Char} (h : c ∈ marks) (cs : List Char) :
    lex (c :: cs) = (lex cs).map (.mark c :: ·) := by
  have hstep : Scan.between.step c = some ([.mark c], .between) := by
    simp [Scan.step, begin?, h, not_blank_of_mark h]
  exact scan_cons hstep cs

/-- A character that ends lexemes is at most a mark by itself. -/
theorem begin?_of_isBreak {c : Char} (h : IsBreak c) :
    ∃ ls, begin? c = some (ls, .between) := by
  obtain h | h := List.mem_append.mp h
  · exact ⟨[], by simp [begin?, h]⟩
  · exact ⟨[.mark c], by simp [begin?, h, not_blank_of_mark h]⟩

/-- A lexeme that is not gone on with ends. -/
theorem scan_ended {s : Scan} {ls : List Lexeme} {rest : List Char} (hended : s.ended? = some ls)
    (hstep : ∀ c, IsBreak c → s.step c = s.endBefore c) (hrest : Breaks rest) :
    scan s rest = (lex rest).map (ls ++ ·) := by
  cases rest with
  | nil => simp [scan, hended]
  | cons c cs =>
    have hc := hrest c rfl
    obtain ⟨begun, hbegin⟩ := begin?_of_isBreak hc
    have hlex : lex (c :: cs) = (lex cs).map (begun ++ ·) :=
      scan_cons (s := .between) hbegin cs
    have hend : s.step c = some (ls ++ begun, .between) := by
      rw [hstep c hc, Scan.endBefore, hended, hbegin]
      rfl
    rw [scan_cons hend, hlex, Option.map_map]
    congr 1
    funext more
    simp

theorem not_isNumeralChar_of_isBreak {c : Char} (h : IsBreak c) : isNumeralChar c = false := by
  have hall : (blanks ++ marks).all (fun d => !isNumeralChar d) = true := by decide
  simpa using List.all_eq_true.mp hall c h

theorem not_isNameChar_of_isBreak {c : Char} (h : IsBreak c) : isNameChar c = false := by
  have hnumeral := not_isNumeralChar_of_isBreak h
  simp only [isNumeralChar, Bool.or_eq_false_iff] at hnumeral
  exact hnumeral.1.1.1

theorem scan_closed {rest : List Char} (hrest : Breaks rest) : scan .closed rest = lex rest := by
  have hall : (blanks ++ marks).all (fun d => d != '"') = true := by decide
  cases rest with
  | nil => rfl
  | cons c cs =>
    have hc : c ≠ '"' := by simpa using List.all_eq_true.mp hall c (hrest c rfl)
    simp [scan, lex, Scan.step, hc]

/-- Characters that go on with a name are taken up. -/
theorem scan_name (cs done rest : List Char) (h : ∀ c ∈ cs, isNameChar c = true) :
    scan (.name done) (cs ++ rest) = scan (.name (cs.reverse ++ done)) rest := by
  induction cs generalizing done with
  | nil => rfl
  | cons c cs ih =>
    have hstep : (Scan.name done).step c = some ([], .name (c :: done)) := by
      simp [Scan.step, h c (by simp)]
    rw [List.cons_append, scan_cons_silent hstep, ih _ fun d hd => h d (by simp [hd])]
    simp

theorem begin?_of_isNameStart {c : Char} (h : isNameStart c = true) :
    begin? c = some ([], .name [c]) := by
  have hall : ('"' :: (blanks ++ marks)).all (fun d => !isNameStart d) = true := by decide
  have hother : c ∉ '"' :: (blanks ++ marks) := fun hc => by
    simpa [h] using List.all_eq_true.mp hall c hc
  simp only [List.mem_cons, List.mem_append, not_or] at hother
  simp [begin?, hother, h]

theorem lexes_name {name : List Char} (h : isName name = true) :
    Lexes name [.name (String.ofList name)] := by
  obtain ⟨c, cs, rfl, hstart, hall⟩ := exists_cons_of_isName h
  intro rest hrest
  have hstep : Scan.between.step c = some ([], .name [c]) := begin?_of_isNameStart hstart
  rw [List.cons_append, lex, scan_cons_silent hstep,
    scan_name cs [c] rest fun d hd => hall d (by simp [hd])]
  refine scan_ended (by simp [Scan.ended?]) (fun d hd => ?_) hrest
  simp [Scan.step, not_isNameChar_of_isBreak hd]

/-- Characters that go on with a numeral are taken up. -/
theorem scan_numeral (cs done rest : List Char) (h : ∀ c ∈ cs, isNumeralChar c = true) :
    scan (.numeral done) (cs ++ rest) = scan (.numeral (cs.reverse ++ done)) rest := by
  induction cs generalizing done with
  | nil => rfl
  | cons c cs ih =>
    have hstep : (Scan.numeral done).step c = some ([], .numeral (c :: done)) := by
      simp [Scan.step, h c (by simp)]
    rw [List.cons_append, scan_cons_silent hstep, ih _ fun d hd => h d (by simp [hd])]
    simp

theorem begin?_of_numeral {c : Char} (h : c.isDigit = true ∨ c = '-') :
    begin? c = some ([], .numeral [c]) := by
  have hall : ('"' :: (blanks ++ marks)).all (fun d => !(d.isDigit || d == '-')) = true := by decide
  have hother : c ∉ '"' :: (blanks ++ marks) := fun hc => by
    have hnone := List.all_eq_true.mp hall c hc
    obtain h | rfl := h
    · simp [h] at hnone
    · simp at hnone
  have hname : isNameStart c = false := by
    cases hstart : isNameStart c with
    | false => rfl
    | true =>
      obtain hdigit | rfl := h
      · rw [not_isDigit_of_isNameStart hstart] at hdigit
        cases hdigit
      · revert hstart
        decide
  simp only [List.mem_cons, List.mem_append, not_or] at hother
  simp [begin?, hother, hname, h]

theorem isNumeralChar_of_isDigit {c : Char} (h : c.isDigit = true) : isNumeralChar c = true := by
  simp [isNumeralChar, isNameChar, h]

theorem isNumeralChar_of_areDigits {ds : List Char} (h : areDigits ds = true) :
    ∀ c ∈ ds, isNumeralChar c = true :=
  fun c hc => isNumeralChar_of_isDigit (((areDigits_iff ds).mp h).2 c hc)

theorem isNumeralChar_of_isPower {cs : List Char} (h : isPower cs = true) :
    ∀ c ∈ cs, isNumeralChar c = true := by
  cases cs with
  | nil => simp
  | cons e cs =>
    simp only [isPower, Bool.and_eq_true, Bool.or_eq_true, decide_eq_true_eq] at h
    obtain ⟨he, hdigits⟩ := h
    have hdrop := isNumeralChar_of_areDigits hdigits
    intro c hc
    obtain rfl | hc := List.mem_cons.mp hc
    · obtain rfl | rfl := he <;> decide
    · unfold dropSign at hdrop
      split at hdrop
      · obtain rfl | hc := List.mem_cons.mp hc
        · decide
        · exact hdrop c hc
      · obtain rfl | hc := List.mem_cons.mp hc
        · decide
        · exact hdrop c hc
      · exact hdrop c hc

theorem isNumeralChar_of_isTail {cs : List Char} (h : isTail cs = true) :
    ∀ c ∈ cs, isNumeralChar c = true := by
  unfold isTail at h
  split at h
  · next cs =>
    rw [Bool.and_eq_true] at h
    intro c hc
    obtain rfl | hc := List.mem_cons.mp hc
    · decide
    rw [← List.takeWhile_append_dropWhile (p := Char.isDigit) (l := cs)] at hc
    obtain hc | hc := List.mem_append.mp hc
    · exact isNumeralChar_of_areDigits h.1 c hc
    · exact isNumeralChar_of_isPower h.2 c hc
  · exact isNumeralChar_of_isPower h

theorem exists_cons_of_isMagnitude {cs : List Char} (h : isMagnitude cs = true) :
    ∃ c rest, cs = c :: rest ∧ c.isDigit = true ∧ ∀ d ∈ cs, isNumeralChar d = true := by
  rw [isMagnitude, Bool.and_eq_true] at h
  have hall : ∀ d ∈ cs, isNumeralChar d = true := by
    intro d hd
    rw [← List.takeWhile_append_dropWhile (p := Char.isDigit) (l := cs)] at hd
    obtain hd | hd := List.mem_append.mp hd
    · exact isNumeralChar_of_isDigit (List.mem_takeWhile_imp hd)
    · exact isNumeralChar_of_isTail h.2 d hd
  cases cs with
  | nil => cases h.1
  | cons c rest =>
    refine ⟨c, rest, rfl, ?_, hall⟩
    cases hc : c.isDigit with
    | true => rfl
    | false => simp [hc, isWhole] at h

theorem exists_cons_of_isNumeral {cs : List Char} (h : isNumeral cs = true) :
    ∃ c rest, cs = c :: rest ∧ (c.isDigit = true ∨ c = '-') ∧
      ∀ d ∈ cs, isNumeralChar d = true := by
  unfold isNumeral at h
  split at h
  · next cs =>
    obtain ⟨-, -, -, -, hall⟩ := exists_cons_of_isMagnitude h
    refine ⟨'-', cs, rfl, .inr rfl, fun d hd => ?_⟩
    obtain rfl | hd := List.mem_cons.mp hd
    · decide
    · exact hall d hd
  · obtain ⟨c, rest, hcs, hc, hall⟩ := exists_cons_of_isMagnitude h
    exact ⟨c, rest, hcs, .inl hc, hall⟩

theorem lexes_numeral {cs : List Char} (h : isNumeral cs = true) : Lexes cs [.numeral cs] := by
  obtain ⟨c, rest, rfl, hstart, hall⟩ := exists_cons_of_isNumeral h
  intro more hmore
  have hstep : Scan.between.step c = some ([], .numeral [c]) := begin?_of_numeral hstart
  rw [List.cons_append, lex, scan_cons_silent hstep,
    scan_numeral rest [c] more fun d hd => hall d (by simp [hd])]
  refine scan_ended (by simp [Scan.ended?, h]) (fun d hd => ?_) hmore
  simp [Scan.step, not_isNumeralChar_of_isBreak hd]

theorem hexDigits_isSome (width n : Nat) :
    ∀ c ∈ Text.hexDigits width n, (Text.hexValue? c).isSome = true := by
  induction width generalizing n with
  | zero => simp [Text.hexDigits]
  | succ width ih =>
    intro c hc
    obtain hc | hc := List.mem_append.mp hc
    · exact ih _ c hc
    · rw [List.mem_singleton.mp hc, Text.hexValue?_hexDigit (Nat.mod_lt n (by decide))]
      rfl

/-- The digits of an escape are taken up. -/
theorem scan_unit (ds done rest : List Char) (hne : ds ≠ [])
    (h : ∀ c ∈ ds, (Text.hexValue? c).isSome = true) :
    scan (.unit ds.length done) (ds ++ rest) = scan (.string (ds.reverse ++ done)) rest := by
  induction ds generalizing done with
  | nil => exact absurd rfl hne
  | cons c cs ih =>
    have hc : (Text.hexValue? c).isNone = false := by
      have hsome := h c (by simp)
      simpa using hsome
    cases cs with
    | nil =>
      have hstep : (Scan.unit [c].length done).step c = some ([], .string (c :: done)) := by
        simp [Scan.step, hc]
      exact scan_cons_silent hstep rest
    | cons e more =>
      have hstep : (Scan.unit (c :: e :: more).length done).step c =
          some ([], .unit (e :: more).length (c :: done)) := by
        simp [Scan.step, hc]
      rw [List.cons_append, scan_cons_silent hstep,
        ih _ (by simp) fun d hd => h d (by simp [hd])]
      simp

theorem scan_backslash (done rest : List Char) : scan (.string done) ('\\' :: rest) =
    scan (.escape ('\\' :: done)) rest := scan_cons_silent (by simp [Scan.step]) rest

theorem scan_escape {d : Char} (hd : d ∈ escapes) (done rest : List Char) :
    scan (.string done) ('\\' :: d :: rest) = scan (.string (d :: '\\' :: done)) rest := by
  have hu : d ≠ 'u' := by
    rintro rfl
    revert hd
    decide
  rw [scan_backslash]
  exact scan_cons_silent (by simp [Scan.step, hu, hd]) rest

theorem scan_escapeUnit (n : Nat) (done rest : List Char) :
    scan (.string done) (Json.escapeUnit n ++ rest) =
      scan (.string ((Json.escapeUnit n).reverse ++ done)) rest := by
  have hopen : (Scan.escape ('\\' :: done)).step 'u' =
      some ([], .unit 4 ('u' :: '\\' :: done)) := by simp [Scan.step]
  have hne : Text.hexDigits 4 n ≠ [] := by simp [Text.hexDigits]
  have hdigits := scan_unit _ ('u' :: '\\' :: done) rest hne (hexDigits_isSome 4 n)
  rw [Text.length_hexDigits] at hdigits
  rw [Json.escapeUnit, List.append_assoc, List.cons_append, scan_backslash, List.cons_append,
    scan_cons_silent hopen, List.nil_append, hdigits]
  simp

/-- A character as it is written inside a string stays inside the string. -/
theorem scan_escapeChar (c : Char) (done rest : List Char) :
    scan (.string done) (Json.escapeChar c ++ rest) =
      scan (.string ((Json.escapeChar c).reverse ++ done)) rest := by
  unfold Json.escapeChar
  split
  · exact scan_escape (by decide) done rest
  split
  · exact scan_escape (by decide) done rest
  split
  · exact scan_escape (by decide) done rest
  split
  · exact scan_escape (by decide) done rest
  split
  · exact scan_escape (by decide) done rest
  split
  · exact scan_escape (by decide) done rest
  split
  · exact scan_escape (by decide) done rest
  split
  · exact scan_escapeUnit _ done rest
  · next hquote hslash _ _ _ _ _ hcontrol =>
    exact scan_cons_silent (by simp [Scan.step, hquote, hslash, hcontrol]) rest

theorem scan_escapeChars (cs done rest : List Char) :
    scan (.string done) (cs.flatMap Json.escapeChar ++ rest) =
      scan (.string ((cs.flatMap Json.escapeChar).reverse ++ done)) rest := by
  induction cs generalizing done with
  | nil => rfl
  | cons c cs ih =>
    rw [List.flatMap_cons, List.append_assoc, scan_escapeChar, ih]
    simp

/-- Whatever the characters of a string are, it is one lexeme. -/
theorem lexes_string (cs : List Char) :
    Lexes (Json.stringChars cs) [.string (cs.flatMap Json.escapeChar)] := by
  intro rest hrest
  have hopen : Scan.between.step '"' = some ([], .string []) := rfl
  have hclose (done : List Char) : (Scan.string done).step '"' =
      some ([.string done.reverse], .closed) := by simp [Scan.step]
  simp only [Json.stringChars, List.append_assoc, List.cons_append, List.nil_append]
  rw [lex, scan_cons_silent hopen, scan_escapeChars, scan_cons (hclose _), scan_closed hrest]
  simp

theorem lexes_nil : Lexes [] [] := by
  intro rest _
  simp

/-- Texts side by side lex side by side, if the second does not go on with the first. -/
theorem Lexes.append {cs ds : List Char} {ls ms : List Lexeme} (h : Lexes cs ls)
    (h' : Lexes ds ms) (hbreak : ∀ rest, Breaks rest → Breaks (ds ++ rest)) :
    Lexes (cs ++ ds) (ls ++ ms) := by
  intro rest hrest
  rw [List.append_assoc, h _ (hbreak rest hrest), h' rest hrest, Option.map_map]
  congr 1
  funext more
  simp

theorem Lexes.mark {c : Char} (hc : c ∈ marks) {cs : List Char} {ls : List Lexeme}
    (h : Lexes cs ls) : Lexes (c :: cs) (.mark c :: ls) := by
  intro rest hrest
  rw [List.cons_append, lex_mark hc, h rest hrest, Option.map_map]
  rfl

theorem Lexes.blank {c : Char} (hc : c ∈ blanks) {cs : List Char} {ls : List Lexeme}
    (h : Lexes cs ls) : Lexes (c :: cs) ls := by
  intro rest hrest
  rw [List.cons_append, lex_blank hc, h rest hrest]

/-- In front of a break, the second text need not be looked at. -/
theorem Lexes.append_cons {cs ds : List Char} {c : Char} {ls ms : List Lexeme} (h : Lexes cs ls)
    (hc : IsBreak c) (h' : Lexes (c :: ds) ms) : Lexes (cs ++ c :: ds) (ls ++ ms) :=
  h.append h' fun rest _ => breaks_cons hc (ds ++ rest)

theorem lex_of_lexes {cs : List Char} {ls : List Lexeme} (h : Lexes cs ls) : lex cs = some ls := by
  have hwhole := h [] breaks_nil
  simpa using hwhole

end Retrieval.Document
