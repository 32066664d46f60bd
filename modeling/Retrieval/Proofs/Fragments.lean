import Mathlib.Data.List.Forall2
import Retrieval.Proofs.Limits
import Retrieval.Proofs.Outlines

/-!
Fragments of documents. Main statements: what a text adds to the outline of a document, for names,
literals, arguments and selections, wherever the text stands in the document.
-/

namespace Retrieval.Document

open Retrieval.Literal (IsName isName chars itemChars fieldChars separator exists_eq_succ_of_chars)
open Retrieval.Text (joinWith)

/-- A value that lexes, its parts apart: words and keys are names, and no number is below all
others. -/
def IsLexable : Value → Prop
  | .float x => Number.parts x ≠ .infinite true
  | .word s => IsName s
  | .map es => ∀ e ∈ es, IsName e.1
  | _ => True

/-- Fields or arguments with names for keys and values that lex. -/
def AreLexable (es : Entries Value) : Prop :=
  ∀ e ∈ es, IsName e.1 ∧ e.2.Everywhere IsLexable

theorem lexable_map (es : Entries Value) :
    (Value.map es).Everywhere IsLexable ↔ AreLexable es := by
  rw [Value.everywhere_map]
  exact forall₂_and.symm

theorem areLexable_nil : AreLexable [] := List.forall_mem_nil _

theorem areLexable_cons {key : String} {v : Value} {es : Entries Value} (hkey : IsName key)
    (h : v.Everywhere IsLexable) (hes : AreLexable es) : AreLexable ((key, v) :: es) :=
  List.forall_mem_cons.mpr ⟨⟨hkey, h⟩, hes⟩

theorem AreLexable.append {es fs : Entries Value} (hes : AreLexable es) (hfs : AreLexable fs) :
    AreLexable (es ++ fs) := List.forall_mem_append.mpr ⟨hes, hfs⟩

/-- Lexemes that are a value, wherever a value may stand in arguments. -/
def IsValue (ls : List Lexeme) : Prop :=
  ∀ outer here head names frame after frames, frame.after? = some after →
    run (.arguments outer here head names (frame :: frames)) ls =
      some (.arguments outer here head names (after :: frames))

/-- Lexemes that are items of a list. -/
def AreItems (ls : List Lexeme) : Prop :=
  ∀ outer here head names frames,
    run (.arguments outer here head names (.list :: frames)) ls =
      some (.arguments outer here head names (.list :: frames))

/-- Lexemes that are fields of an object, or arguments with the given names. -/
def AreFields (ls : List Lexeme) (keys : List String) : Prop :=
  ∀ outer here head names frames,
    run (.arguments outer here head names (.key :: frames)) ls =
      some (.arguments outer here head (if frames.isEmpty then names ++ keys else names)
        (.key :: frames))

theorem isValue_single {l : Lexeme} (h : ∀ c, l ≠ .mark c) : IsValue [l] := by
  intro outer here head names frame after frames hafter
  cases l with
  | mark c => exact absurd rfl (h c)
  | _ => cases frame <;> cases hafter <;> simp [State.step, argumentStep, Frame.after?]

theorem isValue_list {ls : List Lexeme} (h : AreItems ls) :
    IsValue (.mark '[' :: (ls ++ [.mark ']'])) := by
  intro outer here head names frame after frames hafter
  have hopen : (State.arguments outer here head names (frame :: frames)).step (.mark '[') =
      some (.arguments outer here head names (.list :: after :: frames)) := by
    cases frame <;> cases hafter <;> simp [State.step, argumentStep, Frame.after?]
  rw [run_cons, hopen, Option.bind_some, run_append, h, Option.bind_some]
  simp [State.step, argumentStep]

theorem isValue_map {ls : List Lexeme} {keys : List String} (h : AreFields ls keys) :
    IsValue (.mark '\x7b' :: (ls ++ [.mark '\x7d'])) := by
  intro outer here head names frame after frames hafter
  have hopen : (State.arguments outer here head names (frame :: frames)).step (.mark '\x7b') =
      some (.arguments outer here head names (.key :: after :: frames)) := by
    cases frame <;> cases hafter <;> simp [State.step, argumentStep, Frame.after?]
  rw [run_cons, hopen, Option.bind_some, run_append, h, Option.bind_some]
  simp [State.step, argumentStep]

theorem areItems_append {ls ms : List Lexeme} (h : IsValue ls) (h' : AreItems ms) :
    AreItems (ls ++ ms) := by
  intro outer here head names frames
  rw [run_append, h _ _ _ _ _ _ _ rfl, Option.bind_some, h']

theorem areFields_append (key : String) {ls ms : List Lexeme} {keys : List String}
    (h : IsValue ls) (h' : AreFields ms keys) :
    AreFields (.name key :: .mark ':' :: (ls ++ ms)) (key :: keys) := by
  intro outer here head names frames
  have hkey : (State.arguments outer here head names (.key :: frames)).step (.name key) =
      some (.arguments outer here head (if frames.isEmpty then names ++ [key] else names)
        (.colon :: frames)) := by
    simp [State.step, argumentStep]
  have hcolon (names : List String) :
      (State.arguments outer here head names (.colon :: frames)).step (.mark ':') =
        some (.arguments outer here head names (.value :: frames)) := by
    simp [State.step, argumentStep]
  rw [run_cons, hkey, Option.bind_some, run_cons, hcolon, Option.bind_some, run_append,
    h _ _ _ _ _ _ _ rfl, Option.bind_some, h']
  cases frames <;> simp

theorem areItems_nil : AreItems [] := fun _ _ _ _ _ => rfl

theorem areFields_nil : AreFields [] [] := by
  intro outer here head names frames
  cases frames <;> simp

theorem lexes_joinWith_cons {piece : List Char} {pieces : List (List Char)} {ls ms : List Lexeme}
    (h : Lexes piece ls) (h' : Lexes (joinWith separator pieces) ms) :
    Lexes (joinWith separator (piece :: pieces)) (ls ++ ms) := by
  cases pieces with
  | nil => simpa [joinWith] using h.append h' fun rest hrest => hrest
  | cons next more =>
    have hblank := h'.blank (c := ' ') (by decide)
    simpa [joinWith, separator] using
      h.append_cons (c := ',') (by decide) (hblank.blank (c := ',') (by decide))

/-- Lexemes between two marks. -/
theorem Lexes.between {cs : List Char} {ls : List Lexeme} {c d : Char} (h : Lexes cs ls)
    (hc : c ∈ marks) (hd : d ∈ marks) :
    Lexes ([c] ++ cs ++ [d]) (.mark c :: (ls ++ [.mark d])) := by
  have hend := h.append_cons (List.mem_append_right _ hd) (lexes_nil.mark hd)
  simpa using hend.mark hc

theorem exists_lexes_float {x : Float} (h : Number.parts x ≠ .infinite true) :
    ∃ ls, Lexes (Number.data x).toList ls ∧ IsValue ls := by
  cases hparts : Number.parts x with
  | nan =>
    have hdata : (Number.data x).toList = ['N', 'a', 'N'] := by
      simp [Number.data, Number.Layout.write, hparts, Number.dataLayout]
    rw [hdata]
    exact ⟨_, lexes_name rfl, isValue_single (by simp)⟩
  | infinite negative =>
    cases negative with
    | true => exact absurd hparts h
    | false =>
      have hdata : (Number.data x).toList = ['I', 'n', 'f', 'i', 'n', 'i', 't', 'y'] := by
        simp [Number.data, Number.Layout.write, hparts, Number.dataLayout]
      rw [hdata]
      exact ⟨_, lexes_name rfl, isValue_single (by simp)⟩
  | finite negative m q =>
    have hfinite : Number.isFinite x = true := by simp [Number.isFinite, hparts]
    exact ⟨_, lexes_numeral (Literal.isNumeral_data hfinite), isValue_single (by simp)⟩

mutual

/-- The literal of a value is a value, whatever its texts are. -/
theorem exists_lexes_chars {room : Nat} {v : Value} (h : v.Everywhere IsLexable) {cs : List Char}
    (hcs : chars room v = .ok cs) : ∃ ls, Lexes cs ls ∧ IsValue ls := by
  obtain ⟨room, rfl⟩ := exists_eq_succ_of_chars hcs
  cases v with
  | null =>
    obtain rfl := Except.ok.inj hcs
    exact ⟨_, lexes_name rfl, isValue_single (by simp)⟩
  | bool b =>
    cases b <;> obtain rfl := Except.ok.inj hcs <;>
      exact ⟨_, lexes_name rfl, isValue_single (by simp)⟩
  | int n =>
    obtain rfl := Literal.chars_int_eq_ok hcs
    exact ⟨_, lexes_numeral (Literal.isNumeral_integer n), isValue_single (by simp)⟩
  | float x =>
    obtain rfl := Except.ok.inj hcs
    exact exists_lexes_float h.here
  | text s =>
    obtain rfl := Except.ok.inj hcs
    exact ⟨_, lexes_string s.toList, isValue_single (by simp)⟩
  | word s =>
    obtain rfl := Except.ok.inj hcs
    exact ⟨_, lexes_name h.here, isValue_single (by simp)⟩
  | seq kind items =>
    rw [Value.everywhere_seq] at h
    have hitems {css : List (List Char)} (hcss : itemChars room items = .ok css) :
        ∃ ls, Lexes (['['] ++ joinWith separator css ++ [']']) ls ∧ IsValue ls := by
      obtain ⟨ls, hlexes, hare⟩ := exists_lexes_items h.2 hcss
      exact ⟨_, hlexes.between (by decide) (by decide), isValue_list hare⟩
    cases kind with
    | list | tuple =>
      obtain ⟨css, hcss, hjoined⟩ := bind_eq_ok_iff.mp hcs
      obtain rfl := Except.ok.inj hjoined
      exact hitems hcss
    | set | frozenSet => cases hcs
  | map es =>
    obtain ⟨css, hcss, hjoined⟩ := bind_eq_ok_iff.mp hcs
    obtain rfl := Except.ok.inj hjoined
    obtain ⟨ls, hlexes, hare⟩ := exists_lexes_fields ((lexable_map es).mp h) hcss
    exact ⟨_, hlexes.between (by decide) (by decide), isValue_map hare⟩
  | date d => cases hcs
  | dateTime t => cases hcs
  | «foreign» => cases hcs

theorem exists_lexes_items {room : Nat} {vs : List Value} (h : ∀ v ∈ vs, v.Everywhere IsLexable)
    {css : List (List Char)} (hcss : itemChars room vs = .ok css) :
    ∃ ls, Lexes (joinWith separator css) ls ∧ AreItems ls := by
  cases vs with
  | nil =>
    obtain rfl := Except.ok.inj hcss
    exact ⟨[], lexes_nil, areItems_nil⟩
  | cons v rest =>
    obtain ⟨x, hx, hrest⟩ := bind_eq_ok_iff.mp hcss
    obtain ⟨xs, hxs, hcons⟩ := bind_eq_ok_iff.mp hrest
    obtain rfl := Except.ok.inj hcons
    obtain ⟨ls, hlexes, hvalue⟩ := exists_lexes_chars (h v (by simp)) hx
    obtain ⟨ms, hmore, hitems⟩ := exists_lexes_items (fun w hw => h w (by simp [hw])) hxs
    exact ⟨ls ++ ms, lexes_joinWith_cons hlexes hmore, areItems_append hvalue hitems⟩

theorem exists_lexes_fields {room : Nat} {es : List (String × Value)} (h : AreLexable es)
    {css : List (List Char)} (hcss : fieldChars room es = .ok css) :
    ∃ ls, Lexes (joinWith separator css) ls ∧ AreFields ls (Entries.keys es) := by
  cases es with
  | nil =>
    obtain rfl := Except.ok.inj hcss
    exact ⟨[], lexes_nil, areFields_nil⟩
  | cons e rest =>
    obtain ⟨x, hx, hrest⟩ := bind_eq_ok_iff.mp hcss
    obtain ⟨xs, hxs, hcons⟩ := bind_eq_ok_iff.mp hrest
    obtain rfl := Except.ok.inj hcons
    obtain ⟨⟨hkey, hlexable⟩, hothers⟩ := List.forall_mem_cons.mp h
    obtain ⟨ls, hlexes, hvalue⟩ := exists_lexes_chars hlexable hx
    obtain ⟨ms, hmore, hfields⟩ := exists_lexes_fields hothers hxs
    have hcolon := (hlexes.blank (c := ' ') (by decide)).mark (c := ':') (by decide)
    have hfield := (lexes_name hkey).append_cons (by decide) hcolon
    refine ⟨_, lexes_joinWith_cons (by simpa using hfield) hmore, ?_⟩
    simpa [Entries.keys] using areFields_append e.1 hvalue hfields

end

/-- Lexemes that are fields, wherever fields may stand. -/
def Adds (ls : List Lexeme) (shapes : List Shape) : Prop :=
  ∀ outer here, run (.fields outer here) ls = some (.fields outer (shapes.reverse ++ here))

/-- A text that asks for some fields, wherever it stands in a document. -/
def Asks (text : String) (shapes : List Shape) : Prop :=
  ∃ ls, Lexes text.toList ls ∧ Adds ls shapes

/-- A field by its name alone. -/
def Shape.bare (name : String) : Shape := .field { name } []

/-- A field with some names below it. -/
def Shape.over (head : Head) (names : List String) : Shape := .field head (names.map .bare)

theorem asks_empty : Asks "" [] := ⟨[], lexes_nil, fun _ _ => rfl⟩

theorem asks_name (name : String) (h : IsName name) : Asks name [.bare name] := by
  refine ⟨_, lexes_name h, fun outer here => ?_⟩
  simp [State.step, fieldStep, Shape.bare]

/-- A field behind an alias. -/
theorem asks_alias {name other : String} (h : IsName other) (h' : IsName name) :
    Asks (other ++ ": " ++ name) [.field { alias? := some other, name } []] := by
  have hcolon := ((lexes_name h').blank (c := ' ') (by decide)).mark (c := ':') (by decide)
  have hlexes := (lexes_name h).append_cons (by decide) hcolon
  refine ⟨_, by simpa using hlexes, fun outer here => ?_⟩
  simp [State.step, fieldStep]

/-- Texts with a blank between them ask for the fields of both. -/
theorem Asks.append {first second : String} {shapes others : List Shape} (h : Asks first shapes)
    (h' : Asks second others) : Asks (first ++ " " ++ second) (shapes ++ others) := by
  obtain ⟨ls, hlexes, hadds⟩ := h
  obtain ⟨ms, hlexes', hadds'⟩ := h'
  have hboth := hlexes.append_cons (by decide)
    (hlexes'.blank (c := ' ') (by decide))
  refine ⟨ls ++ ms, by simpa using hboth, fun outer here => ?_⟩
  rw [run_append, hadds, Option.bind_some, hadds']
  simp

theorem asks_intercalate {texts : List String} {shapes : List Shape}
    (h : List.Forall₂ (fun text shape => Asks text [shape]) texts shapes) :
    Asks (" ".intercalate texts) shapes := by
  induction h with
  | nil => exact asks_empty
  | @cons text shape texts shapes htext hrest ih =>
    cases hrest with
    | nil => simpa using htext
    | @cons next other more others hnext hmore =>
      simpa [String.intercalate_cons_cons, String.append_assoc] using htext.append ih

theorem lexes_braces {cs : List Char} {ls : List Lexeme} (h : Lexes cs ls) :
    Lexes ('\x7b' :: ' ' :: (cs ++ [' ', '\x7d'])) (.mark '\x7b' :: (ls ++ [.mark '\x7d'])) := by
  have hclosed := h.append_cons (c := ' ') (by decide)
    ((lexes_nil.mark (c := '\x7d') (by decide)).blank (c := ' ') (by decide))
  exact (hclosed.blank (by decide)).mark (by decide)

/-- A selection that is not empty can be closed. -/
theorem step_close {shapes : List Shape} (hne : shapes ≠ []) (outer : List (Head × List Shape)) :
    (State.fields outer shapes.reverse).step (.mark '\x7d') = some (match outer with
      | [] => .finished shapes
      | (head, before) :: rest => .fields rest (.field head shapes :: before)) := by
  have hback : shapes.reverse.reverse = shapes := List.reverse_reverse shapes
  cases hreverse : shapes.reverse with
  | nil => exact absurd (List.reverse_eq_nil_iff.mp hreverse) hne
  | cons shape more =>
    rw [hreverse] at hback
    cases outer <;> simp [State.step, fieldStep, ← hback]

/-- A field with a selection in braces. -/
theorem Asks.nested {text inside : String} {head : Head} {shapes : List Shape}
    (h : Asks text [.field head []]) (h' : Asks inside shapes) (hne : shapes ≠ []) :
    Asks (text ++ " \x7b " ++ inside ++ " \x7d") [.field head shapes] := by
  obtain ⟨ls, hlexes, hadds⟩ := h
  obtain ⟨ms, hinside, hadds'⟩ := h'
  have hboth := hlexes.append_cons (by decide)
    ((lexes_braces hinside).blank (c := ' ') (by decide))
  refine ⟨_, by simpa using hboth, fun outer here => ?_⟩
  have hopen : (State.fields outer (.field head [] :: here)).step (.mark '\x7b') =
      some (.fields ((head, here) :: outer) []) := rfl
  have hclose : (State.fields ((head, here) :: outer) shapes.reverse).step (.mark '\x7d') =
      some (.fields outer (.field head shapes :: here)) := step_close hne ((head, here) :: outer)
  rw [run_append, hadds, Option.bind_some, List.reverse_singleton, List.singleton_append, run_cons,
    hopen, Option.bind_some, run_append, hadds', Option.bind_some, List.append_nil, run_cons,
    hclose]
  rfl

/-- A field with something in parentheses that reads as arguments. -/
theorem Asks.parenthesized {text name : String} {alias? : Option String} {inside : List Char}
    {ls : List Lexeme} {keys : List String} (h : Asks text [.field { alias?, name } []])
    (hinside : Lexes inside ls) (hfields : AreFields ls keys) (hne : keys ≠ []) :
    Asks (text ++ String.ofList (['('] ++ inside ++ [')']))
      [.field { alias?, name, arguments := keys } []] := by
  obtain ⟨ms, hlexes, hadds⟩ := h
  have hparen := hinside.between (c := '(') (d := ')') (by decide) (by decide)
  have hboth := hlexes.append_cons (c := '(') (by decide) (by simpa using hparen)
  refine ⟨_, by simpa using hboth, fun outer here => ?_⟩
  have hopen : (State.fields outer (.field { alias?, name } [] :: here)).step (.mark '(') =
      some (.arguments outer here ⟨alias?, name, []⟩ [] [.key]) := rfl
  rw [run_append, hadds, Option.bind_some, List.reverse_singleton, List.singleton_append,
    run_cons, hopen, Option.bind_some, run_append, hfields, Option.bind_some]
  simp [State.step, hne]

/-- A field with arguments, whatever their values are. -/
theorem Asks.arguments {text args name : String} {alias? : Option String} {room : Nat}
    {es : Entries Value} (h : Asks text [.field { alias?, name } []])
    (hargs : Literal.arguments room es = .ok args) (hes : AreLexable es) :
    Asks (text ++ args) [.field { alias?, name, arguments := Entries.keys es } []] := by
  cases es with
  | nil =>
    obtain rfl := Except.ok.inj hargs
    simpa [Entries.keys] using h
  | cons e more =>
    obtain ⟨css, hcss, hjoined⟩ := bind_eq_ok_iff.mp hargs
    obtain rfl := Except.ok.inj hjoined
    obtain ⟨ls, hlexes, hfields⟩ := exists_lexes_fields hes hcss
    exact h.parenthesized hlexes hfields (by simp [Entries.keys])

/-- A text in braces that asks for some fields has them as its outline. -/
theorem outline_of_asks {inside : String} {shapes : List Shape} (h : Asks inside shapes)
    (hne : shapes ≠ []) : outline ("\x7b " ++ inside ++ " \x7d") = some shapes := by
  obtain ⟨ls, hlexes, hadds⟩ := h
  have hopen : State.start.step (.mark '\x7b') = some (.fields [] []) := rfl
  have hclose : (State.fields [] shapes.reverse).step (.mark '\x7d') =
      some (.finished shapes) := step_close hne []
  have hrun : run .start (.mark '\x7b' :: (ls ++ [.mark '\x7d'])) = some (.finished shapes) := by
    rw [run_cons, hopen, Option.bind_some, run_append, hadds, Option.bind_some, List.append_nil,
      run_cons, hclose]
    rfl
  have htext : ("\x7b " ++ inside ++ " \x7d").toList =
      '\x7b' :: ' ' :: (inside.toList ++ [' ', '\x7d']) := by simp
  simp [outline, htext, lex_of_lexes (lexes_braces hlexes), hrun]

end Retrieval.Document
