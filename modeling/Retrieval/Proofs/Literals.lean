import Retrieval.Proofs.Limits
import Retrieval.Proofs.Names
import Retrieval.Proofs.Strings

/-!
Reading literals of the query language. Main statement: a value has a literal exactly if its
integers are short and its levels have room, and one reader gets every such value back from its
literal, and the arguments of a field from theirs, and leaves alone what follows; so different
values have different literals, and nothing inside a string ends the literal.
-/

namespace Retrieval

namespace Value

mutual

/-- The value with lists in place of tuples, at any depth. -/
def listed : Value → Value
  | .seq .tuple items => .list (listedItems items)
  | .seq kind items => .seq kind (listedItems items)
  | .map es => .map (listedEntries es)
  | v => v

def listedItems : List Value → List Value
  | [] => []
  | v :: vs => listed v :: listedItems vs

def listedEntries : List (String × Value) → List (String × Value)
  | [] => []
  | (key, v) :: es => (key, listed v) :: listedEntries es

end

end Value

namespace Literal

open Retrieval.Text (joinWith)

/-- The names that are literals by themselves. -/
def literalNames : List (String × Value) :=
  [("null", .null), ("true", .bool true), ("false", .bool false)]

/-- A value whose literal says all about it, its parts apart: words and keys are names, and words
are none of the names that stand for another literal. -/
def IsWritable : Value → Prop
  | .null | .bool _ | .int _ | .text _ => True
  | .word s => IsName s ∧ s ∉ literalNames.map (·.1)
  | .seq .list _ | .seq .tuple _ => True
  | .map es => ∀ e ∈ es, IsName e.1
  | _ => False

/-- What may follow a literal. -/
def Follows (rest : List Char) : Prop :=
  ∀ c ∈ rest.head?, c ∈ [',', ' ', ']', '\x7d', ')']

/-- What comes after an item: the end, or another item. -/
inductive Next
  | done (rest : List Char)
  | more (rest : List Char)

/-- Reads up to the next item, or to the mark that closes them. -/
def next? (close : Char) : List Char → Option Next
  | [] => none
  | c :: rest =>
    if c = close then some (.done rest)
    else
      match c, rest with
      | ',', ' ' :: more => some (.more more)
      | _, _ => none

/-- A name or an integer. -/
def readPlain (cs : List Char) : Option (Value × List Char) :=
  match cs with
  | '-' :: rest =>
    let digits := rest.takeWhile Char.isDigit
    if digits.isEmpty then none
    else some (.int (-(Json.digitsValue digits : Int)), rest.dropWhile Char.isDigit)
  | _ =>
    let digits := cs.takeWhile Char.isDigit
    let name := cs.takeWhile isNameChar
    if !digits.isEmpty then some (.int (Json.digitsValue digits), cs.dropWhile Char.isDigit)
    else if isName name then
      some ((literalNames.lookup (String.ofList name)).getD (.word (String.ofList name)),
        cs.dropWhile isNameChar)
    else none

mutual

/-- A value, and what follows it. The bound is on the length of what is read. -/
def readValue : Nat → List Char → Option (Value × List Char)
  | 0, _ => none
  | bound + 1, cs =>
    match cs with
    | '"' :: rest =>
      match Json.readString (rest.length + 1) rest with
      | .ok (s, after) => some (.text (String.ofList s), after)
      | .error _ => none
    | '[' :: ']' :: rest => some (.list [], rest)
    | '[' :: rest => (readItems bound rest).map fun (items, after) => (.list items, after)
    | '\x7b' :: '\x7d' :: rest => some (.map [], rest)
    | '\x7b' :: rest => (readFields bound '\x7d' rest).map fun (es, after) => (.map es, after)
    | cs => readPlain cs

/-- The items of a list up to its closing bracket. -/
def readItems : Nat → List Char → Option (List Value × List Char)
  | 0, _ => none
  | bound + 1, cs => do
    let (v, rest) ← readValue bound cs
    match ← next? ']' rest with
    | .done after => return ([v], after)
    | .more more =>
      let (vs, after) ← readItems bound more
      return (v :: vs, after)

/-- The fields of an object up to a closing mark. -/
def readFields : Nat → Char → List Char → Option (List (String × Value) × List Char)
  | 0, _, _ => none
  | bound + 1, close, cs =>
    match isName (cs.takeWhile isNameChar), cs.dropWhile isNameChar with
    | true, ':' :: ' ' :: inside => do
      let key := String.ofList (cs.takeWhile isNameChar)
      let (v, rest) ← readValue bound inside
      match ← next? close rest with
      | .done after => return ([(key, v)], after)
      | .more more =>
        let (es, after) ← readFields bound close more
        return ((key, v) :: es, after)
    | _, _ => none

end

/-- The value that a literal at the start of some characters stands for, and what follows it. -/
def decode (cs : List Char) : Option (Value × List Char) := readValue (cs.length + 1) cs

/-- The arguments in parentheses at the start of some characters, and what follows them. -/
def decodeArguments (cs : List Char) : Option (List (String × Value) × List Char) :=
  match cs with
  | '(' :: rest => readFields (rest.length + 1) ')' rest
  | _ => none

theorem Follows.not_isNameChar {rest : List Char} (h : Follows rest) :
    ∀ c ∈ rest.head?, isNameChar c = false := by
  have hmarks : [',', ' ', ']', '\x7d', ')'].all (fun c => !isNameChar c) = true := by decide
  intro c hc
  simpa using List.all_eq_true.mp hmarks c (h c hc)

theorem readPlain_name {name rest : List Char} (hname : isName name = true)
    (hrest : Follows rest) : readPlain (name ++ rest) = some
      ((literalNames.lookup (String.ofList name)).getD (.word (String.ofList name)), rest) := by
  obtain ⟨c, cs, rfl, hstart, hall⟩ := exists_cons_of_isName hname
  have hdigit := not_isDigit_of_isNameStart hstart
  have hminus : c ≠ '-' := by
    rintro rfl
    revert hstart
    decide
  have htake := takeWhile_append_stop hall hrest.not_isNameChar
  have hdrop := dropWhile_append_stop hall hrest.not_isNameChar
  simp only [List.cons_append] at htake hdrop ⊢
  unfold readPlain
  split
  · next heq =>
    cases heq
    exact absurd rfl hminus
  · simp [hdigit, htake, hdrop, hname]

theorem digitsValue_decimalDigits (n : Nat) :
    Json.digitsValue (Number.decimalDigits n) = n := Nat.ofDigitChars_ten_toDigits

theorem readPlain_integer (n : Int) {rest : List Char} (hrest : Follows rest) :
    readPlain ((Number.integer n).toList ++ rest) = some (.int n, rest) := by
  have hall : ∀ c ∈ Number.decimalDigits n.natAbs, c.isDigit = true :=
    fun c hc => Nat.isDigit_of_mem_toDigits (by decide) (by decide) hc
  have hstop : ∀ c ∈ rest.head?, c.isDigit = false :=
    fun c hc => not_isDigit_of_not_isNameChar (hrest.not_isNameChar c hc)
  have htake := takeWhile_append_stop hall hstop
  have hdrop := dropWhile_append_stop hall hstop
  have hne : Number.decimalDigits n.natAbs ≠ [] := Nat.toDigits_ne_nil
  by_cases hneg : n < 0
  · have hvalue : -(n.natAbs : Int) = n := by omega
    have hempty : (Number.decimalDigits n.natAbs).isEmpty = false := by simpa using hne
    simp only [Number.integer, hneg, if_true, String.toList_ofList, List.cons_append,
      List.nil_append, readPlain, htake, hdrop, hempty, digitsValue_decimalDigits, hvalue]
    rfl
  · cases hdigits : Number.decimalDigits n.natAbs with
    | nil => exact absurd hdigits hne
    | cons c cs =>
      rw [hdigits] at htake hdrop hall
      have hminus : c ≠ '-' := by
        rintro rfl
        exact absurd (hall '-' (by simp)) (by decide)
      simp only [Number.integer, hneg, if_false, List.nil_append, String.toList_ofList, hdigits]
      simp only [List.cons_append] at htake hdrop ⊢
      unfold readPlain
      split
      · next heq =>
        cases heq
        exact absurd rfl hminus
      · have hvalue : (n.natAbs : Int) = n := by omega
        simp only [htake, hdrop]
        simp [← hdigits, digitsValue_decimalDigits, hne, hvalue]

/-- Characters that start no string, list or object are a name or an integer. -/
theorem readValue_plain {c : Char} (hquote : c ≠ '"') (hlist : c ≠ '[') (hobject : c ≠ '\x7b')
    (bound : Nat) (cs : List Char) : readValue (bound + 1) (c :: cs) = readPlain (c :: cs) := by
  rw [readValue]
  all_goals simp [hquote, hlist, hobject]

theorem readValue_list {c : Char} (hc : c ≠ ']') (bound : Nat) (cs : List Char) :
    readValue (bound + 1) ('[' :: c :: cs) =
      (readItems bound (c :: cs)).map fun (items, after) => (.list items, after) := by
  rw [readValue]
  simp [hc]

theorem readValue_map {c : Char} (hc : c ≠ '\x7d') (bound : Nat) (cs : List Char) :
    readValue (bound + 1) ('\x7b' :: c :: cs) =
      (readFields bound '\x7d' (c :: cs)).map fun (es, after) => (.map es, after) := by
  rw [readValue]
  simp [hc]

/-- No value starts with a closing bracket. -/
theorem readItems_close (bound : Nat) (cs : List Char) : readItems bound (']' :: cs) = none := by
  cases bound with
  | zero => rfl
  | succ bound =>
    have hvalue : readValue bound (']' :: cs) = none := by
      cases bound with
      | zero => rfl
      | succ bound =>
        rw [readValue_plain (by decide) (by decide) (by decide)]
        simp [readPlain, isName, isNameChar, isNameStart]
    rw [readItems, hvalue]
    rfl

/-- No key starts with a closing brace. -/
theorem readFields_close (bound : Nat) (close : Char) (cs : List Char) :
    readFields bound close ('\x7d' :: cs) = none := by
  cases bound with
  | zero => rfl
  | succ bound => simp [readFields, isName, isNameChar, isNameStart]

/-- Each literal of a value reads back, whatever may follow it. -/
def Reads (v : Value) : Prop :=
  ∀ room cs, chars room v = .ok cs → cs ≠ [] ∧ ∀ bound rest, cs.length ≤ bound → Follows rest →
    readValue bound (cs ++ rest) = some (v.listed, rest)

/-- The literals of items read back up to the closing bracket. -/
def ReadItems (vs : List Value) : Prop :=
  ∀ room css, itemChars room vs = .ok css → css.length = vs.length ∧
    ∀ bound rest, vs ≠ [] → (joinWith separator css).length < bound →
      readItems bound (joinWith separator css ++ ']' :: rest) = some (Value.listedItems vs, rest)

/-- The fields of an object or of arguments read back up to the closing mark. -/
def ReadFields (es : List (String × Value)) : Prop :=
  ∀ room css, fieldChars room es = .ok css → css.length = es.length ∧
    ∀ bound close rest, es ≠ [] → close ∈ ['\x7d', ')'] → (joinWith separator css).length < bound →
      readFields bound close (joinWith separator css ++ close :: rest) =
        some (Value.listedEntries es, rest)

/-- A value with the same literal wherever there is room has no other. -/
theorem eq_of_chars {v : Value} {cs : List Char} (h : ∀ room, chars (room + 1) v = .ok cs)
    (room : Nat) (text : List Char) (htext : chars room v = .ok text) : cs = text := by
  obtain ⟨n, rfl⟩ := exists_eq_succ_of_chars htext
  exact Except.ok.inj ((h n).symm.trans htext)

theorem reads_plain {v : Value} {cs : List Char}
    (hchars : ∀ room text, chars room v = .ok text → cs = text) (hne : cs ≠ [])
    (hlisted : v.listed = v) (hstart : ∀ c ∈ cs.head?, c ≠ '"' ∧ c ≠ '[' ∧ c ≠ '\x7b')
    (hplain : ∀ rest, Follows rest → readPlain (cs ++ rest) = some (v, rest)) : Reads v := by
  intro room text htext
  obtain rfl := hchars room text htext
  refine ⟨hne, fun bound rest hbound hrest => ?_⟩
  cases cs with
  | nil => exact absurd rfl hne
  | cons c cs =>
    obtain ⟨hquote, hlist, hobject⟩ := hstart c rfl
    obtain ⟨n, rfl⟩ : ∃ n, bound = n + 1 := ⟨bound - 1, by simp at hbound; omega⟩
    rw [List.cons_append, readValue_plain hquote hlist hobject, ← List.cons_append,
      hplain rest hrest, hlisted]

theorem reads_name {v : Value} (name : List Char) (hname : isName name = true)
    (hchars : ∀ room, chars (room + 1) v = .ok name) (hlisted : v.listed = v)
    (hvalue : (literalNames.lookup (String.ofList name)).getD (.word (String.ofList name)) = v) :
    Reads v := by
  obtain ⟨c, cs, rfl, hstart, -⟩ := exists_cons_of_isName hname
  refine reads_plain (eq_of_chars hchars) (by simp) hlisted ?_ fun rest hrest => ?_
  · rintro d ⟨⟩
    refine ⟨?_, ?_, ?_⟩
    all_goals
      rintro rfl
      revert hstart
      decide
  · rw [readPlain_name hname hrest, hvalue]

theorem head?_integer (n : Int) : ∃ c rest, (Number.integer n).toList = c :: rest ∧
    (c = '-' ∨ c.isDigit = true) := by
  have hne : Number.decimalDigits n.natAbs ≠ [] := Nat.toDigits_ne_nil
  by_cases hneg : n < 0
  · exact ⟨'-', Number.decimalDigits n.natAbs, by simp [Number.integer, hneg], .inl rfl⟩
  · obtain ⟨c, cs, hdigits⟩ := List.exists_cons_of_ne_nil hne
    have hc : c ∈ Number.decimalDigits n.natAbs := by simp [hdigits]
    exact ⟨c, cs, by simp [Number.integer, hneg, hdigits],
      .inr (Nat.isDigit_of_mem_toDigits (by decide) (by decide) hc)⟩

theorem reads_integer (n : Int) : Reads (.int n) := by
  obtain ⟨c, rest, hcs, hc⟩ := head?_integer n
  have hchars (room : Nat) (text : List Char) (htext : chars room (.int n) = .ok text) :
      (Number.integer n).toList = text := by
    obtain ⟨m, rfl⟩ := exists_eq_succ_of_chars htext
    exact chars_int_eq_ok htext
  refine reads_plain hchars (by simp [hcs]) rfl ?_ fun rest hrest => readPlain_integer n hrest
  rw [hcs]
  rintro d ⟨⟩
  refine ⟨?_, ?_, ?_⟩
  all_goals
    rintro rfl
    revert hc
    decide

theorem reads_text (s : String) : Reads (.text s) := by
  intro room text htext
  obtain rfl := eq_of_chars (fun _ => rfl) room text htext
  refine ⟨by simp [Json.stringChars], fun bound rest hbound hrest => ?_⟩
  obtain ⟨n, rfl⟩ : ∃ n, bound = n + 1 :=
    ⟨bound - 1, by simp [Json.stringChars] at hbound; omega⟩
  have hlength := Json.length_le_length_flatMap_escapeChar s.toList
  have hbound : s.toList.length < (s.toList.flatMap Json.escapeChar ++ '"' :: rest).length + 1 := by
    rw [List.length_append]
    omega
  have hread := Json.readString_stringChars s.toList rest hbound
  simp only [Json.stringChars, List.cons_append, List.nil_append, List.append_assoc, readValue]
  rw [hread]
  simp [Value.listed]

theorem readItems_cons {bound : Nat} {v : Value} {vs : List Value} {cs rest more after : List Char}
    (hvalue : readValue bound cs = some (v, rest)) (hnext : next? ']' rest = some (.more more))
    (hitems : readItems bound more = some (vs, after)) :
    readItems (bound + 1) cs = some (v :: vs, after) := by
  simp [readItems, hvalue, hnext, hitems]

theorem readItems_last {bound : Nat} {v : Value} {cs rest after : List Char}
    (hvalue : readValue bound cs = some (v, rest)) (hnext : next? ']' rest = some (.done after)) :
    readItems (bound + 1) cs = some ([v], after) := by
  simp [readItems, hvalue, hnext]

theorem joinWith_cons {sep piece : List Char} {pieces : List (List Char)} (h : pieces ≠ []) :
    joinWith sep (piece :: pieces) = piece ++ (sep ++ joinWith sep pieces) := by
  cases pieces with
  | nil => exact absurd rfl h
  | cons next rest => simp [joinWith]

theorem length_separator : separator.length = 2 := rfl

theorem follows_cons {c : Char} (h : c ∈ [',', ' ', ']', '\x7d', ')']) (rest : List Char) :
    Follows (c :: rest) := by
  rintro d ⟨⟩
  exact h

theorem follows_separator (rest : List Char) : Follows (separator ++ rest) :=
  follows_cons (by decide) _

theorem next?_close (close : Char) (rest : List Char) :
    next? close (close :: rest) = some (.done rest) := by
  simp [next?]

theorem next?_separator {close : Char} (h : close ≠ ',') (rest : List Char) :
    next? close (separator ++ rest) = some (.more rest) := by
  simp [next?, separator, h.symm]

/-- An item before the others of a list. -/
theorem readItems_of_reads {v : Value} {vs : List Value} (hv : Reads v) (hvs : ReadItems vs) :
    ReadItems (v :: vs) := by
  intro room all hall
  obtain ⟨cs, hchars, hmore⟩ := bind_eq_ok_iff.mp hall
  obtain ⟨css, hitems, hcons⟩ := bind_eq_ok_iff.mp hmore
  obtain rfl := Except.ok.inj hcons
  obtain ⟨-, hvalue⟩ := hv room cs hchars
  obtain ⟨hlength, hread⟩ := hvs room css hitems
  refine ⟨by simp [hlength], fun bound rest _ hbound => ?_⟩
  obtain ⟨n, rfl⟩ : ∃ n, bound = n + 1 := ⟨bound - 1, by omega⟩
  cases vs with
  | nil =>
    obtain rfl : css = [] := List.eq_nil_of_length_eq_zero hlength
    simp only [joinWith] at hbound ⊢
    exact readItems_last (hvalue n _ (by omega) (follows_cons (by decide) _)) rfl
  | cons w ws =>
    have hne : css ≠ [] := by
      rintro rfl
      cases hlength
    rw [joinWith_cons hne] at hbound ⊢
    simp only [List.length_append, length_separator] at hbound
    rw [List.append_assoc, List.append_assoc]
    exact readItems_cons (hvalue n _ (by omega) (follows_separator _)) rfl
      (hread n rest (by simp) (by omega))

/-- A field is read as its value is, and the key is put before it. -/
theorem readFields_key {key : String} (hkey : IsName key) (bound : Nat) (close : Char)
    (inside : List Char) : readFields (bound + 1) close (key.toList ++ ([':', ' '] ++ inside)) = do
      let (v, rest) ← readValue bound inside
      match ← next? close rest with
      | .done after => return ([(key, v)], after)
      | .more more =>
        let (es, after) ← readFields bound close more
        return ((key, v) :: es, after) := by
  obtain ⟨c, cs, -, -, hall⟩ := exists_cons_of_isName hkey
  have hcolon : ∀ d ∈ (':' :: ' ' :: inside).head?, isNameChar d = false := by
    rintro d ⟨⟩
    decide
  have htake := takeWhile_append_stop hall hcolon
  have hdrop := dropWhile_append_stop hall hcolon
  have hname : isName key.toList = true := hkey
  simp only [List.cons_append, List.nil_append]
  rw [readFields, htake, hdrop, hname, String.ofList_toList]
  rfl

/-- A field before the others of an object. -/
theorem readFields_of_reads {key : String} {v : Value} {es : List (String × Value)}
    (hkey : IsName key) (hv : Reads v) (hes : ReadFields es) : ReadFields ((key, v) :: es) := by
  intro room all hall
  obtain ⟨cs, hchars, hmore⟩ := bind_eq_ok_iff.mp hall
  obtain ⟨css, hfields, hcons⟩ := bind_eq_ok_iff.mp hmore
  obtain rfl := Except.ok.inj hcons
  obtain ⟨-, hvalue⟩ := hv room cs hchars
  obtain ⟨hlength, hread⟩ := hes room css hfields
  refine ⟨by simp [hlength], fun bound close rest _ hclose hbound => ?_⟩
  obtain ⟨n, rfl⟩ : ∃ n, bound = n + 1 := ⟨bound - 1, by omega⟩
  have hfollows : Follows (close :: rest) :=
    follows_cons (by revert hclose; simp; rintro (rfl | rfl) <;> simp) _
  have hcomma : close ≠ ',' := by
    rintro rfl
    revert hclose
    decide
  cases es with
  | nil =>
    obtain rfl : css = [] := List.eq_nil_of_length_eq_zero hlength
    simp only [joinWith] at hbound ⊢
    simp only [List.length_append] at hbound
    rw [List.append_assoc, List.append_assoc, readFields_key hkey, hvalue n _ (by omega) hfollows]
    simp [next?_close, Value.listedEntries]
  | cons e more =>
    have hne : css ≠ [] := by
      rintro rfl
      cases hlength
    rw [joinWith_cons hne] at hbound ⊢
    simp only [List.length_append, length_separator] at hbound
    simp only [List.append_assoc]
    rw [readFields_key hkey, hvalue n _ (by omega) (follows_separator _)]
    simp [next?_separator hcomma, hread n close rest (by simp) hclose (by omega),
      Value.listedEntries]

theorem reads_seq {kind : SeqKind} {items : List Value} (h : ReadItems items)
    (hchars : ∀ room cs, chars room (.seq kind items) = .ok cs → ∃ inner css,
      itemChars inner items = .ok css ∧ ['['] ++ joinWith separator css ++ [']'] = cs)
    (hlisted : (Value.seq kind items).listed = .list (Value.listedItems items)) :
    Reads (.seq kind items) := by
  intro room cs hcs
  obtain ⟨inner, css, hitems, rfl⟩ := hchars room cs hcs
  obtain ⟨hlength, hread⟩ := h inner css hitems
  refine ⟨by simp, fun bound rest hbound _ => ?_⟩
  simp only [List.length_append, List.length_cons, List.length_nil] at hbound
  obtain ⟨n, rfl⟩ : ∃ n, bound = n + 1 := ⟨bound - 1, by omega⟩
  rw [List.append_assoc, List.append_assoc, List.cons_append, List.nil_append, hlisted]
  cases items with
  | nil =>
    obtain rfl : css = [] := List.eq_nil_of_length_eq_zero hlength
    rfl
  | cons v vs =>
    have hinside := hread n rest (by simp) (by omega)
    -- the items do not start with the bracket that ends them
    cases htext : joinWith separator css ++ ']' :: rest with
    | nil => simp at htext
    | cons c cs =>
      have hc : c ≠ ']' := by
        rintro rfl
        rw [htext, readItems_close] at hinside
        cases hinside
      rw [List.cons_append, List.nil_append, htext, readValue_list hc, ← htext, hinside]
      rfl

theorem reads_map {es : List (String × Value)} (h : ReadFields es) : Reads (.map es) := by
  intro room cs hcs
  obtain ⟨inner, rfl⟩ := exists_eq_succ_of_chars hcs
  obtain ⟨css, hfields, hjoined⟩ := bind_eq_ok_iff.mp hcs
  obtain rfl := Except.ok.inj hjoined
  obtain ⟨hlength, hread⟩ := h inner css hfields
  refine ⟨by simp, fun bound rest hbound _ => ?_⟩
  simp only [List.length_append, List.length_cons, List.length_nil] at hbound
  obtain ⟨n, rfl⟩ : ∃ n, bound = n + 1 := ⟨bound - 1, by omega⟩
  rw [List.append_assoc, List.append_assoc, List.cons_append, List.nil_append]
  cases es with
  | nil =>
    obtain rfl : css = [] := List.eq_nil_of_length_eq_zero hlength
    rfl
  | cons e more =>
    have hinside := hread n '\x7d' rest (by simp) (by simp) (by omega)
    cases htext : joinWith separator css ++ '\x7d' :: rest with
    | nil => simp at htext
    | cons c cs =>
      have hc : c ≠ '\x7d' := by
        rintro rfl
        rw [htext, readFields_close] at hinside
        cases hinside
      rw [List.cons_append, List.nil_append, htext, readValue_map hc, ← htext, hinside]
      rfl

mutual

theorem reads_of_writable (v : Value) (h : v.Everywhere IsWritable) : Reads v := by
  cases v with
  | null => exact reads_name ['n', 'u', 'l', 'l'] rfl (fun _ => rfl) rfl rfl
  | bool b =>
    cases b with
    | true => exact reads_name ['t', 'r', 'u', 'e'] rfl (fun _ => rfl) rfl rfl
    | false => exact reads_name ['f', 'a', 'l', 's', 'e'] rfl (fun _ => rfl) rfl rfl
  | int n => exact reads_integer n
  | text s => exact reads_text s
  | word s =>
    obtain ⟨hname, hother⟩ := h.here
    refine reads_name s.toList hname (fun _ => rfl) rfl ?_
    have hlookup : literalNames.lookup s = none := by
      rw [List.lookup_eq_none_iff]
      intro e he
      rw [bne_iff_ne]
      rintro rfl
      exact hother (List.mem_map.mpr ⟨e, he, rfl⟩)
    rw [String.ofList_toList, hlookup]
    rfl
  | seq kind items =>
    rw [Value.everywhere_seq] at h
    have hitems := readItems_of_writable items h.2
    cases kind with
    | list | tuple =>
      refine reads_seq hitems (fun room cs hcs => ?_) rfl
      obtain ⟨inner, rfl⟩ := exists_eq_succ_of_chars hcs
      obtain ⟨css, hcss, hjoined⟩ := bind_eq_ok_iff.mp hcs
      exact ⟨inner, css, hcss, Except.ok.inj hjoined⟩
    | set => exact h.1.elim
    | frozenSet => exact h.1.elim
  | map es =>
    rw [Value.everywhere_map] at h
    exact reads_map (readFields_of_writable es h.1 h.2)
  | _ => exact h.here.elim

theorem readItems_of_writable (vs : List Value) (h : ∀ v ∈ vs, v.Everywhere IsWritable) :
    ReadItems vs := by
  cases vs with
  | nil =>
    rintro room css ⟨⟩
    exact ⟨rfl, fun _ _ hne => absurd rfl hne⟩
  | cons v rest =>
    exact readItems_of_reads (reads_of_writable v (h v (by simp)))
      (readItems_of_writable rest fun w hw => h w (by simp [hw]))

theorem readFields_of_writable (es : List (String × Value)) (hkeys : ∀ e ∈ es, IsName e.1)
    (h : ∀ e ∈ es, e.2.Everywhere IsWritable) : ReadFields es := by
  cases es with
  | nil =>
    rintro room css ⟨⟩
    exact ⟨rfl, fun _ _ _ hne => absurd rfl hne⟩
  | cons e rest =>
    exact readFields_of_reads (hkeys e (by simp)) (reads_of_writable e.2 (h e (by simp)))
      (readFields_of_writable rest (fun d hd => hkeys d (by simp [hd]))
        fun d hd => h d (by simp [hd]))

end

theorem renders_of_writable {v : Value} (h : v.Everywhere IsWritable) : v.Renders := by
  intro w hw
  have hwritable := h w hw
  cases w with
  | seq kind items =>
    cases kind with
    | list | tuple => trivial
    | set | frozenSet => exact hwritable.elim
  | date d => exact hwritable.elim
  | dateTime t => exact hwritable.elim
  | «foreign» => exact hwritable.elim
  | _ => trivial

theorem decode_of_writable {room : Nat} {v : Value} (h : v.Everywhere IsWritable) {text : String}
    (htext : render room v = .ok text) {rest : List Char} (hrest : Follows rest) :
    decode (text.toList ++ rest) = some (v.listed, rest) := by
  obtain ⟨cs, hchars, rfl⟩ := map_eq_ok_iff.mp htext
  obtain ⟨-, hread⟩ := reads_of_writable v h room cs hchars
  rw [String.toList_ofList, decode]
  exact hread _ rest (by rw [List.length_append]; omega) hrest

theorem decodeArguments_of_writable {room : Nat} {es : List (String × Value)} (hne : es ≠ [])
    (h : (Value.map es).Everywhere IsWritable) {text : String}
    (htext : arguments room es = .ok text) (rest : List Char) :
    decodeArguments (text.toList ++ rest) = some (Value.listedEntries es, rest) := by
  rw [Value.everywhere_map] at h
  have hempty : es.isEmpty = false := by simpa using hne
  simp only [arguments, hempty, Bool.false_eq_true, if_false] at htext
  obtain ⟨css, hfields, hjoined⟩ := bind_eq_ok_iff.mp htext
  obtain rfl := Except.ok.inj hjoined
  obtain ⟨-, hread⟩ := readFields_of_writable es h.1 h.2 room css hfields
  rw [String.toList_ofList, List.append_assoc, List.append_assoc]
  have hbound : (joinWith separator css).length <
      (joinWith separator css ++ ')' :: rest).length + 1 := by
    rw [List.length_append]
    omega
  exact hread _ ')' rest hne (by simp) hbound

/-- A value has a text exactly if its integers are short and its levels have room, and so have
arguments. One reader gets every value back from its text, and arguments from theirs, with lists for
tuples, however much room there was; it leaves alone what follows. So values and arguments with the
same text are the same. -/
theorem decode_render :
    (∀ room, ∀ v : Value, v.Everywhere IsWritable →
      ((∃ text, render room v = .ok text) ↔ v.Fits room) ∧
      ∀ text, render room v = .ok text → ∀ rest, Follows rest →
        decode (text.toList ++ rest) = some (v.listed, rest)) ∧
    (∀ room room', ∀ v w : Value, v.Everywhere IsWritable → w.Everywhere IsWritable → ∀ text,
      render room v = .ok text → render room' w = .ok text → v.listed = w.listed) ∧
    (∀ room, ∀ es : Entries Value, es ≠ [] → (Value.map es).Everywhere IsWritable →
      ((∃ text, arguments room es = .ok text) ↔ AreWithin room es) ∧
      ∀ text, arguments room es = .ok text → ∀ rest,
        decodeArguments (text.toList ++ rest) = some (Value.listedEntries es, rest)) ∧
    ∀ room room', ∀ es fs : Entries Value, es ≠ [] → fs ≠ [] →
      (Value.map es).Everywhere IsWritable → (Value.map fs).Everywhere IsWritable → ∀ text,
      arguments room es = .ok text → arguments room' fs = .ok text →
        Value.listedEntries es = Value.listedEntries fs := by
  have hend : Follows [] := by simp [Follows]
  refine ⟨fun room v hv => ⟨?_, fun text htext rest hrest => decode_of_writable hv htext hrest⟩,
    fun room room' v w hv hw text hvtext hwtext => ?_,
    fun room es hne hes =>
      ⟨?_, fun text htext rest => decodeArguments_of_writable hne hes htext rest⟩,
    fun room room' es fs hes hfs hwes hwfs text hestext hfstext => ?_⟩
  · rw [exists_render_iff]
    exact and_iff_right (renders_of_writable hv)
  · have hread := decode_of_writable hv hvtext hend
    rw [decode_of_writable hw hwtext hend] at hread
    exact (Prod.mk.inj (Option.some.inj hread)).1.symm
  · rw [exists_arguments_iff]
    exact and_iff_right ((Value.renders_map es).mp (renders_of_writable hes))
  · have hread := decodeArguments_of_writable hes hwes hestext []
    rw [decodeArguments_of_writable hfs hwfs hfstext []] at hread
    exact (Prod.mk.inj (Option.some.inj hread)).1.symm

/-- A filter whose text tries to end the literal that it stands in. -/
def hostileFilter : Value :=
  .map [("path", .seq .tuple [.text "na\"me\\"]), ("operator", .word "Equal"),
    ("valueText", .text "x\"\x7d ) \x7b evil \x7d\n"), ("valueInt", .int (-7)),
    ("limits", .list [])]

theorem decode_render_hostileFilter : ∃ text,
    render 3 hostileFilter = .ok text ∧ decode (text.toList ++ [')', ' ', '\x7d']) =
      some (hostileFilter.listed, [')', ' ', '\x7d']) := by
  have hscalar {v : Value} (hseq : ∀ kind items, v ≠ .seq kind items)
      (hmap : ∀ es, v ≠ .map es) (h : IsWritable v) : v.Everywhere IsWritable :=
    Value.everywhere_of_scalar hseq hmap h
  have hpath : (Value.seq .tuple [.text "na\"me\\"]).Everywhere IsWritable := by
    rw [Value.everywhere_seq]
    exact ⟨trivial, List.forall_mem_singleton.mpr (hscalar (by simp) (by simp) trivial)⟩
  have hwritable : hostileFilter.Everywhere IsWritable := by
    rw [hostileFilter, Value.everywhere_map]
    refine ⟨by unfold IsWritable IsName; decide, ?_⟩
    simp only [List.forall_mem_cons, List.not_mem_nil, false_implies, implies_true, and_true]
    refine ⟨hpath, hscalar (by simp) (by simp) ?_, hscalar (by simp) (by simp) trivial,
      hscalar (by simp) (by simp) trivial, by simp [Value.list, IsWritable]⟩
    unfold IsWritable IsName
    decide
  obtain ⟨hwritten, hread⟩ := decode_render.1 3 hostileFilter hwritable
  have hshort : 7 < Number.leastLong := by decide +kernel
  obtain ⟨text, htext⟩ := hwritten.mpr (by simp [hostileFilter, hshort])
  exact ⟨text, htext, hread text htext _ (follows_cons (by decide) _)⟩

/-- The least natural with too many digits. -/
def longInteger : Value := .int Number.leastLong

/-- A list within lists. -/
def nestedList : (depth : Nat) → Value
  | 0 => .list []
  | depth + 1 => .list [nestedList depth]

theorem chars_nestedList {room depth : Nat} (h : room ≤ depth) :
    chars room (nestedList depth) = .error .tooNested := by
  induction depth generalizing room with
  | zero =>
    obtain rfl : room = 0 := by omega
    rfl
  | succ depth ih =>
    cases room with
    | zero => rw [chars]
    | succ room =>
      have hinner := ih (Nat.le_of_succ_le_succ h)
      rw [nestedList, Value.list, chars, itemChars, hinner]
      rfl

theorem everywhere_nestedList (depth : Nat) : (nestedList depth).Everywhere IsWritable := by
  induction depth with
  | zero => simp [nestedList, Value.list, IsWritable]
  | succ depth ih => simp [nestedList, Value.list, IsWritable, ih]

/-- Not every integer has a text, whatever the room, and for any room there is a list within lists
that has none. -/
theorem limits_of_literals :
    (longInteger.Everywhere IsWritable ∧
      ∀ room, render (room + 1) longInteger = .error .integerTooLong) ∧
    ∀ room, (nestedList room).Everywhere IsWritable ∧
      render room (nestedList room) = .error .tooNested := by
  have hlong : Number.isShort Number.leastLong = false := by
    rw [← Bool.not_eq_true, Number.isShort_iff, Int.natAbs_natCast]
    exact Nat.lt_irrefl _
  have hwritable (n : Int) : (Value.int n).Everywhere IsWritable :=
    Value.everywhere_of_scalar (by simp) (by simp) trivial
  refine ⟨⟨hwritable _, fun room => ?_⟩, fun room => ⟨everywhere_nestedList _, ?_⟩⟩
  · have hchars : chars (room + 1) longInteger = .error .integerTooLong := by
      rw [longInteger, chars, hlong]
      rfl
    rw [render, hchars]
    rfl
  · rw [render, chars_nestedList (Nat.le_refl _)]
    rfl

end Literal

end Retrieval
