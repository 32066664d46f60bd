import Retrieval.Api.Response
import Retrieval.Proofs.Traversal

/-!
What can be sent. A text that holds half of a pair cannot be written in bytes, and a number that is
not finite cannot be written as data. Main statements: the body of a request can always be sent; a
list or a mapping can exactly if its parts can; and of a value that can be sent nothing is left out.
-/

namespace Retrieval

namespace Text

theorem isEncodable_ofList (cs : List Char) :
    isEncodable (String.ofList cs) = cs.all fun c => (surrogate? c).isNone := by
  rw [isEncodable, String.toList_ofList]

@[simp] theorem isEncodable_append (s t : String) :
    isEncodable (s ++ t) = (isEncodable s && isEncodable t) := by
  simp [isEncodable, String.toList_append]

/-- What lies within ASCII has no half of a pair. -/
theorem isEncodable_of_ascii {s : String} (h : ∀ c ∈ s.toList, c.toNat < 0x80) :
    isEncodable s = true :=
  List.all_eq_true.mpr fun c hc => by rw [surrogate?_of_lt (h c hc)]; rfl

/-- Joined with a comma, texts have no half of a pair exactly if none of them has. -/
theorem isEncodable_joined (texts : List String) :
    isEncodable (",".intercalate texts) = texts.all isEncodable := by
  induction texts with
  | nil => rfl
  | cons s rest ih =>
    cases rest with
    | nil => simp
    | cons t rest =>
      rw [String.intercalate_cons_cons, isEncodable_append, isEncodable_append, ih]
      have hcomma : isEncodable "," = true := by decide
      rw [hcomma, Bool.and_true, List.all_cons (l := t :: rest)]

end Text

namespace Json

open Text (isEncodable surrogate? hexDigit hexDigits)

theorem toNat_hexDigit_lt (n : Nat) : (hexDigit (n % 16)).toNat < 0x80 := by
  have all : ∀ m ∈ List.range 16, (hexDigit m).toNat < 0x80 := by decide
  exact all _ (List.mem_range.mpr (Nat.mod_lt n (by decide)))

theorem toNat_lt_of_mem_hexDigits {width n : Nat} {c : Char} (h : c ∈ hexDigits width n) :
    c.toNat < 0x80 := by
  induction width generalizing n with
  | zero => cases h
  | succ width ih =>
    obtain h | h := List.mem_append.mp h
    · exact ih h
    · rw [List.mem_singleton.mp h]
      exact toNat_hexDigit_lt n

theorem toNat_lt_of_mem_escapeUnit {n : Nat} {c : Char} (h : c ∈ escapeUnit n) :
    c.toNat < 0x80 := by
  obtain h | h := List.mem_append.mp h
  · have hstart : ∀ d ∈ ['\\', 'u'], d.toNat < 0x80 := by simp
    exact hstart c h
  · exact toNat_lt_of_mem_hexDigits h

theorem toNat_lt_of_mem_escapeChar {c : Char} (hc : c.toNat < 0x80) :
    ∀ d ∈ escapeChar c, d.toNat < 0x80 := by
  unfold escapeChar
  iterate 7
    split
    · simp
  split
  · exact fun _ => toNat_lt_of_mem_escapeUnit
  · exact List.forall_mem_singleton.mpr hc

/-- A character outside ASCII is kept. -/
theorem escapeChar_of_wide {c : Char} (hc : ¬ c.toNat < 0x80) : escapeChar c = [c] := by
  have hne (d : Char) (hd : d.toNat < 0x80) : c ≠ d := fun heq => hc (heq ▸ hd)
  rw [escapeChar, if_neg (hne _ (by decide)), if_neg (hne _ (by decide)),
    if_neg (hne _ (by decide)), if_neg (hne _ (by decide)), if_neg (hne _ (by decide)),
    if_neg (by omega), if_neg (by omega), if_neg (by omega)]

theorem all_escapeChar (c : Char) :
    ((escapeChar c).all fun d => (surrogate? d).isNone) = (surrogate? c).isNone := by
  by_cases hc : c.toNat < 0x80
  · rw [Text.surrogate?_of_lt hc]
    refine List.all_eq_true.mpr fun d hd => ?_
    rw [Text.surrogate?_of_lt (toNat_lt_of_mem_escapeChar hc d hd)]
    rfl
  · simp [escapeChar_of_wide hc]

/-- A string between its quotes can be written in bytes exactly if it can without them. -/
@[simp] theorem isEncodable_string (s : String) : isEncodable (string s) = isEncodable s := by
  have hquote : surrogate? '"' = none := by decide
  rw [string, Text.isEncodable_ofList, stringChars, isEncodable]
  simp [hquote, List.all_flatMap, all_escapeChar]

theorem toNat_lt_of_mem_escapeNarrow {c : Char} : ∀ d ∈ escapeNarrow c, d.toNat < 0x80 := by
  have hwide (n : Nat) : ∀ d ∈ escapeWide n, d.toNat < 0x80 := by
    unfold escapeWide
    split
    · exact fun _ => toNat_lt_of_mem_escapeUnit
    · exact List.forall_mem_append.mpr
        ⟨fun _ => toNat_lt_of_mem_escapeUnit, fun _ => toNat_lt_of_mem_escapeUnit⟩
  unfold escapeNarrow
  split
  · exact toNat_lt_of_mem_escapeChar (by omega)
  · exact hwide _

theorem toNat_lt_of_mem_narrowChars (cs : List Char) : ∀ d ∈ narrowChars cs, d.toNat < 0x80 := by
  intro d hd
  obtain ⟨c, -, hc⟩ := List.mem_flatMap.mp hd
  exact toNat_lt_of_mem_escapeNarrow d hc

theorem toNat_lt_of_mem_asciiString (s : String) :
    ∀ d ∈ (asciiString s).toList, d.toNat < 0x80 := by
  have hquote : ∀ d ∈ ['"'], d.toNat < 0x80 := by simp
  rw [asciiString, String.toList_ofList]
  exact List.forall_mem_append.mpr
    ⟨List.forall_mem_append.mpr ⟨hquote, toNat_lt_of_mem_narrowChars _⟩, hquote⟩

theorem isEncodable_asciiString (s : String) : isEncodable (asciiString s) = true :=
  Text.isEncodable_of_ascii (toNat_lt_of_mem_asciiString s)

end Json

/-- Whatever a query is about, the body of its request can be sent. -/
theorem isEncodable_body (r : Request) : Text.isEncodable r.body = true := by
  have hopen : Text.isEncodable "\x7b\"query\":" = true := by decide
  have hclose : Text.isEncodable "\x7d" = true := by decide
  rw [Request.body, Text.isEncodable_append, Text.isEncodable_append, hopen, hclose,
    Json.isEncodable_asciiString]
  rfl

namespace Json

open Text (isEncodable)

/-- A value that can be sent: JSON can express it, and its texts are characters throughout. -/
def IsSendable (v : Value) : Prop := ∃ s, encode? v = some s ∧ isEncodable s = true

theorem isSendable_null : IsSendable .null := ⟨"null", rfl, by decide⟩

theorem isSendable_text_iff (s : String) : IsSendable (.text s) ↔ isEncodable s = true := by
  simp [IsSendable, encode?]

theorem isSendable_int (n : Int) : IsSendable (.int n) := by
  have hsign : ∀ c ∈ if n < 0 then ['-'] else [], c.toNat < 0x80 := by
    split
    · simp
    · exact List.forall_mem_nil _
  have hdigits : ∀ c ∈ Number.decimalDigits n.natAbs, c.toNat < 0x80 := by
    intro c hc
    have hdigit : c.isDigit = true := Nat.isDigit_of_mem_toDigits (by decide) (by decide) hc
    have hrange : '0'.val ≤ c.val ∧ c.val ≤ '9'.val := by simpa [Char.isDigit] using hdigit
    exact Nat.lt_of_le_of_lt (UInt32.le_iff_toNat_le.mp hrange.2) (by decide)
  refine ⟨_, rfl, Text.isEncodable_of_ascii ?_⟩
  rw [Number.integer, String.toList_ofList]
  exact List.forall_mem_append.mpr ⟨hsign, hdigits⟩

theorem exists_encodeItems?_iff (vs : List Value) :
    (∃ xs, encodeItems? vs = some xs ∧ xs.all isEncodable = true) ↔ ∀ v ∈ vs, IsSendable v := by
  induction vs with
  | nil => simp [encodeItems?]
  | cons v rest ih =>
    rw [List.forall_mem_cons, ← ih]
    constructor
    · rintro ⟨xs, hxs, hall⟩
      obtain ⟨x, hx, hxs⟩ := Option.bind_eq_some_iff.mp hxs
      obtain ⟨ys, hys, heq⟩ := Option.bind_eq_some_iff.mp hxs
      cases heq
      obtain ⟨hfirst, hrest⟩ := Bool.and_eq_true_iff.mp hall
      exact ⟨⟨x, hx, hfirst⟩, ys, hys, hrest⟩
    · rintro ⟨⟨x, hx, hfirst⟩, xs, hxs, hrest⟩
      refine ⟨x :: xs, ?_, Bool.and_eq_true_iff.mpr ⟨hfirst, hrest⟩⟩
      rw [encodeItems?, hx, hxs]
      rfl

theorem exists_encodeEntries?_iff (es : List (String × Value)) :
    (∃ xs, encodeEntries? es = some xs ∧ xs.all isEncodable = true) ↔
      ∀ e ∈ es, isEncodable e.1 = true ∧ IsSendable e.2 := by
  induction es with
  | nil => simp [encodeEntries?]
  | cons e rest ih =>
    obtain ⟨k, v⟩ := e
    have hcolon : isEncodable ":" = true := by decide
    have hpair (x : String) :
        isEncodable (string k ++ ":" ++ x) = (isEncodable k && isEncodable x) := by
      simp [hcolon]
    rw [List.forall_mem_cons, ← ih]
    constructor
    · rintro ⟨xs, hxs, hall⟩
      obtain ⟨x, hx, hxs⟩ := Option.bind_eq_some_iff.mp hxs
      obtain ⟨ys, hys, heq⟩ := Option.bind_eq_some_iff.mp hxs
      cases heq
      obtain ⟨hfirst, hrest⟩ := Bool.and_eq_true_iff.mp hall
      obtain ⟨hk, hv⟩ := Bool.and_eq_true_iff.mp ((hpair x).symm.trans hfirst)
      exact ⟨⟨hk, x, hx, hv⟩, ys, hys, hrest⟩
    · rintro ⟨⟨hk, x, hx, hv⟩, xs, hxs, hrest⟩
      refine ⟨(string k ++ ":" ++ x) :: xs, ?_, Bool.and_eq_true_iff.mpr ⟨?_, hrest⟩⟩
      · rw [encodeEntries?, hx, hxs]
        rfl
      · exact (hpair x).trans (Bool.and_eq_true_iff.mpr ⟨hk, hv⟩)

/-- A list can be sent exactly if its items can. -/
theorem isSendable_list_iff (vs : List Value) :
    IsSendable (.list vs) ↔ ∀ v ∈ vs, IsSendable v := by
  have hframe (xs : List String) :
      isEncodable ("[" ++ ",".intercalate xs ++ "]") = xs.all isEncodable := by
    have hopen : isEncodable "[" = true := by decide
    have hclose : isEncodable "]" = true := by decide
    rw [Text.isEncodable_append, Text.isEncodable_append, Text.isEncodable_joined, hopen, hclose,
      Bool.true_and, Bool.and_true]
  rw [← exists_encodeItems?_iff]
  constructor
  · rintro ⟨s, hs, hencodable⟩
    obtain ⟨xs, hxs, rfl⟩ := Option.map_eq_some_iff.mp hs
    exact ⟨xs, hxs, (hframe xs).symm.trans hencodable⟩
  · rintro ⟨xs, hxs, hall⟩
    exact ⟨_, congrArg (Option.map _) hxs, (hframe xs).trans hall⟩

/-- A mapping can be sent exactly if its keys and its values can. -/
theorem isSendable_map_iff (es : List (String × Value)) :
    IsSendable (.map es) ↔ ∀ e ∈ es, isEncodable e.1 = true ∧ IsSendable e.2 := by
  have hframe (xs : List String) :
      isEncodable ("\x7b" ++ ",".intercalate xs ++ "\x7d") = xs.all isEncodable := by
    have hopen : isEncodable "\x7b" = true := by decide
    have hclose : isEncodable "\x7d" = true := by decide
    rw [Text.isEncodable_append, Text.isEncodable_append, Text.isEncodable_joined, hopen, hclose,
      Bool.true_and, Bool.and_true]
  rw [← exists_encodeEntries?_iff]
  constructor
  · rintro ⟨s, hs, hencodable⟩
    obtain ⟨xs, hxs, rfl⟩ := Option.map_eq_some_iff.mp hs
    exact ⟨xs, hxs, (hframe xs).symm.trans hencodable⟩
  · rintro ⟨xs, hxs, hall⟩
    exact ⟨_, congrArg (Option.map _) hxs, (hframe xs).trans hall⟩

end Json

namespace Api

open Json (IsSendable)
open Value (levels levelsOfEntries)

mutual

/-- A value that can be written as data has no number that data lack. -/
theorem withoutOddNumbers_of_encode? {v : Value} {s : String} (h : Json.encode? v = some s) :
    withoutOddNumbers v = v := by
  cases v with
  | float x =>
    have hfinite : Number.isFinite x = true := by
      unfold Json.encode? at h
      split at h
      · assumption
      · cases h
    rw [withoutOddNumbers, if_pos hfinite]
  | seq kind items =>
    have hitems : ∃ xs, Json.encodeItems? items = some xs := by
      cases kind with
      | list | tuple =>
        obtain ⟨xs, hxs, -⟩ := Option.map_eq_some_iff.mp h
        exact ⟨xs, hxs⟩
      | set | frozenSet => cases h
    obtain ⟨xs, hxs⟩ := hitems
    rw [withoutOddNumbers, itemsWithoutOdd_of_encodeItems? hxs]
  | map es =>
    obtain ⟨xs, hxs, -⟩ := Option.map_eq_some_iff.mp h
    rw [withoutOddNumbers, entriesWithoutOdd_of_encodeEntries? hxs]
  | _ => rfl

theorem itemsWithoutOdd_of_encodeItems? {vs : List Value} {xs : List String}
    (h : Json.encodeItems? vs = some xs) : itemsWithoutOdd vs = vs := by
  cases vs with
  | nil => rfl
  | cons v rest =>
    obtain ⟨x, hx, h⟩ := Option.bind_eq_some_iff.mp h
    obtain ⟨ys, hys, -⟩ := Option.bind_eq_some_iff.mp h
    rw [itemsWithoutOdd, withoutOddNumbers_of_encode? hx, itemsWithoutOdd_of_encodeItems? hys]

theorem entriesWithoutOdd_of_encodeEntries? {es : List (String × Value)} {xs : List String}
    (h : Json.encodeEntries? es = some xs) : entriesWithoutOdd es = es := by
  cases es with
  | nil => rfl
  | cons e rest =>
    obtain ⟨x, hx, h⟩ := Option.bind_eq_some_iff.mp h
    obtain ⟨ys, hys, -⟩ := Option.bind_eq_some_iff.mp h
    rw [entriesWithoutOdd, withoutOddNumbers_of_encode? hx,
      entriesWithoutOdd_of_encodeEntries? hys]

end

/-- A mapping that can be written as data has no number that data lack. -/
theorem entriesWithoutOdd_of_encode? {es : List (String × Value)}
    (h : (Json.encode? (.map es)).isSome = true) : entriesWithoutOdd es = es := by
  obtain ⟨s, hs⟩ := Option.isSome_iff_exists.mp h
  exact Value.map.inj (withoutOddNumbers_of_encode? hs)

theorem looseData_eq_ok_iff {v w : Value} :
    looseData v = .ok w ↔ levels v ≤ maxLevels ∧ w = withoutOddNumbers v := by
  unfold looseData
  split
  · next h => exact ⟨fun heq => ⟨h, (Except.ok.inj heq).symm⟩, fun heq => heq.2 ▸ rfl⟩
  · next h => exact ⟨nofun, fun heq => absurd heq.1 h⟩

/-- The values of a mapping are sent exactly if none of them is too deep. -/
theorem mapEntries_looseData_iff {es loose : Entries Value} :
    mapEntries looseData es = .ok loose ↔
      levelsOfEntries es ≤ maxLevels ∧ loose = entriesWithoutOdd es := by
  induction es generalizing loose with
  | nil => exact ⟨fun h => ⟨Nat.zero_le _, (Except.ok.inj h).symm⟩, fun h => h.2 ▸ rfl⟩
  | cons e rest ih =>
    obtain ⟨k, v⟩ := e
    rw [mapEntries, List.mapM_cons, levelsOfEntries, entriesWithoutOdd, Nat.max_le]
    constructor
    · intro h
      obtain ⟨e, hv, h⟩ := bind_eq_ok_iff.mp h
      obtain ⟨others, hrest, heq⟩ := bind_eq_ok_iff.mp h
      obtain ⟨w, hw, he⟩ := bind_eq_ok_iff.mp hv
      obtain ⟨hlevels, rfl⟩ := looseData_eq_ok_iff.mp hw
      obtain ⟨hothers, rfl⟩ := ih.mp hrest
      obtain rfl := Except.ok.inj he
      exact ⟨⟨hlevels, hothers⟩, (Except.ok.inj heq).symm⟩
    · rintro ⟨⟨hlevels, hothers⟩, rfl⟩
      have hpair : (do return (k, ← looseData v) : Except Failure (String × Value)) =
          .ok (k, withoutOddNumbers v) :=
        bind_eq_ok_iff.mpr ⟨_, looseData_eq_ok_iff.mpr ⟨hlevels, rfl⟩, rfl⟩
      exact bind_eq_ok_iff.mpr
        ⟨_, hpair, bind_eq_ok_iff.mpr ⟨_, ih.mpr ⟨hothers, rfl⟩, rfl⟩⟩

/-- There is a response exactly for a body that can be sent. -/
theorem ofData_eq_ok_iff {status : Nat} {body : Value} {r : Response} :
    Response.ofData status body = .ok r ↔ IsSendable body ∧ r = ⟨status, body⟩ := by
  unfold Response.ofData IsSendable
  cases Json.encode? body with
  | none => exact ⟨nofun, nofun⟩
  | some s =>
    dsimp only
    cases hs : Text.isEncodable s with
    | false =>
      refine ⟨nofun, ?_⟩
      rintro ⟨⟨_, ⟨⟩, hencodable⟩, -⟩
      rw [hs] at hencodable
      cases hencodable
    | true => exact ⟨fun h => ⟨⟨s, rfl, hs⟩, (Except.ok.inj h).symm⟩, fun h => h.2 ▸ rfl⟩

end Api

end Retrieval
