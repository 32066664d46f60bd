import Retrieval.Proofs.FilterForms
import Retrieval.Proofs.Inputs

/-!
What decides whether something can be built. A way of building is judged by two conditions on its
subject: it comes to something exactly under the one, and is a misuse exactly under the other; under
neither it is refused with a cause. Main statement: a comparison is made exactly if its key names a
path and its value is a proper one, and it is never a misuse.
-/

namespace Retrieval

variable {α β : Type}

/-- In a list all is good up to an element that is bad. -/
def FirstBad (good bad : α → Prop) (xs : List α) : Prop :=
  ∃ before x after, xs = before ++ x :: after ∧ (∀ y ∈ before, good y) ∧ bad x

theorem not_firstBad_nil (good bad : α → Prop) : ¬ FirstBad good bad [] := by
  rintro ⟨before, x, after, h, -⟩
  exact List.append_ne_nil_of_right_ne_nil before (List.cons_ne_nil x after) h.symm

theorem firstBad_cons {good bad : α → Prop} {x : α} {xs : List α} :
    FirstBad good bad (x :: xs) ↔ bad x ∨ good x ∧ FirstBad good bad xs := by
  constructor
  · rintro ⟨before, y, after, h, hbefore, hy⟩
    cases before with
    | nil =>
      obtain ⟨rfl, -⟩ := List.cons.inj h
      exact .inl hy
    | cons z before =>
      obtain ⟨rfl, rfl⟩ := List.cons.inj h
      obtain ⟨hz, hbefore⟩ := List.forall_mem_cons.mp hbefore
      exact .inr ⟨hz, before, y, after, rfl, hbefore, hy⟩
  · rintro (hx | ⟨hx, before, y, after, rfl, hbefore, hy⟩)
    · exact ⟨[], x, xs, rfl, List.forall_mem_nil _, hx⟩
    · exact ⟨x :: before, y, after, rfl, List.forall_mem_cons.mpr ⟨hx, hbefore⟩, hy⟩

namespace Predicate

/-- A way of building that comes to something exactly if its subject is good, and is a misuse exactly
if it is bad. -/
structure Judges (x : Build α) (good bad : Prop) : Prop where
  ok_iff : (∃ a, x = .ok a) ↔ good
  misuse_iff : x = misuse ↔ bad

theorem judges_ok (a : α) : Judges (.ok a) True False :=
  ⟨by simp, by simp [misuse]⟩

theorem judges_refuse (cause : ConfigurationError) : Judges (refuse cause : Build α) False False :=
  ⟨by simp [refuse], by simp [refuse, misuse]⟩

theorem judges_misuse : Judges (misuse : Build α) False True :=
  ⟨by simp [misuse], by simp⟩

/-- What comes to something or is refused is never a misuse. -/
theorem Decided.judges {x : Build α} (h : Decided x) : Judges x (∃ a, x = .ok a) False := by
  refine ⟨Iff.rfl, fun hmisuse => ?_, False.elim⟩
  obtain ⟨a, -, ha, -, -⟩ | ⟨⟨cause, hcause⟩, -⟩ := h
  · exact nomatch ha.symm.trans hmisuse
  · exact nomatch hcause.symm.trans hmisuse

theorem Judges.congr {x : Build α} {good bad good' bad' : Prop} (h : Judges x good bad)
    (hgood : good ↔ good') (hbad : bad ↔ bad') : Judges x good' bad' :=
  ⟨h.ok_iff.trans hgood, h.misuse_iff.trans hbad⟩

/-- One step after another: the second one counts only if the first one comes to something. -/
theorem Judges.bind {x : Build α} {f : α → Build β} {good bad good' bad' : Prop}
    (h : Judges x good bad) (hf : ∀ a, x = .ok a → Judges (f a) good' bad') :
    Judges (x >>= f) (good ∧ good') (bad ∨ good ∧ bad') := by
  cases x with
  | ok a =>
    have hgood : good := h.ok_iff.mp ⟨a, rfl⟩
    have hbad : ¬ bad := fun hbad => nomatch h.misuse_iff.mpr hbad
    exact (hf a rfl).congr (by simp [hgood]) (by simp [hgood, hbad])
  | error e =>
    have hgood : ¬ good := by simp [← h.ok_iff]
    have hmisuse : (Except.error e : Build β) = misuse ↔ bad := by simp [← h.misuse_iff, misuse]
    show Judges (Except.error e : Build β) _ _
    exact ⟨by simp [hgood], hmisuse.trans (by simp [hgood])⟩

theorem Judges.map {x : Build α} {good bad : Prop} (h : Judges x good bad) (f : α → β) :
    Judges (do return f (← x)) good bad :=
  (h.bind fun a _ => judges_ok (f a)).congr (by simp) (by simp)

theorem Judges.both {γ : Type} {x : Build α} {y : Build β} {good bad good' bad' : Prop}
    (hx : Judges x good bad) (hy : Judges y good' bad') (f : α → β → γ) :
    Judges (do let a ← x; let b ← y; return f a b) (good ∧ good') (bad ∨ good ∧ bad') :=
  hx.bind fun a _ => hy.map (f a)

/-- Whatever is neither good nor bad is refused. -/
theorem Judges.refuse_iff {x : Build α} {good bad : Prop} (h : Judges x good bad) :
    (∃ cause, x = refuse cause) ↔ ¬ good ∧ ¬ bad := by
  rw [← h.ok_iff, ← h.misuse_iff]
  cases x with
  | ok a => simp [refuse]
  | error e => cases e <;> simp [refuse, misuse]

/-- Without parts, a value is bounded everywhere if it is bounded itself. -/
theorem everywhere_isBounded_iff {v : Value} (hseq : ∀ kind items, v ≠ .seq kind items)
    (hmap : ∀ entries, v ≠ .map entries) : v.Everywhere IsBounded ↔ IsBounded v :=
  ⟨Value.Everywhere.here, Value.everywhere_of_scalar hseq hmap⟩

mutual

/-- A value can be settled exactly if no mapping and no infinite number stands in it. -/
theorem exists_frozen_iff (v : Value) : (∃ x, frozen v = .ok x) ↔ v.Everywhere IsBounded := by
  cases v with
  | seq kind items =>
    rw [frozen, exists_bind_pure_iff, exists_frozenItems_iff items, Value.everywhere_seq]
    simp [IsBounded]
  | float x =>
    rw [everywhere_isBounded_iff (by simp) (by simp), frozen, IsBounded]
    split
    · next hfinite => simp [hfinite]
    · next hinfinite => simp [hinfinite, refuse]
  | map es => exact ⟨fun ⟨x, hx⟩ => (nomatch hx), fun h => h.here.elim⟩
  | _ =>
    rw [everywhere_isBounded_iff (by simp) (by simp)]
    exact ⟨fun _ => trivial, fun _ => ⟨_, rfl⟩⟩

theorem exists_frozenItems_iff (vs : List Value) :
    (∃ xs, frozenItems vs = .ok xs) ↔ ∀ v ∈ vs, v.Everywhere IsBounded := by
  cases vs with
  | nil => simp [frozenItems]
  | cons v rest =>
    rw [frozenItems, exists_bind_bind_iff, exists_frozen_iff v, exists_frozenItems_iff rest,
      List.forall_mem_cons]

end

/-- A value stays in its family when it is settled. -/
theorem family_frozen {v x : Value} (h : frozen v = .ok x) : family x = family v := by
  obtain ⟨kind, items, rfl⟩ | hscalar := v.seq_or_scalar
  · obtain ⟨xs, -, hx⟩ := bind_eq_ok_iff.mp h
    cases hx
    rfl
  · exact (frozen_of_scalar hscalar h).2

theorem map_family_frozenItems {vs xs : List Value} (h : frozenItems vs = .ok xs) :
    xs.map family = vs.map family := by
  induction vs generalizing xs with
  | nil =>
    cases h
    rfl
  | cons v rest ih =>
    obtain ⟨x, hx, hmore⟩ := bind_eq_ok_iff.mp h
    obtain ⟨ys, hys, hxs⟩ := bind_eq_ok_iff.mp hmore
    cases hxs
    rw [List.map_cons, List.map_cons, family_frozen hx, ih hys]

/-- Elements that all belong to one family. -/
def Uniform (vs : List Value) : Prop := ∀ a ∈ vs, ∀ b ∈ vs, family a = family b

theorem uniform_congr {vs xs : List Value} (h : xs.map family = vs.map family) :
    Uniform xs ↔ Uniform vs := by
  have hmap (ws : List Value) :
      Uniform ws ↔ ∀ f ∈ ws.map family, ∀ g ∈ ws.map family, f = g := by
    simp [Uniform]
  rw [hmap, hmap, h]

/-- The check passes exactly the elements of one family. -/
theorem checkFamilies_seq_iff (path : Value) (kind : SeqKind) (items : List Value) :
    (∃ u, checkFamilies path (.seq kind items) = .ok u) ↔ Uniform items := by
  refine ⟨fun ⟨u, hu⟩ => uniform_of_checkFamilies hu kind items rfl, fun h => ?_⟩
  have hlength : ¬ (familiesOf items).length > 1 := by
    cases items with
    | nil => decide
    | cons v rest =>
      have hfamilies : familiesOf (v :: rest) = [.boolean, .number, .text].filter (· = family v) := by
        refine List.filter_congr fun f _ => ?_
        rw [Bool.eq_iff_iff, List.any_eq_true]
        constructor
        · rintro ⟨w, hw, hf⟩
          have hwv := h w hw v List.mem_cons_self
          simpa [← hwv] using (of_decide_eq_true hf).symm
        · intro hf
          exact ⟨v, List.mem_cons_self, by simpa using (of_decide_eq_true hf).symm⟩
      rw [hfamilies]
      cases family v <;> decide
  exact ⟨(), by rw [checkFamilies, if_neg hlength]⟩

theorem checkFamilies_scalar (path : Value) {v : Value} (h : ∀ kind items, v ≠ .seq kind items) :
    checkFamilies path v = .ok () := by
  unfold checkFamilies
  split
  · exact absurd rfl (h _ _)
  · rfl

/-- A value that was settled passes the check exactly if its own elements are of one family. -/
theorem judges_checkFamilies (path : Value) {v x : Value} (hx : frozen v = .ok x) :
    Judges (checkFamilies path x) (∀ kind items, v = .seq kind items → Uniform items) False := by
  refine (checkFamilies_decided path x).judges.congr ?_ Iff.rfl
  obtain ⟨kind, items, rfl⟩ | hscalar := v.seq_or_scalar
  · obtain ⟨xs, hxs, htuple⟩ := bind_eq_ok_iff.mp hx
    cases htuple
    rw [checkFamilies_seq_iff, uniform_congr (map_family_frozenItems hxs)]
    simp
  · have hcheck := checkFamilies_scalar path (frozen_of_scalar hscalar hx).1
    exact ⟨fun _ kind items hv => absurd hv (hscalar kind items), fun _ => ⟨(), hcheck⟩⟩

/-- A key that names a path. -/
def IsPathKey (key : String) : Prop := ∃ path, FieldPath.parse key = .ok path

theorem judges_pathOf (key : String) : Judges (pathOf (.text key)) (IsPathKey key) False := by
  refine (pathOf_decided (.text key)).judges.congr ?_ Iff.rfl
  rw [IsPathKey, pathOf, FieldPath.ofValue, Value.text?]
  dsimp only
  cases FieldPath.parse key <;> simp [refuse]

/-- A comparison is made exactly if the key names a path and the value is a proper one. -/
theorem judges_comparing (key : String) (c : Comparison) (v : Value) :
    Judges (comparing (.text key) c v) (IsPathKey key ∧ IsOperandValue v) False := by
  have hfrozen : Judges (frozen v) (v.Everywhere IsBounded) False :=
    (frozen_decided v).judges.congr (exists_frozen_iff v) Iff.rfl
  refine (hfrozen.bind fun x hx => (judges_checkFamilies (.text key) hx).bind fun u _ =>
    (judges_pathOf key).map fun path => leaf path c x).congr ?_ (by simp)
  constructor
  · exact fun ⟨hbounded, huniform, hkey⟩ => ⟨hkey, hbounded, huniform⟩
  · exact fun ⟨hkey, hvalue⟩ => ⟨hvalue.bounded, hvalue.uniform, hkey⟩

/-- Sequences of all kinds are proper values alike. -/
theorem isOperandValue_seq (kind other : SeqKind) (items : List Value) :
    IsOperandValue (.seq kind items) ↔ IsOperandValue (.seq other items) := by
  have himp (k l : SeqKind) (h : IsOperandValue (.seq k items)) : IsOperandValue (.seq l items) := by
    refine ⟨(Value.everywhere_seq l items).mpr ⟨trivial, ?_⟩, ?_⟩
    · exact ((Value.everywhere_seq k items).mp h.bounded).2
    · rintro _ _ ⟨⟩
      exact h.uniform k items rfl
  exact ⟨himp kind other, himp other kind⟩

theorem isOperandValue_bool (b : Bool) : IsOperandValue (.bool b) :=
  ⟨Value.everywhere_of_scalar (by simp) (by simp) trivial, by simp⟩

theorem isOperandValue_null : IsOperandValue .null :=
  ⟨Value.everywhere_of_scalar (by simp) (by simp) trivial, by simp⟩

theorem not_isOperandValue_map (entries : List (String × Value)) : ¬ IsOperandValue (.map entries) :=
  fun h => h.bounded.here

end Predicate

end Retrieval
