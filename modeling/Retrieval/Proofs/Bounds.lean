import Retrieval.Clause
import Retrieval.Proofs.Inputs

/-!
The numbers that a search and a generator are given. Main statements: every such number that is
read is within its bounds, and a number that is at least zero is no infinity below zero.
-/

namespace Retrieval

namespace Schema

variable {α β : Type}

theorem map_eq_valid_iff {f : α → β} {c : Checked α} {b : β} :
    f <$> c = .valid b ↔ ∃ a, c = .valid a ∧ f a = b := by
  cases c <;> simp

theorem seq_eq_valid_iff {f : Checked (α → β)} {c : Checked α} {b : β} :
    f <*> c = .valid b ↔ ∃ g a, f = .valid g ∧ c = .valid a ∧ g a = b := by
  cases f <;> cases c <;> simp [Seq.seq, Checked.apply]

theorem under_eq_valid_iff {step : Step} {c : Checked α} {a : α} :
    c.under step = .valid a ↔ c = .valid a := by
  cases c <;> simp [Checked.under]

theorem bind_eq_valid_iff {c : Checked α} {f : α → Checked β} {b : β} :
    c.bind f = .valid b ↔ ∃ a, c = .valid a ∧ f a = .valid b := by
  cases c <;> simp [Checked.bind]

theorem given_eq_valid_iff {name : String} {read : Reader α} {v : Value} {a : α} :
    given name read v = .valid a ↔ read v = .valid a := under_eq_valid_iff

theorem read_of_optional {read : Reader α} {v : Value} {x? : Option α}
    (h : optional read v = .valid x?) : ∀ x ∈ x?, read v = .valid x := by
  rintro x ⟨⟩
  unfold optional at h
  split at h
  · cases h
  · obtain ⟨y, hy, hsome⟩ := map_eq_valid_iff.mp h
    obtain rfl := Option.some.inj hsome
    exact hy

theorem eq_null_of_optional {read : Reader α} {v : Value}
    (h : optional read v = .valid none) : v = .null := by
  unfold optional at h
  split at h
  · rfl
  · obtain ⟨x, -, hx⟩ := map_eq_valid_iff.mp h
    cases hx

theorem itemsFrom_eq_valid_iff {read : Reader α} {n : Nat} {vs : List Value} {xs : List α} :
    itemsFrom read n vs = .valid xs ↔ vs.map read = xs.map .valid := by
  induction vs generalizing n xs with
  | nil => cases xs <;> simp [itemsFrom]
  | cons v rest ih =>
    have hcons : itemsFrom read n (v :: rest) =
        List.cons <$> (read v).under (.index n) <*> itemsFrom read (n + 1) rest := rfl
    rw [hcons, seq_eq_valid_iff]
    simp only [map_eq_valid_iff, under_eq_valid_iff, ih]
    constructor
    · rintro ⟨_, ys, ⟨y, hy, rfl⟩, hys, rfl⟩
      rw [List.map_cons, List.map_cons, hy, hys]
    · cases xs with
      | nil => exact fun h => absurd h (by simp)
      | cons x xs =>
        intro h
        obtain ⟨hx, hxs⟩ := List.cons.inj h
        exact ⟨_, xs, ⟨x, hx, rfl⟩, hxs, rfl⟩

/-- The elements of a list are checked one by one. -/
theorem items_eq_valid_iff {read : Reader α} {vs : List Value} {xs : List α} :
    items read vs = .valid xs ↔ vs.map read = xs.map .valid := itemsFrom_eq_valid_iff

theorem exists_items_eq_valid_iff {read : Reader α} {vs : List Value} :
    (∃ xs, items read vs = .valid xs) ↔ ∀ v ∈ vs, ∃ x, read v = .valid x := by
  simp only [items_eq_valid_iff]
  constructor
  · rintro ⟨xs, hxs⟩ v hv
    have hmem : read v ∈ xs.map Checked.valid := hxs ▸ List.mem_map_of_mem hv
    obtain ⟨x, -, hx⟩ := List.mem_map.mp hmem
    exact ⟨x, hx.symm⟩
  · intro h
    induction vs with
    | nil => exact ⟨[], rfl⟩
    | cons v rest ih =>
      obtain ⟨⟨x, hx⟩, hrest⟩ := List.forall_mem_cons.mp h
      obtain ⟨xs, hxs⟩ := ih hrest
      exact ⟨x :: xs, by rw [List.map_cons, List.map_cons, hx, hxs]⟩

/-- A number within bounds. -/
def Bounds.Admits (b : Bounds) (x : Float) : Prop := b.check x = .valid x

theorem Bounds.eq_of_check {b : Bounds} {x y : Float} (h : b.check x = .valid y) : x = y := by
  unfold check at h
  repeat' split at h
  all_goals first | exact Checked.valid.inj h | cases h

theorem admits_of_realWithin {b : Bounds} {v : Value} {x : Float}
    (h : realWithin b v = .valid x) : b.Admits x := by
  obtain ⟨y, -, hcheck⟩ := bind_eq_valid_iff.mp h
  obtain rfl := Bounds.eq_of_check hcheck
  exact hcheck

/-- A number is admitted exactly if it keeps every bound that is set. -/
theorem Bounds.admits_iff {b : Bounds} {x : Float} : b.Admits x ↔
    (∀ m ∈ b.atMost, x ≤ m) ∧ (∀ m ∈ b.below, x < m) ∧ (∀ m ∈ b.atLeast, m ≤ x) ∧
      ∀ m ∈ b.above, m < x := by
  have hkept {bound : Option Float} {keeps : Float → Bool} :
      (bound.any fun m => !keeps m) = false ↔ ∀ m ∈ bound, keeps m = true := by
    cases bound <;> simp
  have hle := @hkept b.atMost fun m => x ≤ m
  have hlt := @hkept b.below fun m => x < m
  have hge := @hkept b.atLeast fun m => m ≤ x
  have hgt := @hkept b.above fun m => m < x
  simp only [decide_eq_true_eq] at hle hlt hge hgt
  rw [← hle, ← hlt, ← hge, ← hgt]
  unfold Admits check
  constructor
  · intro h
    repeat' split at h
    all_goals simp_all [Checked.refuse]
  · rintro ⟨h1, h2, h3, h4⟩
    simp [h1, h2, h3, h4]

theorem Bounds.Admits.atLeast {b : Bounds} {m x : Float} (h : b.Admits x)
    (hm : b.atLeast = some m) : m ≤ x :=
  (admits_iff.mp h).2.2.1 m hm

/-- What holds of all that is read and of the value to fall back to, holds of a field. -/
theorem of_defaulted {P : α → Prop} {name : String} {fallback a : α} {read : Reader α}
    {es : Entries Value} (h : defaulted name fallback read es = .valid a) (hfallback : P fallback)
    (hread : ∀ v b, read v = .valid b → P b) : P a := by
  unfold defaulted at h
  split at h
  · exact hread _ a (under_eq_valid_iff.mp h)
  · obtain rfl := Checked.valid.inj h
    exact hfallback

end Schema

namespace Number

theorem eq_of_toBits {x y : Float} (h : x.toBits = y.toBits) : x = y := by
  obtain ⟨⟨a, ha⟩⟩ := x
  obtain ⟨⟨b, hb⟩⟩ := y
  obtain rfl : a = b := h
  rfl

/-- The infinity below zero. -/
def leastInfinity : Float := Float.ofBits 0xfff0000000000000

theorem eq_leastInfinity {x : Float} (h : parts x = .infinite true) : x = leastInfinity := by
  have hlt := x.toBits.toNat_lt
  have hbits : x.toBits.toNat = 0xfff0000000000000 := by
    simp only [parts, partsOfBits, show twoTo 63 = 2 ^ 63 from rfl,
      show twoTo 52 = 2 ^ 52 from rfl, show twoTo 11 = 2 ^ 11 from rfl] at h
    split at h
    · split at h
      · simp at h
        omega
      · cases h
    · split at h <;> cases h
  refine eq_of_toBits (UInt64.toNat_inj.mp (hbits.trans ?_))
  decide

theorem parts_ne_of_nonneg {x : Float} (h : 0.0 ≤ x) : parts x ≠ .infinite true := by
  intro hx
  rw [eq_leastInfinity hx] at h
  revert h
  decide

end Number

open Schema

/-- The numbers of a search are within their bounds; the components of a vector have none. -/
def Search.IsBounded : Search → Prop
  | .about _ certainty => ∀ x ∈ certainty, unitInterval.Admits x
  | .words .. => True
  | .hybrid _ alpha _ _ => unitInterval.Admits alpha
  | .nearVector _ distance => distanceBounds.Admits distance
  | .similar _ distance => ∀ x ∈ distance, distanceBounds.Admits x

def GenerationOptions.IsBounded (o : GenerationOptions) : Prop :=
  ∀ x ∈ o.temperature, Generation.temperatureBounds.Admits x

def Generation.IsBounded : Generation → Prop
  | .perRecord _ options => options.IsBounded
  | .overAll _ _ options => options.IsBounded
  | .ask _ _ options => options.IsBounded

theorem clausePart_eq_ok_iff {α : Type} {part : String} {c : Checked α} {a : α} :
    clausePart part c = .ok a ↔ c = .valid a := by
  cases c <;> simp [clausePart, refuse]

theorem yields_clausePart {α : Type} {P : α → Prop} {part : String} {c : Checked α}
    (h : ∀ a, c = .valid a → P a) : Yields P (clausePart part c) := by
  intro a ha
  cases c with
  | valid b => exact h a (congrArg _ (Except.ok.inj ha))
  | invalid issues => cases ha

namespace Search

theorem yields_readAbout (concept certainty : Value) :
    Yields IsBounded (clausePart "About" (readAbout concept certainty)) := by
  refine yields_clausePart fun s hs => ?_
  obtain ⟨g, x?, hg, hx, rfl⟩ := seq_eq_valid_iff.mp hs
  obtain ⟨text, -, rfl⟩ := map_eq_valid_iff.mp hg
  exact fun x hmem => admits_of_realWithin (read_of_optional (given_eq_valid_iff.mp hx) x hmem)

theorem yields_readWords (phrase : Value) (properties : List Value) :
    Yields IsBounded (clausePart "Match" (readWords phrase properties)) := by
  refine yields_clausePart fun s hs => ?_
  obtain ⟨g, ps, hg, -, rfl⟩ := seq_eq_valid_iff.mp hs
  obtain ⟨text, -, rfl⟩ := map_eq_valid_iff.mp hg
  trivial

theorem yields_readHybrid (phrase alpha fusion : Value) (weights : List (String × Value)) :
    Yields IsBounded (clausePart "Find" (readHybrid phrase alpha fusion weights)) := by
  refine yields_clausePart fun s hs => ?_
  obtain ⟨withFusion, ws, hfusion, -, rfl⟩ := seq_eq_valid_iff.mp hs
  obtain ⟨withAlpha, f, halpha, -, rfl⟩ := seq_eq_valid_iff.mp hfusion
  obtain ⟨withText, x, htext, hx, rfl⟩ := seq_eq_valid_iff.mp halpha
  obtain ⟨text, -, rfl⟩ := map_eq_valid_iff.mp htext
  exact admits_of_realWithin (given_eq_valid_iff.mp hx)

theorem yields_readNearVector (vector : Option (List Value)) (distance id property : Value) :
    Yields IsBounded (clausePart "NearVector" (readNearVector vector distance id property)) := by
  refine yields_clausePart fun s hs => ?_
  obtain ⟨⟨v, i, p, d⟩, hfields, hsource⟩ := bind_eq_valid_iff.mp hs
  obtain ⟨withProperty, x, hproperty, hx, hpair⟩ := seq_eq_valid_iff.mp hfields
  obtain ⟨withId, p', hid, -, rfl⟩ := seq_eq_valid_iff.mp hproperty
  obtain ⟨withVector, i', hvector, -, rfl⟩ := seq_eq_valid_iff.mp hid
  obtain ⟨v', -, rfl⟩ := map_eq_valid_iff.mp hvector
  cases hpair
  dsimp only at hsource
  cases hv : vectorSource? v i p with
  | error message =>
    rw [hv] at hsource
    cases hsource
  | ok source =>
    rw [hv] at hsource
    cases hsource
    exact admits_of_realWithin (given_eq_valid_iff.mp hx)

theorem yields_readSimilar (id distance : Value) :
    Yields IsBounded (clausePart "Similar" (readSimilar id distance)) := by
  refine yields_clausePart fun s hs => ?_
  obtain ⟨g, x?, hg, hx, rfl⟩ := seq_eq_valid_iff.mp hs
  obtain ⟨text, -, rfl⟩ := map_eq_valid_iff.mp hg
  exact fun x hmem => admits_of_realWithin (read_of_optional (given_eq_valid_iff.mp hx) x hmem)

end Search

namespace Generation

theorem yields_readOptions (es : Entries Value) : Yields GenerationOptions.IsBounded
    (clausePart "GenerationOptions" (readOptions es)) := by
  refine yields_clausePart fun o ho => ?_
  obtain ⟨g, -, hg, -, rfl⟩ := seq_eq_valid_iff.mp ho
  obtain ⟨withTemperature, n?, htemperature, -, rfl⟩ := seq_eq_valid_iff.mp hg
  obtain ⟨withModel, t?, hmodel, ht, rfl⟩ := seq_eq_valid_iff.mp htemperature
  obtain ⟨withProvider, m?, hprovider, -, rfl⟩ := seq_eq_valid_iff.mp hmodel
  obtain ⟨p?, -, rfl⟩ := map_eq_valid_iff.mp hprovider
  apply of_defaulted (P := fun x? => ∀ x ∈ x?, Generation.temperatureBounds.Admits x) ht
  · exact fun x hx => nomatch hx
  · exact fun v x? hx? x hx => admits_of_realWithin (read_of_optional hx? x hx)

variable {options : GenerationOptions}

theorem yields_readPerRecord (h : options.IsBounded) (prompt : Value)
    (messages : Option (List ChatMessage)) :
    Yields IsBounded (clausePart "FromOne" (readPerRecord prompt messages options)) := by
  refine yields_clausePart fun g hg => ?_
  obtain ⟨t, -, hprompt⟩ := bind_eq_valid_iff.mp hg
  obtain ⟨p, -, rfl⟩ := map_eq_valid_iff.mp hprompt
  exact h

theorem yields_readOverAll (h : options.IsBounded) (task : Value)
    (messages : Option (List ChatMessage)) (properties : List Value) : Yields IsBounded
      (clausePart "FromMany" (readOverAll task messages properties options)) := by
  refine yields_clausePart fun g hg => ?_
  obtain ⟨⟨t, ps⟩, -, hprompt⟩ := bind_eq_valid_iff.mp hg
  obtain ⟨p, -, rfl⟩ := map_eq_valid_iff.mp hprompt
  exact h

theorem yields_readAsk (h : options.IsBounded) (question : Value) (properties : List Value) :
    Yields IsBounded (clausePart "Ask" (readAsk question properties options)) := by
  refine yields_clausePart fun g hg => ?_
  obtain ⟨withProperties, ps, hquestion, -, rfl⟩ := seq_eq_valid_iff.mp hg
  obtain ⟨q, -, rfl⟩ := map_eq_valid_iff.mp hquestion
  exact h

end Generation

end Retrieval
