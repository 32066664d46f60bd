import Mathlib.Data.List.Forall2
import Mathlib.Data.List.InsertIdx

/-!
Traversals of a list that stop at the first failure. Such a traversal succeeds exactly if it does so
at each element, and then it is the list of the single results. What a look-up finds is in the list.
-/

namespace Retrieval

variable {ε α β : Type}

theorem ok_bind (a : α) (f : α → Except ε β) : (Except.ok a >>= f) = f a := rfl

/-- A sequence succeeds exactly if both of its parts do. -/
theorem bind_eq_ok_iff {x : Except ε α} {f : α → Except ε β} {b : β} :
    (x >>= f) = .ok b ↔ ∃ a, x = .ok a ∧ f a = .ok b := by
  cases x <;> simp [bind, Except.bind]

theorem map_eq_ok_iff {x : Except ε α} {f : α → β} {b : β} :
    x.map f = .ok b ↔ ∃ a, x = .ok a ∧ f a = b := by
  cases x <;> simp [Except.map]

theorem mapError_eq_ok_iff {ε' : Type} {x : Except ε α} {f : ε → ε'} {a : α} :
    x.mapError f = .ok a ↔ x = .ok a := by
  cases x <;> simp [Except.mapError]

/-- What is made of a result is there exactly if the result is. -/
theorem exists_bind_pure_iff {x : Except ε α} {f : α → β} :
    (∃ b, (do return f (← x)) = Except.ok (ε := ε) b) ↔ ∃ a, x = .ok a := by
  cases x <;> simp [bind, Except.bind, pure, Except.pure]

/-- Two results are there exactly if each of them is. -/
theorem exists_bind_bind_iff {γ : Type} {x : Except ε α} {y : Except ε β} {f : α → β → γ} :
    (∃ c, (do let a ← x; let b ← y; return f a b) = Except.ok (ε := ε) c) ↔
      (∃ a, x = .ok a) ∧ ∃ b, y = .ok b := by
  cases x <;> cases y <;> simp [bind, Except.bind, pure, Except.pure]

theorem mapM_eq_ok_iff (f : α → Except ε β) (xs : List α) (ys : List β) :
    xs.mapM f = .ok ys ↔ xs.map f = ys.map .ok := by
  induction xs generalizing ys with
  | nil => cases ys <;> simp [pure, Except.pure]
  | cons x xs ih =>
    rw [List.mapM_cons, bind_eq_ok_iff]
    simp only [bind_eq_ok_iff, ih]
    cases ys with
    | nil => simp [pure, Except.pure]
    | cons y ys => simp [pure, Except.pure]

theorem exists_mapM_eq_ok_iff (f : α → Except ε β) (xs : List α) :
    (∃ ys, xs.mapM f = .ok ys) ↔ ∀ x ∈ xs, ∃ y, f x = .ok y := by
  induction xs with
  | nil => simp [pure, Except.pure]
  | cons x xs ih =>
    simp only [List.mapM_cons, bind_eq_ok_iff, List.forall_mem_cons, ← ih]
    constructor
    · rintro ⟨ys, y, hy, rest, hrest, -⟩
      exact ⟨⟨y, hy⟩, rest, hrest⟩
    · rintro ⟨⟨y, hy⟩, rest, hrest⟩
      exact ⟨y :: rest, y, hy, rest, hrest, rfl⟩

/-- The element at a position of a traversal is the result at that position. -/
theorem getElem?_of_mapM_eq_ok {f : α → Except ε β} {xs : List α} {ys : List β}
    (h : xs.mapM f = .ok ys) {i : Nat} {x : α} (hx : xs[i]? = some x) :
    ∃ y, f x = .ok y ∧ ys[i]? = some y := by
  have hget : (xs.map f)[i]? = (ys.map Except.ok)[i]? := by rw [(mapM_eq_ok_iff f xs ys).mp h]
  rw [List.getElem?_map, List.getElem?_map, hx] at hget
  cases hy : ys[i]? with
  | none => simp [hy] at hget
  | some y => exact ⟨y, by simpa [hy] using hget, rfl⟩

/-- A traversal pairs each element with its result. -/
theorem mapM_eq_ok_iff_forall₂ (f : α → Except ε β) (xs : List α) (ys : List β) :
    xs.mapM f = .ok ys ↔ List.Forall₂ (fun x y => f x = .ok y) xs ys := by
  rw [mapM_eq_ok_iff, ← List.forall₂_eq_eq_eq, List.forall₂_map_left_iff,
    List.forall₂_map_right_iff]

/-- Each result of a traversal is that of some element. -/
theorem exists_of_mem_of_mapM_eq_ok {f : α → Except ε β} {xs : List α} {ys : List β}
    (h : xs.mapM f = .ok ys) {y : β} (hy : y ∈ ys) : ∃ x ∈ xs, f x = .ok y := by
  rw [← List.mem_map, (mapM_eq_ok_iff f xs ys).mp h]
  exact List.mem_map_of_mem hy

/-- Two traversals agree at a position if their lists do. -/
theorem getElem?_congr_of_mapM_eq_ok {f : α → Except ε β} {xs zs : List α} {ys ws : List β}
    (h : xs.mapM f = .ok ys) (h' : zs.mapM f = .ok ws) {k : Nat} (hk : zs[k]? = xs[k]?) :
    ws[k]? = ys[k]? := by
  have hsame : (ws.map (Except.ok (ε := ε)))[k]? = (ys.map Except.ok)[k]? := by
    rw [← (mapM_eq_ok_iff f xs ys).mp h, ← (mapM_eq_ok_iff f zs ws).mp h', List.getElem?_map,
      List.getElem?_map, hk]
  rw [List.getElem?_map, List.getElem?_map] at hsame
  exact Option.map_injective (fun _ _ => Except.ok.inj) hsame

/-- Without one element, a traversal is without its result. -/
theorem mapM_eraseIdx_eq_ok {f : α → Except ε β} {xs : List α} {ys : List β}
    (h : xs.mapM f = .ok ys) (k : Nat) : (xs.eraseIdx k).mapM f = .ok (ys.eraseIdx k) := by
  rw [mapM_eq_ok_iff] at h ⊢
  rw [← List.eraseIdx_map, h, List.eraseIdx_map]

theorem length_of_mapM_eq_ok {f : α → Except ε β} {xs : List α} {ys : List β}
    (h : xs.mapM f = .ok ys) : ys.length = xs.length := by
  have hlength := congrArg List.length ((mapM_eq_ok_iff f xs ys).mp h)
  simpa using hlength.symm

/-- What each result tells about its element, the results tell in the order of the elements. -/
theorem map_eq_of_mapM_eq_ok {γ : Type} {f : α → Except ε β} {g : β → γ} {k : α → γ}
    (hf : ∀ x y, f x = .ok y → g y = k x) {xs : List α} {ys : List β} (h : xs.mapM f = .ok ys) :
    ys.map g = xs.map k := by
  rw [mapM_eq_ok_iff] at h
  induction xs generalizing ys with
  | nil => rw [List.map_eq_nil_iff.mp h.symm, List.map_nil, List.map_nil]
  | cons x xs ih =>
    cases ys with
    | nil => cases h
    | cons y ys =>
      obtain ⟨hx, hxs⟩ := List.cons.inj h
      rw [List.map_cons, List.map_cons, hf x y hx, ih hxs]

theorem mem_of_lookup_eq_some {entries : List (String × α)} {key : String} {a : α}
    (h : entries.lookup key = some a) : (key, a) ∈ entries := by
  obtain ⟨before, after, rfl, -⟩ := List.lookup_eq_some_iff.mp h
  exact List.mem_append_right _ (by simp)

end Retrieval
