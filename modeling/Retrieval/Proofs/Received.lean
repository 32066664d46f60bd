import Retrieval.Api.Service
import Retrieval.Proofs.Bounds
import Retrieval.Proofs.Values

/-!
What a call of the service brings. Whatever is read from JSON, or can be written as JSON, is data at
any depth. Main statement: so are the filters in the bodies of calls.
-/

namespace Retrieval

/-- Anything but an object that no part of the library can read. -/
def Value.IsData (v : Value) : Prop := v ≠ .foreign

namespace Value

theorem isData_list {vs : List Value} (h : ∀ v ∈ vs, v.Everywhere IsData) :
    (Value.list vs).Everywhere IsData :=
  (everywhere_seq _ _).mpr ⟨by simp [IsData], h⟩

theorem isData_map {es : List (String × Value)} (h : ∀ e ∈ es, e.2.Everywhere IsData) :
    (Value.map es).Everywhere IsData :=
  (everywhere_map _).mpr ⟨by simp [IsData], h⟩

end Value

theorem Entries.mem_set {α : Type} {key : String} {a : α} {es : Entries α} {e : String × α}
    (h : e ∈ es.set key a) : e = (key, a) ∨ e ∈ es := by
  induction es with
  | nil => exact .inl (List.mem_singleton.mp h)
  | cons f rest ih =>
    rw [Entries.set] at h
    split at h
    · next hkey =>
      obtain rfl | h := List.mem_cons.mp h
      · exact .inl (by rw [hkey])
      · exact .inr (List.mem_cons_of_mem _ h)
    · obtain rfl | h := List.mem_cons.mp h
      · exact .inr (by simp)
      · exact (ih h).imp_right (List.mem_cons_of_mem _)

namespace Json

open Value (IsData)

theorem isData_of_readNumber {negative : Bool} {cs rest : List Char} {v : Value}
    (h : readNumber negative cs = .ok (v, rest)) : v.Everywhere IsData := by
  unfold readNumber at h
  split at h
  · cases h
  · dsimp only at h
    split at h
    · split at h
      · cases h
      · cases h
        exact Value.everywhere_of_scalar (by simp) (by simp) nofun
    · cases h
      exact Value.everywhere_of_scalar (by simp) (by simp) nofun

theorem isData_of_readScalar {cs rest : List Char} {v : Value}
    (h : readScalar cs = .ok (v, rest)) : v.Everywhere IsData := by
  unfold readScalar at h
  split at h
  case h_7 =>
    split at h
    · exact isData_of_readNumber h
    · exact isData_of_readNumber h
  all_goals
    cases h
    exact Value.everywhere_of_scalar (by simp) (by simp) nofun

/-- What is read within a bound is data: values, items, and members added to others. -/
structure ReadsData (bound : Nat) : Prop where
  value : ∀ depth cs v rest, readValue bound depth cs = .ok (v, rest) → v.Everywhere IsData
  items : ∀ depth cs vs rest, readItems bound depth cs = .ok (vs, rest) →
    ∀ v ∈ vs, v.Everywhere IsData
  members : ∀ depth done cs es rest, (∀ e ∈ done, e.2.Everywhere IsData) →
    readMembers bound depth done cs = .ok (es, rest) → ∀ e ∈ es, e.2.Everywhere IsData

theorem ReadsData.value_succ {bound : Nat} (h : ReadsData bound) {depth : Nat} {cs rest : List Char}
    {v : Value} (hread : readValue (bound + 1) depth cs = .ok (v, rest)) :
    v.Everywhere IsData := by
  unfold readValue at hread
  split at hread
  · obtain ⟨x, -, hx⟩ := map_eq_ok_iff.mp hread
    cases hx
    exact Value.everywhere_of_scalar (by simp) (by simp) nofun
  · cases hread
  · split at hread
    · cases hread
      exact Value.isData_list (List.forall_mem_nil _)
    · obtain ⟨⟨items, after⟩, hitems, hx⟩ := map_eq_ok_iff.mp hread
      cases hx
      exact Value.isData_list (h.items _ _ _ _ hitems)
  · cases hread
  · split at hread
    · cases hread
      exact Value.isData_map (List.forall_mem_nil _)
    · obtain ⟨⟨es, after⟩, hes, hx⟩ := map_eq_ok_iff.mp hread
      cases hx
      exact Value.isData_map (h.members _ _ _ _ _ (List.forall_mem_nil _) hes)
  · exact isData_of_readScalar hread

theorem ReadsData.items_succ {bound : Nat} (h : ReadsData bound) {depth : Nat} {cs rest : List Char}
    {vs : List Value} (hread : readItems (bound + 1) depth cs = .ok (vs, rest)) :
    ∀ v ∈ vs, v.Everywhere IsData := by
  unfold readItems at hread
  split at hread
  · cases hread
  · next v after hv =>
    have hv := h.value _ _ _ _ hv
    split at hread
    · cases hread
      exact List.forall_mem_singleton.mpr hv
    · obtain ⟨⟨more, last⟩, hmore, hx⟩ := map_eq_ok_iff.mp hread
      cases hx
      exact List.forall_mem_cons.mpr ⟨hv, h.items _ _ _ _ hmore⟩
    · cases hread

theorem ReadsData.members_succ {bound : Nat} (h : ReadsData bound) {depth : Nat}
    {cs rest : List Char} {done es : Entries Value} (hdone : ∀ e ∈ done, e.2.Everywhere IsData)
    (hread : readMembers (bound + 1) depth done cs = .ok (es, rest)) :
    ∀ e ∈ es, e.2.Everywhere IsData := by
  unfold readMembers at hread
  split at hread
  · split at hread
    · cases hread
    · split at hread
      · split at hread
        · cases hread
        · next v _ hv =>
          have hset (key : String) : ∀ e ∈ done.set key v, e.2.Everywhere IsData := by
            intro e he
            obtain rfl | he := Entries.mem_set he
            · exact h.value _ _ _ _ hv
            · exact hdone e he
          dsimp only at hread
          split at hread
          · cases hread
            exact hset _
          · exact h.members _ _ _ _ _ (hset _) hread
          · cases hread
      · cases hread
  · cases hread

theorem readsData (bound : Nat) : ReadsData bound := by
  induction bound with
  | zero => exact ⟨by simp [readValue], by simp [readItems], by simp [readMembers]⟩
  | succ bound ih =>
    exact ⟨fun _ _ _ _ => ih.value_succ, fun _ _ _ _ => ih.items_succ,
      fun _ _ _ _ _ hdone => ih.members_succ hdone⟩

/-- The value that a body denotes is data at any depth. -/
theorem isData_of_decodeBody {body : String} {v : Value} (h : decodeBody body = .ok v) :
    v.Everywhere IsData := by
  unfold decodeBody at h
  dsimp only at h
  split at h
  · unfold decodeChars at h
    split at h
    · cases h
    · next hv =>
      split at h
      · cases h
        exact (readsData _).value _ _ _ _ hv
      · cases h
  · cases h

mutual

/-- What can be written as JSON is data at any depth. -/
theorem isData_of_encode? {v : Value} {s : String} (h : encode? v = some s) :
    v.Everywhere IsData := by
  cases v with
  | seq kind items =>
    have hitems : ∃ xs, encodeItems? items = some xs := by
      cases kind with
      | list | tuple =>
        obtain ⟨xs, hxs, -⟩ := Option.map_eq_some_iff.mp h
        exact ⟨xs, hxs⟩
      | set | frozenSet => cases h
    obtain ⟨xs, hxs⟩ := hitems
    exact (Value.everywhere_seq _ _).mpr ⟨by simp [IsData], isData_of_encodeItems? hxs⟩
  | map es =>
    obtain ⟨xs, hxs, -⟩ := Option.map_eq_some_iff.mp h
    exact Value.isData_map (isData_of_encodeEntries? hxs)
  | «foreign» => cases h
  | _ => exact Value.everywhere_of_scalar (by simp) (by simp) nofun

theorem isData_of_encodeItems? {vs : List Value} {xs : List String}
    (h : encodeItems? vs = some xs) : ∀ v ∈ vs, v.Everywhere IsData := by
  cases vs with
  | nil => exact List.forall_mem_nil _
  | cons v rest =>
    obtain ⟨x, hx, h⟩ := Option.bind_eq_some_iff.mp h
    obtain ⟨xs, hxs, -⟩ := Option.bind_eq_some_iff.mp h
    exact List.forall_mem_cons.mpr ⟨isData_of_encode? hx, isData_of_encodeItems? hxs⟩

theorem isData_of_encodeEntries? {es : List (String × Value)} {xs : List String}
    (h : encodeEntries? es = some xs) : ∀ e ∈ es, e.2.Everywhere IsData := by
  cases es with
  | nil => exact List.forall_mem_nil _
  | cons e rest =>
    obtain ⟨x, hx, h⟩ := Option.bind_eq_some_iff.mp h
    obtain ⟨xs, hxs, -⟩ := Option.bind_eq_some_iff.mp h
    exact List.forall_mem_cons.mpr ⟨isData_of_encode? hx, isData_of_encodeEntries? hxs⟩

end

end Json

namespace Api

open Schema
open Value (IsData)

theorem mappingValues_anything (es : Entries Value) : mappingValues anything es = .valid es := by
  induction es with
  | nil => rfl
  | cons e rest ih =>
    rw [mappingValues, ih]
    rfl

theorem eq_of_mapping_anything {v : Value} {es : Entries Value}
    (h : mapping anything v = .valid es) : v = .map es := by
  cases v with
  | map fs =>
    rw [mapping, mappingValues_anything] at h
    rw [Checked.valid.inj h]
  | _ => cases h

/-- The filter in the body of a query stands in the value that the body is read from. -/
theorem where_of_readQuery {v : Value} {b : QueryBody} (h : readQuery v = .valid b) :
    ∀ fs ∈ b.restriction, ∃ es, v = .map es ∧ Entries.get? "where" es = some (.map fs) := by
  cases v with
  | map es =>
    -- the fields after the filter are peeled off one by one
    iterate 9
      replace h := seq_eq_valid_iff.mp h
      obtain ⟨_, _, h, -, rfl⟩ := h
    replace h := seq_eq_valid_iff.mp h
    obtain ⟨_, restriction, hfields, hread, rfl⟩ := h
    replace hfields := seq_eq_valid_iff.mp hfields
    obtain ⟨_, _, hfields, -, rfl⟩ := hfields
    obtain ⟨_, -, rfl⟩ := map_eq_valid_iff.mp hfields
    rintro fs ⟨⟩
    refine ⟨es, rfl, ?_⟩
    unfold defaulted at hread
    split at hread
    · next v hv =>
      rw [hv, eq_of_mapping_anything (read_of_optional (under_eq_valid_iff.mp hread) fs rfl)]
    · cases hread
  | _ => cases h

theorem isData_of_readQuery {v : Value} {b : QueryBody} (hv : v.Everywhere IsData)
    (h : readQuery v = .valid b) : ∀ fs ∈ b.restriction, (Value.map fs).Everywhere IsData := by
  intro fs hfs
  obtain ⟨es, rfl, hget⟩ := where_of_readQuery h fs hfs
  exact ((Value.everywhere_map _).mp hv).2 _ (Entries.mem_of_get?_eq_some hget)

/-- Each query in the body of a batch is read from an element of a list in that body. -/
theorem exists_of_readBatch {v : Value} {b : BatchBody} (h : readBatch v = .valid b) :
    ∀ q ∈ b.queries, ∃ es kind items w, v = .map es ∧
      Entries.get? "queries" es = some (.seq kind items) ∧ w ∈ items ∧ readQuery w = .valid q := by
  cases v with
  | map es =>
    replace h := seq_eq_valid_iff.mp h
    obtain ⟨_, _, hqueries, -, rfl⟩ := h
    obtain ⟨queries, hfield, rfl⟩ := map_eq_valid_iff.mp hqueries
    intro q hq
    unfold required at hfield
    split at hfield
    · next part hpart =>
      have hlist := under_eq_valid_iff.mp hfield
      cases part with
      | seq kind items =>
        have hread := items_eq_valid_iff.mp hlist
        have hmem : Checked.valid q ∈ items.map readQuery := hread ▸ List.mem_map_of_mem hq
        obtain ⟨w, hw, hq⟩ := List.mem_map.mp hmem
        exact ⟨es, kind, items, w, rfl, hpart, hw, hq⟩
      | _ => cases hlist
    · cases hfield
  | _ => cases h

theorem isData_of_readBatch {v : Value} {b : BatchBody} (hv : v.Everywhere IsData)
    (h : readBatch v = .valid b) :
    ∀ q ∈ b.queries, ∀ fs ∈ q.restriction, (Value.map fs).Everywhere IsData := by
  intro q hq
  obtain ⟨es, kind, items, w, rfl, hget, hw, hread⟩ := exists_of_readBatch h q hq
  have hitems := ((Value.everywhere_map _).mp hv).2 _ (Entries.mem_of_get?_eq_some hget)
  exact isData_of_readQuery (((Value.everywhere_seq _ _).mp hitems).2 w hw) hread

/-- What the body of a call holds is data at any depth. -/
theorem isData_of_contentOf {c : Call} {v : Value} (hsent : c.payload.check = .ok ())
    (h : contentOf c = .ok (.data v)) : v.Everywhere IsData := by
  unfold contentOf at h
  split at h
  · cases h
  · cases h
  · next w _ hpayload =>
    split at h
    · cases h
      rw [hpayload, Payload.check] at hsent
      split at hsent
      · next s hs => exact Json.isData_of_encode? hs
      · cases hsent
    · cases h
  · split at h
    · cases h
    · split at h
      · cases h
      · split at h
        · next w hw =>
          cases h
          exact Json.isData_of_decodeBody hw
        · cases h
        · cases h

end Api

end Retrieval
