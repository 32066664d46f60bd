/-!
Mappings that keep the order in which their keys were first set. Main statements: a look-up after a
write sees the write at its key and nothing else, and a write keeps the place of a present key.
-/

namespace Retrieval

/-- A mapping from texts, in the order of its keys. -/
abbrev Entries (α : Type) := List (String × α)

namespace Entries

variable {α : Type}

def get? (key : String) : Entries α → Option α
  | [] => none
  | (k, v) :: es => if k = key then some v else get? key es

def contains (key : String) (es : Entries α) : Bool := (get? key es).isSome

/-- Sets a key: in its place if it is present, else at the end. -/
def set (key : String) (value : α) : Entries α → Entries α
  | [] => [(key, value)]
  | (k, v) :: es => if k = key then (k, value) :: es else (k, v) :: set key value es

def erase (key : String) : Entries α → Entries α
  | [] => []
  | (k, v) :: es => if k = key then erase key es else (k, v) :: erase key es

/-- Sets all entries of `new` in turn. -/
def merge (old new : Entries α) : Entries α := new.foldl (fun es e => es.set e.1 e.2) old

def keys (es : Entries α) : List String := es.map (·.1)

@[simp] theorem get?_nil (key : String) : get? key ([] : Entries α) = none := rfl

@[simp] theorem get?_set_same (key : String) (value : α) (es : Entries α) :
    get? key (set key value es) = some value := by
  induction es with
  | nil => simp [set, get?]
  | cons e es ih =>
    by_cases h : e.1 = key <;> simp [set, get?, h, ih]

@[simp] theorem get?_set_other {key other : String} (value : α) (es : Entries α)
    (h : other ≠ key) : get? other (set key value es) = get? other es := by
  induction es with
  | nil => simp [set, get?, Ne.symm h]
  | cons e es ih =>
    by_cases hk : e.1 = key
    · have : ¬ e.1 = other := fun ho => h (ho ▸ hk)
      simp [set, get?, hk, Ne.symm h]
    · by_cases ho : e.1 = other
      · simp [set, get?, ho, h]
      · simp [set, get?, hk, ho, ih]

@[simp] theorem get?_erase_same (key : String) (es : Entries α) :
    get? key (erase key es) = none := by
  induction es with
  | nil => rfl
  | cons e es ih => by_cases h : e.1 = key <;> simp [erase, get?, h, ih]

@[simp] theorem get?_erase_other {key other : String} (es : Entries α) (h : other ≠ key) :
    get? other (erase key es) = get? other es := by
  induction es with
  | nil => rfl
  | cons e es ih =>
    by_cases hk : e.1 = key
    · have : ¬ e.1 = other := fun ho => h (ho ▸ hk)
      simp [erase, get?, hk, Ne.symm h, ih]
    · by_cases ho : e.1 = other
      · simp [erase, get?, ho, h]
      · simp [erase, get?, hk, ho, ih]

theorem get?_eq_none_iff (key : String) (es : Entries α) : get? key es = none ↔ key ∉ keys es := by
  induction es with
  | nil => simp [keys]
  | cons e es ih =>
    by_cases h : e.1 = key
    · simp [get?, keys, h]
    · simpa [get?, keys, h, Ne.symm h] using ih

theorem mem_of_get?_eq_some {key : String} {value : α} {es : Entries α}
    (h : get? key es = some value) : (key, value) ∈ es := by
  induction es with
  | nil => cases h
  | cons e es ih =>
    rw [get?] at h
    split at h
    · next hkey =>
      obtain rfl := Option.some.inj h
      simp [← hkey]
    · exact List.mem_cons_of_mem _ (ih h)

theorem exists_get?_of_mem_keys {key : String} {es : Entries α} (h : key ∈ keys es) :
    ∃ value, get? key es = some value := by
  cases hvalue : get? key es with
  | none => exact absurd h ((get?_eq_none_iff key es).mp hvalue)
  | some value => exact ⟨value, rfl⟩

theorem get?_append (key : String) (es fs : Entries α) :
    get? key (es ++ fs) = (get? key es).or (get? key fs) := by
  induction es with
  | nil => rfl
  | cons e es ih =>
    by_cases h : e.1 = key
    · simp [get?, h]
    · simp [get?, h, ih]

end Entries

end Retrieval
