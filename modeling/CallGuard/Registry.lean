/-!
# Registries

A registry keeps at most one value for a key. Keys stay in the order in which they first came.
-/

namespace CallGuard

structure Registry (κ α : Type) where
  entries : List (κ × α)

namespace Registry

variable {κ α : Type} [DecidableEq κ]

def empty : Registry κ α := ⟨[]⟩

instance : Inhabited (Registry κ α) := ⟨empty⟩

/-- The value kept for the key. -/
def find? (r : Registry κ α) (key : κ) : Option α :=
  (r.entries.find? fun e => e.1 = key).map Prod.snd

def putEntry (key : κ) (value : α) : List (κ × α) → List (κ × α)
  | [] => [(key, value)]
  | e :: rest => if e.1 = key then (key, value) :: rest else e :: putEntry key value rest

/-- Keeps the value for the key, in place of any earlier one. -/
def insert (r : Registry κ α) (key : κ) (value : α) : Registry κ α :=
  ⟨putEntry key value r.entries⟩

/-- How many keys have a value. -/
def size (r : Registry κ α) : Nat := r.entries.length

omit [DecidableEq κ] in
@[simp] theorem size_empty : (empty : Registry κ α).size = 0 := rfl

@[simp] theorem find?_empty (key : κ) : (empty : Registry κ α).find? key = none := rfl

theorem find?_putEntry (key : κ) (value : α) (k : κ) (entries : List (κ × α)) :
    ((putEntry key value entries).find? fun e => e.1 = k).map Prod.snd =
      if key = k then some value else (entries.find? fun e => e.1 = k).map Prod.snd := by
  induction entries with
  | nil => by_cases h : key = k <;> simp [putEntry, h]
  | cons e rest ih =>
    obtain ⟨a, v⟩ := e
    by_cases ha : a = key
    · subst ha
      by_cases h : a = k <;> simp [putEntry, h]
    · by_cases hk : a = k
      · subst hk
        have : ¬ key = a := fun h => ha h.symm
        simp [putEntry, ha, this]
      · simp only [putEntry, if_neg ha, List.find?_cons, decide_eq_false hk]
        exact ih

theorem find?_insert (r : Registry κ α) (key : κ) (value : α) (k : κ) :
    (r.insert key value).find? k = if key = k then some value else r.find? k :=
  find?_putEntry key value k r.entries

@[simp] theorem find?_insert_self (r : Registry κ α) (key : κ) (value : α) :
    (r.insert key value).find? key = some value := by
  simp [find?_insert]

theorem find?_insert_of_ne (r : Registry κ α) {key k : κ} (value : α) (h : key ≠ k) :
    (r.insert key value).find? k = r.find? k := by
  simp [find?_insert, h]

theorem length_putEntry (key : κ) (value : α) (entries : List (κ × α)) :
    (putEntry key value entries).length =
      if (entries.find? fun e => e.1 = key).isSome then entries.length
      else entries.length + 1 := by
  induction entries with
  | nil => simp [putEntry]
  | cons e rest ih =>
    by_cases he : e.1 = key
    · simp [putEntry, he]
    · simp only [putEntry, if_neg he, List.length_cons, ih, List.find?_cons, decide_eq_false he]
      split <;> rfl

/-- A key that was not kept adds one to the size, and one that was kept adds nothing. -/
theorem size_insert (r : Registry κ α) (key : κ) (value : α) :
    (r.insert key value).size = if (r.find? key).isSome then r.size else r.size + 1 := by
  have same : (r.find? key).isSome = (r.entries.find? fun e => e.1 = key).isSome := by
    unfold find?
    exact Option.isSome_map
  rw [same]
  exact length_putEntry key value r.entries

end Registry

end CallGuard
