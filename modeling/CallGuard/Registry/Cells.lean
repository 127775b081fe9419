import CallGuard.Registry

/-!
# The cells of a registry

While callers compete for the keys of a registry, a key has a cell from the first time that somebody
comes for it. The cell is empty until a value is made for the key, and then keeps that value; only the
cells with a value count. Main statements: `find?_obtain`, `find?_fill`, `size_obtain` and `size_fill`.
-/

namespace CallGuard

structure Cells (κ α : Type) where
  /-- The keys that have a cell, each with what is in it. -/
  contents : Registry κ (Option α)

namespace Cells

variable {κ α : Type} [DecidableEq κ]

/-- A cell for each key that has a value. -/
def ofRegistry (r : Registry κ α) : Cells κ α := ⟨⟨r.entries.map fun e => (e.1, some e.2)⟩⟩

/-- The values in the cells. -/
def registry (c : Cells κ α) : Registry κ α :=
  ⟨c.contents.entries.filterMap fun e => e.2.map fun a => (e.1, a)⟩

/-- The value in the cell of the key. -/
def find? (c : Cells κ α) (key : κ) : Option α := (c.contents.find? key).join

/-- How many cells have a value. -/
def size (c : Cells κ α) : Nat := c.contents.entries.countP fun e => e.2.isSome

/-- Gives the key an empty cell, if it has none. -/
def obtain (c : Cells κ α) (key : κ) : Cells κ α :=
  match c.contents.find? key with
  | some _ => c
  | none => ⟨c.contents.insert key none⟩

/-- Puts a value into the cell of the key. -/
def fill (c : Cells κ α) (key : κ) (a : α) : Cells κ α := ⟨c.contents.insert key (some a)⟩

theorem find?_ofRegistry (r : Registry κ α) (key : κ) : (ofRegistry r).find? key = r.find? key := by
  simp only [find?, ofRegistry, Registry.find?, List.find?_map, Option.map_map, Function.comp_def]
  cases r.entries.find? fun e => e.1 = key <;> rfl

/-- A cell that is still empty makes no difference to anybody's value. -/
@[simp] theorem find?_obtain (c : Cells κ α) (key k : κ) : (c.obtain key).find? k = c.find? k := by
  unfold obtain
  cases found : c.contents.find? key with
  | some content => rfl
  | none =>
    simp only [find?, Registry.find?_insert]
    by_cases same : key = k
    · subst same
      rw [if_pos rfl, found]
      rfl
    · rw [if_neg same]

theorem find?_fill (c : Cells κ α) (key : κ) (a : α) (k : κ) :
    (c.fill key a).find? k = if key = k then some a else c.find? k := by
  simp only [find?, fill, Registry.find?_insert]
  split <;> rfl

theorem countP_putEntry (key : κ) (content : Option α) (entries : List (κ × Option α))
    (empty : ((entries.find? fun e => e.1 = key).map Prod.snd).join = none) :
    (Registry.putEntry key content entries).countP (fun e => e.2.isSome) =
      entries.countP (fun e => e.2.isSome) + if content.isSome then 1 else 0 := by
  induction entries with
  | nil => simp [Registry.putEntry, List.countP_cons]
  | cons e rest ih =>
    by_cases here : e.1 = key
    · simp only [List.find?_cons, here, decide_true, Option.map_some, Option.join_some] at empty
      simp [Registry.putEntry, here, List.countP_cons, empty]
    · simp only [List.find?_cons, here, decide_false] at empty
      simp only [Registry.putEntry, if_neg here, List.countP_cons, ih empty]
      omega

@[simp] theorem size_obtain (c : Cells κ α) (key : κ) : (c.obtain key).size = c.size := by
  unfold obtain
  cases found : c.contents.find? key with
  | some content => rfl
  | none =>
    apply countP_putEntry
    rw [Registry.find?] at found
    rw [found]
    rfl

/-- A value in a cell that was empty is one more. -/
theorem size_fill (c : Cells κ α) {key : κ} (a : α) (empty : c.find? key = none) :
    (c.fill key a).size = c.size + 1 :=
  countP_putEntry key (some a) c.contents.entries empty

end Cells

end CallGuard
