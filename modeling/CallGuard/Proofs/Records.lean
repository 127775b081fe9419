import Mathlib.Data.List.Perm.Basic

/-!
# Lists of records

One record in a list is replaced by another. What is counted or collected over the list changes by
what the two records contribute. A record that is added is the last one.
-/

namespace CallGuard

variable {A B : Type} {xs : List A} {n : Nat} {x : A}

theorem getElem?_concat_of_ne (other : n ≠ xs.length) : (xs ++ [x])[n]? = xs[n]? := by
  rcases Nat.lt_or_gt_of_ne other with inside | beyond
  · exact List.getElem?_append_left inside
  · rw [List.getElem?_eq_none (by simp; omega), List.getElem?_eq_none (Nat.le_of_lt beyond)]

theorem exists_rest_of_getElem? (here : xs[n]? = some x) :
    ∃ rest, xs.Perm (x :: rest) ∧ ∀ new, (xs.set n new).Perm (new :: rest) := by
  obtain ⟨inside, rfl⟩ := List.getElem?_eq_some_iff.mp here
  exact ⟨xs.eraseIdx n, (List.getElem_cons_eraseIdx_perm inside).symm,
    List.set_perm_cons_eraseIdx inside⟩

theorem countP_set_add (here : xs[n]? = some x) (p : A → Bool) (new : A) :
    (xs.set n new).countP p + (p x).toNat = xs.countP p + (p new).toNat := by
  obtain ⟨rest, before, after⟩ := exists_rest_of_getElem? here
  rw [before.countP_eq, (after new).countP_eq, List.countP_cons, List.countP_cons]
  cases p x <;> cases p new <;> simp

theorem filterMap_set_perm (here : xs[n]? = some x) (f : A → Option B) (new : A) :
    ((f x).toList ++ (xs.set n new).filterMap f).Perm ((f new).toList ++ xs.filterMap f) := by
  obtain ⟨rest, before, after⟩ := exists_rest_of_getElem? here
  have collected : ∀ y : A, (y :: rest).filterMap f = (f y).toList ++ rest.filterMap f := by
    intro y
    cases value : f y <;> simp [value]
  have old := before.filterMap f
  have changed := (after new).filterMap f
  rw [collected] at old changed
  refine (changed.append_left _).trans (.trans ?_ (old.symm.append_left _))
  rw [← List.append_assoc, ← List.append_assoc]
  exact List.perm_append_comm.append_right _

end CallGuard
