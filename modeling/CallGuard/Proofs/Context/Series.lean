import CallGuard.Proofs.Chain.Setup
import Mathlib.Data.List.Forall2

/-!
# Building one after the other

The parts of a policy are looked up one after the other, each in the world that those before it have
left. Main statements: `mapM_ok_iff`, that all are built, and `mapM_error_iff`, that one is the first
that cannot be built and that nothing after it is touched.
-/

namespace CallGuard

namespace Build

variable {A B : Type} {f : A → Build B} {x : A} {xs : List A} {y z : B} {ys : List B}
  {makes : A → World → B → World → Prop} {u v : World} {halt : Halt}

/-- One after the other, something is made of each in the world that the one before it has left. -/
inductive Each (makes : A → World → B → World → Prop) : World → List A → List B → World → Prop where
  | nil (w : World) : Each makes w [] [] w
  | cons {x : A} {y : B} {xs : List A} {ys : List B} {u v w : World} (made : makes x u y w)
      (rest : Each makes w xs ys v) : Each makes u (x :: xs) (y :: ys) v

/-- The building makes that of it. -/
def Makes (f : A → Build B) (x : A) (u : World) (y : B) (v : World) : Prop :=
  (f x).run.run u = (.ok y, v)

theorem pure_ok_iff : (pure y : Build B).run.run u = (.ok z, v) ↔ z = y ∧ v = u := by
  constructor
  · rintro ⟨⟩
    exact ⟨rfl, rfl⟩
  · rintro ⟨rfl, rfl⟩
    rfl

theorem pure_error_iff : ¬ (pure y : Build B).run.run u = (.error halt, v) := nofun

theorem mapM_ok_iff : (xs.mapM f).run.run u = (.ok ys, v) ↔ Each (Makes f) u xs ys v := by
  induction xs generalizing u v ys with
  | nil =>
    rw [List.mapM_nil, pure_ok_iff]
    constructor
    · rintro ⟨rfl, rfl⟩
      exact .nil v
    · rintro ⟨⟩
      exact ⟨rfl, rfl⟩
  | cons x xs ih =>
    simp only [List.mapM_cons, bind_ok_iff, ih, pure_ok_iff]
    constructor
    · rintro ⟨y, w, built, rest, _, each, rfl, rfl⟩
      exact .cons built each
    · rintro ⟨⟩
      rename_i built rest
      exact ⟨_, _, built, _, _, rest, rfl, rfl⟩

theorem mapM_error_iff : (xs.mapM f).run.run u = (.error halt, v) ↔
    ∃ before x later ys w, xs = before ++ x :: later ∧ Each (Makes f) u before ys w ∧
      (f x).run.run w = (.error halt, v) := by
  induction xs generalizing u with
  | nil =>
    rw [List.mapM_nil]
    constructor
    · exact fun failed => absurd failed pure_error_iff
    · rintro ⟨before, x, later, ys, w, none, -⟩
      cases List.append_ne_nil_of_right_ne_nil before (List.cons_ne_nil x later) none.symm
  | cons x xs ih =>
    simp only [List.mapM_cons, bind_error_iff, ih, pure_error_iff, and_false, exists_false,
      or_false]
    constructor
    · rintro (failed | ⟨y, w, built, before, x', later, ys, w', rfl, each, failed⟩)
      · exact ⟨[], x, xs, [], u, rfl, .nil u, failed⟩
      · exact ⟨x :: before, x', later, y :: ys, w', rfl, .cons built each, failed⟩
    · rintro ⟨before, x', later, ys, w, split, each, failed⟩
      cases each with
      | nil =>
        cases split
        exact .inl failed
      | cons built rest =>
        cases split
        exact .inr ⟨_, _, built, _, _, _, _, _, rfl, rest, failed⟩

/-- Whatever is made of one of them has been made of it somewhere on the way. -/
theorem Each.forall₂ (each : Each makes u xs ys v) :
    List.Forall₂ (fun x y => ∃ u v, makes x u y v) xs ys := by
  induction each with
  | nil => exact .nil
  | cons made _ ih => exact .cons ⟨_, _, made⟩ ih

end Build

end CallGuard
