import CallGuard.Proofs.Context.Requests

/-!
# What building fails with

Lookups fail because of what is not registered, cannot be made or is of the wrong type. None of them
has to do with the scheduler of the context. Making a guard is the one thing that can crash, and
then the guard is not kept. Main statement: `Primitive.fails_fetch`.
-/

namespace CallGuard

namespace Halt

/-- A mistake in the setup that has nothing to do with schedulers. -/
def IsAside : Halt → Prop
  | .fault (.missingScheduler ..) | .crash _ => False
  | .fault _ => True

theorem IsAside.constructing {halt : Halt} (aside : halt.IsAside) (type : String) :
    (halt.constructing type).IsAside := by
  cases halt with
  | fault e => trivial
  | crash text => exact aside

end Halt

namespace Build

variable {A B : Type} {build : Build A} {next : A → Build B} {goal : Halt → Prop}

/-- Whatever the builder fails with, in whatever world, is of this kind. -/
def Fails (build : Build A) (goal : Halt → Prop) : Prop :=
  ∀ w v halt, build.run.run w = (.error halt, v) → goal halt

namespace Fails

theorem pure {a : A} : (Pure.pure a : Build A).Fails goal := by
  intro w v halt failed
  cases failed

theorem act {act : Act A} : (liftM act : Build A).Fails goal := by
  intro w v halt failed
  cases failed

theorem fail {e : Fault} (reached : goal (.fault e)) : (Build.fail e : Build A).Fails goal := by
  intro w v halt failed
  cases failed
  exact reached

theorem bind (first : build.Fails goal) (rest : ∀ a, (next a).Fails goal) :
    (build >>= next).Fails goal := by
  intro w v halt failed
  rcases bind_error_iff.mp failed with early | ⟨a, u, -, late⟩
  · exact first w v halt early
  · exact rest a u v halt late

theorem mapM {f : A → Build B} (each : ∀ a, (f a).Fails goal) (xs : List A) :
    (xs.mapM f).Fails goal := by
  induction xs with
  | nil =>
    rw [List.mapM_nil]
    exact pure
  | cons x rest ih =>
    rw [List.mapM_cons]
    exact bind (each x) fun _ => bind ih fun _ => pure

end Fails

end Build

namespace Context

variable {type : String} {make : Build Instance}

theorem fails_fetch (number : Nat) (made : make.Fails Halt.IsAside) :
    (fetch number type make).Fails Halt.IsAside := by
  refine .bind .act fun c => ?_
  cases c.instances.find? type with
  | some i => exact .pure
  | none => exact .bind made fun i => .bind .act fun _ => .pure

theorem fails_constructing (type : String) (made : make.Fails Halt.IsAside) :
    (constructing type make).Fails Halt.IsAside := by
  intro w v halt failed
  rw [run_constructing] at failed
  rcases ran : make.run.run w with ⟨cause | i, u⟩
  · rw [ran] at failed
    cases failed
    exact (made w _ cause ran).constructing type
  · rw [ran] at failed
    cases failed

end Context

theorem Instance.fails_shareText (s : String) : (shareText s).Fails Halt.IsAside :=
  .bind .act fun _ => .bind .act fun _ => .pure

namespace Sample

theorem fails_extend (key : String) (i : Instance) (suffix : String) :
    (extend key i suffix).Fails Halt.IsAside := by
  unfold extend
  cases i.text? with
  | none => exact .fail trivial
  | some shared => exact Instance.fails_shareText _

theorem fails_make (context : Nat) (sample : Sample) :
    ∀ key, (sample.make context key).Fails Halt.IsAside := by
  have begun {A : Type} (key : String) (s : Sample) {next : Nat → Build A}
      (rest : ∀ before, (next before).Fails Halt.IsAside) :
      (do
        Act.write (.constructed key)
        let before ← countMaking key s
        next before : Build A).Fails Halt.IsAside :=
    .bind .act fun _ => .bind (.bind .act fun _ => .bind .act fun _ => .pure) rest
  induction sample with
  | text s => exact fun key => begun key _ fun _ => Instance.fails_shareText s
  | number n => exact fun key => begun key _ fun _ => .pure
  | failing message => exact fun key => begun key _ fun _ => .fail trivial
  | flaky failures s =>
    intro key
    apply begun key
    intro before
    split
    · exact .fail trivial
    · exact Instance.fails_shareText s
  | suffixed other base suffix ih =>
    intro key
    have made := Context.fails_constructing other (ih other)
    apply begun key
    intro _
    exact .bind (Context.fails_fetch context made) fun i => fails_extend other i suffix
  | suffixedRegistered other suffix =>
    intro key
    apply begun key
    intro _
    exact .bind (Context.fails_fetch context (.fail trivial)) fun i => fails_extend other i suffix

end Sample

theorem Recipe.fails_make (context : Nat) (type : String) (r : Recipe) :
    (r.make context type).Fails Halt.IsAside := by
  have announced {i : Build Instance} (made : i.Fails Halt.IsAside) :
      (do if r.announced then Act.write (.constructed type)
          i : Build Instance).Fails Halt.IsAside := by
    cases r.announced with
    | true => exact .bind .act fun _ => made
    | false => exact made
  unfold make
  cases r.product with
  | sample s => exact s.fails_make context type
  | service interface label script => exact announced (.bind .act fun _ => .pure)
  | mapper m => exact announced .pure
  | provider p => exact announced .pure

namespace InstanceRef

theorem fails_lookup (context : Nat) (r : InstanceRef) : (r.lookup context).Fails Halt.IsAside := by
  apply Context.fails_fetch context
  unfold construct
  cases r.recipe with
  | none => exact .fail trivial
  | some recipe => exact Context.fails_constructing r.type (recipe.fails_make context r.type)

theorem fails_lookupAs {A : Type} (context : Nat) (r : InstanceRef) (role? : Instance → Option A)
    (expected : String) : (r.lookupAs context role? expected).Fails Halt.IsAside := by
  refine .bind (r.fails_lookup context) fun i => ?_
  cases role? i with
  | none => exact .fail trivial
  | some a => exact .pure

end InstanceRef

theorem MapperSource.fails_resolve (context : Nat) (m : Method) (s : MapperSource) :
    (s.resolve context m).Fails Halt.IsAside := by
  unfold resolve
  extract_lets check
  have checked : ∀ mapper, (check mapper).Fails Halt.IsAside := by
    intro mapper
    unfold check
    cases mapper.output with
    | unchecked => exact .pure
    | checked kind =>
      dsimp only
      split
      · exact .pure
      · exact .fail trivial
  cases s with
  | managed ref => exact .bind (ref.fails_lookupAs context _ _) checked
  | given type mapper => exact .bind .pure checked

theorem FallbackStage.fails_resolve (context : Nat) (s : FallbackStage) :
    (s.resolve context).Fails Halt.IsAside := by
  have found : (s.source.resolve context).Fails Halt.IsAside := by
    cases s.source with
    | managed ref => exact .bind (ref.fails_lookup context) fun _ => .pure
    | given type interface service => exact .pure
    | made type factory => exact .pure
  exact .bind found fun _ => .pure

theorem GuardKind.fails_config {C G : Type} (k : GuardKind C G) (context : Nat)
    (p : GuardPolicy C) : (k.config context p).Fails Halt.IsAside := by
  unfold config
  cases p.provider with
  | none => exact .pure
  | some ref => exact .bind (ref.fails_lookupAs context _ _) fun _ => .bind .act fun _ => .pure

namespace Primitive

variable {k : Primitive} {n : Nat} {p : GuardPolicy k.Config} {u v : World}
  {kept : Registry String k.Guard}

/-- The guard that the context of that number keeps under the name. -/
def kept? (k : Primitive) (n : Nat) (w : World) (name : String) : Option k.Guard :=
  (k.stock n w).bind fun kept => kept.find? name

/-- A guard that has been handed out is kept under its name. -/
theorem kept?_of_fetch {g : k.Guard} (stocked : k.stock n u = some kept)
    (ran : (k.kind.fetch n p).run.run u = (.ok g, v)) : k.kept? n v p.name = some g := by
  cases found : kept.find? p.name with
  | some h =>
    rw [run_fetch_of_find? stocked found] at ran
    cases ran
    rw [kept?, stocked, Option.bind_some, found]
  | none =>
    have makes := makes_fetch stocked found
    rw [ran] at makes
    rw [kept?, (makes.stock_eq stocked rfl).1, Option.bind_some, Registry.find?_insert_self]

/-- **A guard cannot be had** because of a mistake in the setup of its configuration, or it is a
bulkhead that cannot be made. Then no bulkhead of the name is kept. -/
theorem fails_fetch {halt : Halt} (stocked : k.stock n u = some kept)
    (ran : (k.kind.fetch n p).run.run u = (.error halt, v)) :
    halt.IsAside ∨ k = .bulkhead ∧ (∃ text, halt = .crash text) ∧ k.kept? n v p.name = none := by
  cases found : kept.find? p.name with
  | some g =>
    rw [run_fetch_of_find? stocked found] at ran
    cases ran
  | none =>
    have makes := makes_fetch stocked found
    rw [ran] at makes
    have same : k.stock n v = some kept := (makes.spares rfl).trans stocked
    cases makes with
    | unconfigured failed => exact .inl (k.kind.fails_config n p u v halt failed)
    | unmade configured never =>
      refine .inr ⟨?_, ⟨_, rfl⟩, by rw [kept?, same, Option.bind_some, found]⟩
      cases k with
      | retry | limiter | breaker => exact absurd trivial never
      | bulkhead => rfl

/-- The context goes on keeping what it keeps, whoever asks for guards. -/
theorem Uses.holds {ls : List k.Request} (uses : k.Uses n u ls v)
    (stocked : k.stock n u = some kept) : ∃ more, k.stock n v = some more ∧
      ∀ name g, kept.find? name = some g → more.find? name = some g := by
  induction uses with
  | start => exact ⟨kept, stocked, fun _ _ found => found⟩
  | elsewhere _ same ih =>
    obtain ⟨more, there, held⟩ := ih
    exact ⟨more, Eq.trans same there, held⟩
  | @asked x y ls p result _ ran ih =>
    obtain ⟨more, there, held⟩ := ih
    cases found : more.find? p.name with
    | some g =>
      rw [run_fetch_of_find? there found] at ran
      cases ran
      exact ⟨more, there, held⟩
    | none =>
      have makes := makes_fetch there found
      rw [ran] at makes
      cases result with
      | error halt => exact ⟨more, (makes.spares rfl).trans there, held⟩
      | ok g =>
        refine ⟨_, (makes.stock_eq there rfl).1, fun name h earlier => ?_⟩
        have other : p.name ≠ name := by
          rintro rfl
          rw [held _ h earlier] at found
          cases found
        rw [Registry.find?_insert_of_ne more g other]
        exact held name h earlier

end Primitive

end CallGuard
