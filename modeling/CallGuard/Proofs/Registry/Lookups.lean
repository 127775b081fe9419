import CallGuard.Proofs.Chain.Setup
import CallGuard.Proofs.Registry.Racing

/-!
# Lookups step by step

The program of a lookup, which others may be stepped in between, is the lookup: carried out with
nobody else around it does what the lookup does. Threads that look one reference up at the same time
all get one instance. Main statements: `InstanceRef.alone_fetch`, `InstanceRef.lookupTogether_agree` and
`InstanceRef.lookupTogether_kept`.
-/

namespace CallGuard

namespace Program

/-- Carries the program out with nobody else around. The values of the keys are the instances of the
context. -/
def alone (context : Nat) :
    Program World String Halt Instance → World → Except Halt Instance × World
  | ends r, w => (r, w)
  | act change next, w => (next w).alone context (change w)
  | fetch key make next, w =>
    let (r, v) := (Context.fetch context key (ExceptT.mk (modifyGet (make.alone context)))).run.run w
    (next r).alone context v

variable {context : Nat} {p : Program World String Halt Instance}

theorem alone_andThen {A : Type} (build : Build A) (next : A → Program World String Halt Instance)
    (w : World) :
    (build.andThen next).alone context w = match build.run.run w with
      | (.ok a, v) => (next a).alone context v
      | (.error h, v) => (.error h, v) := by
  unfold Build.andThen
  rw [alone]
  rcases build.run.run w with ⟨h | a, v⟩ <;> rfl

theorem alone_mapError (f : Halt → Halt) (p : Program World String Halt Instance) (w : World) :
    (p.mapError f).alone context w =
      ((p.alone context w).1.mapError f, (p.alone context w).2) := by
  induction p generalizing w with
  | ends r => rfl
  | act change next ih => exact ih w (change w)
  | fetch key make next _ ih => exact ih _ _

end Program

namespace Sample

/-- The text that is looked up under another key may be made by a program. -/
theorem alone_begun {context : Nat} {other : String} {made : Program World String Halt Instance}
    {make : Build Instance} (same : ∀ w, made.alone context w = make.run.run w)
    (key suffix : String) (sample : Sample) (w : World) :
    (making.begun key sample (.fetch other made (making.extending other suffix))).alone context w =
      (do
        Act.write (.constructed key)
        let _ ← countMaking key sample
        let i ← Context.fetch context other make
        extend other i suffix : Build Instance).run.run w := by
  have fetched : ExceptT.mk (modifyGet (made.alone context)) = make := funext same
  rw [making.begun, Program.alone_andThen]
  simp only [Build.run_bind]
  rcases (liftM (Act.write (.constructed key)) : Build Unit).run.run w with ⟨h | _, v⟩
  · rfl
  simp only
  rcases (countMaking key sample).run.run v with ⟨h | before, x⟩
  · rfl
  simp only [Program.alone, fetched]
  rcases (Context.fetch context other make).run.run x with ⟨h | i, y⟩
  · rfl
  simp only [making.extending, Program.alone_andThen]
  rcases (extend other i suffix).run.run y with ⟨h | i, z⟩ <;> rfl

theorem alone_making (context : Nat) (sample : Sample) (key : String) (w : World) :
    (sample.making context key).alone context w = (sample.make context key).run.run w := by
  induction sample generalizing key w with
  | text | number | failing | flaky =>
    rw [making, Program.alone_andThen]
    rcases (make context key _).run.run w with ⟨h | i, v⟩ <;> rfl
  | suffixed other base suffix ih =>
    apply alone_begun
    intro v
    rw [Program.alone_mapError, ih, Context.run_constructing]
  | suffixedRegistered other suffix =>
    apply alone_begun
    intro v
    rfl

end Sample

theorem Recipe.alone_making (context : Nat) (type : String) (r : Recipe) (w : World) :
    (r.making context type).alone context w = (r.make context type).run.run w := by
  unfold making
  cases kind : r.product with
  | sample s =>
    rw [make, kind]
    exact s.alone_making context type w
  | service | mapper | provider =>
    simp only [Program.alone_andThen]
    rcases (r.make context type).run.run w with ⟨h | i, v⟩ <;> rfl

namespace InstanceRef

/-- Carried out alone, the program makes what the lookup makes. -/
theorem alone_making (context : Nat) (r : InstanceRef) (w : World) :
    (r.making context).alone context w = (r.construct context).run.run w := by
  unfold making construct
  cases r.recipe with
  | none => rfl
  | some recipe =>
    simp only
    rw [Program.alone_mapError, recipe.alone_making, Context.run_constructing]

theorem alone_fetch (context : Nat) (r : InstanceRef) (w : World) :
    (Program.fetch r.type (r.making context) .ends).alone context w =
      (r.lookup context).run.run w := by
  have made : ExceptT.mk (modifyGet ((r.making context).alone context)) = r.construct context :=
    funext (r.alone_making context)
  rw [Program.alone, made]
  rfl

end InstanceRef

theorem Thread.eq_of_result? {σ κ ε α : Type} {t : Thread σ κ ε α} {r : Except ε α}
    (result : t.result? = some r) : t = ⟨.running (.ends r), []⟩ := by
  obtain ⟨point, makings⟩ := t
  unfold result? at result
  split at result
  next at_end idle =>
    cases result
    simp only at at_end idle
    rw [at_end, idle]
  next => cases result

namespace Race

variable {σ κ ε α : Type} [DecidableEq κ]

/-- The thread goes for the value of the key, and for nothing after that. -/
inductive GoesFor (cells : Cells κ α) (key : κ) : Thread σ κ ε α → Prop where
  | coming {make : Program σ κ ε α} : GoesFor cells key ⟨.running (.fetch key make .ends), []⟩
  | looking {make : Program σ κ ε α} : GoesFor cells key ⟨.looking key make .ends, []⟩
  | making {point : Point σ κ ε α} (inner : List (Making σ κ ε α)) :
      GoesFor cells key ⟨point, inner ++ [⟨key, .ends⟩]⟩
  | done {r : Except ε α} (value : ∀ a, r = .ok a → cells.find? key = some a) :
      GoesFor cells key ⟨.running (.ends r), []⟩

variable {r s : Race σ κ ε α} {key : κ} {e : Event κ ε α} {i : Nat}

theorem GoesFor.mono {cells more : Cells κ α} {t : Thread σ κ ε α} (h : GoesFor cells key t)
    (kept : ∀ a, cells.find? key = some a → more.find? key = some a) : GoesFor more key t := by
  cases h with
  | coming => exact .coming
  | looking => exact .looking
  | making inner => exact .making inner
  | done value => exact .done fun a ok => kept a (value a ok)

/-- The thread that makes the step still goes for the key. -/
theorem Turn.goesFor (turn : r.Turn i e s) (goes : ∀ t ∈ r.threads[i]?, GoesFor r.cells key t) :
    ∀ t ∈ s.threads[i]?, GoesFor s.cells key t := by
  have puts {v : Race σ κ ε α} {t u : Thread σ κ ε α} (here : v.threads[i]? = some t)
      (goal : GoesFor v.cells key u) : ∀ t ∈ (v.put i u).threads[i]?, GoesFor v.cells key t := by
    intro t mem
    rw [threads_put here] at mem
    cases mem
    exact goal
  cases turn with
  | rest | wait => exact goes
  | act here =>
    refine puts here ?_
    cases goes _ here with
    | making inner => exact .making inner
  | come here =>
    refine puts here ?_
    cases goes _ here with
    | coming => exact .looking
    | making inner => exact .making inner
  | take here found =>
    refine puts here ?_
    cases goes _ here with
    | looking =>
      refine .done fun a ok => ?_
      cases ok
      exact found
    | making inner => exact .making inner
  | @begin k make next makings here =>
    refine puts here ?_
    generalize list : makings = outer at here
    cases goes _ here with
    | looking => exact .making []
    | making inner => exact .making (⟨k, next⟩ :: inner)
  | @finish k made next makings here =>
    refine puts here ?_
    have goal := goes _ here
    generalize list : ⟨k, next⟩ :: makings = outer at goal
    cases goal with
    | done => cases list
    | making inner =>
      cases inner with
      | nil =>
        cases list
        refine .done fun a ok => ?_
        subst ok
        simp only [settle, Cells.find?_fill, if_pos]
      | cons m inner =>
        cases list
        exact .making inner

theorem Turn.threads_of_ne (turn : r.Turn i e s) {j : Nat} (other : i ≠ j) :
    s.threads[j]? = r.threads[j]? := by
  cases turn with
  | rest | wait => rfl
  | act | come | take | begin | finish => exact List.getElem?_set_ne other

def AllGoFor (r : Race σ κ ε α) (key : κ) : Prop :=
  ∀ (j : Nat), ∀ t ∈ r.threads[j]?, GoesFor r.cells key t

theorem AllGoFor.step (all : r.AllGoFor key) (h : r.Exclusive) (i : Nat) :
    (r.step i).AllGoFor key := by
  have turn := r.turn_step i
  intro j
  by_cases own : i = j
  · subst own
    exact turn.goesFor (all i)
  · intro t mem
    rw [turn.threads_of_ne own] at mem
    exact (all j t mem).mono fun a found => h.kept_step i found

/-- When all threads go for one key, those that get a value get the one that is kept. -/
theorem AllGoFor.results (all : r.AllGoFor key) (h : r.Exclusive) (schedule : List Nat) {a : α}
    (got : .ok a ∈ (r.run schedule).results) : (r.run schedule).cells.find? key = some a := by
  induction schedule generalizing r with
  | nil =>
    obtain ⟨t, mem, result⟩ := List.mem_filterMap.mp got
    obtain ⟨j, here⟩ := List.mem_iff_getElem?.mp mem
    have goal := all j t here
    rw [Thread.eq_of_result? result] at goal
    generalize list : [] = outer at goal
    cases goal with
    | making inner => cases inner <;> cases list
    | done value => exact value a rfl
  | cons i rest ih => exact ih (all.step h i) (h.step i) got

end Race

namespace InstanceRef

theorem exclusive_race (context : Nat) (r : InstanceRef) (threads : Nat) (w : World) :
    (r.race context threads w).Exclusive := by
  apply Race.exclusive_of_fresh
  intro t mem
  rw [List.eq_of_mem_replicate mem]
  rfl

theorem allGoFor_race (context : Nat) (r : InstanceRef) (threads : Nat) (w : World) :
    (r.race context threads w).AllGoFor r.type := by
  intro j t here
  rw [List.eq_of_mem_replicate (List.mem_of_getElem? here)]
  exact .coming

/-- All who look a reference up at the same time and get an instance get the same one. -/
theorem lookupTogether_agree (context : Nat) (r : InstanceRef) (threads : Nat) (w : World)
    {a b : Instance} (one : .ok a ∈ ((r.lookupTogether context threads).run w).1)
    (other : .ok b ∈ ((r.lookupTogether context threads).run w).1) : a = b := by
  have goes := r.allGoFor_race context threads w
  have exclusive := r.exclusive_race context threads w
  have first := goes.results exclusive _ one
  have second := goes.results exclusive _ other
  rw [first] at second
  cases second
  rfl

/-- They get the instance that the context keeps already, if there is one. -/
theorem lookupTogether_kept (context : Nat) (r : InstanceRef) (threads : Nat) (w : World)
    {a kept : Instance}
    (found : ((w.contexts[context]?).getD default).instances.find? r.type = some kept)
    (got : .ok a ∈ ((r.lookupTogether context threads).run w).1) : a = kept := by
  have goes := r.allGoFor_race context threads w
  have exclusive := r.exclusive_race context threads w
  have before : (r.race context threads w).cells.find? r.type = some kept :=
    (Cells.find?_ofRegistry _ r.type).trans found
  have result := goes.results exclusive _ got
  rw [exclusive.kept _ before] at result
  cases result
  rfl

end InstanceRef

end CallGuard
