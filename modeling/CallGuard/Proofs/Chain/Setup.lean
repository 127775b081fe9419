import CallGuard.Proofs.Acts
import CallGuard.Proofs.Chain.Primitives
import CallGuard.Proxy.Call

/-!
# What building changes

A context is set up with a scheduler, or without one, and with a place for fallbacks. Building changes
neither: whatever is looked up, made or kept on the way, contexts stay set up as they are. Proxies stay
as they are as well, and nothing is written down but what is made. Main statement:
`Policy.makes_resolve`.
-/

namespace CallGuard

/-- What a context is set up with. -/
def Context.setup (c : Context) : Option Scheduler × Placement := (c.scheduler, c.placement)

/-- What the context of that number is set up with. -/
def World.setup (w : World) (context : Nat) : Option Scheduler × Placement :=
  ((w.contexts[context]?).getD default).setup

/-- An entry about something that was made, or asked for its configuration. -/
def Entry.IsMaking : Entry → Prop
  | .constructed _ | .configAsked _ => True
  | _ => False

/-- From one world to the other things may have been made. -/
structure World.Makes (w v : World) : Prop where
  setup : ∀ n, v.setup n = w.setup n
  proxies : v.proxies = w.proxies
  wrote : ∃ entries, v.history = w.history ++ entries ∧ ∀ e ∈ entries, e.IsMaking

namespace World.Makes

theorem of_same {w v : World} (contexts : v.contexts = w.contexts) (proxies : v.proxies = w.proxies)
    (history : v.history = w.history) : w.Makes v where
  setup n := by rw [World.setup, contexts, World.setup]
  proxies := proxies
  wrote := ⟨[], history.trans (List.append_nil _).symm, List.forall_mem_nil _⟩

theorem refl (w : World) : w.Makes w := of_same rfl rfl rfl

theorem trans {u w v : World} (first : u.Makes w) (second : w.Makes v) : u.Makes v where
  setup n := (second.setup n).trans (first.setup n)
  proxies := second.proxies.trans first.proxies
  wrote := by
    obtain ⟨entries, begun, before⟩ := first.wrote
    obtain ⟨more, ended, after⟩ := second.wrote
    refine ⟨entries ++ more, ?_, List.forall_mem_append.mpr ⟨before, after⟩⟩
    rw [ended, begun, List.append_assoc]

/-- A context may be changed in what it is not set up with. -/
theorem update (w : World) (number : Nat) {f : Context → Context}
    (same : ∀ c, (f c).setup = c.setup) : w.Makes ((Context.update number f).run w).2 := by
  change w.Makes { w with contexts := w.contexts.modify number f }
  refine ⟨fun n => ?_, rfl, [], (List.append_nil _).symm, List.forall_mem_nil _⟩
  unfold World.setup
  rw [Array.getElem?_modify]
  by_cases own : number = n
  · rw [if_pos own]
    cases w.contexts[n]? with
    | none => rfl
    | some c => exact same c
  · rw [if_neg own]

end World.Makes

variable {A B : Type}

namespace Build

variable {build : Build A} {next : A → Build B} {u v : World} {b : B} {halt : Halt}

theorem run_bind (build : Build A) (next : A → Build B) (w : World) :
    (build >>= next).run.run w = match build.run.run w with
      | (.ok a, v) => (next a).run.run v
      | (.error halt, v) => (.error halt, v) := by
  rw [ExceptT.run_bind, StateT.run_bind]
  obtain ⟨halt | a, v⟩ := build.run.run w <;> rfl

theorem run_read (number : Nat) (w : World) :
    (liftM (Context.read number) : Build Context).run.run w =
      (.ok ((w.contexts[number]?).getD default), w) := rfl

/-- A building that succeeds has succeeded in both of its parts. -/
theorem bind_ok_iff : (build >>= next).run.run u = (.ok b, v) ↔
    ∃ a w, build.run.run u = (.ok a, w) ∧ (next a).run.run w = (.ok b, v) := by
  rw [run_bind]
  obtain ⟨halt | a, w⟩ := build.run.run u
  · constructor
    · rintro ⟨⟩
    · rintro ⟨_, _, ⟨⟩, _⟩
  · constructor
    · exact fun built => ⟨a, w, rfl, built⟩
    · rintro ⟨_, _, ⟨⟩, built⟩
      exact built

/-- A building that fails has failed in its first part or, after that, in the second one. -/
theorem bind_error_iff : (build >>= next).run.run u = (.error halt, v) ↔
    build.run.run u = (.error halt, v) ∨
      ∃ a w, build.run.run u = (.ok a, w) ∧ (next a).run.run w = (.error halt, v) := by
  rw [run_bind]
  obtain ⟨halt' | a, w⟩ := build.run.run u
  · constructor
    · rintro ⟨⟩
      exact .inl rfl
    · rintro (failed | ⟨_, _, ⟨⟩, _⟩)
      cases failed
      rfl
  · constructor
    · exact fun failed => .inr ⟨a, w, rfl, failed⟩
    · rintro (failed | ⟨_, _, ⟨⟩, failed⟩)
      · cases failed
      · exact failed

end Build

/-- Contexts are set up after the building as they were before. -/
def Build.KeepsSetup (build : Build A) : Prop :=
  ∀ w n, (build.run.run w).2.setup n = w.setup n

/-- A context that has a scheduler has it after the building. -/
theorem Build.KeepsSetup.scheduled {build : Build A} {r : Except Halt A} {u v : World}
    {context : Nat} {s : Scheduler} (keeps : build.KeepsSetup) (ran : build.run.run u = (r, v))
    (scheduled : (u.setup context).1 = some s) : (v.setup context).1 = some s := by
  have same := keeps u context
  rw [ran] at same
  rw [same]
  exact scheduled

/-- Wherever the building starts, it ends in a world that is related to that one. -/
def Build.Leads (good : World → World → Prop) (build : Build A) : Prop :=
  ∀ w, good w (build.run.run w).2

/-- A relation between worlds that goes along with whatever is done to make instances and to keep
them. -/
structure World.Allows (good : World → World → Prop) : Prop where
  refl : ∀ w, good w w
  trans : ∀ {u v w}, good u v → good v w → good u w
  written : ∀ w {e : Entry}, e.IsMaking → good w (w.append [e])
  counted : ∀ w makings, good w { w with makings := makings }
  shared : ∀ w texts, good w { w with texts := texts }
  enrolled : ∀ w services, good w { w with services := services }
  kept : ∀ w number type i, good w ((Context.keep number type i).run w).2

variable {good : World → World → Prop}

namespace Build.Leads

variable {build : Build A} {next : A → Build B}

theorem pure (allows : World.Allows good) (a : A) : (Pure.pure a : Build A).Leads good :=
  allows.refl

theorem throw (allows : World.Allows good) (halt : Halt) : (throw halt : Build A).Leads good :=
  allows.refl

theorem get (allows : World.Allows good) :
    (liftM (MonadState.get : Act World) : Build World).Leads good :=
  allows.refl

theorem read (allows : World.Allows good) (number : Nat) :
    (liftM (Context.read number) : Build Context).Leads good :=
  allows.refl

theorem write (allows : World.Allows good) {e : Entry} (making : e.IsMaking) :
    (liftM (Act.write e) : Build Unit).Leads good := by
  intro w
  change good w ((Act.write e).run w).2
  rw [Act.run_write]
  exact allows.written w making

theorem bind (allows : World.Allows good) (first : build.Leads good)
    (rest : ∀ a, (next a).Leads good) : (build >>= next).Leads good := by
  intro w
  have begun := first w
  rw [run_bind]
  rcases ran : build.run.run w with ⟨halt | a, between⟩
  · rw [ran] at begun
    exact begun
  · rw [ran] at begun
    exact allows.trans begun (rest a between)

theorem tryCatch (allows : World.Allows good) {handle : Halt → Build A} (first : build.Leads good)
    (rest : ∀ halt, (handle halt).Leads good) : (tryCatch build handle).Leads good := by
  intro w
  have begun := first w
  rw [ExceptT.run_tryCatch, StateT.run_bind]
  rcases ran : build.run.run w with ⟨halt | a, between⟩
  · rw [ran] at begun
    exact allows.trans begun (rest halt between)
  · rw [ran] at begun
    exact begun

theorem mapM (allows : World.Allows good) {f : B → Build A} (each : ∀ b, (f b).Leads good)
    (bs : List B) : (bs.mapM f).Leads good := by
  induction bs with
  | nil =>
    rw [List.mapM_nil]
    exact pure allows []
  | cons b rest ih =>
    rw [List.mapM_cons]
    exact bind allows (each b) fun _ => bind allows ih fun _ => pure allows _

end Build.Leads

theorem Context.leads_fetch (allows : World.Allows good) {number : Nat} {type : String}
    {make : Build Instance} (made : make.Leads good) : (fetch number type make).Leads good := by
  refine .bind allows (.read allows number) fun c => ?_
  cases c.instances.find? type with
  | some i => exact .pure allows i
  | none =>
    refine .bind allows made fun i => ?_
    exact .bind allows (fun w => allows.kept w number type i) fun _ => .pure allows i

theorem Context.run_constructing (type : String) (make : Build Instance) (w : World) :
    (constructing type make).run.run w =
      ((make.run.run w).1.mapError (Halt.constructing type), (make.run.run w).2) := by
  rw [constructing, ExceptT.run_tryCatch, StateT.run_bind]
  rcases make.run.run w with ⟨h | i, v⟩ <;> rfl

theorem Context.leads_constructing (allows : World.Allows good) {type : String}
    {make : Build Instance} (made : make.Leads good) : (constructing type make).Leads good :=
  .tryCatch allows made fun _ => .throw allows _

theorem Instance.leads_shareText (allows : World.Allows good) (s : String) :
    (shareText s).Leads good := by
  refine .bind allows (.get allows) fun w => ?_
  exact .bind allows (fun w => allows.shared w _) fun _ => .pure allows _

namespace Sample

theorem leads_extend (allows : World.Allows good) (key : String) (i : Instance) (suffix : String) :
    (extend key i suffix).Leads good := by
  unfold extend
  cases i.text? with
  | none => exact .throw allows _
  | some shared => exact Instance.leads_shareText allows _

theorem leads_countMaking (allows : World.Allows good) (key : String) (s : Sample) :
    (countMaking key s).Leads good := by
  refine .bind allows (.get allows) fun w => ?_
  exact .bind allows (fun w => allows.counted w _) fun _ => .pure allows _

theorem leads_make (allows : World.Allows good) (context : Nat) (sample : Sample) :
    ∀ key, (sample.make context key).Leads good := by
  have begun {A : Type} (key : String) (s : Sample) {next : Nat → Build A}
      (rest : ∀ before, (next before).Leads good) :
      (do
        Act.write (.constructed key)
        let before ← countMaking key s
        next before : Build A).Leads good :=
    .bind allows (.write allows trivial) fun _ => .bind allows (leads_countMaking allows key s) rest
  induction sample with
  | text s => exact fun key => begun key _ fun _ => Instance.leads_shareText allows s
  | number n => exact fun key => begun key _ fun _ => .pure allows _
  | failing message => exact fun key => begun key _ fun _ => .throw allows _
  | flaky failures s =>
    intro key
    refine begun key _ fun before => ?_
    split
    · exact .throw allows _
    · exact Instance.leads_shareText allows s
  | suffixed other base suffix ih =>
    intro key
    refine begun key _ fun _ => ?_
    have made : (Context.constructing other (base.make context other)).Leads good :=
      Context.leads_constructing allows (ih other)
    exact .bind allows (Context.leads_fetch allows made) fun i => leads_extend allows other i suffix
  | suffixedRegistered other suffix =>
    intro key
    refine begun key _ fun _ => ?_
    have made : (Build.fail (.noDefault other) : Build Instance).Leads good := .throw allows _
    exact .bind allows (Context.leads_fetch allows made) fun i => leads_extend allows other i suffix

end Sample

theorem Recipe.leads_make (allows : World.Allows good) (context : Nat) (type : String)
    (r : Recipe) : (r.make context type).Leads good := by
  have announced : ∀ i : Build Instance, i.Leads good →
      (do if r.announced then Act.write (.constructed type)
          i : Build Instance).Leads good := by
    intro i leads
    cases r.announced with
    | true => exact .bind allows (.write allows trivial) fun _ => leads
    | false => exact leads
  unfold make
  cases r.product with
  | sample s => exact s.leads_make allows context type
  | service interface label script =>
    refine announced _ ?_
    exact .bind allows (fun w => allows.enrolled w _) fun _ => .pure allows _
  | mapper m => exact announced _ (.pure allows _)
  | provider p => exact announced _ (.pure allows _)

namespace InstanceRef

theorem leads_lookup (allows : World.Allows good) (context : Nat) (r : InstanceRef) :
    (r.lookup context).Leads good := by
  apply Context.leads_fetch allows
  unfold construct
  cases r.recipe with
  | none => exact .throw allows _
  | some recipe =>
    exact Context.leads_constructing allows (recipe.leads_make allows context r.type)

theorem leads_lookupAs (allows : World.Allows good) (context : Nat) (r : InstanceRef)
    (role? : Instance → Option A) (expected : String) :
    (r.lookupAs context role? expected).Leads good := by
  refine .bind allows (r.leads_lookup allows context) fun i => ?_
  cases role? i with
  | none => exact .throw allows _
  | some a => exact .pure allows a

end InstanceRef

namespace GuardKind

variable {C G : Type}

/-- The relation goes along with making guards of the kind as well, and with keeping them in the
context. -/
structure Allowed (k : GuardKind C G) (good : World → World → Prop) (context : Nat) : Prop where
  made : ∀ name c, (k.make name c).Leads good
  kept : ∀ w name g, good w
    ((Context.update context fun c => k.setGuards c ((k.guards c).insert name g)).run w).2

theorem leads_config (allows : World.Allows good) (k : GuardKind C G) (context : Nat)
    (p : GuardPolicy C) : (k.config context p).Leads good := by
  unfold config
  cases p.provider with
  | none => exact .pure allows _
  | some ref =>
    refine .bind allows (ref.leads_lookupAs allows context _ _) fun found => ?_
    exact .bind allows (.write allows trivial) fun _ => .pure allows _

theorem leads_fetch {k : GuardKind C G} {context : Nat} (allows : World.Allows good)
    (allowed : k.Allowed good context) (p : GuardPolicy C) : (k.fetch context p).Leads good := by
  refine .bind allows (.read allows context) fun c => ?_
  cases (k.guards c).find? p.name with
  | some g => exact .pure allows g
  | none =>
    refine .bind allows (k.leads_config allows context p) fun c => ?_
    refine .bind allows (allowed.made p.name c) fun g => ?_
    exact .bind allows (fun w => allowed.kept w p.name g) fun _ => .pure allows g

end GuardKind

section

variable {u : World} {context : Nat}

theorem run_requireScheduler {s : Scheduler} (scheduled : (u.setup context).1 = some s)
    (c : Capability) (m : Method) : (requireScheduler context c m).run.run u = (.ok s, u) := by
  refine Build.bind_ok_iff.mpr ⟨(u.contexts[context]?).getD default, u, rfl, ?_⟩
  have there : ((u.contexts[context]?).getD default).scheduler = some s := scheduled
  rw [there]
  rfl

theorem run_requireScheduler_none (unscheduled : (u.setup context).1 = none) (c : Capability)
    (m : Method) : (requireScheduler context c m).run.run u =
      (.error (.fault (.missingScheduler c.name m.display)), u) := by
  refine Build.bind_error_iff.mpr (.inr ⟨(u.contexts[context]?).getD default, u, rfl, ?_⟩)
  have nothing : ((u.contexts[context]?).getD default).scheduler = none := unscheduled
  rw [nothing]
  rfl

end

theorem leads_requireScheduler (allows : World.Allows good) (context : Nat) (c : Capability)
    (m : Method) : (requireScheduler context c m).Leads good := by
  refine .bind allows (.read allows context) fun found => ?_
  cases found.scheduler with
  | none => exact .throw allows _
  | some s => exact .pure allows s

theorem MapperSource.leads_resolve (allows : World.Allows good) (context : Nat) (m : Method)
    (s : MapperSource) : (s.resolve context m).Leads good := by
  unfold resolve
  extract_lets check
  have checked : ∀ mapper, (check mapper).Leads good := by
    intro mapper
    unfold check
    cases mapper.output with
    | unchecked => exact .pure allows mapper
    | checked kind =>
      dsimp only
      split
      · exact .pure allows mapper
      · exact .throw allows _
  cases s with
  | managed ref => exact .bind allows (ref.leads_lookupAs allows context _ _) checked
  | given type mapper => exact .bind allows (.pure allows mapper) checked

theorem FallbackStage.leads_resolve (allows : World.Allows good) (context : Nat)
    (s : FallbackStage) : (s.resolve context).Leads good := by
  have found : (s.source.resolve context).Leads good := by
    cases s.source with
    | managed ref => exact .bind allows (ref.leads_lookup allows context) fun _ => .pure allows _
    | given type interface service => exact .pure allows _
    | made type factory => exact .pure allows _
  exact .bind allows found fun _ => .pure allows _

/-- Resolving a policy goes along with a relation that allows for the guard that it names. -/
theorem Policy.leads_resolve (allows : World.Allows good) (context : Nat) (m : Method) (p : Policy)
    (allowed : ∀ (k : Primitive) (q : GuardPolicy k.Config), k.policy? p = some q →
      k.kind.Allowed good context) : (p.resolve context m).Leads good := by
  cases p with
  | exceptions mappers =>
    have each (s : MapperSource) := s.leads_resolve allows context m
    exact .bind allows (.mapM allows each mappers) fun _ => .pure allows _
  | retry q =>
    refine .bind allows (GuardKind.leads_fetch allows (allowed .retry q rfl) q) fun r => ?_
    cases m.shape with
    | direct => exact .pure allows _
    | deferred =>
      exact .bind allows (leads_requireScheduler allows context .retry m) fun _ => .pure allows _
  | limiter q =>
    refine .bind allows (GuardKind.leads_fetch allows (allowed .limiter q rfl) q) fun l => ?_
    cases m.shape with
    | direct => exact .pure allows _
    | deferred =>
      dsimp only
      split
      · exact .pure allows _
      · exact .bind allows (leads_requireScheduler allows context .limiter m) fun _ =>
          .pure allows _
  | breaker q =>
    exact .bind allows (GuardKind.leads_fetch allows (allowed .breaker q rfl) q) fun _ =>
      .pure allows _
  | fallback stages =>
    have each (s : FallbackStage) := s.leads_resolve allows context
    exact .bind allows (.mapM allows each stages) fun _ => .pure allows _
  | bulkhead q =>
    refine .bind allows (GuardKind.leads_fetch allows (allowed .bulkhead q rfl) q) fun b => ?_
    split
    · exact .pure allows _
    · exact .bind allows (leads_requireScheduler allows context .bulkhead m) fun _ =>
        .pure allows _

theorem PolicyTable.leads_resolveEach (allows : World.Allows good) {t : PolicyTable} {context : Nat}
    {m : Method} (sought : ∀ c, (t.seek c m).Leads good)
    (resolved : ∀ p : Policy, (p.resolve context m).Leads good) (order : List Capability) :
    (t.resolveEach context m order).Leads good := by
  induction order with
  | nil => exact .pure allows _
  | cons c rest ih =>
    refine .bind allows (sought c) fun found => ?_
    cases found with
    | none => exact ih
    | some p => exact .bind allows (resolved p) fun _ => .bind allows ih fun _ => .pure allows _

/-- Building a chain goes along with a relation that allows for looking policies up and for what
becomes of them. -/
theorem Proxy.leads_build (allows : World.Allows good) {p : Proxy} {r : Route}
    (sought : ∀ (t : PolicyTable) c, (t.seek c r.method).Leads good)
    (resolved : ∀ q : Policy, (q.resolve p.context r.method).Leads good) :
    (p.build r).Leads good := by
  have stages : (p.resolve r.method).Leads good := by
    refine .bind allows (.get allows) fun w => .bind allows (.read allows p.context) fun c => ?_
    exact PolicyTable.leads_resolveEach allows (sought _) resolved _
  refine .bind allows stages fun stages => ?_
  cases ResolvedStage.bindAll r.method stages with
  | error e => exact .throw allows _
  | ok layers => exact .pure allows _

/-- A guard is made, with the name and the configuration that were asked for, and nothing else is
done; or it cannot be made, and nothing is done at all. -/
theorem Primitive.run_make (k : Primitive) (name : String) (c : k.Config) (w : World) :
    (k.CanMake c ∧ ∃ g v, (k.kind.make name c).run.run w = (.ok g, v) ∧ k.settings g = (name, c) ∧
        v.contexts = w.contexts ∧ v.proxies = w.proxies ∧ v.history = w.history) ∨
      ¬ k.CanMake c ∧ ∃ text, (k.kind.make name c).run.run w = (.error (.crash text), w) := by
  cases k with
  | retry | limiter | breaker => exact .inl ⟨trivial, _, _, rfl, rfl, rfl, rfl, rfl⟩
  | bulkhead =>
    change _ ∧ (∃ g v, (Bulkhead.make name c).run.run w = _ ∧ _) ∨
      _ ∧ ∃ text, (Bulkhead.make name c).run.run w = _
    unfold Bulkhead.make
    by_cases many : Slots.limit < c.capacity
    · simp only [if_pos many]
      exact .inr ⟨Nat.not_le_of_gt many, _, rfl⟩
    · simp only [if_neg many]
      exact .inl ⟨Nat.le_of_not_gt many, _, _, rfl, rfl, rfl, rfl, rfl⟩

theorem World.Makes.allows : World.Allows World.Makes where
  refl := .refl
  trans := .trans
  written w e making := ⟨fun _ => rfl, rfl, [e], w.history_append [e],
    List.forall_mem_singleton.mpr making⟩
  counted _ _ := .of_same rfl rfl rfl
  shared _ _ := .of_same rfl rfl rfl
  enrolled _ _ := .of_same rfl rfl rfl
  kept w number _ _ := World.Makes.update w number fun _ => rfl

theorem Primitive.allowed_makes (k : Primitive) (context : Nat) :
    k.kind.Allowed World.Makes context where
  made name c w := by
    rcases k.run_make name c w with ⟨-, g, v, made, -, contexts, proxies, history⟩ | ⟨-, text, made⟩
    · rw [made]
      exact .of_same contexts proxies history
    · rw [made]
      exact .refl w
  kept w name g := World.Makes.update w context fun c => Prod.ext (k.setup_setGuards c _).1
    (k.setup_setGuards c _).2

namespace Build

theorem Leads.keepsSetup {build : Build A} (h : build.Leads World.Makes) : build.KeepsSetup :=
  fun w n => (h w).setup n

end Build

/-- Resolving a policy keeps the setup of contexts. -/
theorem Policy.makes_resolve (context : Nat) (m : Method) (p : Policy) :
    (p.resolve context m).Leads World.Makes :=
  p.leads_resolve World.Makes.allows context m fun k _ _ => k.allowed_makes context

end CallGuard
