import CallGuard.Catalog.Methods
import CallGuard.Proofs.Chain.Changes
import CallGuard.Proofs.Context.Failures

/-!
# Which chains need a scheduler

Whether a stage can wait shows when its guard has been looked up, and then the scheduler of the
context is asked for. The guard may have been made for another policy long before. Main statement:
`Proxy.requires_scheduler`.
-/

namespace CallGuard

/-- Whether calls of the method may have to wait in the stage of the policy, as far as the context
keeps the guard that the policy names. It does not matter what the policy says of the guard. -/
def Policy.waits? (n : Nat) (m : Method) (w : World) : Policy → Option Bool
  | .exceptions _ | .breaker _ | .fallback _ => some false
  | .retry _ => some (m.shape = .deferred)
  | .limiter q =>
    match m.shape with
    | .direct => some false
    | .deferred => (Primitive.limiter.kept? n w q.name).map fun l => l.config.timeout ≠ 0
  | .bulkhead q => (Primitive.bulkhead.kept? n w q.name).map fun b => b.config.maxWait ≠ 0

/-- The method has a stage of the capability in which calls may have to wait. -/
def PolicyTable.Waits (t : PolicyTable) (n : Nat) (m : Method) (w : World) (c : Capability) :
    Prop :=
  ∃ q, t.find? c m.name = some q ∧ q.waits? n m w = some true

/-- The stage of the capability, if the method has one, is known to be none in which calls may have
to wait. Guards that are made later do not change that. -/
def PolicyTable.Calm (t : PolicyTable) (n : Nat) (m : Method) (w : World) (c : Capability) :
    Prop :=
  ∀ q, t.find? c m.name = some q → q.waits? n m w = some false

theorem PolicyTable.Calm.not_waits {t : PolicyTable} {n : Nat} {m : Method} {w : World}
    {c : Capability} (h : t.Calm n m w c) : ¬ t.Waits n m w c := by
  rintro ⟨q, found, waits⟩
  rw [h q found] at waits
  cases waits

namespace World

/-- What the context of that number keeps, it goes on keeping. -/
def Holds (n : Nat) (u v : World) : Prop :=
  ∀ (k : Primitive) kept, k.stock n u = some kept → ∃ more, k.stock n v = some more ∧
    ∀ name g, kept.find? name = some g → more.find? name = some g

namespace Holds

variable {n : Nat} {u v : World}

theorem of_serves {F : Type} {sort : ∀ k : Primitive, GuardPolicy k.Config → Prop}
    {stages : List (Stage F)} (serves : ∀ k : Primitive, k.Serves n (sort k) u v stages) :
    Holds n u v := by
  intro k kept stocked
  obtain ⟨ls, uses, -⟩ := serves k
  exact uses.holds stocked

theorem of_resolve {q : Policy} {m : Method} {result : Except Halt ResolvedStage}
    (ran : (q.resolve n m).run.run u = (result, v)) : Holds n u v :=
  of_serves fun _ => Primitive.serves_resolve ran

theorem of_resolveEach {t : PolicyTable} {m : Method} {order : List Capability}
    {result : Except Halt (List ResolvedStage)}
    (ran : (t.resolveEach n m order).run.run u = (result, v)) : Holds n u v :=
  of_serves fun _ => Primitive.serves_resolveEach ran

theorem kept? (h : Holds n u v) {k : Primitive} {name : String} {g : k.Guard}
    (there : k.kept? n u name = some g) : k.kept? n v name = some g := by
  obtain ⟨kept, stocked, found⟩ := Option.bind_eq_some_iff.mp there
  obtain ⟨more, later, held⟩ := h k kept stocked
  rw [Primitive.kept?, later, Option.bind_some]
  exact held name g found

/-- Once it is known whether calls may have to wait, it stays so. -/
theorem waits? (h : Holds n u v) {q : Policy} {m : Method} {b : Bool}
    (known : q.waits? n m u = some b) : q.waits? n m v = some b := by
  cases q with
  | exceptions | breaker | fallback | retry => exact known
  | limiter q =>
    cases shape : m.shape with
    | direct => simpa only [Policy.waits?, shape] using known
    | deferred =>
      simp only [Policy.waits?, shape] at known ⊢
      obtain ⟨l, there, own⟩ := Option.map_eq_some_iff.mp known
      exact Option.map_eq_some_iff.mpr ⟨l, h.kept? there, own⟩
  | bulkhead q =>
    obtain ⟨l, there, own⟩ := Option.map_eq_some_iff.mp known
    exact Option.map_eq_some_iff.mpr ⟨l, h.kept? there, own⟩

theorem calm (h : Holds n u v) {t : PolicyTable} {m : Method} {c : Capability}
    (known : t.Calm n m u c) : t.Calm n m v c := fun q found => h.waits? (known q found)

theorem exists_context (h : Holds n u v) (there : (u.contexts[n]?).isSome) :
    (v.contexts[n]?).isSome := by
  obtain ⟨c, here⟩ := Option.isSome_iff_exists.mp there
  obtain ⟨more, later, -⟩ := h .retry c.retries (by rw [Primitive.stock, here]; rfl)
  obtain ⟨d, found, -⟩ := Option.map_eq_some_iff.mp later
  rw [found]
  rfl

end Holds

end World

variable {n : Nat} {m : Method} {u v : World}

/-- What comes of a request for a guard and what follows: the guard cannot be had, or it is kept and
the setup of the context is as it was. -/
theorem Primitive.fetch_cases {k : Primitive} {p : GuardPolicy k.Config}
    {rest : k.Guard → Build ResolvedStage} {result : Except Halt ResolvedStage}
    (there : (u.contexts[n]?).isSome)
    (ran : (k.kind.fetch n p >>= rest).run.run u = (result, v)) :
    (∃ halt, result = .error halt ∧ halt.IsAside) ∨
      (k = .bulkhead ∧ (∃ text, result = .error (.crash text)) ∧ k.kept? n v p.name = none) ∨
        ∃ g x, k.kept? n x p.name = some g ∧ x.setup n = u.setup n ∧
          (rest g).run.run x = (result, v) := by
  obtain ⟨c, here⟩ := Option.isSome_iff_exists.mp there
  have stocked : k.stock n u = some (k.kind.guards c) := by rw [stock, here]; rfl
  rw [Build.run_bind] at ran
  rcases fetched : (k.kind.fetch n p).run.run u with ⟨halt | g, x⟩
  · rw [fetched] at ran
    cases ran
    rcases fails_fetch stocked fetched with aside | ⟨own, ⟨text, rfl⟩, absent⟩
    · exact .inl ⟨halt, rfl, aside⟩
    · exact .inr (.inl ⟨own, ⟨text, rfl⟩, absent⟩)
  · rw [fetched] at ran
    have kept := (GuardKind.leads_fetch World.Makes.allows (k.allowed_makes n) p).keepsSetup u n
    rw [fetched] at kept
    exact .inr (.inr ⟨g, x, kept?_of_fetch stocked fetched, kept, ran⟩)

/-- What comes of resolving a policy where that scheduler is at hand, or none is. -/
inductive Policy.Resolves (n : Nat) (m : Method) (scheduler : Option Scheduler) (v : World)
    (q : Policy) : Except Halt ResolvedStage → Prop where
  | prompt {stage : ResolvedStage} (calm : q.waits? n m v = some false)
      (free : stage.scheduler? = none) : Resolves n m scheduler v q (.ok stage)
  | scheduled {s : Scheduler} {stage : ResolvedStage} (there : scheduler = some s)
      (waits : q.waits? n m v = some true) (uses : stage.scheduler? = some s) :
      Resolves n m scheduler v q (.ok stage)
  | unscheduled (none : scheduler = none) (waits : q.waits? n m v = some true) :
      Resolves n m scheduler v q (.error (.fault (.missingScheduler q.capability.name m.display)))
  | crashed {text : String} (own : q.capability = .bulkhead) (unknown : q.waits? n m v = none) :
      Resolves n m scheduler v q (.error (.crash text))
  | aside {halt : Halt} (other : halt.IsAside) : Resolves n m scheduler v q (.error halt)

namespace Policy.Resolves

variable {scheduler : Option Scheduler} {q : Policy} {result : Except Halt ResolvedStage}

theorem of_fails {build : Build ResolvedStage} (fails : build.Fails Halt.IsAside)
    (stays : ∀ stage, build.run.run u = (.ok stage, v) →
      q.waits? n m v = some false ∧ stage.scheduler? = none)
    (ran : build.run.run u = (result, v)) : q.Resolves n m scheduler v result := by
  cases result with
  | error halt => exact .aside (fails u v halt ran)
  | ok stage =>
    obtain ⟨calm, free⟩ := stays stage ran
    exact .prompt calm free

/-- A stage in which calls may have to wait takes the scheduler of the context. -/
theorem of_required {f : Scheduler → ResolvedStage} (waits : q.waits? n m u = some true)
    (uses : ∀ s, (f s).scheduler? = some s)
    (ran : (requireScheduler n q.capability m >>= fun s => pure (f s) :
      Build ResolvedStage).run.run u = (result, v)) :
    q.Resolves n m (u.setup n).1 v result := by
  cases scheduler : (u.setup n).1 with
  | none =>
    rw [Build.run_bind, run_requireScheduler_none scheduler] at ran
    cases ran
    exact .unscheduled rfl waits
  | some s =>
    rw [Build.run_bind, run_requireScheduler scheduler] at ran
    cases ran
    exact .scheduled rfl waits (uses s)

end Policy.Resolves

/-- **A policy is resolved** with a scheduler where calls may have to wait, and without one where
they never do. -/
theorem Policy.resolves {q : Policy} {result : Except Halt ResolvedStage}
    (there : (u.contexts[n]?).isSome) (ran : (q.resolve n m).run.run u = (result, v)) :
    q.Resolves n m (u.setup n).1 v result := by
  cases q with
  | exceptions mappers =>
    have fails := Build.Fails.mapM (fun s : MapperSource => s.fails_resolve n m) mappers
    refine .of_fails (.bind fails fun _ => .pure) (fun stage built => ⟨rfl, ?_⟩) ran
    obtain ⟨_, _, -, rest⟩ := Build.bind_ok_iff.mp built
    cases rest
    rfl
  | fallback stages =>
    have fails := Build.Fails.mapM (fun s : FallbackStage => s.fails_resolve n) stages
    refine .of_fails (.bind fails fun _ => .pure) (fun stage built => ⟨rfl, ?_⟩) ran
    obtain ⟨_, _, -, rest⟩ := Build.bind_ok_iff.mp built
    cases rest
    rfl
  | breaker p =>
    rcases Primitive.fetch_cases (k := .breaker) there ran with
      ⟨halt, rfl, aside⟩ | ⟨⟨⟩, -⟩ | ⟨b, x, kept, same, rest⟩
    · exact .aside aside
    · cases rest
      exact .prompt rfl rfl
  | retry p =>
    rcases Primitive.fetch_cases (k := .retry) there ran with
      ⟨halt, rfl, aside⟩ | ⟨⟨⟩, -⟩ | ⟨r, x, kept, same, rest⟩
    · exact .aside aside
    · rw [← same]
      cases shape : m.shape with
      | direct =>
        rw [shape] at rest
        cases rest
        exact .prompt (by simp [waits?, shape]) rfl
      | deferred =>
        rw [shape] at rest
        exact .of_required (by simp [waits?, shape]) (fun _ => rfl) rest
  | limiter p =>
    rcases Primitive.fetch_cases (k := .limiter) there ran with
      ⟨halt, rfl, aside⟩ | ⟨⟨⟩, -⟩ | ⟨l, x, kept, same, rest⟩
    · exact .aside aside
    · rw [← same]
      cases shape : m.shape with
      | direct =>
        rw [shape] at rest
        cases rest
        exact .prompt (by simp [waits?, shape]) rfl
      | deferred =>
        rw [shape] at rest
        dsimp only at rest
        split at rest
        next impatient =>
          cases rest
          exact .prompt (by simp [waits?, shape, kept, impatient]) rfl
        next patient =>
          exact .of_required (by simp [waits?, shape, kept, patient]) (fun _ => rfl) rest
  | bulkhead p =>
    rcases Primitive.fetch_cases (k := .bulkhead) there ran with
      ⟨halt, rfl, aside⟩ | ⟨-, ⟨text, rfl⟩, absent⟩ | ⟨b, x, kept, same, rest⟩
    · exact .aside aside
    · exact .crashed rfl (by simp [waits?, absent])
    · rw [← same]
      split at rest
      next impatient =>
        cases rest
        exact .prompt (by simp [waits?, kept, impatient]) rfl
      next patient => exact .of_required (by simp [waits?, kept, patient]) (fun _ => rfl) rest

namespace PolicyTable

variable {t : PolicyTable} {order asked : List Capability}

/-- Where all policies have been resolved without a scheduler, calls never have to wait. -/
theorem resolveEach_unscheduled {stages : List ResolvedStage} (there : (u.contexts[n]?).isSome)
    (unscheduled : (u.setup n).1 = none)
    (ran : (t.resolveEach n m order).run.run u = (.ok stages, v)) :
    (∀ c ∈ order, t.Calm n m v c) ∧ ∀ stage ∈ stages, stage.scheduler? = none := by
  induction order generalizing u stages with
  | nil =>
    cases ran
    exact ⟨List.forall_mem_nil _, List.forall_mem_nil _⟩
  | cons c rest ih =>
    have here : ((sought m c u).contexts[n]?).isSome := there
    rw [run_resolveEach_cons] at ran
    cases applies : t.find? c m.name with
    | none =>
      rw [applies] at ran
      obtain ⟨calm, free⟩ := ih here unscheduled ran
      have nowhere : t.Calm n m v c := fun q found => by
        rw [applies] at found
        cases found
      exact ⟨List.forall_mem_cons.mpr ⟨nowhere, calm⟩, free⟩
    | some q =>
      rw [applies] at ran
      obtain ⟨stage, x, first, ran⟩ := Build.bind_ok_iff.mp ran
      obtain ⟨others, y, later, last⟩ := Build.bind_ok_iff.mp ran
      cases last
      have setup := (q.makes_resolve n m).keepsSetup (sought m c u) n
      rw [first] at setup
      have still : (x.setup n).1 = none := (congrArg Prod.fst setup).trans unscheduled
      obtain ⟨calm, free⟩ := ih ((World.Holds.of_resolve first).exists_context here) still later
      cases Policy.resolves here first with
      | prompt known bare =>
        have own : t.Calm n m x c := fun q' found => by
          rw [applies] at found
          cases found
          exact known
        exact ⟨List.forall_mem_cons.mpr ⟨(World.Holds.of_resolveEach later).calm own, calm⟩,
          List.forall_mem_cons.mpr ⟨bare, free⟩⟩
      | scheduled scheduled =>
        have none : (u.setup n).1 = _ := scheduled
        rw [unscheduled] at none
        cases none

/-- Where the resolution stops, a policy could not be resolved; without a scheduler, calls have to
wait in no stage before it. -/
theorem Stops.resolves {halt : Halt} (there : (u.contexts[n]?).isSome)
    (stops : t.Stops n m u v order asked (.error halt)) :
    ∃ before c after q, order = before ++ c :: after ∧ t.find? c m.name = some q ∧
      ((u.setup n).1 = none → ∀ d ∈ before, t.Calm n m v d) ∧
      q.Resolves n m (u.setup n).1 v (.error halt) := by
  cases stops with
  | unresolved before c after q stages x ordered earlier applies failed =>
    obtain ⟨_, seeks, -⟩ := resolveEach_stops earlier
    have here : ((sought m c x).contexts[n]?).isSome :=
      (World.Holds.of_resolveEach earlier).exists_context there
    have resolves := Policy.resolves here failed
    have setup : (sought m c x).setup n = u.setup n := seeks.setup n
    rw [setup] at resolves
    refine ⟨before, c, after, q, ordered, applies, fun unscheduled d mem => ?_, resolves⟩
    -- What the stages before it need was known before the policy was resolved, and stays so.
    obtain ⟨calm, -⟩ := resolveEach_unscheduled there unscheduled earlier
    have known : t.Calm n m (sought m c x) d := calm d mem
    exact (World.Holds.of_resolve failed).calm known

end PolicyTable

theorem ResolvedFallback.isAside_of_mapM {stages : List ResolvedFallback} {e : Fault}
    (mismatch : stages.mapM (·.bind m) = .error e) : (Halt.fault e).IsAside := by
  induction stages with
  | nil => cases mismatch
  | cons s rest ih =>
    rw [List.mapM_cons] at mismatch
    cases own : s.bind m with
    | error e' =>
      rw [own] at mismatch
      cases mismatch
      unfold bind at own
      split at own <;> cases own
      trivial
    | ok bound =>
      rw [own] at mismatch
      cases others : rest.mapM (·.bind m) with
      | error e' =>
        simp only [others] at mismatch
        cases mismatch
        exact ih others
      | ok bounds =>
        simp only [others] at mismatch
        cases mismatch

namespace ResolvedStage

theorem scheduler?_of_bind {s : ResolvedStage} {l : Layer} (bound : s.bind m = .ok l) :
    l.scheduler? = s.scheduler? := by
  cases s with
  | fallback stages =>
    obtain ⟨bounds, -, rfl⟩ := exists_of_bind_fallback bound
    rfl
  | _ =>
    cases bound
    rfl

theorem unscheduled_of_bindAll {stages : List ResolvedStage} {layers : List Layer}
    (bound : bindAll m stages = .ok layers) (free : ∀ s ∈ stages, s.scheduler? = none) :
    ∀ l ∈ layers, l.scheduler? = none := by
  induction stages generalizing layers with
  | nil =>
    cases bound
    exact List.forall_mem_nil _
  | cons s rest ih =>
    obtain ⟨l, inner, own, others, rfl⟩ := exists_of_bindAll_cons bound
    obtain ⟨bare, later⟩ := List.forall_mem_cons.mp free
    exact List.forall_mem_cons.mpr ⟨(scheduler?_of_bind own).trans bare, ih others later⟩

theorem isAside_of_bind {s : ResolvedStage} {e : Fault} (mismatch : s.bind m = .error e) :
    (Halt.fault e).IsAside := by
  cases s with
  | fallback stages =>
    cases each : stages.mapM (·.bind m) with
    | ok bounds =>
      simp only [bind, each] at mismatch
      cases mismatch
    | error e' =>
      simp only [bind, each] at mismatch
      cases mismatch
      exact ResolvedFallback.isAside_of_mapM each
  | exceptions | retry | limiter | breaker | bulkhead => cases mismatch

theorem isAside_of_bindAll {stages : List ResolvedStage} {e : Fault}
    (mismatch : bindAll m stages = .error e) : (Halt.fault e).IsAside := by
  induction stages with
  | nil => cases mismatch
  | cons s rest ih =>
    rw [bindAll] at mismatch
    cases others : bindAll m rest with
    | error e' =>
      rw [others] at mismatch
      cases mismatch
      exact ih others
    | ok inner =>
      rw [others] at mismatch
      cases own : s.bind m with
      | error e' =>
        simp only [own] at mismatch
        cases mismatch
        exact isAside_of_bind own
      | ok l =>
        simp only [own] at mismatch
        cases mismatch

end ResolvedStage

/-- From one world to the other nobody has asked for a delay. -/
def World.Undelayed (w v : World) : Prop :=
  ∃ entries, v.history = w.history ++ entries ∧ ∀ d, .delayAsked d ∉ entries

theorem World.Undelayed.of_append {w v : World} {entries : List Entry}
    (grown : v.history = w.history ++ entries) (none : ∀ e ∈ entries, ∀ d, e ≠ .delayAsked d) :
    w.Undelayed v :=
  ⟨entries, grown, fun d mem => none _ mem d rfl⟩

theorem World.reported_ne_delayAsked (w : World) (guard : String) (listeners : List Listener)
    (h : Happening) : ∀ e ∈ w.reported guard listeners h, ∀ d, e ≠ .delayAsked d := by
  simp [World.reported]

/-- Nothing that is done in the course of a call asks for a delay, but for what does so outright. -/
theorem World.admits_undelayed : World.Admits World.Undelayed where
  same _ history := .of_append (history.trans (List.append_nil _).symm) (List.forall_mem_nil _)
  trans := by
    rintro u v w ⟨before, first, none⟩ ⟨after, second, never⟩
    refine ⟨before ++ after, by rw [second, first, List.append_assoc], fun d mem => ?_⟩
    exact (List.mem_append.mp mem).elim (none d) (never d)
  noted w e note := by
    refine .of_append (w.history_append [e]) (List.forall_mem_singleton.mpr ?_)
    rintro d rfl
    exact note
  reported w guard listeners h _ :=
    .of_append (w.history_append _) (w.reported_ne_delayAsked guard listeners h)
  counted _ _ _ := .of_append (List.append_nil _).symm (List.forall_mem_nil _)
  announced r attempts w :=
    .of_append (World.history_append _ _) (World.reported_ne_delayAsked _ _ _ _)
  concluded := by
    intro r attempts last label h o _ w
    cases label <;>
      exact .of_append (World.history_append _ _) (World.reported_ne_delayAsked _ _ _ _)

/-- The bulkhead is the innermost stage. -/
theorem Placement.nil_of_order_eq {placement : Placement} {before after : List Capability}
    (ordered : placement.order = before ++ .bulkhead :: after) : after = [] := by
  cases after with
  | nil => rfl
  | cons d rest =>
    have part : (.bulkhead :: d :: rest).Sublist placement.order := by
      rw [ordered]
      exact List.sublist_append_right before _
    have two := pair_sublist part List.mem_cons_self
    exfalso
    revert two
    cases placement <;> cases d <;> decide

namespace Proxy

variable {p : Proxy} {r : Route} {result : Except Halt Chain} {c : Chain}

/-- A chain that is built without a scheduler has no stage in which calls may have to wait, and no
layer that could ask for a delay. -/
theorem scheduler?_eq_none_of_build (there : (u.contexts[p.context]?).isSome)
    (unscheduled : (u.setup p.context).1 = none) (built : (p.build r).run.run u = (.ok c, v)) :
    (∀ d ∈ p.order u, (p.policies u).Calm p.context r.method v d) ∧
      ∀ l ∈ c.layers, l.scheduler? = none := by
  obtain ⟨asked, -, -, -, stops⟩ := stops_of_build built
  cases stops with
  | @built stages _ resolved fits =>
    have each : (∀ d ∈ p.order u, (p.policies u).Calm p.context r.method v d) ∧
        ∀ stage ∈ stages, stage.scheduler? = none :=
      PolicyTable.resolveEach_unscheduled there unscheduled resolved
    exact ⟨each.1, ResolvedStage.unscheduled_of_bindAll fits each.2⟩

/-- **A chain that is built without a scheduler** never asks for a delay. -/
theorem undelayed_of_build (there : (u.contexts[p.context]?).isSome)
    (unscheduled : (u.setup p.context).1 = none) (built : (p.build r).run.run u = (.ok c, v)) :
    (∀ reenter : Reentry → Act Reply, (∀ call, (reenter call).Leads World.Undelayed) →
      (c.direct reenter).LeadsOn World.Undelayed) ∧ c.deferred.LeadsOn World.Undelayed := by
  obtain ⟨-, free⟩ := scheduler?_eq_none_of_build there unscheduled built
  have delays : ∀ l ∈ c.layers, l.scheduler? ≠ none → World.Delays World.Undelayed :=
    fun l mem scheduled => absurd (free l mem) scheduled
  constructor
  · exact fun reenter within =>
      Chain.leads_directThrough World.admits_undelayed c.route c.service within delays
  · exact Chain.leads_deferredThrough World.admits_undelayed c.route c.service delays

/-- What the building of a chain fails with: something else, a bulkhead that cannot be made, after
which nothing follows, or the scheduler that is missing where calls may have to wait. -/
theorem halts_of_build {ds : List Declaration} {halt : Halt}
    (declared : p.policies u = .ofDeclarations ds) (there : (u.contexts[p.context]?).isSome)
    (failed : (p.build r).run.run u = (.error halt, v)) :
    halt.IsAside ∨
      (∃ text, halt = .crash text ∧ ((u.setup p.context).1 = none →
        ∀ c ∈ p.order u, ¬ (p.policies u).Waits p.context r.method v c)) ∨
      ((u.setup p.context).1 = none ∧ ∃ before c after, p.order u = before ++ c :: after ∧
        (p.policies u).Waits p.context r.method v c ∧
        (∀ d ∈ before, (p.policies u).Calm p.context r.method v d) ∧
        halt = .fault (.missingScheduler c.name r.method.display)) := by
  obtain ⟨asked, -, -, -, stops⟩ := stops_of_build failed
  cases stops with
  | unfitting resolved mismatch => exact .inl (ResolvedStage.isAside_of_bindAll mismatch)
  | unresolved stops =>
    obtain ⟨before, c, after, q, ordered, applies, calm, resolves⟩ := stops.resolves there
    have own : q.capability = c := PolicyTable.capability_of_find? ds (declared ▸ applies)
    cases resolves with
    | aside other => exact .inl other
    | unscheduled none waits =>
      subst own
      exact .inr (.inr ⟨none, before, _, after, ordered, ⟨q, applies, waits⟩, calm none, rfl⟩)
    | @crashed text bulkhead unknown =>
      refine .inr (.inl ⟨text, rfl, fun none d mem => ?_⟩)
      -- The bulkhead is not kept, and no stage stands inside of it that could need a scheduler.
      obtain rfl : c = .bulkhead := own.symm.trans bulkhead
      obtain rfl := Placement.nil_of_order_eq ordered
      rw [ordered] at mem
      rcases List.mem_append.mp mem with early | last
      · exact (calm none d early).not_waits
      · obtain rfl := List.mem_singleton.mp last
        rintro ⟨q', found, waits⟩
        rw [applies] at found
        cases found
        rw [unknown] at waits
        cases waits

section

variable {ds : List Declaration} (declared : p.policies u = .ofDeclarations ds)
  (there : (u.contexts[p.context]?).isSome)

include declared there

theorem ne_missing_of_scheduled (scheduled : (u.setup p.context).1 ≠ none)
    (ran : (p.build r).run.run u = (result, v)) (capability method : String) :
    result ≠ .error (.fault (.missingScheduler capability method)) := by
  rintro rfl
  rcases halts_of_build declared there ran with aside | ⟨text, crash, -⟩ | ⟨unscheduled, -⟩
  · exact aside
  · cases crash
  · exact scheduled unscheduled

/-- The fault names the outermost stage in which calls may have to wait. -/
theorem outermost_of_missing {capability method : String} (ran : (p.build r).run.run u =
      (.error (.fault (.missingScheduler capability method)), v)) :
    ∃ before c after, p.order u = before ++ c :: after ∧
      (p.policies u).Waits p.context r.method v c ∧
      (∀ d ∈ before, ¬ (p.policies u).Waits p.context r.method v d) ∧
      capability = c.name ∧ method = r.method.display := by
  rcases halts_of_build declared there ran with
    aside | ⟨text, crash, -⟩ | ⟨-, before, c, after, ordered, waits, calm, same⟩
  · exact aside.elim
  · cases crash
  · cases same
    exact ⟨before, c, after, ordered, waits, fun d mem => (calm d mem).not_waits, rfl, rfl⟩

theorem missing_of_waits (unscheduled : (u.setup p.context).1 = none)
    (ran : (p.build r).run.run u = (result, v))
    (other : ∀ halt, result = .error halt → ¬ halt.IsAside) {c : Capability} (mem : c ∈ p.order u)
    (waits : (p.policies u).Waits p.context r.method v c) :
    ∃ capability method, result = .error (.fault (.missingScheduler capability method)) := by
  cases result with
  | ok chain =>
    obtain ⟨calm, -⟩ := scheduler?_eq_none_of_build there unscheduled ran
    exact absurd waits (calm c mem).not_waits
  | error halt =>
    rcases halts_of_build declared there ran with
      aside | ⟨text, rfl, never⟩ | ⟨-, before, d, after, -, -, -, rfl⟩
    · exact absurd aside (other halt rfl)
    · exact absurd waits (never unscheduled c mem)
    · exact ⟨_, _, rfl⟩

end

/-- **Chains need a scheduler where calls may have to wait**, and guards that are kept already
decide where that is, whatever the policies say of them. In a context with a scheduler none is ever
missing. In a context without one, if nothing else goes wrong, it is missing for a chain with a
stage in which calls may have to wait; the fault names the outermost such stage. A chain that is
built there never asks for a delay, whatever has become of guards and services; only what services
call themselves may do so, in chains of its own. -/
theorem requires_scheduler {ds : List Declaration} {context : Context}
    (declared : u.tables[p.table]? = some (.ofDeclarations ds))
    (there : u.contexts[p.context]? = some context) (ran : (p.build r).run.run u = (result, v)) :
    (∀ q waits, Policy.waits? p.context r.method u q = some waits →
      q.waits? p.context r.method v = some waits) ∧
    (context.scheduler ≠ none → ∀ capability method,
      result ≠ .error (.fault (.missingScheduler capability method))) ∧
    (context.scheduler = none →
      (∀ c, result = .ok c →
        (∀ reenter : Reentry → Act Reply, (∀ call, (reenter call).Leads World.Undelayed) →
          (c.direct reenter).LeadsOn World.Undelayed) ∧ c.deferred.LeadsOn World.Undelayed) ∧
      ((∀ halt, result = .error halt → ¬ halt.IsAside) →
        ((∃ capability method, result = .error (.fault (.missingScheduler capability method))) ↔
          ∃ c ∈ context.placement.order,
            (PolicyTable.ofDeclarations ds).Waits p.context r.method v c) ∧
        ∀ capability method, result = .error (.fault (.missingScheduler capability method)) →
          ∃ before c after, context.placement.order = before ++ c :: after ∧
            (PolicyTable.ofDeclarations ds).Waits p.context r.method v c ∧
            (∀ d ∈ before, ¬ (PolicyTable.ofDeclarations ds).Waits p.context r.method v d) ∧
            capability = c.name ∧ method = r.method.display)) := by
  have table : p.policies u = .ofDeclarations ds := by rw [policies, declared]; rfl
  have setup : u.setup p.context = context.setup := by rw [World.setup, there]; rfl
  have order : p.order u = context.placement.order := by rw [Proxy.order, setup]; rfl
  have here : (u.contexts[p.context]?).isSome := by rw [there]; rfl
  have scheduler : (u.setup p.context).1 = context.scheduler := by rw [setup]; rfl
  have holds : World.Holds p.context u v := .of_serves fun _ => Primitive.serves_build rfl ran
  rw [← table, ← order, ← scheduler]
  refine ⟨fun q waits known => holds.waits? known, fun scheduled =>
    ne_missing_of_scheduled table here scheduled ran, fun unscheduled => ⟨?_, ?_⟩⟩
  · rintro c rfl
    exact undelayed_of_build here unscheduled ran
  · intro other
    have outermost (capability method : String)
        (missing : result = .error (.fault (.missingScheduler capability method))) :=
      outermost_of_missing table here (missing ▸ ran)
    refine ⟨⟨?_, ?_⟩, outermost⟩
    · rintro ⟨capability, method, missing⟩
      obtain ⟨before, c, after, ordered, waits, -⟩ := outermost capability method missing
      exact ⟨c, ordered ▸ List.mem_append_cons_self, waits⟩
    · rintro ⟨c, mem, waits⟩
      exact missing_of_waits table here unscheduled ran other mem waits

/-- A policy by which calls do not wait for a limiter. -/
def hasty : List Declaration :=
  [.interface (.limiter ⟨"shared", some { LimiterConfig.standard with timeout := 0 }, none⟩)]

/-- A context without a scheduler, which keeps a limiter that calls wait for. -/
def unattended : Context :=
  { Context.empty none .inner with
    limiters := Registry.empty.insert "shared" ⟨"shared", .standard, 0⟩ }

def premises : World :=
  { World.empty with
    tables := #[.ofDeclarations hasty]
    contexts := #[unattended]
    balances := #[.ofLimit LimiterConfig.standard.limit LimiterConfig.standard.period 0] }

/-- A proxy in that context. -/
def entrance : Proxy := ⟨Catalog.svc, 0, 0, 0, .empty⟩

/-- Where the method is deferred, the limiter that is kept makes the chain need a scheduler,
whatever the policy says. The direct method has its chain, through which no delay is asked for. -/
theorem requires_scheduler_unattended :
    (∃ capability method v, (entrance.build Catalog.fetch).run.run premises =
        (.error (.fault (.missingScheduler capability method)), v)) ∧
      ∃ c v, (entrance.build Catalog.get).run.run premises = (.ok c, v) ∧
        c.deferred.LeadsOn World.Undelayed := by
  constructor
  · obtain ⟨-, -, unscheduled⟩ :=
      @requires_scheduler premises _ entrance Catalog.fetch _ hasty unattended rfl rfl rfl
    obtain ⟨-, missing⟩ := unscheduled rfl
    have waits : (PolicyTable.ofDeclarations hasty).Waits 0 Catalog.fetch.method
        ((entrance.build Catalog.fetch).run.run premises).2 .limiter := ⟨_, rfl, rfl⟩
    have other : ∀ halt, ((entrance.build Catalog.fetch).run.run premises).1 = .error halt →
        ¬ halt.IsAside := by
      rintro halt ⟨⟩
      exact id
    obtain ⟨capability, method, failed⟩ := (missing other).1.mpr ⟨.limiter, by decide, waits⟩
    exact ⟨capability, method, _, Prod.ext failed rfl⟩
  · have built : ∃ c v, (entrance.build Catalog.get).run.run premises = (.ok c, v) := ⟨_, _, rfl⟩
    obtain ⟨c, v, ran⟩ := built
    obtain ⟨-, -, unscheduled⟩ :=
      @requires_scheduler premises v entrance Catalog.get _ hasty unattended rfl rfl ran
    obtain ⟨later, -⟩ := unscheduled rfl
    exact ⟨c, v, ran, (later c rfl).2⟩

end Proxy

end CallGuard
