import CallGuard.Proofs.Chain.Law
import CallGuard.Proofs.Chain.Setup
import CallGuard.Proofs.Parity.Chains

/-!
# Parity of the shapes

Where a proxy builds a chain for a direct method, it builds the same chain for the method in the
deferred shape, but that its retry waits on the scheduler of the context, and calls go the same way
through both. Main statements: `Proxy.build_suspended` and `Chain.shapes_agree`.
-/

namespace CallGuard

/-- The stage never makes a call wait for a permission. -/
def Stage.IsPrompt {F : Type} : Stage F → Prop
  | .limiter l _ => l.config.timeout = 0
  | _ => True

theorem Stage.suspended_eq_self {F : Type} {stage : Stage F} (other : stage.capability ≠ .retry)
    (s : Scheduler) : stage.suspended s = stage := by
  cases stage with
  | retry r _ => exact absurd rfl other
  | _ => rfl

variable {u v : World} {context : Nat} {s : Scheduler} {m : Method}

/-- A policy becomes the same stage for the deferred method, but for the scheduler. -/
theorem Policy.resolve_suspended {p : Policy} {stage : ResolvedStage} (direct : m.shape = .direct)
    (scheduled : (u.setup context).1 = some s)
    (resolved : (p.resolve context m).run.run u = (.ok stage, v)) (prompt : stage.IsPrompt) :
    (p.resolve context m.suspended).run.run u = (.ok (stage.suspended s), v) := by
  have own : stage.capability = p.capability := p.resolve_gives context m u v stage resolved
  cases p with
  | retry q =>
    obtain ⟨r, w, fetched, rest⟩ := Build.bind_ok_iff.mp resolved
    rw [direct] at rest
    cases rest
    have kept : (v.setup context).1 = some s :=
      (GuardKind.leads_fetch World.Makes.allows (Primitive.retry.allowed_makes context)
        q).keepsSetup.scheduled fetched scheduled
    refine Build.bind_ok_iff.mpr ⟨r, v, fetched, ?_⟩
    exact Build.bind_ok_iff.mpr ⟨s, v, run_requireScheduler kept .retry m.suspended, rfl⟩
  | limiter q =>
    obtain ⟨l, w, fetched, rest⟩ := Build.bind_ok_iff.mp resolved
    rw [direct] at rest
    cases rest
    refine Build.bind_ok_iff.mpr ⟨l, v, fetched, ?_⟩
    have impatient : l.config.timeout = 0 := prompt
    change (if l.config.timeout = 0 then _ else _ : Build ResolvedStage).run.run v = _
    rw [if_pos impatient]
    rfl
  | exceptions _ | breaker _ | fallback _ | bulkhead _ =>
    -- Resolving these does not look at the shape.
    rw [Stage.suspended_eq_self (by rw [own]; nofun)]
    exact resolved

theorem PolicyTable.resolveEach_suspended (t : PolicyTable) (direct : m.shape = .direct)
    (order : List Capability) :
    ∀ {u v : World} {stages : List ResolvedStage}, (u.setup context).1 = some s →
      (t.resolveEach context m order).run.run u = (.ok stages, v) →
      (∀ stage ∈ stages, stage.IsPrompt) →
      (t.resolveEach context m.suspended order).run.run u =
        (.ok (stages.map (Stage.suspended s)), v) := by
  induction order with
  | nil =>
    intro u v stages _ resolved _
    cases resolved
    rfl
  | cons c rest ih =>
    intro u v stages scheduled resolved prompt
    obtain ⟨found, w, sought, resolved⟩ := Build.bind_ok_iff.mp resolved
    have quiet : (t.seek c m).KeepsSetup := fun _ _ => rfl
    have kept : (w.setup context).1 = some s := quiet.scheduled sought scheduled
    refine Build.bind_ok_iff.mpr ⟨found, w, sought, ?_⟩
    cases found with
    | none => exact ih kept resolved prompt
    | some p =>
      obtain ⟨stage, x, first, resolved⟩ := Build.bind_ok_iff.mp resolved
      obtain ⟨others, y, later, last⟩ := Build.bind_ok_iff.mp resolved
      cases last
      have still : (x.setup context).1 = some s :=
        (p.makes_resolve context m).keepsSetup.scheduled first kept
      have one := Policy.resolve_suspended direct kept first (prompt stage List.mem_cons_self)
      have all := ih still later fun stage mem => prompt stage (List.mem_cons_of_mem _ mem)
      exact Build.bind_ok_iff.mpr ⟨_, x, one, Build.bind_ok_iff.mpr ⟨_, v, all, rfl⟩⟩

namespace ResolvedStage

/-- A stage fits the deferred method as it fits the direct one. -/
theorem bind_suspended {stage : ResolvedStage} {l : Layer} (bound : stage.bind m = .ok l) :
    ResolvedStage.bind m.suspended (stage.suspended s) = .ok (l.suspended s) := by
  cases stage with
  | retry r _ =>
    cases bound
    rfl
  | fallback stages =>
    have other : l.capability ≠ .retry := by
      rw [capability_of_bind bound]
      nofun
    rw [Stage.suspended_eq_self other]
    exact bound
  | _ =>
    cases bound
    rfl

theorem isPrompt_of_bind {stage : ResolvedStage} {l : Layer} (bound : stage.bind m = .ok l)
    (prompt : l.IsPrompt) : stage.IsPrompt := by
  cases stage with
  | limiter limiter scheduler =>
    cases bound
    exact prompt
  | _ => trivial

theorem bindAll_suspended {stages : List ResolvedStage} :
    ∀ {layers}, bindAll m stages = .ok layers → (∀ l ∈ layers, l.IsPrompt) →
      bindAll m.suspended (stages.map (Stage.suspended s)) =
          .ok (layers.map (Stage.suspended s)) ∧
        ∀ stage ∈ stages, stage.IsPrompt := by
  induction stages with
  | nil =>
    intro layers bound _
    cases bound
    exact ⟨rfl, by simp⟩
  | cons stage rest ih =>
    intro layers bound prompt
    obtain ⟨l, inner, own, others, rfl⟩ := exists_of_bindAll_cons bound
    obtain ⟨outer, within⟩ := List.forall_mem_cons.mp prompt
    obtain ⟨all, prompts⟩ := ih others within
    refine ⟨?_, List.forall_mem_cons.mpr ⟨isPrompt_of_bind own outer, prompts⟩⟩
    rw [List.map_cons, List.map_cons, bindAll, all, bind_suspended own]
    rfl

end ResolvedStage

/-- **Both shapes are built alike.** Where a proxy builds a chain for a direct method, in a context
with a scheduler, it builds the same chain for the deferred method and does the same in doing so, but
that the retry waits on the scheduler. -/
theorem Proxy.build_suspended {p : Proxy} {r : Route} {c : Chain} (direct : r.method.shape = .direct)
    (scheduled : (u.setup p.context).1 = some s) (built : (p.build r).run.run u = (.ok c, v))
    (prompt : ∀ l ∈ c.layers, l.IsPrompt) :
    (p.build r.suspended).run.run u = (.ok (c.suspended s), v) := by
  let t := (u.tables[p.table]?).getD .empty
  let order := ((u.contexts[p.context]?).getD default).placement.order
  obtain ⟨stages, w, resolved, rest⟩ := Build.bind_ok_iff.mp built
  have each : (t.resolveEach p.context r.method order).run.run u = (.ok stages, w) := resolved
  cases bound : ResolvedStage.bindAll r.method stages with
  | error e =>
    rw [bound] at rest
    cases rest
  | ok layers =>
    rw [bound] at rest
    cases rest
    obtain ⟨fitted, prompts⟩ := ResolvedStage.bindAll_suspended (s := s) bound prompt
    have stages' := t.resolveEach_suspended direct order scheduled each prompts
    refine Build.bind_ok_iff.mpr ⟨_, v, stages', ?_⟩
    change ((Build.ofExcept (ResolvedStage.bindAll r.method.suspended _) >>= fun layers =>
      pure ⟨r.suspended, p.target, layers⟩ : Build Chain)).run.run v = _
    rw [fitted]
    rfl

theorem Layer.isPrompt_of_isEven {l : Layer} (even : l.IsEven) : l.IsPrompt := by
  cases l with
  | limiter limiter scheduler => exact even
  | _ => trivial

namespace Chain

/-- **Parity of the shapes.** Take a chain of any layers in which nobody tells the shapes apart. For the
method in the deferred shape a proxy whose context has the scheduler builds the same chain on it. Calls
that are made one after the other, in any world in which the services that the chain knows are plain,
come to an end in the deferred shape; however they are waited for, they have the replies that they have
in the direct shape, and leave the world in which direct calls leave it, journal, guards and services
alike, but for the delays that they have asked for. -/
theorem shapes_agree {c : Chain} {s : Scheduler} (even : ∀ l ∈ c.layers, l.IsEven)
    (reenter : Reentry → Act Reply) :
    (∀ p r u v, r.method.shape = .direct → (u.setup p.context).1 = some s →
      (Proxy.build p r).run.run u = (.ok c, v) →
      (p.build r.suspended).run.run u = (.ok (c.suspended s), v)) ∧
    ∀ w calls, (∀ n, c.Knows n → (w.service n).IsPlain) → Nanos.perMilli ∣ w.clock s →
      (∀ call ∈ calls, Nanos.perMilli ∣ call.1) →
      (∃ replies v, (c.suspended s).deferred.Series calls w replies v) ∧
      ∀ replies v, (c.suspended s).deferred.Series calls w replies v →
        replies = (((c.direct reenter).series calls).run w).1 ∧
        v.withoutDelays = (((c.direct reenter).series calls).run w).2.withoutDelays := by
  constructor
  · intro p r u v direct scheduled built
    exact Proxy.build_suspended direct scheduled built fun l mem =>
      Layer.isPrompt_of_isEven (even l mem)
  · intro w calls plain whole pauses
    exact series_agree even reenter plain whole pauses

/-- Two milliseconds before each of two more attempts. -/
def patient : RetryConfig := { RetryConfig.standard with interval := .fixed (Nanos.ofMillis 2) }

/-- Only permissions that are valid at once. -/
def impatient : LimiterConfig := { LimiterConfig.standard with timeout := 0 }

def provisions : List Declaration :=
  [.interface (.exceptions [.given "Discreet" discreet]),
    .interface (.retry ⟨"retry", some patient, none⟩),
    .interface (.limiter ⟨"limiter", some impatient, none⟩),
    .interface (.breaker ⟨"breaker", none, none⟩),
    .interface (.fallback [⟨.given "Second" Catalog.svcName 1, .anyFault⟩]),
    .interface (.bulkhead ⟨"bulkhead", none, none⟩)]

/-- Fails after three milliseconds. -/
def slowFault : Plan := { Plan.ofEnding (.fault (.io "closed")) with sleep := Nanos.ofMillis 3 }

/-- The first service always fails, the second one does so once. -/
def strained : World :=
  { World.empty with
    tables := #[.ofDeclarations provisions]
    contexts := #[.empty (some .shared) .inner]
    services := #[⟨"first", [slowFault], 0⟩,
      ⟨"second", [slowFault, .ofEnding (.value (.int 7))], 0⟩] }

/-- One stage of each kind. -/
def complete : Chain where
  route := Catalog.get
  service := 0
  layers := [.exceptions [discreet], .retry ⟨"retry", patient⟩ none,
    .limiter ⟨"limiter", impatient, 0⟩ none, .breaker ⟨"breaker", .standard, 0⟩,
    .fallback [⟨.service 1, .anyFault⟩], .bulkhead ⟨"bulkhead", .standard, 0⟩ none]

/-- The chain has been built. -/
def equipped : World := ((front.build Catalog.get).run.run strained).2

/-- Two calls, the second one four milliseconds after the first one has ended. -/
def inquiries : List (Nanos × Args) := [(0, ⟨"key", 0⟩), (Nanos.ofMillis 4, ⟨"key", 0⟩)]

theorem build_complete : (front.build Catalog.get).run.run strained = (.ok complete, equipped) := rfl

theorem complete_isEven : ∀ l ∈ complete.layers, l.IsEven := by
  have paced : Retry.Paced ⟨"retry", patient⟩ := fun _ _ _ => ⟨2, rfl⟩
  have blind : Handler.anyFault.IgnoresShape := fun _ _ => rfl
  have made : (Substitute.service 1).MakesPlain := trivial
  have prompt : BulkheadConfig.standard.maxWait = 0 := rfl
  simpa [complete, Layer.IsEven] using ⟨paced, rfl, ⟨blind, made⟩, prompt⟩

theorem equipped_isPlain (n : Nat) : (equipped.service n).IsPlain := by
  have fails : slowFault.IsPlain := ⟨fun _ => Ending.noConfusion, ⟨3, rfl⟩, rfl, rfl, rfl⟩
  have ends : (Plan.ofEnding (.value (.int 7))).IsPlain :=
    ⟨fun _ => Ending.noConfusion, ⟨0, rfl⟩, rfl, rfl, rfl⟩
  change (strained.service n).IsPlain
  rcases n with _ | _ | n
  · exact List.forall_mem_singleton.mpr fails
  · exact List.forall_mem_cons.mpr ⟨fails, List.forall_mem_singleton.mpr ends⟩
  · rw [World.service_of_size_le (Nat.le_add_left 2 n)]
    exact fun p none => absurd none List.not_mem_nil

/-- In the deferred shape three attempts are made and one of them is waited for. Each call has the
reply of the second service, and the breaker has recorded what it would have recorded of direct
calls. -/
theorem shapes_agree_complete :
    ∃ d v, (front.build Catalog.get.suspended).run.run strained = (.ok d, equipped) ∧
      d.deferred.Series inquiries equipped
        [.ended (.value (.int 7)), .ended (.value (.int 7))] v ∧
      v.now = Nanos.ofMillis 18 ∧ v.circuits = #[⟨.closed, [true, false, false], none, 0, [], 0⟩] := by
  have begins : Nanos.perMilli ∣ equipped.clock .shared := Nat.dvd_zero _
  have pauses : ∀ call ∈ inquiries, Nanos.perMilli ∣ call.1 := by decide
  obtain ⟨builds, agree⟩ := shapes_agree complete_isEven fun _ => pure (.crashed "")
  obtain ⟨⟨replies, v, series⟩, unique⟩ :=
    agree equipped inquiries (fun n _ => equipped_isPlain n) begins pauses
  obtain ⟨same, twins⟩ := unique replies v series
  have told : (((complete.direct fun _ => pure (.crashed "")).series inquiries).run equipped).1 =
      [.ended (.value (.int 7)), .ended (.value (.int 7))] := by decide +kernel
  have left : (fun w : World => (w.now, w.circuits))
      (((complete.direct fun _ => pure (.crashed "")).series inquiries).run equipped).2 =
      (Nanos.ofMillis 18, #[⟨.closed, [true, false, false], none, 0, [], 0⟩]) := by decide +kernel
  rw [same, told] at series
  have both := (congrArg (fun w : World => (w.now, w.circuits)) twins).trans left
  refine ⟨complete.suspended .shared, v, ?_, series, ?_, ?_⟩
  · exact builds front Catalog.get strained equipped rfl rfl build_complete
  · exact congrArg Prod.fst both
  · exact congrArg Prod.snd both

end Chain

end CallGuard
