import CallGuard.Proofs.Chain.Built
import CallGuard.Proofs.Context.Fetching
import CallGuard.Proofs.Proxy.Building

/-!
# Requests for guards

Guards are asked for by name, one request after the other: directly, or while chains are built. What
happens in between leaves the guards of the context alone. Main statement: `Primitive.serves_build`.
-/

namespace CallGuard

namespace Primitive

/-- A request for a guard of the kind. -/
structure Request (k : Primitive) where
  policy : GuardPolicy k.Config
  before : World
  result : Except Halt k.Guard
  after : World

/-- What happens to the guards of a kind in a context: they are asked for, and in between anything may
happen that leaves them alone. -/
inductive Uses (k : Primitive) (n : Nat) : World → List k.Request → World → Prop where
  | start (w : World) : Uses k n w [] w
  | elsewhere {w u v : World} {ls : List k.Request} (so : Uses k n w ls u) (same : k.Spares n u v) :
      Uses k n w ls v
  | asked {w u v : World} {ls : List k.Request} {p : GuardPolicy k.Config}
      {result : Except Halt k.Guard} (so : Uses k n w ls u)
      (ran : (k.kind.fetch n p).run.run u = (result, v)) :
      Uses k n w (ls ++ [⟨p, u, result, v⟩]) v

variable {k : Primitive} {n : Nat} {u w v : World}

theorem Uses.trans {before after : List k.Request} (first : k.Uses n u before w)
    (second : k.Uses n w after v) : k.Uses n u (before ++ after) v := by
  induction second with
  | start => rwa [List.append_nil]
  | elsewhere _ same ih => exact ih.elsewhere same
  | asked _ ran ih =>
    rw [← List.append_assoc]
    exact ih.asked ran

theorem Uses.of_spares (same : k.Spares n u v) : k.Uses n u [] v := (Uses.start u).elsewhere same

/-- From one world to the other, guards of the kind were asked for by policies of that sort, and the
stages hold those that were handed out. -/
def Serves {F : Type} (k : Primitive) (n : Nat) (sort : GuardPolicy k.Config → Prop) (u v : World)
    (stages : List (Stage F)) : Prop :=
  ∃ ls, k.Uses n u ls v ∧ (∀ l ∈ ls, sort l.policy) ∧
    ∀ stage ∈ stages, ∀ g, k.guard? stage = some g → ∃ l ∈ ls, l.result = .ok g

namespace Serves

variable {F : Type} {sort : GuardPolicy k.Config → Prop} {stages more : List (Stage F)}

theorem of_spares (same : k.Spares n u v) (none : ∀ stage ∈ stages, k.guard? stage = none) :
    k.Serves n sort u v stages := by
  refine ⟨[], .of_spares same, List.forall_mem_nil _, fun stage mem g holds => ?_⟩
  rw [none stage mem] at holds
  cases holds

theorem trans (first : k.Serves n sort u w stages) (second : k.Serves n sort w v more) :
    k.Serves n sort u v (stages ++ more) := by
  obtain ⟨before, asked, sorted, served⟩ := first
  obtain ⟨after, later, others, handed⟩ := second
  refine ⟨before ++ after, asked.trans later, List.forall_mem_append.mpr ⟨sorted, others⟩, ?_⟩
  intro stage mem g holds
  rcases List.mem_append.mp mem with early | late
  · obtain ⟨l, there, got⟩ := served stage early g holds
    exact ⟨l, List.mem_append_left _ there, got⟩
  · obtain ⟨l, there, got⟩ := handed stage late g holds
    exact ⟨l, List.mem_append_right _ there, got⟩

theorem imp {G : Type} {rest : List (Stage G)} {weaker : GuardPolicy k.Config → Prop}
    (h : k.Serves n sort u v stages) (implies : ∀ q, sort q → weaker q)
    (from_stages : ∀ stage ∈ rest, ∀ g, k.guard? stage = some g →
      ∃ s ∈ stages, k.guard? s = some g) : k.Serves n weaker u v rest := by
  obtain ⟨ls, asked, sorted, served⟩ := h
  refine ⟨ls, asked, fun l mem => implies _ (sorted l mem), fun stage mem g holds => ?_⟩
  obtain ⟨s, there, same⟩ := from_stages stage mem g holds
  exact served s there g same

end Serves

/-- A policy for a guard of the kind asks for that guard, and puts it into a stage without another
look at the guards. -/
theorem resolve_eq {p : Policy} {q : GuardPolicy k.Config} (own : k.policy? p = some q) (n : Nat)
    (m : Method) : ∃ rest : k.Guard → Build ResolvedStage,
      p.resolve n m = k.kind.fetch n q >>= rest ∧
        ∀ g, (rest g).Leads (k.Spares n) ∧ (rest g).Gives fun stage => k.guard? stage = some g := by
  have allows := k.allows_spares n
  cases k with
  | retry =>
    cases p with
    | retry q' =>
      cases own
      refine ⟨_, rfl, fun g => ?_⟩
      cases m.shape with
      | direct => exact ⟨.pure allows _, .pure rfl⟩
      | deferred =>
        exact ⟨.bind allows (leads_requireScheduler allows n .retry m) fun _ => .pure allows _,
          .bind_any fun _ => .pure rfl⟩
    | _ => cases own
  | limiter =>
    cases p with
    | limiter q' =>
      cases own
      refine ⟨_, rfl, fun g => ?_⟩
      cases m.shape with
      | direct => exact ⟨.pure allows _, .pure rfl⟩
      | deferred =>
        dsimp only
        split
        · exact ⟨.pure allows _, .pure rfl⟩
        · exact ⟨.bind allows (leads_requireScheduler allows n .limiter m) fun _ => .pure allows _,
            .bind_any fun _ => .pure rfl⟩
    | _ => cases own
  | breaker =>
    cases p with
    | breaker q' =>
      cases own
      exact ⟨_, rfl, fun g => ⟨.pure allows _, .pure rfl⟩⟩
    | _ => cases own
  | bulkhead =>
    cases p with
    | bulkhead q' =>
      cases own
      refine ⟨_, rfl, fun g => ?_⟩
      split
      · exact ⟨.pure allows _, .pure rfl⟩
      · exact ⟨.bind allows (leads_requireScheduler allows n .bulkhead m) fun _ => .pure allows _,
          .bind_any fun _ => .pure rfl⟩
    | _ => cases own

theorem serves_resolve {p : Policy} {m : Method} {result : Except Halt ResolvedStage}
    (ran : (p.resolve n m).run.run u = (result, v)) :
    k.Serves n (fun q => k.policy? p = some q) u v result.toOption.toList := by
  cases own : k.policy? p with
  | none =>
    have allowed : ∀ (other : Primitive) (q : GuardPolicy other.Config), other.policy? p = some q →
        other.kind.Allowed (k.Spares n) n := by
      intro other q telling
      apply allowed_spares
      left
      rintro rfl
      rw [own] at telling
      cases telling
    have spared := p.leads_resolve (k.allows_spares n) n m allowed u
    rw [ran] at spared
    refine .of_spares spared fun stage mem => ?_
    cases result with
    | error halt => cases mem
    | ok s =>
      cases List.mem_singleton.mp mem
      refine Option.eq_none_iff_forall_ne_some.mpr fun g holds => ?_
      have same := p.resolve_gives n m u v stage ran
      have some := policy?_isSome (same.symm.trans (capability_of_guard? holds))
      rw [own] at some
      cases some
  | some q =>
    obtain ⟨rest, shape, after⟩ := resolve_eq own n m
    rw [shape, Build.run_bind] at ran
    rcases asked : (k.kind.fetch n q).run.run u with ⟨halt | g, x⟩
    · rw [asked] at ran
      cases ran
      exact ⟨_, (Uses.start u).asked asked, by simp, by simp [Except.toOption]⟩
    · rw [asked] at ran
      change (rest g).run.run x = (result, v) at ran
      obtain ⟨leads, gives⟩ := after g
      have spared := leads x
      rw [ran] at spared
      refine ⟨_, ((Uses.start u).asked asked).elsewhere spared, by simp, fun stage mem h holds => ?_⟩
      cases result with
      | error halt => cases mem
      | ok s =>
        cases List.mem_singleton.mp mem
        have own := gives x v stage ran
        rw [own] at holds
        cases holds
        exact ⟨_, List.mem_singleton_self _, rfl⟩

/-- The policies for guards of the kind that the table declares for the method. -/
def Declared (k : Primitive) (t : PolicyTable) (m : Method) (q : GuardPolicy k.Config) : Prop :=
  ∃ c p, t.find? c m.name = some p ∧ k.policy? p = some q

theorem spares_sought (m : Method) (c : Capability) (w : World) :
    k.Spares n w (PolicyTable.sought m c w) := .of_contexts rfl

theorem serves_resolveEach {t : PolicyTable} {m : Method} {order : List Capability}
    {result : Except Halt (List ResolvedStage)}
    (ran : (t.resolveEach n m order).run.run u = (result, v)) :
    k.Serves n (k.Declared t m) u v (result.toOption.getD []) := by
  induction order generalizing u result v with
  | nil =>
    cases ran
    exact .of_spares rfl (List.forall_mem_nil _)
  | cons c rest ih =>
    have sought : k.Serves n (k.Declared t m) u (PolicyTable.sought m c u) ([] : List ResolvedStage) :=
      .of_spares (spares_sought m c u) (List.forall_mem_nil _)
    rw [PolicyTable.run_resolveEach_cons] at ran
    cases applies : t.find? c m.name with
    | none =>
      rw [applies] at ran
      exact sought.trans (ih ran)
    | some p =>
      rw [applies] at ran
      dsimp only at ran
      have declared : ∀ q, k.policy? p = some q → k.Declared t m q :=
        fun q telling => ⟨c, p, applies, telling⟩
      have same {stages : List ResolvedStage} (stage : ResolvedStage) (mem : stage ∈ stages)
          (g : k.Guard) (holds : k.guard? stage = some g) : ∃ s ∈ stages, k.guard? s = some g :=
        ⟨stage, mem, holds⟩
      rw [Build.run_bind] at ran
      rcases first : (p.resolve n m).run.run (PolicyTable.sought m c u) with ⟨halt | stage, x⟩
      · rw [first] at ran
        cases ran
        exact sought.trans ((serves_resolve first).imp declared same)
      · rw [first] at ran
        have begun := sought.trans ((serves_resolve (k := k) first).imp declared same)
        change (t.resolveEach n m rest >>= fun stages => pure (stage :: stages) :
          Build (List ResolvedStage)).run.run x = (result, v) at ran
        rw [Build.run_bind] at ran
        rcases later : (t.resolveEach n m rest).run.run x with ⟨halt | stages, y⟩
        · rw [later] at ran
          cases ran
          have ended := begun.trans (ih later)
          exact ended.imp (fun _ d => d) (by simp [Except.toOption])
        · rw [later] at ran
          cases ran
          exact begun.trans (ih later)

theorem guard?_of_bind {m : Method} {s : ResolvedStage} {l : Layer} (bound : s.bind m = .ok l) :
    k.guard? l = k.guard? s := by
  cases s with
  | fallback stages =>
    obtain ⟨bounds, -, rfl⟩ := ResolvedStage.exists_of_bind_fallback bound
    cases k <;> rfl
  | exceptions | retry | limiter | breaker | bulkhead =>
    cases bound
    cases k <;> rfl

theorem exists_of_bindAll {m : Method} {stages : List ResolvedStage} {layers : List Layer}
    (bound : ResolvedStage.bindAll m stages = .ok layers) :
    ∀ layer ∈ layers, ∀ g, k.guard? layer = some g → ∃ s ∈ stages, k.guard? s = some g := by
  induction stages generalizing layers with
  | nil =>
    cases bound
    exact List.forall_mem_nil _
  | cons s rest ih =>
    obtain ⟨l, inner, own, others, rfl⟩ := ResolvedStage.exists_of_bindAll_cons bound
    intro layer mem g holds
    rcases List.mem_cons.mp mem with rfl | mem
    · exact ⟨s, List.mem_cons_self, (guard?_of_bind own).symm.trans holds⟩
    · obtain ⟨t, there, same⟩ := ih others layer mem g holds
      exact ⟨t, List.mem_cons_of_mem _ there, same⟩

/-- Building a chain asks the context for guards by the policies of the proxy's table, and the layers
of the chain hold what was handed out. -/
theorem serves_build {p : Proxy} {r : Route} {result : Except Halt Chain} (here : p.context = n)
    (ran : (p.build r).run.run u = (result, v)) :
    k.Serves n (k.Declared (p.policies u) r.method) u v
      ((result.toOption.map Chain.layers).getD []) := by
  subst here
  rw [Proxy.build, Build.run_bind] at ran
  rcases resolved : (p.resolve r.method).run.run u with ⟨halt | stages, x⟩
  · have served : k.Serves p.context (k.Declared (p.policies u) r.method) u x
      (Option.getD (Except.toOption (.error halt : Except Halt (List ResolvedStage))) []) :=
      serves_resolveEach resolved
    rw [resolved] at ran
    cases ran
    exact served.imp (fun _ d => d) (by simp [Except.toOption])
  · have served : k.Serves p.context (k.Declared (p.policies u) r.method) u x
      (Option.getD (Except.toOption (.ok stages : Except Halt (List ResolvedStage))) []) :=
      serves_resolveEach resolved
    rw [resolved] at ran
    cases bound : ResolvedStage.bindAll r.method stages with
    | error e =>
      simp only [bound] at ran
      cases ran
      exact served.imp (fun _ d => d) (by simp [Except.toOption])
    | ok layers =>
      simp only [bound] at ran
      cases ran
      exact served.imp (fun _ d => d) (exists_of_bindAll bound)

/-- Chains of proxies in other contexts have nothing to do with the guards of this one. -/
theorem spares_build {p : Proxy} (there : p.context ≠ n) (r : Route) :
    (p.build r).Leads (k.Spares n) := by
  have allows := k.allows_spares n
  refine Proxy.leads_build allows (fun _ c w => spares_sought r.method c w) fun q => ?_
  exact q.leads_resolve allows p.context r.method fun _ _ _ => allowed_spares (.inr there)

end Primitive

end CallGuard
