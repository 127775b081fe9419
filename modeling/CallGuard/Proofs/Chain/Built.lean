import CallGuard.Proxy.Call

/-!
# What builders give

A builder that succeeds has gone through all of its parts. Main statement:
`capabilities_eq_of_build`, that the stages of a chain are those of the capabilities that have a
policy, in the order of the placement.
-/

namespace CallGuard

namespace Build

variable {A B : Type} {build : Build A} {next : A → Build B} {goal : A → Prop} {result : B → Prop}

/-- Whatever the builder gives, in whatever world, is of this kind. -/
def Gives (build : Build A) (goal : A → Prop) : Prop :=
  ∀ w v a, build.run.run w = (.ok a, v) → goal a

namespace Gives

theorem pure {a : A} (reached : goal a) : (Pure.pure a : Build A).Gives goal := by
  intro w v b given
  cases given
  exact reached

theorem fail (e : Fault) : (Build.fail e : Build A).Gives goal := by
  intro w v b given
  cases given

theorem any : build.Gives fun _ => True := fun _ _ _ _ => trivial

theorem bind (first : build.Gives goal) (rest : ∀ {a}, goal a → (next a).Gives result) :
    (build >>= next).Gives result := by
  intro w v b given
  rw [ExceptT.run_bind, StateT.run_bind] at given
  rcases ran : build.run.run w with ⟨halt | a, between⟩
  · rw [ran] at given
    cases given
  · rw [ran] at given
    exact rest (first w between a ran) between v b given

theorem imp {weaker : A → Prop} (h : build.Gives goal) (implies : ∀ {a}, goal a → weaker a) :
    build.Gives weaker := fun w v a given => implies (h w v a given)

theorem bind_any (rest : ∀ a, (next a).Gives result) : (build >>= next).Gives result :=
  bind any fun {a} _ => rest a

end Gives

end Build

namespace Placement

variable {placement : Placement} {c d : Capability} {rest : List Capability}

theorem pair_sublist (ordered : (c :: rest).Sublist placement.order) (mem : d ∈ rest) :
    [c, d].Sublist placement.order :=
  (List.cons_sublist_cons.mpr (List.singleton_sublist.mpr mem)).trans ordered

/-- Only the mapping and the fallback can stand outside of the retry. -/
theorem retry_not_mem (ordered : (c :: rest).Sublist placement.order)
    (inside : c ≠ .exceptions ∧ c ≠ .fallback) : .retry ∉ rest := by
  intro mem
  have two := pair_sublist ordered mem
  revert inside two
  cases placement <;> cases c <;> decide

/-- Nothing stands outside of the mapping. -/
theorem exceptions_not_mem (ordered : (c :: rest).Sublist placement.order) :
    .exceptions ∉ rest := by
  intro mem
  have two := pair_sublist ordered mem
  revert two
  cases placement <;> cases c <;> decide

end Placement

namespace PolicyTable

theorem capability_of_find?_declare {t : PolicyTable} {d : Declaration} {m : String}
    (h : ∀ {c p}, t.find? c m = some p → p.capability = c) {c : Capability} {p : Policy}
    (found : (t.declare d).find? c m = some p) : p.capability = c := by
  cases d with
  | interface q =>
    rw [find?_declare_interface] at found
    by_cases same : q.capability = c
    · rw [if_pos same] at found
      cases own : (t.ofMethod m).find? c with
      | none =>
        rw [own] at found
        cases found
        exact same
      | some p' =>
        rw [own] at found
        cases found
        exact h (by rw [find?, own, Option.some_or])
    · rw [if_neg same] at found
      exact h found
  | method name q =>
    rw [find?_declare_method] at found
    by_cases same : name = m ∧ q.capability = c
    · rw [if_pos same] at found
      cases found
      exact same.2
    · rw [if_neg same] at found
      exact h found

/-- A policy is found under its own capability. -/
theorem capability_of_find? (ds : List Declaration) {m : String} {c : Capability} {p : Policy} :
    (ofDeclarations ds).find? c m = some p → p.capability = c := by
  have declared : ∀ t : PolicyTable, (∀ {c p}, t.find? c m = some p → p.capability = c) →
      ∀ {c p}, (ds.foldl declare t).find? c m = some p → p.capability = c := by
    induction ds with
    | nil => exact fun t h => h
    | cons d rest ih => exact fun t h => ih (t.declare d) (capability_of_find?_declare h)
  refine declared empty fun {c p} found => ?_
  rw [find?, ofMethod, empty, Registry.find?_empty] at found
  cases found

end PolicyTable

/-- A policy becomes a stage of its capability. -/
theorem Policy.resolve_gives (context : Nat) (m : Method) (p : Policy) :
    (p.resolve context m).Gives fun stage => stage.capability = p.capability := by
  cases p with
  | exceptions mappers => exact .bind_any fun _ => .pure rfl
  | retry q =>
    refine .bind_any fun r => ?_
    cases m.shape with
    | direct => exact .pure rfl
    | deferred => exact .bind_any fun _ => .pure rfl
  | limiter q =>
    refine .bind_any fun l => ?_
    cases m.shape with
    | direct => exact .pure rfl
    | deferred =>
      dsimp only
      split
      · exact .pure rfl
      · exact .bind_any fun _ => .pure rfl
  | breaker q => exact .bind_any fun _ => .pure rfl
  | fallback stages => exact .bind_any fun _ => .pure rfl
  | bulkhead q =>
    refine .bind_any fun b => ?_
    split
    · exact .pure rfl
    · exact .bind_any fun _ => .pure rfl

namespace PolicyTable

theorem seek_gives (t : PolicyTable) (c : Capability) (m : Method) :
    (t.seek c m).Gives fun found => found = t.find? c m.name :=
  .bind_any fun _ => .bind_any fun _ => .pure rfl

/-- Those of the capabilities that have a policy for the method. -/
def applicable (t : PolicyTable) (m : Method) (order : List Capability) : List Capability :=
  order.filter fun c => (t.find? c m.name).isSome

theorem applicable_sublist (t : PolicyTable) (m : Method) (order : List Capability) :
    (t.applicable m order).Sublist order := List.filter_sublist

theorem resolveEach_gives (ds : List Declaration) (context : Nat) (m : Method)
    (order : List Capability) :
    ((ofDeclarations ds).resolveEach context m order).Gives fun stages =>
      stages.map Stage.capability = (ofDeclarations ds).applicable m order := by
  induction order with
  | nil => exact .pure rfl
  | cons c rest ih =>
    refine .bind (seek_gives _ c m) fun {found} sought => ?_
    cases found with
    | none =>
      refine ih.imp fun {stages} others => ?_
      rw [others, applicable, applicable, List.filter_cons, ← sought]
      rfl
    | some p =>
      refine .bind (p.resolve_gives context m) fun {stage} same => ?_
      have own : stage.capability = c := same.trans (capability_of_find? ds sought.symm)
      refine .bind ih fun {stages} others => .pure ?_
      rw [List.map_cons, own, others, applicable, applicable, List.filter_cons, ← sought]
      rfl

end PolicyTable

namespace ResolvedStage

/-- A fallback stays one, with all of its stages bound. -/
theorem exists_of_bind_fallback {m : Method} {stages : List ResolvedFallback} {l : Layer}
    (bound : ResolvedStage.bind m (.fallback stages) = .ok l) :
    ∃ bounds, stages.mapM (·.bind m) = .ok bounds ∧ l = .fallback bounds := by
  cases each : stages.mapM (·.bind m) with
  | error e =>
    simp only [bind, each] at bound
    cases bound
  | ok bounds =>
    simp only [bind, each] at bound
    cases bound
    exact ⟨bounds, rfl, rfl⟩

theorem capability_of_bind {m : Method} {s : ResolvedStage} {l : Layer} (bound : s.bind m = .ok l) :
    l.capability = s.capability := by
  cases s with
  | fallback stages =>
    obtain ⟨bounds, -, rfl⟩ := exists_of_bind_fallback bound
    rfl
  | _ => cases bound; rfl

/-- Binding succeeds when each stage can be bound. -/
theorem exists_of_bindAll_cons {m : Method} {s : ResolvedStage} {rest : List ResolvedStage}
    {layers : List Layer} (bound : bindAll m (s :: rest) = .ok layers) :
    ∃ l inner, s.bind m = .ok l ∧ bindAll m rest = .ok inner ∧ layers = l :: inner := by
  rw [bindAll] at bound
  cases others : bindAll m rest with
  | error e =>
    rw [others] at bound
    cases bound
  | ok inner =>
    rw [others] at bound
    cases own : s.bind m with
    | error e =>
      simp only [own] at bound
      cases bound
    | ok l =>
      simp only [own] at bound
      cases bound
      exact ⟨l, inner, rfl, rfl, rfl⟩

theorem capabilities_of_bindAll {m : Method} {stages : List ResolvedStage} :
    ∀ {layers}, bindAll m stages = .ok layers →
      layers.map Stage.capability = stages.map Stage.capability := by
  induction stages with
  | nil =>
    intro layers bound
    cases bound
    rfl
  | cons s rest ih =>
    intro layers bound
    obtain ⟨l, inner, own, others, rfl⟩ := exists_of_bindAll_cons bound
    rw [List.map_cons, List.map_cons, capability_of_bind own, ih others]

end ResolvedStage

namespace Proxy

variable {p : Proxy} {r : Route} {u v : World} {ds : List Declaration} {context : Context}
  (declared : u.tables[p.table]? = some (.ofDeclarations ds))
  (there : u.contexts[p.context]? = some context)

include declared there in
theorem resolve_eq (m : Method) : (p.resolve m).run.run u =
    ((PolicyTable.ofDeclarations ds).resolveEach p.context m context.placement.order).run.run u := by
  have table : (u.tables[p.table]?).getD .empty = .ofDeclarations ds := by rw [declared]; rfl
  have placed : (u.contexts[p.context]?).getD default = context := by rw [there]; rfl
  rw [← table, ← placed]
  rfl

include declared there in
/-- The stages of a method are those of the capabilities that have a policy for it. -/
theorem capabilities_of_resolve {m : Method} {stages : List ResolvedStage}
    (resolved : (p.resolve m).run.run u = (.ok stages, v)) :
    stages.map Stage.capability =
      (PolicyTable.ofDeclarations ds).applicable m context.placement.order :=
  PolicyTable.resolveEach_gives ds p.context m _ u v stages
    ((resolve_eq declared there m).symm.trans resolved)

include declared there in
/-- **A chain is made of the capabilities that have a policy.** -/
theorem capabilities_eq_of_build {c : Chain} (built : (p.build r).run.run u = (.ok c, v)) :
    c.layers.map Stage.capability =
      (PolicyTable.ofDeclarations ds).applicable r.method context.placement.order ∧
      c.service = p.target := by
  have same : (p.build r).run.run u = ((do
      let stages ← (PolicyTable.ofDeclarations ds).resolveEach p.context r.method
        context.placement.order
      return ⟨r, p.target, ← Build.ofExcept (ResolvedStage.bindAll r.method stages)⟩ :
        Build Chain)).run.run u := by
    rw [build, ExceptT.run_bind, StateT.run_bind, resolve_eq declared there]
    rfl
  rw [same] at built
  have kept : (do
      let stages ← (PolicyTable.ofDeclarations ds).resolveEach p.context r.method
        context.placement.order
      return ⟨r, p.target, ← Build.ofExcept (ResolvedStage.bindAll r.method stages)⟩ :
        Build Chain).Gives fun c => c.layers.map Stage.capability =
          (PolicyTable.ofDeclarations ds).applicable r.method context.placement.order ∧
          c.service = p.target := by
    refine .bind (PolicyTable.resolveEach_gives ds p.context r.method _) fun {stages} each => ?_
    cases bound : ResolvedStage.bindAll r.method stages with
    | error e =>
      have failed : (Build.ofExcept (.error e) : Build (List Layer)).Gives fun _ => False := .fail e
      exact .bind failed fun absurd => absurd.elim
    | ok layers =>
      have fitted : (Build.ofExcept (.ok layers) : Build (List Layer)).Gives fun given =>
          given = layers := .pure rfl
      refine .bind fitted fun {given} eq => ?_
      subst eq
      exact .pure ⟨by rwa [ResolvedStage.capabilities_of_bindAll bound], rfl⟩
  exact kept u v c built

include declared there in
/-- **Chains keep the order of the placement.** -/
theorem capabilities_of_build {c : Chain} (built : (p.build r).run.run u = (.ok c, v)) :
    (c.layers.map Stage.capability).Sublist context.placement.order ∧ c.service = p.target := by
  obtain ⟨all, target⟩ := capabilities_eq_of_build declared there built
  rw [all]
  exact ⟨PolicyTable.applicable_sublist _ _ _, target⟩

end Proxy

end CallGuard
