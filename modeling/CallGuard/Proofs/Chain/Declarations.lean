import CallGuard.Proofs.Chain.Built
import CallGuard.Proofs.Proxy.Building
import CallGuard.Catalog.Methods
import Mathlib.Data.List.Induction

/-!
# What tables of policies find

A table is declared line by line. Which policy it finds is said here of the lines alone: the last one
for the method decides, and where there is none, the last one for the interface. Main statement:
`PolicyTable.last_declaration_applies`.
-/

namespace CallGuard

namespace Declaration

def policy : Declaration → Policy
  | interface p => p
  | method _ p => p

/-- The method that the line is for, or none if it is for all of the interface. -/
def scope : Declaration → Option String
  | interface _ => none
  | method name _ => some name

/-- The policy that is declared for the capability, if it is declared there. -/
def policyAt? (scope : Option String) (c : Capability) (d : Declaration) : Option Policy :=
  if d.scope = scope ∧ d.policy.capability = c then some d.policy else none

/-- The last policy that is declared for the capability there. -/
def last? (scope : Option String) (c : Capability) (ds : List Declaration) : Option Policy :=
  (ds.filterMap (policyAt? scope c)).getLast?

/-- The line is for another capability or for another method. -/
def IsBeside (c : Capability) (method : String) (d : Declaration) : Prop :=
  d.policy.capability ≠ c ∨ ∃ name, d.scope = some name ∧ name ≠ method

variable {scope : Option String} {c : Capability} {ds : List Declaration} {d : Declaration}

/-- A later line takes the place of the earlier ones. -/
theorem last?_concat : last? scope c (ds ++ [d]) =
    if d.scope = scope ∧ d.policy.capability = c then some d.policy else last? scope c ds := by
  by_cases there : d.scope = scope ∧ d.policy.capability = c <;>
    simp [last?, policyAt?, there]

/-- A line that is for something else is looked over. -/
theorem IsBeside.last?_insert {method : String} (beside : d.IsBeside c method)
    (before after : List Declaration) (own : scope = some method ∨ scope = none) :
    last? scope c (before ++ d :: after) = last? scope c (before ++ after) := by
  have elsewhere : ¬(d.scope = scope ∧ d.policy.capability = c) := by
    rintro ⟨there, same⟩
    obtain other | ⟨name, only, other⟩ := beside
    · exact other same
    · obtain rfl | rfl := own
      · rw [only] at there
        exact other (Option.some.inj there)
      · rw [only] at there
        cases there
  have skipped : policyAt? scope c d = none := if_neg elsewhere
  simp only [last?, List.filterMap_append, List.filterMap_cons, skipped]

end Declaration

namespace PolicyTable

open Declaration

variable (t : PolicyTable) (ds : List Declaration) (d : Declaration) (c : Capability)
  (method : String)

theorem ofDeclarations_concat : ofDeclarations (ds ++ [d]) = (ofDeclarations ds).declare d := by
  rw [ofDeclarations, List.foldl_append]
  rfl

/-- What one more line does to the policies of a method alone. -/
theorem find?_ofMethod_declare : ((t.declare d).ofMethod method).find? c =
    if d.scope = some method ∧ d.policy.capability = c then some d.policy
    else (t.ofMethod method).find? c := by
  cases d with
  | interface p => simp [declare, ofMethod, scope]
  | method name p =>
    by_cases same : name = method
    · subst same
      simp [declare, ofMethod, scope, policy, Registry.find?_insert]
    · simp [declare, ofMethod, scope, Registry.find?_insert, same]

/-- What one more line does to the policies of the interface. -/
theorem find?_interface_declare : (t.declare d).interface.find? c =
    if d.scope = none ∧ d.policy.capability = c then some d.policy else t.interface.find? c := by
  cases d with
  | interface p => simp [declare, scope, policy, Registry.find?_insert]
  | method name p => simp [declare, scope]

theorem find?_ofMethod_ofDeclarations :
    ((ofDeclarations ds).ofMethod method).find? c = last? (some method) c ds := by
  induction ds using List.reverseRecOn with
  | nil => rfl
  | append_singleton ds d ih =>
    rw [ofDeclarations_concat, find?_ofMethod_declare, last?_concat, ih]

theorem find?_interface_ofDeclarations :
    (ofDeclarations ds).interface.find? c = last? none c ds := by
  induction ds using List.reverseRecOn with
  | nil => rfl
  | append_singleton ds d ih =>
    rw [ofDeclarations_concat, find?_interface_declare, last?_concat, ih]

theorem find?_ofDeclarations :
    (ofDeclarations ds).find? c method = (last? (some method) c ds).or (last? none c ds) := by
  rw [find?, find?_ofMethod_ofDeclarations, find?_interface_ofDeclarations]

variable {ds d c method}

theorem find?_insert {before after : List Declaration} (placed : ds = before ++ d :: after)
    (beside : d.IsBeside c method) :
    (ofDeclarations ds).find? c method = (ofDeclarations (before ++ after)).find? c method := by
  rw [find?_ofDeclarations, find?_ofDeclarations, placed,
    beside.last?_insert before after (.inl rfl), beside.last?_insert before after (.inr rfl)]

/-- Each capability has its place. -/
theorem mem_order (placement : Placement) (c : Capability) : c ∈ placement.order := by
  cases placement <;> cases c <;> decide

/-- **The last declaration applies.** Take any lines, of any capabilities and methods and in any
order. The policy of a method is the last one that is declared for it alone, or without one the last
one that is declared for the interface, or there is none. It makes no difference whether a line for
another capability or for another method stands among them. What is found is of the capability that
it is sought for; so a chain that is built has a stage for each capability with a policy and for no
other, each once and in the order of the placement. -/
theorem last_declaration_applies (ds : List Declaration) :
    (∀ c (m : Method),
      (ofDeclarations ds).find? c m.name = (last? (some m.name) c ds).or (last? none c ds) ∧
      (∀ before d after, ds = before ++ d :: after → d.IsBeside c m.name →
        (ofDeclarations ds).find? c m.name = (ofDeclarations (before ++ after)).find? c m.name) ∧
      ∀ policy, (ofDeclarations ds).find? c m.name = some policy → policy.capability = c) ∧
    ∀ (p : Proxy) (u v : World) (context : Context),
      u.tables[p.table]? = some (.ofDeclarations ds) → u.contexts[p.context]? = some context →
      (∀ m stages, (p.resolve m).run.run u = (.ok stages, v) → stages.map Stage.capability =
        context.placement.order.filter fun c => ((ofDeclarations ds).find? c m.name).isSome) ∧
      ∀ r chain, (p.build r).run.run u = (.ok chain, v) →
        (chain.layers.map Stage.capability = context.placement.order.filter fun c =>
          ((ofDeclarations ds).find? c r.method.name).isSome) ∧
        (chain.layers.map Stage.capability).Nodup ∧
        ∀ c, c ∈ chain.layers.map Stage.capability ↔
          ((ofDeclarations ds).find? c r.method.name).isSome := by
  constructor
  · intro c m
    exact ⟨find?_ofDeclarations ds c m.name, fun before d after placed beside =>
      find?_insert placed beside, fun policy found => capability_of_find? ds found⟩
  · intro p u v context declared there
    constructor
    · intro m stages resolved
      exact Proxy.capabilities_of_resolve declared there resolved
    · intro r chain built
      obtain ⟨all, -⟩ := Proxy.capabilities_eq_of_build declared there built
      rw [all, applicable]
      have distinct := context.placement.nodup_order
      refine ⟨rfl, distinct.filter _, fun c => ?_⟩
      rw [List.mem_filter]
      exact and_iff_right (mem_order context.placement c)

/-- Lines of which some replace others, and one for another method. -/
def amendments : List Declaration :=
  [.interface (.bulkhead ⟨"small", none, none⟩), .method "get" (.limiter ⟨"own", none, none⟩),
    .interface (.limiter ⟨"shared", none, none⟩), .method "put" (.breaker ⟨"other", none, none⟩),
    .interface (.bulkhead ⟨"large", none, none⟩)]

def amended : World :=
  { World.empty with tables := #[.ofDeclarations amendments], contexts := #[.empty none .inner] }

/-- The method keeps its own limiter and gets the later one of the bulkheads. -/
theorem last_declaration_applies_amendments :
    (ofDeclarations amendments).find? .limiter "get" = some (.limiter ⟨"own", none, none⟩) ∧
    (ofDeclarations amendments).find? .bulkhead "get" = some (.bulkhead ⟨"large", none, none⟩) ∧
    (ofDeclarations amendments).find? .breaker "get" = none ∧
    ∃ chain v, ((⟨Catalog.svc, 0, 0, 0, .empty⟩ : Proxy).build Catalog.get).run.run amended =
        (.ok chain, v) ∧
      chain.layers.map Stage.capability = [.limiter, .bulkhead] ∧
      .breaker ∉ chain.layers.map Stage.capability := by
  obtain ⟨finds, builds⟩ := last_declaration_applies amendments
  obtain ⟨limiter, -, -⟩ := finds .limiter Catalog.get.method
  obtain ⟨bulkhead, -, -⟩ := finds .bulkhead Catalog.get.method
  obtain ⟨-, beside, -⟩ := finds .breaker Catalog.get.method
  have other := beside (amendments.take 3) (.method "put" (.breaker ⟨"other", none, none⟩))
    (amendments.drop 4) rfl (.inr ⟨"put", rfl, by decide⟩)
  have built : ∃ chain v, ((⟨Catalog.svc, 0, 0, 0, .empty⟩ : Proxy).build Catalog.get).run.run
      amended = (.ok chain, v) := ⟨_, _, rfl⟩
  obtain ⟨chain, v, built⟩ := built
  obtain ⟨-, chains⟩ := builds ⟨Catalog.svc, 0, 0, 0, .empty⟩ amended v (.empty none .inner) rfl rfl
  obtain ⟨all, -, each⟩ := chains Catalog.get chain built
  refine ⟨limiter, bulkhead, other, chain, v, built, all, fun mem => ?_⟩
  have found := (each .breaker).mp mem
  rw [other] at found
  cases found

end PolicyTable

end CallGuard
