import CallGuard.Proofs.Chain.Setup

/-!
# How chains are built

Building a chain asks for the policies of the capabilities one after the other, in the order in which
a call meets them, and stops at the first that cannot be resolved. It calls nobody. Main statement:
`Proxy.stops_of_build`.
-/

namespace CallGuard

/-- An entry that is written while a chain is built. -/
def Entry.IsBuilding : Entry → Prop
  | .constructed _ | .configAsked _ | .policySought .. => True
  | _ => False

theorem Entry.IsMaking.isBuilding {e : Entry} (making : e.IsMaking) : e.IsBuilding := by
  cases e <;> first | exact making | exact making.elim

/-- The capability and the method that a policy was sought for. -/
def Entry.sought? : Entry → Option (String × String)
  | .policySought _ capability method => some (capability, method)
  | _ => none

/-- From one world to the other things may have been made, and policies were sought for the method:
those of these capabilities, in this order. -/
structure World.Seeks (m : Method) (asked : List Capability) (w v : World) : Prop where
  setup : ∀ n, v.setup n = w.setup n
  proxies : v.proxies = w.proxies
  wrote : ∃ entries, v.history = w.history ++ entries ∧ (∀ e ∈ entries, e.IsBuilding) ∧
    entries.filterMap Entry.sought? = asked.map fun c => (c.name, m.name)

namespace World.Seeks

variable {m : Method} {u w v : World} {asked more : List Capability}

theorem of_makes (made : w.Makes v) : Seeks m [] w v where
  setup := made.setup
  proxies := made.proxies
  wrote := by
    obtain ⟨entries, grown, making⟩ := made.wrote
    refine ⟨entries, grown, fun e mem => (making e mem).isBuilding, ?_⟩
    refine List.filterMap_eq_nil_iff.mpr fun e mem => ?_
    have own := making e mem
    cases e <;> first | rfl | exact own.elim

theorem trans (first : Seeks m asked u w) (second : Seeks m more w v) :
    Seeks m (asked ++ more) u v where
  setup n := (second.setup n).trans (first.setup n)
  proxies := second.proxies.trans first.proxies
  wrote := by
    obtain ⟨entries, begun, before, told⟩ := first.wrote
    obtain ⟨others, ended, after, others_told⟩ := second.wrote
    refine ⟨entries ++ others, ?_, List.forall_mem_append.mpr ⟨before, after⟩, ?_⟩
    · rw [ended, begun, List.append_assoc]
    · rw [List.filterMap_append, told, others_told, List.map_append]

end World.Seeks

namespace PolicyTable

variable (t : PolicyTable) (context : Nat) (m : Method)

/-- The world in which the policy of the capability has been sought. -/
def sought (c : Capability) (w : World) : World :=
  w.append [.policySought w.announcesPolicies c.name m.name]

theorem run_seek (c : Capability) (w : World) :
    (t.seek c m).run.run w = (.ok (t.find? c m.name), sought m c w) := by
  rw [sought, ← World.write_eq_append]
  rfl

theorem seeks_sought (c : Capability) (w : World) : w.Seeks m [c] (sought m c w) where
  setup _ := rfl
  proxies := rfl
  wrote := ⟨_, w.history_append _, List.forall_mem_singleton.mpr trivial, rfl⟩

/-- Where the resolution of policies in that order stops: at the end, or at a capability whose policy
cannot be resolved after those before it have been. -/
inductive Stops (w v : World) (order : List Capability) :
    List Capability → Except Halt (List ResolvedStage) → Prop where
  | resolved (stages : List ResolvedStage) : Stops w v order order (.ok stages)
  | unresolved (before : List Capability) (c : Capability) (after : List Capability) (p : Policy)
      (stages : List ResolvedStage) (u : World) {halt : Halt} (ordered : order = before ++ c :: after)
      (earlier : (t.resolveEach context m before).run.run w = (.ok stages, u))
      (applies : t.find? c m.name = some p)
      (failed : (p.resolve context m).run.run (sought m c u) = (.error halt, v)) :
      Stops w v order (before ++ [c]) (.error halt)

variable {t context m} {w v : World} {order asked : List Capability}

/-- Resolving goes on when a policy has been sought. -/
theorem run_resolveEach_cons (c : Capability) (rest : List Capability) (w : World) :
    (t.resolveEach context m (c :: rest)).run.run w = match t.find? c m.name with
      | none => (t.resolveEach context m rest).run.run (sought m c w)
      | some p => (do
          let stage ← p.resolve context m
          return stage :: (← t.resolveEach context m rest) : Build (List ResolvedStage)).run.run
            (sought m c w) := by
  rw [resolveEach, Build.run_bind, run_seek]
  cases t.find? c m.name <;> rfl

/-- One more capability has been dealt with before. -/
theorem Stops.cons {c : Capability} {x : World} {halt : Halt}
    (begun : ∀ {before stages u}, (t.resolveEach context m before).run.run x = (.ok stages, u) →
      ∃ stages, (t.resolveEach context m (c :: before)).run.run w = (.ok stages, u))
    (stops : t.Stops context m x v order asked (.error halt)) :
    t.Stops context m w v (c :: order) (c :: asked) (.error halt) := by
  cases stops with
  | unresolved before d after p stages u ordered earlier applies failed =>
    obtain ⟨all, earlier⟩ := begun earlier
    exact .unresolved (c :: before) d after p all u (by rw [ordered]; rfl) earlier applies failed

theorem resolveEach_stops {result : Except Halt (List ResolvedStage)}
    (ran : (t.resolveEach context m order).run.run w = (result, v)) :
    ∃ asked, w.Seeks m asked v ∧ t.Stops context m w v order asked result := by
  induction order generalizing w result v with
  | nil =>
    cases ran
    exact ⟨[], .of_makes (.refl w), .resolved []⟩
  | cons c rest ih =>
    have sought := seeks_sought m c w
    rw [run_resolveEach_cons] at ran
    cases applies : t.find? c m.name with
    | none =>
      rw [applies] at ran
      obtain ⟨asked, seeks, stops⟩ := ih ran
      refine ⟨c :: asked, sought.trans seeks, ?_⟩
      cases result with
      | ok stages =>
        cases stops
        exact .resolved stages
      | error halt =>
        refine stops.cons fun {before stages u} earlier => ⟨stages, ?_⟩
        rw [run_resolveEach_cons, applies]
        exact earlier
    | some p =>
      rw [applies] at ran
      have made := p.makes_resolve context m (PolicyTable.sought m c w)
      cases result with
      | ok stages =>
        obtain ⟨stage, x, first, ran⟩ := Build.bind_ok_iff.mp ran
        obtain ⟨others, y, later, last⟩ := Build.bind_ok_iff.mp ran
        cases last
        obtain ⟨asked, seeks, stops⟩ := ih later
        cases stops
        rw [first] at made
        exact ⟨c :: rest, (sought.trans (.of_makes made)).trans seeks, .resolved _⟩
      | error halt =>
        rcases Build.bind_error_iff.mp ran with failed | ⟨stage, x, first, ran⟩
        · rw [failed] at made
          exact ⟨[c], sought.trans (.of_makes made),
            .unresolved [] c rest p [] w rfl rfl applies failed⟩
        · rcases Build.bind_error_iff.mp ran with later | ⟨_, _, _, last⟩
          · obtain ⟨asked, seeks, stops⟩ := ih later
            rw [first] at made
            refine ⟨c :: asked, (sought.trans (.of_makes made)).trans seeks, ?_⟩
            refine stops.cons fun {before stages u} earlier => ⟨stage :: stages, ?_⟩
            rw [run_resolveEach_cons, applies]
            refine Build.bind_ok_iff.mpr ⟨stage, x, first, ?_⟩
            exact Build.bind_ok_iff.mpr ⟨stages, u, earlier, rfl⟩
          · cases last

end PolicyTable

theorem Placement.nodup_order (p : Placement) : p.order.Nodup := by cases p <;> decide

namespace Proxy

/-- The capabilities in the order in which calls through the proxy meet them. -/
def order (p : Proxy) (w : World) : List Capability := (w.setup p.context).2.order

/-- The table that the proxy takes policies from. -/
def policies (p : Proxy) (w : World) : PolicyTable := (w.tables[p.table]?).getD .empty

variable (p : Proxy) (r : Route) (w v : World)

/-- Where the building of a chain stops, and with what: at a capability whose policy cannot be
resolved, at stages that do not fit the method, or with a chain. -/
inductive Stops : List Capability → Except Halt Chain → Prop where
  | built {stages : List ResolvedStage} {layers : List Layer}
      (resolved : (p.resolve r.method).run.run w = (.ok stages, v))
      (fits : ResolvedStage.bindAll r.method stages = .ok layers) :
      Stops (p.order w) (.ok ⟨r, p.target, layers⟩)
  | unfitting {stages : List ResolvedStage} {e : Fault}
      (resolved : (p.resolve r.method).run.run w = (.ok stages, v))
      (mismatch : ResolvedStage.bindAll r.method stages = .error e) :
      Stops (p.order w) (.error (.fault e))
  | unresolved {asked : List Capability} {halt : Halt}
      (stops : (p.policies w).Stops p.context r.method w v (p.order w) asked (.error halt)) :
      Stops asked (.error halt)

variable {p r w v}

/-- **A chain is built capability by capability**, up to the first whose policy cannot be resolved. -/
theorem stops_of_build {result : Except Halt Chain} (ran : (p.build r).run.run w = (result, v)) :
    ∃ asked, asked <+: p.order w ∧ asked.Nodup ∧ w.Seeks r.method asked v ∧
      p.Stops r w v asked result := by
  suffices ∃ asked, asked <+: p.order w ∧ w.Seeks r.method asked v ∧ p.Stops r w v asked result by
    obtain ⟨asked, start, seeks, stops⟩ := this
    exact ⟨asked, start, (Placement.nodup_order _).sublist start.sublist, seeks, stops⟩
  rcases resolved : (p.resolve r.method).run.run w with ⟨halt | stages, u⟩
  · obtain ⟨asked, seeks, stops⟩ := PolicyTable.resolveEach_stops
      (show ((p.policies w).resolveEach p.context r.method (p.order w)).run.run w = _ from resolved)
    rw [build, Build.run_bind, resolved] at ran
    cases ran
    refine ⟨asked, ?_, seeks, .unresolved stops⟩
    cases stops with
    | unresolved before c after _ _ _ ordered => exact ⟨after, by rw [ordered]; simp⟩
  · obtain ⟨asked, seeks, stops⟩ := PolicyTable.resolveEach_stops
      (show ((p.policies w).resolveEach p.context r.method (p.order w)).run.run w = _ from resolved)
    cases stops
    rw [build, Build.run_bind, resolved] at ran
    refine ⟨_, List.prefix_rfl, ?_⟩
    cases bound : ResolvedStage.bindAll r.method stages with
    | ok layers =>
      dsimp only at ran
      rw [bound] at ran
      cases ran
      exact ⟨seeks, .built resolved bound⟩
    | error e =>
      dsimp only at ran
      rw [bound] at ran
      cases ran
      exact ⟨seeks, .unfitting resolved bound⟩

end Proxy

end CallGuard
