import CallGuard.Proofs.Proxy.Caching

/-!
# Methods of one key

Methods of one key share a chain. It is for the arguments and the result of the method that it was
built for: a method of other types is refused, and a method of the same types takes the chain, whatever
else sets the two apart. Main statement: `Proxy.types_decide`.
-/

namespace CallGuard

namespace Lookup

variable {ls : List Lookup} {key : MethodKey} {c : Chain}

/-- A chain that has been built stays the first one for its key. -/
theorem firstChain_append_of_some (first : firstChain ls key = some c) (more : List Lookup) :
    firstChain (ls ++ more) key = some c :=
  (List.prefix_append ls more).findSome?_eq_some first

/-- A call has got the first chain for the key, and none before it has got one. -/
theorem exists_first (first : firstChain ls key = some c) :
    ∃ before b after, ls = before ++ b :: after ∧ b.key = key ∧ b.result = .ok c ∧
      firstChain before key = none := by
  obtain ⟨before, b, after, split, got, unbuilt⟩ := List.findSome?_eq_some_iff.mp first
  have own : b.key = key := by
    by_contra other
    rw [chain?_of_ne other] at got
    cases got
  refine ⟨before, b, after, split, own, ?_, List.findSome?_eq_none_iff.mpr unbuilt⟩
  rw [← own, chain?_key] at got
  cases result : b.result with
  | ok c' =>
    rw [result] at got
    cases got
    rfl
  | error halt =>
    rw [result] at got
    cases got

end Lookup

namespace Proxy

section

variable {n : Nat} {p q : Proxy} {u v w : World} {ls more : List Lookup} {r : Route} {c : Chain}

/-- The chain that was built is for the method that came for it. -/
theorem Constructs.route {l : Lookup} (constructs : Constructs n p l) (built : l.result = .ok c) :
    c.route = l.route := by
  obtain ⟨_, _, -, -, -, -, stops, -⟩ := constructs.built
  rw [built] at stops
  exact route_of_stops stops

/-- The first chain for a key was built for the first method of that key for which one could be. -/
theorem History.exists_builder {key : MethodKey} (history : History n w ls v)
    (there : w.proxies[n]? = some p) (none : p.cache = .empty)
    (first : Lookup.firstChain ls key = some c) :
    ∃ b ∈ ls, b.key = key ∧ b.result = .ok c ∧ b.route = c.route := by
  obtain ⟨before, b, after, rfl, rfl, built, new⟩ := Lookup.exists_first first
  have came : (before ++ b :: after)[before.length]? = some b := by simp
  obtain ⟨earlier, ran⟩ := history.upto came
  rw [List.take_left] at earlier
  obtain ⟨q, keeps⟩ := earlier.kept there none
  have comes := (keeps.came ran).2
  rw [show Lookup.firstChain before b.route.method.key = .none from new] at comes
  exact ⟨b, by simp, rfl, built, (Constructs.route comes built).symm⟩

/-- A call whose method has a chain comes to no more than the comparison of types. -/
theorem run_chain_of_kept (there : u.proxies[n]? = some q)
    (kept : q.cache.find? r.method.key = some c) :
    (chain n r).run.run u = if r.signature = c.route.signature then (.ok c, u)
      else (.error (.fault (.signatureConflict r.method.display)), u) := by
  have served : (u.proxies[n]?).getD default = q := by
    rw [there]
    rfl
  rw [run_chain served, kept]
  simp only [eq_comm]

/-- Calls that come to the same chain are the same calls, of whichever methods they are. -/
theorem run_congr {r' : Route}
    (same : (chain n r).run.run u = (chain n r').run.run u) (args : Args) :
    (call n r args).run u = (call n r' args).run u ∧
      (start n r args).run u = (start n r' args).run u := by
  constructor
  · rw [call, call, Act.run_bind, Act.run_bind, same]
  · rw [start, start, Act.run_bind, Act.run_bind, same]

/-- **The types decide between methods of one key.** When a chain has been built for a key, the chain
is kept whatever calls come later, and it belongs to the method that it was built for. Each later call
of a method of that key with the same types of arguments and result goes as a call of that method
does, and never is refused. A call with other types is refused, be it direct or deferred: nothing
happens but its reply. -/
theorem types_decide {key : MethodKey} (there : w.proxies[n]? = some p) (none : p.cache = .empty)
    (history : History n w ls u) (first : Lookup.firstChain ls key = some c)
    (since : History n u more v) :
    (∃ b ∈ ls, b.key = key ∧ b.result = .ok c ∧ b.route = c.route) ∧
    (∃ q, v.proxies[n]? = some q ∧ q.cache.find? key = some c) ∧
    ∀ r args, r.method.key = key →
      if r.signature = c.route.signature then
        lookup n r v = ⟨r, v, .ok c, v⟩ ∧
        (call n r args).run v = (call n c.route args).run v ∧
        (start n r args).run v = (start n c.route args).run v
      else
        (call n r args).run v = (.refusal (.signatureConflict r.method.display), v) ∧
        (start n r args).run v =
          (.ok (.ready (.refusal (.signatureConflict r.method.display))), v) := by
  obtain ⟨q, keeps⟩ := (history.trans since).kept there none
  have kept : q.cache.find? key = some c := by
    rw [keeps.chains, Lookup.firstChain_append_of_some first]
  refine ⟨history.exists_builder there none first, ⟨q, keeps.there, kept⟩, fun r args own => ?_⟩
  subst own
  have ran := run_chain_of_kept keeps.there kept
  split
  next same =>
    rw [if_pos same] at ran
    have home : (chain n c.route).run.run v = (.ok c, v) := by
      rw [run_chain_of_kept keeps.there (by rw [(keeps.routes _ c kept).1, kept]), if_pos rfl]
    refine ⟨?_, run_congr (ran.trans home.symm) args⟩
    rw [lookup, ran]
  next other =>
    rw [if_neg other] at ran
    have failed : (lookup n r v).result = .error (.fault (.signatureConflict r.method.display)) :=
      congrArg Prod.fst ran
    have after : (lookup n r v).after = v := congrArg Prod.snd ran
    rw [run_call_of_error args failed, run_start_of_error args failed, after]
    exact ⟨rfl, rfl⟩

end

/-- Nobody has called the proxy yet. -/
def untouched : World := { World.empty with proxies := #[⟨Catalog.svc, 0, 0, 0, .empty⟩] }

/-- The chain of `get` has been built. -/
def visited : World := (lookup 0 Catalog.get untouched).after

/-- Has the key and the types of `get`, but is deferred. -/
def later : Route :=
  { Catalog.get with method := { Catalog.get.method with shape := .deferred } }

-- Shapes are not compared: what was built for a direct method serves a deferred one too.
example : (lookup 0 later visited).result = .ok ⟨Catalog.get, 0, []⟩ := rfl

example : (lookup 0 Catalog.narrow visited).result =
    .error (.fault (.signatureConflict "Svc::get(String)")) := rfl

end Proxy

end CallGuard
