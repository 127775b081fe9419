import CallGuard.Catalog.Methods
import CallGuard.Proofs.Chain.Conduct
import CallGuard.Proofs.Proxy.Building
import Mathlib.Data.Finset.Card
import Mathlib.Data.Finset.Lattice.Lemmas

/-!
# Chains that are kept

A proxy builds the chain of a method on each call of it until it has succeeded once, and then keeps
it. Between calls the context, the tables and everything else may change. Main statement:
`Proxy.built_once`.
-/

namespace CallGuard

/-- A call that has come to a proxy for its chain, with the worlds before and after. -/
structure Lookup where
  route : Route
  before : World
  result : Except Halt Chain
  after : World

namespace Lookup

/-- The key of the method that the chain is for. -/
def key (l : Lookup) : MethodKey := l.route.method.key

/-- The chain that the call has got for the method of that key. -/
def chain? (l : Lookup) (key : MethodKey) : Option Chain :=
  if l.key = key then l.result.toOption else none

/-- The first chain that any of the calls has got for the method of that key. -/
def firstChain (ls : List Lookup) (key : MethodKey) : Option Chain := ls.findSome? (·.chain? key)

/-- The methods for which any of the calls has got a chain. -/
def methods (ls : List Lookup) : Finset MethodKey :=
  ((ls.filter fun l => l.result.toOption.isSome).map key).toFinset

theorem chain?_key (l : Lookup) : l.chain? l.key = l.result.toOption := if_pos rfl

theorem chain?_of_ne {l : Lookup} {key : MethodKey} (other : l.key ≠ key) : l.chain? key = none :=
  if_neg other

theorem firstChain_append_singleton (ls : List Lookup) (l : Lookup) (key : MethodKey) :
    firstChain (ls ++ [l]) key = (firstChain ls key).or (l.chain? key) := by
  simp [firstChain, List.findSome?_append]

theorem methods_append_singleton (ls : List Lookup) (l : Lookup) :
    methods (ls ++ [l]) =
      if l.result.toOption.isSome then insert l.key (methods ls) else methods ls := by
  unfold methods
  rw [List.filter_append, List.map_append, List.toFinset_append, List.filter_singleton]
  cases l.result.toOption.isSome <;> simp

theorem mem_methods_iff {ls : List Lookup} {key : MethodKey} :
    key ∈ methods ls ↔ (firstChain ls key).isSome := by
  simp only [methods, firstChain, List.mem_toFinset, List.mem_map, List.mem_filter,
    List.findSome?_isSome_iff]
  constructor
  · rintro ⟨l, ⟨mem, got⟩, rfl⟩
    exact ⟨l, mem, by rwa [chain?, if_pos rfl]⟩
  · rintro ⟨l, mem, got⟩
    rw [chain?] at got
    split at got
    next own => exact ⟨l, ⟨mem, got⟩, own⟩
    next => cases got

/-- What a call comes to whose proxy has that chain for the key of its method: it takes the chain if the
chain is for arguments and a result of the same types, and it is refused otherwise. -/
structure Meets (l : Lookup) (c : Chain) : Prop where
  result : l.result = if c.route.signature = l.route.signature then .ok c
    else .error (.fault (.signatureConflict l.route.method.display))
  after : l.after = l.before

end Lookup

/-- What the start of a call comes to that needs what could not be built. -/
def Halt.started : Halt → Except String Ongoing
  | .fault e => .ok (.ready (.refusal e))
  | .crash text => .error text

namespace Proxy

/-- The world when the chain has been kept, if there is one. -/
def kept (n : Nat) (key : MethodKey) (w : World) : Except Halt Chain → World
  | .ok c => ((keep n key c).run w).2
  | .error _ => w

/-- The call has built a chain, or has tried to: policies were asked for in order, each at most once
and up to the first that could not be resolved, and nothing was done besides but make what they ask
for. The chain is kept, and a failure leaves no trace. -/
structure Constructs (n : Nat) (p : Proxy) (l : Lookup) : Prop where
  built : ∃ v asked, (p.build l.route).run.run l.before = (l.result, v) ∧
    asked <+: p.order l.before ∧ asked.Nodup ∧ l.before.Seeks l.route.method asked v ∧
    p.Stops l.route l.before v asked l.result ∧ l.after = kept n l.key v l.result

/-- What happens to the proxy of that number: calls come for their chains, and in between anything
may happen that leaves the proxy as it is. -/
inductive History (n : Nat) : World → List Lookup → World → Prop where
  | start (w : World) : History n w [] w
  | elsewhere {w u v : World} {ls : List Lookup} (so : History n w ls u)
      (same : v.proxies[n]? = u.proxies[n]?) : History n w ls v
  | came {w u v : World} {ls : List Lookup} {r : Route} {result : Except Halt Chain}
      (so : History n w ls u) (ran : (chain n r).run.run u = (result, v)) :
      History n w (ls ++ [⟨r, u, result, v⟩]) v

theorem History.trans {n : Nat} {u w v : World} {before after : List Lookup}
    (first : History n u before w) (second : History n w after v) :
    History n u (before ++ after) v := by
  induction second with
  | start => rwa [List.append_nil]
  | elsewhere _ same ih => exact ih.elsewhere same
  | came _ ran ih =>
    rw [← List.append_assoc]
    exact ih.came ran

/-- Each call has come after those before it. -/
theorem History.upto {n i : Nat} {w v : World} {ls : List Lookup} {l : Lookup}
    (history : History n w ls v) (found : ls[i]? = some l) :
    History n w (ls.take i) l.before ∧ (chain n l.route).run.run l.before = (l.result, l.after) := by
  induction history with
  | start => cases found
  | elsewhere _ _ ih => exact ih found
  | @came u v ls r result so ran ih =>
    rcases Nat.lt_or_ge i ls.length with inside | beyond
    · rw [List.getElem?_append_left inside] at found
      rw [List.take_append_of_le_length (Nat.le_of_lt inside)]
      exact ih found
    · rw [List.getElem?_append_right beyond, List.getElem?_singleton] at found
      split at found
      next only =>
        cases found
        rw [Nat.le_antisymm (Nat.sub_eq_zero_iff_le.mp only) beyond, List.take_left]
        exact ⟨so, ran⟩
      next => cases found

/-- A call comes for its chain, which it finds or has built. -/
theorem run_chain {n : Nat} {q : Proxy} {u : World} (there : (u.proxies[n]?).getD default = q)
    (r : Route) :
    (chain n r).run.run u = match q.cache.find? r.method.key with
      | some c =>
        if c.route.signature = r.signature then (.ok c, u)
        else (.error (.fault (.signatureConflict r.method.display)), u)
      | none =>
        (((q.build r).run.run u).1,
          kept n r.method.key ((q.build r).run.run u).2 ((q.build r).run.run u).1) := by
  have read : (liftM (read n) : Build Proxy).run.run u = (.ok q, u) := by
    rw [← there]
    rfl
  rw [chain, Build.run_bind, read]
  dsimp only
  cases q.cache.find? r.method.key with
  | some c =>
    dsimp only
    split <;> rfl
  | none =>
    dsimp only
    rw [Build.run_bind]
    obtain ⟨halt | c, v⟩ := (q.build r).run.run u <;> rfl

/-- Keeping a chain leaves other proxies as they are. -/
theorem getElem?_kept {n m : Nat} (other : m ≠ n) (key : MethodKey) (w : World)
    (result : Except Halt Chain) : (kept m key w result).proxies[n]? = w.proxies[n]? := by
  cases result with
  | ok c =>
    change (w.proxies.modify m _)[n]? = _
    rw [Array.getElem?_modify, if_neg other]
  | error halt => rfl

/-- What calls have come to, when the proxy had no chain at first: it has those that were built, and is
otherwise what it was. -/
structure Keeps (n : Nat) (p : Proxy) (ls : List Lookup) (v : World) (q : Proxy) : Prop where
  there : v.proxies[n]? = some q
  same : q = { p with cache := q.cache }
  chains : ∀ key, q.cache.find? key = Lookup.firstChain ls key
  routes : ∀ key c, q.cache.find? key = some c → c.route.method.key = key ∧
    c.route ∈ ls.map Lookup.route
  size : q.cached = (Lookup.methods ls).card

/-- A chain is for the route that it was built for. -/
theorem route_of_stops {p : Proxy} {r : Route} {w v : World} {asked : List Capability} {c : Chain}
    (stops : p.Stops r w v asked (.ok c)) : c.route = r := by
  cases stops
  rfl

section

variable {n : Nat} {p q : Proxy} {ls : List Lookup} {u v : World} {r : Route}

/-- A call that finds a chain leaves everything as it is. -/
theorem Keeps.found (keeps : Keeps n p ls u q) {c : Chain}
    (found : q.cache.find? r.method.key = some c) :
    Keeps n p (ls ++ [⟨r, u, .ok c, u⟩]) u q where
  there := keeps.there
  same := keeps.same
  chains key := by
    rw [keeps.chains, Lookup.firstChain_append_singleton]
    by_cases own : r.method.key = key
    · rw [← own, ← keeps.chains, found, Option.some_or]
    · rw [Lookup.chain?_of_ne (l := ⟨r, u, .ok c, u⟩) own, Option.or_none]
  routes key c kept := by
    obtain ⟨own, mem⟩ := keeps.routes key c kept
    exact ⟨own, by rw [List.map_append]; exact List.mem_append_left _ mem⟩
  size := by
    have known : r.method.key ∈ Lookup.methods ls := by
      rw [Lookup.mem_methods_iff, ← keeps.chains, found]
      rfl
    rw [keeps.size, Lookup.methods_append_singleton, if_pos (by rfl)]
    exact congrArg Finset.card (Finset.insert_eq_of_mem known).symm

/-- A chain that has been built is kept. -/
theorem Keeps.built (keeps : Keeps n p ls u q) (absent : q.cache.find? r.method.key = none)
    (same : v.proxies = u.proxies) {c : Chain} (own : c.route = r) :
    Keeps n p (ls ++ [⟨r, u, .ok c, kept n r.method.key v (.ok c)⟩]) (kept n r.method.key v (.ok c))
      { q with cache := q.cache.insert r.method.key c } where
  there := by
    change (v.proxies.modify n _)[n]? = _
    rw [Array.getElem?_modify, if_pos rfl, same, keeps.there]
    rfl
  same := by rw [keeps.same]
  chains key := by
    rw [Lookup.firstChain_append_singleton, ← keeps.chains, Registry.find?_insert]
    by_cases other : r.method.key = key
    · subst other
      rw [if_pos rfl, absent, Option.none_or]
      exact (Lookup.chain?_key ⟨r, u, .ok c, _⟩).symm
    · rw [if_neg other, Lookup.chain?_of_ne (l := ⟨r, u, .ok c, _⟩) other, Option.or_none]
  routes key d kept := by
    rw [List.map_append]
    rw [Registry.find?_insert] at kept
    split at kept
    next other =>
      cases kept
      rw [own]
      exact ⟨other, List.mem_append_right _ List.mem_cons_self⟩
    next =>
      obtain ⟨other, mem⟩ := keeps.routes key d kept
      exact ⟨other, List.mem_append_left _ mem⟩
  size := by
    have unknown : r.method.key ∉ Lookup.methods ls := by
      rw [Lookup.mem_methods_iff, ← keeps.chains, absent]
      exact Bool.false_ne_true
    have more : (q.cache.insert r.method.key c).size = q.cached + 1 := by
      rw [Registry.size_insert, absent]
      rfl
    rw [Lookup.methods_append_singleton, if_pos (by rfl)]
    exact (more.trans (congrArg (· + 1) keeps.size)).trans
      (Finset.card_insert_of_notMem unknown).symm

/-- A failure leaves no trace. -/
theorem Keeps.failed (keeps : Keeps n p ls u q) (same : v.proxies = u.proxies) (halt : Halt) :
    Keeps n p (ls ++ [⟨r, u, .error halt, v⟩]) v q where
  there := by rw [same, keeps.there]
  same := keeps.same
  chains key := by
    have none : Lookup.chain? ⟨r, u, .error halt, v⟩ key = none := ite_self _
    rw [keeps.chains, Lookup.firstChain_append_singleton, none, Option.or_none]
  routes key c kept := by
    obtain ⟨own, mem⟩ := keeps.routes key c kept
    exact ⟨own, by rw [List.map_append]; exact List.mem_append_left _ mem⟩
  size := by
    rw [keeps.size, Lookup.methods_append_singleton, if_neg (by rintro ⟨⟩)]

/-- A call meets the chain that was built for the key of its method, or builds one. -/
theorem Keeps.came {result : Except Halt Chain} (keeps : Keeps n p ls u q)
    (ran : (chain n r).run.run u = (result, v)) :
    (∃ q', Keeps n p (ls ++ [⟨r, u, result, v⟩]) v q') ∧
      match Lookup.firstChain ls r.method.key with
      | some c => Lookup.Meets ⟨r, u, result, v⟩ c
      | none => Constructs n p ⟨r, u, result, v⟩ := by
  have there : (u.proxies[n]?).getD default = q := by
    rw [keeps.there]
    rfl
  rw [run_chain there] at ran
  cases found : q.cache.find? r.method.key with
  | some c =>
    rw [found] at ran
    rw [← keeps.chains, found]
    dsimp only at ran
    split at ran
    next same =>
      cases ran
      exact ⟨⟨q, keeps.found found⟩, (if_pos same).symm, rfl⟩
    next other =>
      cases ran
      exact ⟨⟨q, keeps.failed rfl _⟩, (if_neg other).symm, rfl⟩
  | none =>
    rw [found] at ran
    rw [← keeps.chains, found]
    have same : q.build r = p.build r := by rw [keeps.same]; rfl
    dsimp only at ran
    rw [same] at ran
    rcases built : (p.build r).run.run u with ⟨given, between⟩
    rw [built] at ran
    cases ran
    obtain ⟨asked, start, once, seeks, stops⟩ := stops_of_build built
    refine ⟨?_, ⟨between, asked, built, start, once, seeks, stops, rfl⟩⟩
    cases given with
    | ok c => exact ⟨_, keeps.built found seeks.proxies (route_of_stops stops)⟩
    | error halt => exact ⟨q, keeps.failed seeks.proxies halt⟩

end

/-- What is seen of a run is which calls come to the proxy of that number. -/
def lookups (n : Nat) : View where
  sees w v _ := ∃ ls, History n w ls v
  trans := by
    rintro u w v _ _ ⟨before, first⟩ ⟨after, second⟩
    exact ⟨before ++ after, first.trans second⟩
  plain _ same _ _ := ⟨[], (History.start _).elsewhere (by rw [same])⟩

/-- What is seen of a run is that it leaves proxies alone. -/
def still : View where
  sees w v _ := v.proxies = w.proxies
  trans first second := second.trans first
  plain _ same _ _ := same

theorem isFlat_lookups (n : Nat) : (lookups n).IsFlat :=
  fun _ same _ => ⟨[], (History.start _).elsewhere (by rw [same])⟩

theorem isFlat_still : still.IsFlat := fun _ same _ => same

theorem encloses_lookups (n : Nat) : (lookups n).Encloses := by
  rintro w x y v _ _ _ _ _ called - ⟨ls, within⟩ replied -
  have begun : History n w [] x := (History.start w).elsewhere (by rw [called])
  exact ⟨ls, (begun.trans within).elsewhere (by rw [replied])⟩

/-- A call that comes to a proxy comes to that one or leaves it as it is. -/
theorem history_chain (n m : Nat) (r : Route) (w : World) :
    ∃ ls, History n w ls ((chain m r).run.run w).2 := by
  by_cases own : m = n
  · subst own
    exact ⟨_, (History.start w).came rfl⟩
  · refine ⟨[], (History.start w).elsewhere ?_⟩
    rw [run_chain rfl]
    split
    next => split <;> rfl
    next =>
      obtain ⟨_, _, _, seeks, _⟩ := stops_of_build (Prod.eta ((Proxy.build _ r).run.run w)).symm
      rw [getElem?_kept own, seeks.proxies]

/-- A call from within comes for a chain. -/
theorem tells_enter {V : View} (came : ∀ m r, (chain m r).run.Tells V fun _ _ => True)
    (call : Reentry) : (enter call).Tells V fun _ _ => True := by
  refine .bind_quiet (Act.tells_quiet (fun _ => rfl) fun _ => rfl) fun p => ?_
  cases p.interface.route? call.method with
  | none => exact .pure trivial
  | some r =>
    refine (came call.proxy r).bind fun {_ found} _ => ?_
    cases found with
    | error halt => exact .pure trivial
    | ok c => exact .pure trivial

/-- **Direct calls keep their accounts**, whatever calls come from within. -/
theorem tells_run {V : View} (encloses : V.Encloses)
    (came : ∀ m r, (chain m r).run.Tells V fun _ _ => True) (c : Chain) (args : Args) :
    (run c args).Tells V (Chain.account c.route.method c.service c.layers).On :=
  Chain.tells_callWithin encloses (tells_enter came) nestingLimit c args

theorem history_run (n : Nat) (c : Chain) (args : Args) :
    (run c args).Tells (lookups n) fun _ _ => True :=
  (tells_run (encloses_lookups n) (fun m r w => ⟨[], history_chain n m r w, trivial⟩) c args).imp
    fun _ => trivial

/-- The call of the method that comes to the proxy in that world. -/
def lookup (n : Nat) (r : Route) (w : World) : Lookup :=
  ⟨r, w, ((chain n r).run.run w).1, ((chain n r).run.run w).2⟩

theorem history_lookup (n : Nat) (r : Route) (w : World) :
    History n w [lookup n r w] (lookup n r w).after := (History.start w).came rfl

/-- A call comes for its chain, and whatever else it does or others do in the meantime. -/
theorem history_of_tells {A : Type} {next : Except Halt Chain → Act A}
    (tells : ∀ found, (next found).Tells (lookups n) fun _ _ => True) (r : Route) (w : World) :
    ∃ ls, History n w (lookup n r w :: ls) (((chain n r).run >>= next).run w).2 := by
  obtain ⟨_, ⟨ls, rest⟩, -⟩ := tells (lookup n r w).result (lookup n r w).after
  exact ⟨ls, (history_lookup n r w).trans rest⟩

theorem history_call (r : Route) (args : Args) (w : World) :
    ∃ ls, History n w (lookup n r w :: ls) ((call n r args).run w).2 := by
  refine history_of_tells (fun found => ?_) r w
  cases found with
  | error halt => exact .pure trivial
  | ok c =>
    dsimp only
    cases c.route.method.shape with
    | direct => exact history_run n c args
    | deferred =>
      obtain ⟨T, h⟩ :=
        Chain.exists_obeys_deferred c.route c.service (isFlat_lookups n) args c.layers
      exact h.tells_await.imp fun _ => trivial

theorem history_start (r : Route) (args : Args) (w : World) :
    ∃ ls, History n w (lookup n r w :: ls) ((start n r args).run w).2 := by
  refine history_of_tells (fun found => ?_) r w
  cases found with
  | error halt => cases halt <;> exact .pure trivial
  | ok c =>
    dsimp only
    cases c.route.method.shape with
    | direct =>
      refine .bind (history_run n c args) fun {_ reply} _ => ?_
      cases reply <;> exact .pure trivial
    | deferred =>
      obtain ⟨T, h⟩ :=
        Chain.exists_obeys_deferred c.route c.service (isFlat_lookups n) args c.layers
      refine .bind h.start fun {σ started} begun => ?_
      cases started <;> exact .pure trivial

/-- A deferred call on its way: it was started through the proxy, and polled since. -/
inductive Started (n : Nat) (r : Route) (args : Args) : Ongoing → Prop where
  | start {w v : World} {o : Ongoing} (ran : (start n r args).run w = (.ok o, v)) :
      Started n r args o
  | poll {w v : World} {o next : Ongoing} (so : Started n r args o)
      (polled : o.poll.run w = (.waiting next, v)) : Started n r args next

/-- What a call on its way remembers is along a track. -/
def Tracked (args : Args) : Ongoing → Prop
  | .ready _ => True
  | .running c m => ∃ T ρ, c.deferred.Obeys args still
      (Chain.account c.route.method c.service c.layers) T ∧ T ρ m

theorem tracked_of_start {r : Route} {args : Args} {o : Ongoing} {w v : World}
    (ran : (start n r args).run w = (.ok o, v)) : Tracked args o := by
  rw [start, Act.run_bind] at ran
  rcases found : (chain n r).run.run w with ⟨(e | text) | c, u⟩ <;> rw [found] at ran
  · cases ran
    trivial
  · cases ran
  · dsimp only at ran
    split at ran
    next =>
      obtain ⟨T, h⟩ := Chain.exists_obeys_deferred c.route c.service isFlat_still args c.layers
      obtain ⟨σ, -, begun⟩ := h.start u
      rw [Chain.launch, Act.run_bind] at ran
      rcases started : (c.deferred.start args).run u with ⟨text | m, x⟩
      · rw [started] at ran
        cases ran
      · rw [started] at ran
        rw [show ((Chain.deferredThrough _ _ _).start args).run u = _ from started] at begun
        cases ran
        exact ⟨T, σ, h, begun⟩
    next =>
      rw [Act.run_bind] at ran
      rcases ended : (run c args).run u with ⟨o' | text, x⟩ <;> rw [ended] at ran
      · cases ran
        trivial
      · cases ran

theorem Started.tracked {r : Route} {args : Args} {o : Ongoing} (so : Started n r args o) :
    Tracked args o := by
  induction so with
  | start ran => exact tracked_of_start ran
  | @poll w v o next _ polled ih =>
    cases o with
    | ready reply => cases polled
    | running c m =>
      obtain ⟨T, ρ, h, so⟩ := ih
      obtain ⟨σ, -, gone⟩ := h.poll so w
      rw [Ongoing.poll, Act.run_bind] at polled
      rcases ran : (c.deferred.poll m).run w with ⟨m' | reply, x⟩
      · rw [ran] at polled gone
        cases polled
        exact ⟨T, ρ ++ σ, h, gone⟩
      · rw [ran] at polled
        cases polled

/-- Polling and dropping a call leaves proxies alone. -/
theorem Tracked.still {args : Args} {o : Ongoing} (tracked : Tracked args o) (w : World) :
    (o.poll.run w).2.proxies = w.proxies ∧ (o.drop.run w).2.proxies = w.proxies := by
  cases o with
  | ready reply => exact ⟨rfl, rfl⟩
  | running c m =>
    obtain ⟨T, ρ, h, so⟩ := tracked
    have polled : (Ongoing.running c m).poll.Tells Proxy.still fun _ _ => True := by
      refine .bind (h.poll so) fun {_ progress} _ => ?_
      cases progress <;> exact .pure trivial
    obtain ⟨_, poll, -⟩ := polled w
    obtain ⟨_, drop, -⟩ := h.drop so w
    exact ⟨poll, drop⟩

theorem run_call_of_error {r : Route} {u : World} {halt : Halt} (args : Args)
    (failed : (lookup n r u).result = .error halt) :
    (call n r args).run u = (halt.reply, (lookup n r u).after) := by
  have found : (chain n r).run.run u = (.error halt, (lookup n r u).after) := Prod.ext failed rfl
  rw [call, Act.run_bind, found]
  rfl

theorem run_start_of_error {r : Route} {u : World} {halt : Halt} (args : Args)
    (failed : (lookup n r u).result = .error halt) :
    (start n r args).run u = (halt.started, (lookup n r u).after) := by
  have found : (chain n r).run.run u = (.error halt, (lookup n r u).after) := Prod.ext failed rfl
  rw [start, Act.run_bind, found]
  cases halt <;> rfl

/-- Whatever calls have come, the proxy has the chains that were built. -/
theorem History.kept {p : Proxy} {w v : World} {ls : List Lookup} (history : History n w ls v)
    (there : w.proxies[n]? = some p) (none : p.cache = .empty) : ∃ q, Keeps n p ls v q := by
  induction history with
  | start =>
    refine ⟨p, there, rfl, fun key => ?_, fun key c found => ?_, ?_⟩
    · rw [none]
      rfl
    · rw [none] at found
      cases found
    · rw [cached, none]
      rfl
  | elsewhere _ same ih =>
    obtain ⟨q, keeps⟩ := ih
    exact ⟨q, { keeps with there := by rw [same, keeps.there] }⟩
  | came _ ran ih =>
    obtain ⟨q, keeps⟩ := ih
    exact (keeps.came ran).1

/-- If each key is that of one method only, all calls up to some point have found the chains of their
methods, or have come to build them. -/
theorem History.keeps {p : Proxy} {w v : World} {ls : List Lookup} (history : History n w ls v)
    (there : w.proxies[n]? = some p) (none : p.cache = .empty)
    (apart : ∀ l ∈ ls, ∀ l' ∈ ls, l.key = l'.key → l.route = l'.route) :
    ∃ q, Keeps n p ls v q ∧
      ∀ i l, ls[i]? = some l → match Lookup.firstChain (ls.take i) l.key with
        | some c => l.result = .ok c ∧ l.after = l.before
        | .none => Constructs n p l := by
  obtain ⟨q, keeps⟩ := history.kept there none
  refine ⟨q, keeps, fun i l found => ?_⟩
  obtain ⟨before, ran⟩ := history.upto found
  obtain ⟨q', earlier⟩ := before.kept there none
  have comes := (earlier.came ran).2
  change match Lookup.firstChain (ls.take i) l.key with
    | some c => l.Meets c
    | .none => Constructs n p l at comes
  cases first : Lookup.firstChain (ls.take i) l.key with
  | none => rwa [first] at comes
  | some c =>
    rw [first] at comes
    obtain ⟨own, mem⟩ := earlier.routes l.key c (by rw [earlier.chains, first])
    obtain ⟨b, came, same⟩ := List.mem_map.mp mem
    have route : b.route = l.route :=
      apart b (List.mem_of_mem_take came) l (List.mem_of_getElem? found)
        (by rw [Lookup.key, same, own])
    exact ⟨comes.result.trans (if_pos (by rw [← same, route])), comes.after⟩

/-- **A chain is built until it has been built once.** Whatever calls come to a proxy that has no
chains at first, in whatever contexts and tables, each of them tries to build the chain of its method
as long as no earlier one has succeeded, and uses that chain from then on without a look at anything
else. The methods with a chain are those for which one was built. A call whose chain cannot be built
ends with the reason and does nothing else; polling and dropping do not ask for chains. -/
theorem built_once {p : Proxy} {w v : World} {ls : List Lookup} (there : w.proxies[n]? = some p)
    (none : p.cache = .empty) (history : History n w ls v)
    (apart : ∀ l ∈ ls, ∀ l' ∈ ls, l.key = l'.key → l.route = l'.route) :
    (∀ i l, ls[i]? = some l → match Lookup.firstChain (ls.take i) l.key with
      | some c => l.result = .ok c ∧ l.after = l.before
      | .none => Constructs n p l) ∧
    (∃ q, v.proxies[n]? = some q ∧ (∀ key, q.cache.find? key = Lookup.firstChain ls key) ∧
      q.cached = (Lookup.methods ls).card) ∧
    (∀ r args u,
      (∃ others, History n u (lookup n r u :: others) ((call n r args).run u).2) ∧
      (∃ others, History n u (lookup n r u :: others) ((start n r args).run u).2) ∧
      ∀ halt, (lookup n r u).result = .error halt →
        (call n r args).run u = (halt.reply, (lookup n r u).after) ∧
        (start n r args).run u = (halt.started, (lookup n r u).after)) ∧
    ∀ r args o, Started n r args o → ∀ u,
      History n u [] (o.poll.run u).2 ∧ History n u [] (o.drop.run u).2 := by
  obtain ⟨q, keeps, each⟩ := history.keeps there none apart
  refine ⟨each, ⟨q, keeps.there, keeps.chains, keeps.size⟩, fun r args u => ?_, fun r args o so u => ?_⟩
  · refine ⟨history_call r args u, history_start r args u, fun halt failed => ?_⟩
    exact ⟨run_call_of_error args failed, run_start_of_error args failed⟩
  · obtain ⟨polled, dropped⟩ := so.tracked.still u
    exact ⟨(History.start u).elsewhere (by rw [polled]),
      (History.start u).elsewhere (by rw [dropped])⟩

/-- Calls that fail are to fall back to a service that somebody has to register. -/
def reliance : List Declaration :=
  [.interface (.fallback [⟨.managed ⟨"Spare", none⟩, .anyFault⟩])]

def reliant : Proxy := ⟨Catalog.svc, 0, 0, 0, .empty⟩

/-- The service is not registered yet. -/
def bare : World :=
  { World.empty with
    tables := #[.ofDeclarations reliance]
    contexts := #[.empty none .inner]
    proxies := #[reliant]
    services := #[⟨"first", [.ofEnding (.fault (.io "closed"))], 0⟩,
      ⟨"second", [.ofEnding (.value (.int 7))], 0⟩] }

def vain : Lookup := lookup 0 Catalog.get bare

/-- It is registered after a first call has come. -/
def stocked : World := ((Context.keep 0 "Spare" (.service Catalog.svcName 1)).run vain.after).2

def building : Lookup := lookup 0 Catalog.get stocked

def returning : Lookup := lookup 0 Catalog.get building.after

/-- The first call fails for want of the service, the second one builds the chain, and the third one
finds it. -/
theorem built_once_stocked :
    vain.result = .error (.fault (.noDefault "Spare")) ∧ Constructs 0 reliant vain ∧
    Constructs 0 reliant building ∧
    returning.result = .ok ⟨Catalog.get, 0, [.fallback [⟨.service 1, .anyFault⟩]]⟩ ∧
    returning.after = returning.before ∧
    ∃ q, returning.after.proxies[0]? = some q ∧ q.cached = 1 := by
  have before : History 0 bare [vain] stocked :=
    (history_lookup 0 Catalog.get bare).elsewhere rfl
  have since : History 0 stocked [building, returning] returning.after :=
    (history_lookup 0 Catalog.get stocked).trans (history_lookup 0 Catalog.get building.after)
  have history : History 0 bare [vain, building, returning] returning.after := before.trans since
  have alike : ∀ l ∈ [vain, building, returning], l.route = Catalog.get := by
    simp [vain, building, returning, lookup]
  have apart : ∀ l ∈ [vain, building, returning], ∀ l' ∈ [vain, building, returning],
      l.key = l'.key → l.route = l'.route :=
    fun l mem l' mem' _ => (alike l mem).trans (alike l' mem').symm
  have there : bare.proxies[0]? = some reliant := rfl
  obtain ⟨each, ⟨q, kept, -, size⟩, -, -⟩ := built_once there rfl history apart
  have first : Constructs 0 reliant vain := each 0 vain rfl
  have second : Constructs 0 reliant building := each 1 building rfl
  have third : returning.result = .ok ⟨Catalog.get, 0, [.fallback [⟨.service 1, .anyFault⟩]]⟩ ∧
    returning.after = returning.before := each 2 returning rfl
  exact ⟨rfl, first, second, third.1, third.2, q, kept, size⟩

end Proxy

end CallGuard
