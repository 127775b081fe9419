import CallGuard.Proofs.Context.Requests

/-!
# One guard for a name

Whoever asks a context for a guard of a name gets the one that was registered last under the name, or
else the first one that could be made when it was asked for. What later policies say of the name does
not matter to anybody.

Main statement: `Primitive.one_guard_each`.
-/

namespace CallGuard

namespace Primitive

/-- The guards that have been registered in the context, in this order, before anybody asked for one. -/
inductive Registers (k : Primitive) (n : Nat) : List k.Guard → World → Prop where
  | fresh {w : World} (empty : k.stock n w = some .empty) : Registers k n [] w
  | elsewhere {gs : List k.Guard} {u v : World} (so : Registers k n gs u) (same : k.Spares n u v) :
      Registers k n gs v
  | registered {gs : List k.Guard} {u v x : World} {name : String} {c : k.Config} {g : k.Guard}
      (so : Registers k n gs u) (made : (k.kind.make name c).run.run u = (.ok g, x))
      (ran : (k.kind.register n name c).run.run u = (.ok (), v)) : Registers k n (gs ++ [g]) v

variable {k : Primitive} {n : Nat} {u w v : World} {name : String}

/-- The last of the guards that has the name. -/
def lastNamed (gs : List k.Guard) (name : String) : Option k.Guard :=
  gs.reverse.find? fun g => (k.settings g).1 = name

namespace Request

/-- The guard that the request has got for the name. -/
def guard? (l : k.Request) (name : String) : Option k.Guard :=
  if l.policy.name = name then l.result.toOption else none

/-- The first guard that any of the requests has got for the name. -/
def firstGuard (ls : List k.Request) (name : String) : Option k.Guard :=
  ls.findSome? (·.guard? name)

theorem firstGuard_append_singleton (ls : List k.Request) (l : k.Request) (name : String) :
    firstGuard (ls ++ [l]) name = (firstGuard ls name).or (l.guard? name) := by
  simp [firstGuard, List.findSome?_append]

end Request

/-- The context keeps these guards, each under its name. -/
def Keeps (k : Primitive) (n : Nat) (w : World) (guards : String → Option k.Guard) : Prop :=
  ∃ kept, k.stock n w = some kept ∧ (∀ name, kept.find? name = guards name) ∧
    ∀ name g, guards name = some g → (k.settings g).1 = name

theorem Keeps.elsewhere {guards : String → Option k.Guard} (h : k.Keeps n u guards)
    (same : k.Spares n u v) : k.Keeps n v guards := by
  obtain ⟨kept, stocked, found, named⟩ := h
  exact ⟨kept, Eq.trans same stocked, found, named⟩

theorem Keeps.congr {guards others : String → Option k.Guard} (h : k.Keeps n u guards)
    (same : ∀ name, others name = guards name) : k.Keeps n u others := by
  rwa [funext same]

/-- A guard is kept under its name in place of any earlier one. -/
theorem Keeps.insert {guards : String → Option k.Guard} {kept : Registry String k.Guard} {g : k.Guard}
    (found : ∀ name, kept.find? name = guards name)
    (named : ∀ name g, guards name = some g → (k.settings g).1 = name)
    (own : (k.settings g).1 = name) (stocked : k.stock n v = some (kept.insert name g)) :
    k.Keeps n v fun other => if name = other then some g else guards other := by
  refine ⟨_, stocked, fun other => ?_, fun other h got => ?_⟩
  · rw [Registry.find?_insert, found]
  · dsimp only at got
    split at got
    next same =>
      cases got
      exact own.trans same
    next => exact named other h got

theorem Registers.keeps {gs : List k.Guard} (h : k.Registers n gs w) :
    k.Keeps n w (lastNamed gs) := by
  induction h with
  | fresh empty => exact ⟨_, empty, fun _ => rfl, fun _ _ => nofun⟩
  | elsewhere _ same ih => exact ih.elsewhere same
  | @registered gs u v x name c g _ made ran ih =>
    obtain ⟨kept, stocked, found, named⟩ := ih
    have settings := settings_of_make made
    have same := k.contexts_make name c u
    rw [made] at same
    rw [GuardKind.register, Build.run_bind, made] at ran
    cases ran
    have now := stock_insert ((Spares.of_contexts same).trans stocked) name g
    refine (Keeps.insert found named (by rw [settings]) now).congr fun other => ?_
    rw [lastNamed, List.reverse_append, List.reverse_singleton, List.singleton_append,
      List.find?_cons, settings]
    by_cases own : name = other
    · simp [own]
    · simp [own, lastNamed]

/-- What comes of a request when the guards that are kept are these: it gets the one of the name and
does nothing else, or tries to make one. -/
def Settles (k : Primitive) (n : Nat) (guards : String → Option k.Guard) (l : k.Request) : Prop :=
  match guards l.policy.name with
  | some g => l.result = .ok g ∧ l.after = l.before
  | none => k.Makes n l.policy l.before l.result l.after

/-- One more request is settled by the guards that are kept, and may add one. -/
theorem Keeps.asked {guards : String → Option k.Guard} {p : GuardPolicy k.Config}
    {result : Except Halt k.Guard} (h : k.Keeps n u guards)
    (ran : (k.kind.fetch n p).run.run u = (result, v)) :
    k.Settles n guards ⟨p, u, result, v⟩ ∧
      k.Keeps n v fun name => (guards name).or (Request.guard? ⟨p, u, result, v⟩ name) := by
  obtain ⟨kept, stocked, found, named⟩ := h
  unfold Settles
  cases there : guards p.name with
  | some g =>
    rw [run_fetch_of_find? stocked ((found p.name).trans there)] at ran
    cases ran
    refine ⟨⟨rfl, rfl⟩, Keeps.congr ⟨kept, stocked, found, named⟩ fun name => ?_⟩
    by_cases own : p.name = name
    · rw [← own, there, Option.some_or]
    · simp [Request.guard?, own]
  | none =>
    have makes := makes_fetch stocked ((found p.name).trans there)
    rw [ran] at makes
    refine ⟨makes, ?_⟩
    cases result with
    | error halt =>
      refine (Keeps.elsewhere ⟨kept, stocked, found, named⟩ (makes.spares rfl)).congr fun name => ?_
      simp [Request.guard?, Except.toOption]
    | ok g =>
      obtain ⟨now, own⟩ := makes.stock_eq stocked rfl
      refine (Keeps.insert found named own now).congr fun name => ?_
      by_cases same : p.name = name
      · subst same
        simp [Request.guard?, there, Except.toOption]
      · simp [Request.guard?, same]

theorem Uses.keeps {guards : String → Option k.Guard} {ls : List k.Request}
    (uses : k.Uses n w ls v) (first : k.Keeps n w guards) :
    (∀ i l, ls[i]? = some l →
      k.Settles n (fun name => (guards name).or (Request.firstGuard (ls.take i) name)) l) ∧
    k.Keeps n v fun name => (guards name).or (Request.firstGuard ls name) := by
  induction uses with
  | start =>
    refine ⟨fun i l found => ?_, first.congr fun name => Option.or_none⟩
    rw [List.getElem?_nil] at found
    cases found
  | elsewhere _ same ih => exact ⟨ih.1, ih.2.elsewhere same⟩
  | @asked u v ls p result _ ran ih =>
    obtain ⟨each, keeps⟩ := ih
    obtain ⟨last, after⟩ := keeps.asked ran
    constructor
    · intro i l found
      rcases Nat.lt_or_ge i ls.length with inside | beyond
      · rw [List.getElem?_append_left inside] at found
        rw [List.take_append_of_le_length (Nat.le_of_lt inside)]
        exact each i l found
      · rw [List.getElem?_append_right beyond, List.getElem?_singleton] at found
        split at found
        next only =>
          cases found
          rw [Nat.le_antisymm (Nat.sub_eq_zero_iff_le.mp only) beyond, List.take_left]
          exact last
        next => cases found
    · refine after.congr fun name => ?_
      rw [Request.firstGuard_append_singleton, Option.or_assoc]

/-- The guard that the context hands out under the name: the one registered last, or else the first
that any of the requests has got. -/
def served (gs : List k.Guard) (ls : List k.Request) (name : String) : Option k.Guard :=
  (lastNamed gs name).or (Request.firstGuard ls name)

theorem served_append (gs : List k.Guard) (before : List k.Request) (l : k.Request)
    (after : List k.Request) (name : String) :
    served gs (before ++ l :: after) name =
      ((served gs before name).or (l.guard? name)).or (Request.firstGuard after name) := by
  simp only [served, Request.firstGuard, List.findSome?_append, List.findSome?_cons,
    Option.or_assoc]
  cases l.guard? name <;> rfl

theorem served_of_getElem? {gs : List k.Guard} {ls : List k.Request} {i : Nat} {l : k.Request}
    {g : k.Guard} (at_i : ls[i]? = some l) (settles : k.Settles n (served gs (ls.take i)) l)
    (got : l.result = .ok g) : served gs ls l.policy.name = some g := by
  have own : l.guard? l.policy.name = some g := by
    rw [Request.guard?, if_pos rfl, got]
    rfl
  obtain ⟨inside, there⟩ := List.getElem?_eq_some_iff.mp at_i
  have split : ls = ls.take i ++ l :: ls.drop (i + 1) := by
    rw [← there, ← List.drop_eq_getElem_cons inside, List.take_append_drop]
  have all : served gs ls l.policy.name = ((served gs (ls.take i) l.policy.name).or
      (l.guard? l.policy.name)).or (Request.firstGuard (ls.drop (i + 1)) l.policy.name) :=
    (congrArg (served gs · l.policy.name) split).trans (served_append gs _ l _ _)
  rw [all, own]
  unfold Settles at settles
  cases before : served gs (ls.take i) l.policy.name with
  | none => rfl
  | some h =>
    rw [before] at settles
    rw [settles.1] at got
    cases got
    rfl

theorem served_of_mem {gs : List k.Guard} {ls : List k.Request} {l : k.Request} {g : k.Guard}
    (registered : k.Registers n gs w) (uses : k.Uses n w ls v) (mem : l ∈ ls)
    (got : l.result = .ok g) :
    served gs ls l.policy.name = some g ∧ (k.settings g).1 = l.policy.name := by
  obtain ⟨each, -, -, -, named⟩ := uses.keeps registered.keeps
  obtain ⟨i, at_i⟩ := List.mem_iff_getElem?.mp mem
  have own := served_of_getElem? at_i (each i l at_i) got
  exact ⟨own, named _ g own⟩

theorem Settles.failed {guards : String → Option k.Guard} {l : k.Request} {halt : Halt}
    (settles : k.Settles n guards l) (failed : l.result = .error halt) :
    k.Spares n l.before l.after ∧ (k.Typed l.policy → l.after = l.before ∨
      ∃ c, k.Configures n l.policy l.before c l.after ∧ ¬ k.CanMake c) := by
  unfold Settles at settles
  cases kept : guards l.policy.name with
  | some g =>
    rw [kept, failed] at settles
    cases settles.1
  | none =>
    rw [kept] at settles
    exact ⟨settles.spares failed, settles.eq_of_typed failed⟩

/-- **A context has one guard of a kind for a name.** It is the one that was registered last under the
name, or else the one that was made by the first request for it that could get a configuration, and
could make a guard of it: with the configuration of its policy's provider, or its own, or the standard
one. Whoever asks for the name later gets that guard, and nobody is asked for a configuration. A
request that fails leaves the guards as they are; if the provider is what it should be, nothing is
done at all before a configuration has been got. Building a chain is nothing but such requests, by the
policies of the table; the layers hold what the context keeps under their names, then and ever after.
Chains of other contexts, and requests for guards there or of other kinds, have nothing to do with
it. -/
theorem one_guard_each {gs : List k.Guard} {ls : List k.Request} (registered : k.Registers n gs w)
    (uses : k.Uses n w ls v) :
    (∃ kept, k.stock n v = some kept ∧ ∀ name, kept.find? name = served gs ls name) ∧
    (∀ l ∈ ls, ∀ g, l.result = .ok g →
      served gs ls l.policy.name = some g ∧ (k.settings g).1 = l.policy.name) ∧
    (∀ i l, ls[i]? = some l → match served gs (ls.take i) l.policy.name with
      | some g => l.result = .ok g ∧ l.after = l.before
      | none => k.Makes n l.policy l.before l.result l.after) ∧
    (∀ l ∈ ls, ∀ halt, l.result = .error halt →
      k.Spares n l.before l.after ∧ (k.Typed l.policy → l.after = l.before ∨
        ∃ c, k.Configures n l.policy l.before c l.after ∧ ¬ k.CanMake c)) ∧
    (∀ (p : Proxy) (r : Route) result x, (p.build r).run.run v = (result, x) →
      (p.context = n →
        k.Serves n (k.Declared (p.policies v) r.method) v x
          ((result.toOption.map Chain.layers).getD []) ∧
        ∀ c, result = .ok c → ∀ layer ∈ c.layers, ∀ g, k.guard? layer = some g →
          ∀ later y, k.Uses n x later y →
            ∃ kept, k.stock n y = some kept ∧ kept.find? (k.settings g).1 = some g) ∧
      (p.context ≠ n → k.Spares n v x)) ∧
    ∀ (other : Primitive) (m : Nat), other ≠ k ∨ m ≠ n → ∀ q,
      k.Spares n v ((other.kind.fetch m q).run.run v).2 := by
  obtain ⟨each, kept, stocked, found, -⟩ := uses.keeps registered.keeps
  refine ⟨⟨kept, stocked, found⟩, fun l mem g got => served_of_mem registered uses mem got, each, ?_,
    fun p r result x ran => ⟨fun here => ?_, fun there => ?_⟩,
    fun other m apart q => spares_fetch apart q v⟩
  · intro l mem halt failed
    obtain ⟨i, at_i⟩ := List.mem_iff_getElem?.mp mem
    exact Settles.failed (each i l at_i) failed
  · have serves := serves_build (k := k) here ran
    refine ⟨serves, fun c built layer mem g holds later y after => ?_⟩
    subst built
    obtain ⟨more, asked, -, handed⟩ := serves
    obtain ⟨l, there, got⟩ := handed layer mem g holds
    have whole := (uses.trans asked).trans after
    have within : l ∈ ls ++ more ++ later :=
      List.mem_append_left _ (List.mem_append_right _ there)
    obtain ⟨own, named⟩ := served_of_mem registered whole within got
    obtain ⟨-, kept, stocked, found, -⟩ := whole.keeps registered.keeps
    refine ⟨kept, stocked, ?_⟩
    rw [named]
    exact (found _).trans own
  · have spared := spares_build (k := k) there r v
    rw [ran] at spared
    exact spared

/-- A request as it goes in that world. -/
def requested (k : Primitive) (n : Nat) (p : GuardPolicy k.Config) (u : World) : k.Request :=
  ⟨p, u, ((k.kind.fetch n p).run.run u).1, ((k.kind.fetch n p).run.run u).2⟩

theorem Uses.requested {ls : List k.Request} (uses : k.Uses n w ls u) (p : GuardPolicy k.Config) :
    k.Uses n w (ls ++ [k.requested n p u]) (k.requested n p u).after := uses.asked rfl

def desks (capacity : Nat) : BulkheadConfig := .ofSettings [.capacity capacity]

/-- A context in which nothing has been done. -/
def office : World := { World.empty with contexts := #[.empty none .inner] }

/-- Two bulkheads have been registered under one name. -/
def furnished : World :=
  let once := ((Bulkhead.kind.register 0 "desk" (desks 2)).run.run office).2
  ((Bulkhead.kind.register 0 "desk" (desks 3)).run.run once).2

theorem registers_furnished :
    Registers .bulkhead 0 [⟨"desk", desks 2, 0⟩, ⟨"desk", desks 3, 1⟩] furnished := by
  have none : Registers .bulkhead 0 [] office := .fresh rfl
  have one : Registers .bulkhead 0 [⟨"desk", desks 2, 0⟩] _ := none.registered (c := desks 2) rfl rfl
  exact one.registered (c := desks 3) rfl rfl

def seated : Request .bulkhead := requested .bulkhead 0 ⟨"desk", some (desks 9), none⟩ furnished

def lost : Request .bulkhead :=
  requested .bulkhead 0 ⟨"door", none, some ⟨"Missing", none⟩⟩ seated.after

def opened : Request .bulkhead :=
  requested .bulkhead 0 ⟨"door", some (desks 4), none⟩ lost.after

def followed : Request .bulkhead :=
  requested .bulkhead 0 ⟨"door", some (desks 9), some ⟨"Missing", none⟩⟩ opened.after

/-- Who asks for the desk gets the one that was registered last. The door is not made while the provider
of its configuration is missing; when it has been made, the provider does not matter any more. -/
theorem one_guard_each_furnished :
    seated.result = .ok ⟨"desk", desks 3, 1⟩ ∧ Spares .bulkhead 0 lost.before lost.after ∧
      Makes .bulkhead 0 opened.policy opened.before opened.result opened.after ∧
      followed.result = .ok ⟨"door", desks 4, 2⟩ ∧ followed.after = followed.before := by
  have uses : Uses .bulkhead 0 furnished [seated, lost, opened, followed] followed.after :=
    ((((Uses.start furnished).requested _).requested _).requested _).requested _
  obtain ⟨-, -, each, failed, -⟩ := one_guard_each registers_furnished uses
  have first : seated.result = .ok ⟨"desk", desks 3, 1⟩ ∧ _ := each 0 seated rfl
  have third : Makes .bulkhead 0 opened.policy opened.before opened.result opened.after :=
    each 2 opened rfl
  have fourth : followed.result = .ok ⟨"door", desks 4, 2⟩ ∧ followed.after = followed.before :=
    each 3 followed rfl
  have second := failed lost (by simp) (.fault (.noDefault "Missing")) rfl
  exact ⟨first.1, second.1, third, fourth⟩

/-- A bulkhead of more slots than can be kept. -/
def vast : Request .bulkhead :=
  requested .bulkhead 0 ⟨"hall", some (desks (Slots.limit + 1)), none⟩ office

def modest : Request .bulkhead := requested .bulkhead 0 ⟨"hall", none, none⟩ vast.after

/-- The first request has its configuration, but a bulkhead cannot be made of it; the guard that serves
is the one that the second request makes, with another configuration. -/
theorem first_configured_is_not_served :
    Uses .bulkhead 0 office [vast, modest] modest.after ∧
      Configures .bulkhead 0 vast.policy vast.before (desks (Slots.limit + 1)) vast.after ∧
      (∃ text, vast.result = .error (.crash text)) ∧
      modest.result = .ok ⟨"hall", .standard, 0⟩ ∧
      BulkheadConfig.standard.capacity ≠ (desks (Slots.limit + 1)).capacity := by
  refine ⟨((Uses.start office).requested _).requested _, .own rfl rfl, ⟨_, rfl⟩, rfl, by decide⟩

end Primitive

end CallGuard
