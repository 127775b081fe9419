import CallGuard.Proofs.Chain.Setup

/-!
# How a guard is looked up

A context that keeps a guard of the name hands it out, and nothing else happens. Otherwise the
configuration is asked for, the guard is made and kept; if either fails, nothing is kept. Guards of
other kinds and in other contexts have nothing to do with it. Main statements:
`Primitive.run_fetch_of_find?`, `Primitive.makes_fetch` and `Primitive.spares_fetch`.
-/

namespace CallGuard

namespace Primitive

/-- The guards of the kind that the context of that number keeps, if there is such a context. -/
def stock (k : Primitive) (n : Nat) (w : World) : Option (Registry String k.Guard) :=
  (w.contexts[n]?).map k.kind.guards

/-- The context keeps the guards of the kind that it has kept. -/
def Spares (k : Primitive) (n : Nat) (w v : World) : Prop := k.stock n v = k.stock n w

variable {k : Primitive} {n : Nat} {w v : World} {kept : Registry String k.Guard}

theorem stock_update (number : Nat) (f : Context → Context) (w : World) :
    k.stock n ((Context.update number f).run w).2 =
      if number = n then (w.contexts[n]?).map fun c => k.kind.guards (f c) else k.stock n w := by
  change ((w.contexts.modify number f)[n]?).map k.kind.guards = _
  rw [Array.getElem?_modify]
  by_cases own : number = n
  · rw [if_pos own, if_pos own, Option.map_map]
    rfl
  · rw [if_neg own, if_neg own, stock]

theorem spares_update {number : Nat} {f : Context → Context}
    (same : number = n → ∀ c, k.kind.guards (f c) = k.kind.guards c) (w : World) :
    k.Spares n w ((Context.update number f).run w).2 := by
  rw [Spares, stock_update]
  by_cases own : number = n
  · rw [if_pos own, stock]
    exact congrArg (Option.map · w.contexts[n]?) (funext (same own))
  · rw [if_neg own]

theorem Spares.of_contexts (same : v.contexts = w.contexts) : k.Spares n w v := by
  rw [Spares, stock, same, stock]

/-- Instances are looked up and made without a change to the guards that are kept. -/
theorem allows_spares (k : Primitive) (n : Nat) : World.Allows (k.Spares n) where
  refl _ := rfl
  trans first second := Eq.trans second first
  written _ _ _ := .of_contexts rfl
  counted _ _ := .of_contexts rfl
  shared _ _ := .of_contexts rfl
  enrolled _ _ := .of_contexts rfl
  kept w _ _ _ := spares_update (fun _ c => k.guards_instances c _) w

/-- A guard that the context is to keep is kept. -/
theorem stock_insert (stocked : k.stock n w = some kept) (name : String) (g : k.Guard) :
    k.stock n ((Context.update n fun c =>
      k.kind.setGuards c ((k.kind.guards c).insert name g)).run w).2 =
        some (kept.insert name g) := by
  obtain ⟨c, there, rfl⟩ := Option.map_eq_some_iff.mp stocked
  rw [stock_update, if_pos rfl, there, Option.map_some, guards_setGuards]

theorem contexts_make (k : Primitive) (name : String) (c : k.Config) (w : World) :
    ((k.kind.make name c).run.run w).2.contexts = w.contexts := by
  rcases k.run_make name c w with ⟨-, g, v, made, -, contexts, -⟩ | ⟨-, text, made⟩
  · rw [made]
    exact contexts
  · rw [made]

theorem settings_of_make {name : String} {c : k.Config} {g : k.Guard}
    (made : (k.kind.make name c).run.run w = (.ok g, v)) : k.settings g = (name, c) := by
  rcases k.run_make name c w with ⟨-, h, x, ran, settings, -⟩ | ⟨-, text, ran⟩
  · rw [made] at ran
    cases ran
    exact settings
  · rw [made] at ran
    cases ran

/-- A guard of another kind, or in another context, is another matter. -/
theorem allowed_spares {other : Primitive} {m : Nat} (apart : other ≠ k ∨ m ≠ n) :
    other.kind.Allowed (k.Spares n) m where
  made name c w := .of_contexts (other.contexts_make name c w)
  kept w name g := by
    refine spares_update (fun own c => ?_) w
    rcases apart with kind | context
    · exact guards_setGuards_of_ne kind c _
    · exact absurd own context

theorem spares_fetch {other : Primitive} {m : Nat} (apart : other ≠ k ∨ m ≠ n)
    (p : GuardPolicy other.Config) : (other.kind.fetch m p).Leads (k.Spares n) :=
  GuardKind.leads_fetch (k.allows_spares n) (allowed_spares apart) p

/-- What a configuration comes from: from the policy's provider, which is asked for it; or else from
the policy itself; or else it is the standard one. -/
inductive Configures (k : Primitive) (n : Nat) (p : GuardPolicy k.Config) (w : World) :
    k.Config → World → Prop where
  | provided {ref : InstanceRef} {q : Provider} {c : k.Config} {v : World}
      (names : p.provider = some ref) (found : (ref.lookup n).run.run w = (.ok (.provider q), v))
      (fits : k.kind.provided? q.config = some c) :
      Configures k n p w c (v.append [.configAsked q.type])
  | own {c : k.Config} (alone : p.provider = none) (given : p.config = some c) : Configures k n p w c w
  | standard (alone : p.provider = none) (silent : p.config = none) :
      Configures k n p w k.kind.standard w

variable {p : GuardPolicy k.Config}

theorem configures_of_config {c : k.Config} (ran : (k.kind.config n p).run.run w = (.ok c, v)) :
    k.Configures n p w c v := by
  unfold GuardKind.config at ran
  cases names : p.provider with
  | none =>
    rw [names] at ran
    cases ran
    cases given : p.config with
    | some c => exact .own names given
    | none => exact .standard names given
  | some ref =>
    rw [names] at ran
    obtain ⟨⟨type, d⟩, u, found, asked⟩ := Build.bind_ok_iff.mp ran
    obtain ⟨i, x, looked, fits⟩ := Build.bind_ok_iff.mp found
    cases i with
    | provider q =>
      cases provided : k.kind.provided? q.config with
      | some e =>
        simp only [Instance.provider?, Option.bind_some, provided, Option.map_some] at fits
        cases fits
        rw [Build.run_bind] at asked
        cases asked
        change k.Configures n p w c (u.write _)
        rw [World.write_eq_append]
        exact .provided names looked provided
      | none =>
        simp only [Instance.provider?, Option.bind_some, provided, Option.map_none] at fits
        cases fits
    | service | mapper | text | number | word => cases fits

/-- What comes of a lookup when the context has no guard of the name. -/
inductive Makes (k : Primitive) (n : Nat) (p : GuardPolicy k.Config) (w : World) :
    Except Halt k.Guard → World → Prop where
  | unconfigured {halt : Halt} {v : World}
      (failed : (k.kind.config n p).run.run w = (.error halt, v)) : Makes k n p w (.error halt) v
  | unmade {c : k.Config} {text : String} {v : World} (configured : k.Configures n p w c v)
      (never : ¬ k.CanMake c) : Makes k n p w (.error (.crash text)) v
  | made {c : k.Config} {g : k.Guard} {u v : World} (configured : k.Configures n p w c u)
      (can : k.CanMake c) (made : (k.kind.make p.name c).run.run u = (.ok g, v))
      (settings : k.settings g = (p.name, c)) :
      Makes k n p w (.ok g) ((Context.update n fun c =>
        k.kind.setGuards c ((k.kind.guards c).insert p.name g)).run v).2

theorem Configures.spares {c : k.Config} (h : k.Configures n p w c v) : k.Spares n w v := by
  cases h with
  | @provided ref q c u names found fits =>
    have looked := ref.leads_lookup (k.allows_spares n) n w
    rw [found] at looked
    exact looked
  | own | standard => rfl

namespace Makes

variable {result : Except Halt k.Guard}

/-- A failure leaves the guards as they are. -/
theorem spares (h : k.Makes n p w result v) {halt : Halt} (failed : result = .error halt) :
    k.Spares n w v := by
  cases h with
  | unconfigured asked =>
    have looked := k.kind.leads_config (k.allows_spares n) n p w
    rw [asked] at looked
    exact looked
  | unmade configured => exact configured.spares
  | made => cases failed

/-- A guard that is made is kept under the name. -/
theorem stock_eq (h : k.Makes n p w result v) (stocked : k.stock n w = some kept) {g : k.Guard}
    (ok : result = .ok g) :
    k.stock n v = some (kept.insert p.name g) ∧ (k.settings g).1 = p.name := by
  cases h with
  | unconfigured | unmade => cases ok
  | @made c g u v configured can made settings =>
    cases ok
    have same := k.contexts_make p.name c u
    rw [made] at same
    have before : k.stock n v = some kept :=
      (Spares.of_contexts same).trans (configured.spares.trans stocked)
    exact ⟨stock_insert before p.name g, by rw [settings]⟩

end Makes

/-- The guard of the name is handed out, and nothing else happens. -/
theorem run_fetch_of_find? {g : k.Guard} (stocked : k.stock n w = some kept)
    (found : kept.find? p.name = some g) : (k.kind.fetch n p).run.run w = (.ok g, w) := by
  obtain ⟨c, there, rfl⟩ := Option.map_eq_some_iff.mp stocked
  rw [GuardKind.fetch, Build.run_bind, Build.run_read, there]
  simp only [Option.getD_some, found]
  rfl

theorem makes_fetch (stocked : k.stock n w = some kept) (absent : kept.find? p.name = none) :
    k.Makes n p w ((k.kind.fetch n p).run.run w).1 ((k.kind.fetch n p).run.run w).2 := by
  obtain ⟨c, there, rfl⟩ := Option.map_eq_some_iff.mp stocked
  rw [GuardKind.fetch, Build.run_bind, Build.run_read, there]
  simp only [Option.getD_some, absent, Build.run_bind]
  rcases configured : (k.kind.config n p).run.run w with ⟨halt | c, u⟩
  · exact .unconfigured configured
  · have configured := configures_of_config configured
    rcases k.run_make p.name c u with ⟨can, g, v, made, settings, -⟩ | ⟨never, text, made⟩
    · simp only [made]
      exact .made configured can made settings
    · simp only [made]
      exact .unmade configured never

/-- The provider that the policy names, if it is not registered beforehand, is one of configurations
of the kind. -/
def Typed (k : Primitive) (p : GuardPolicy k.Config) : Prop :=
  ∀ ref recipe, p.provider = some ref → ref.recipe = some recipe →
    ∃ q, recipe.product = .provider q ∧ (k.kind.provided? q.config).isSome

/-- A provider that is looked up is made as it should be, or nothing is made. -/
theorem run_lookup_of_typed {ref : InstanceRef} (typed : k.Typed p) (names : p.provider = some ref)
    (w : World) : (∃ result, (ref.lookup n).run.run w = (result, w)) ∨
      ∃ q v, (ref.lookup n).run.run w = (.ok (.provider q), v) ∧
        (k.kind.provided? q.config).isSome := by
  rw [InstanceRef.lookup, Context.fetch, Build.run_bind, Build.run_read]
  simp only
  cases ((w.contexts[n]?).getD default).instances.find? ref.type with
  | some i => exact .inl ⟨_, rfl⟩
  | none =>
    rw [InstanceRef.construct, Build.run_bind]
    cases made : ref.recipe with
    | none => exact .inl ⟨_, rfl⟩
    | some recipe =>
      obtain ⟨q, product, fits⟩ := typed ref recipe names made
      have makes : ∃ u, (recipe.make n ref.type).run.run w = (.ok (.provider q), u) := by
        unfold Recipe.make
        rw [product]
        cases recipe.announced <;> exact ⟨_, rfl⟩
      obtain ⟨u, makes⟩ := makes
      simp only [Context.run_constructing, makes]
      exact .inr ⟨q, _, rfl, fits⟩

/-- A provider that can be made hands out its configuration, and one that is not registered is not
made: when the configuration fails, nothing has been done. -/
theorem eq_of_config_error {halt : Halt} (typed : k.Typed p)
    (failed : (k.kind.config n p).run.run w = (.error halt, v)) : v = w := by
  unfold GuardKind.config at failed
  cases names : p.provider with
  | none =>
    rw [names] at failed
    cases failed
  | some ref =>
    rw [names] at failed
    rcases Build.bind_error_iff.mp failed with found | ⟨_, _, -, asked⟩
    · rcases run_lookup_of_typed typed names w with ⟨result, looked⟩ | ⟨q, u, looked, fits⟩
      · rcases Build.bind_error_iff.mp found with missing | ⟨i, x, there, unfit⟩
        · rw [looked] at missing
          cases missing
          rfl
        · rw [looked] at there
          cases there
          split at unfit
          next => cases unfit
          next =>
            cases unfit
            rfl
      · rcases Build.bind_error_iff.mp found with missing | ⟨i, x, there, unfit⟩
        · rw [looked] at missing
          cases missing
        · rw [looked] at there
          cases there
          obtain ⟨c, provided⟩ := Option.isSome_iff_exists.mp fits
          simp only [Instance.provider?, Option.bind_some, provided, Option.map_some] at unfit
          cases unfit
    · cases asked

/-- When the provider is what it should be, a request that fails has done nothing at all before it has
got a configuration. -/
theorem Makes.eq_of_typed {result : Except Halt k.Guard} (h : k.Makes n p w result v) {halt : Halt}
    (failed : result = .error halt) (typed : k.Typed p) :
    v = w ∨ ∃ c, k.Configures n p w c v ∧ ¬ k.CanMake c := by
  cases h with
  | unconfigured asked => exact .inl (eq_of_config_error typed asked)
  | unmade configured never => exact .inr ⟨_, configured, never⟩
  | made => cases failed

end Primitive

end CallGuard
