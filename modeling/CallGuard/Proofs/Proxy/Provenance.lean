import CallGuard.Proofs.Proxy.Traces

/-!
# Where outcomes come from

The outcome of a call through a chain is that of the target in the last attempt, a rejection by one of
the chain's own guards in that attempt, or what the retry makes of it when no attempt is left; or it is
that of the fallback that is selected for one of these, and a fault among them may be mapped. Nothing
else becomes of it. Main statement: `Chain.provenance`.
-/

namespace CallGuard

namespace Deed

/-- Nothing has been done, or a retry has just announced the next attempt. -/
def IsPause (σ : List Deed) : Prop :=
  σ = [] ∨ ∃ τ attempt wait, σ = τ ++ [.told (.retried attempt wait)]

/-- No retry announces a next attempt. -/
def IsSingle (σ : List Deed) : Prop := ∀ attempt wait, .told (.retried attempt wait) ∉ σ

theorem IsSingle.append {σ τ : List Deed} (first : IsSingle σ) (second : IsSingle τ) :
    IsSingle (σ ++ τ) := by
  intro attempt wait mem
  rcases List.mem_append.mp mem with before | after
  · exact first attempt wait before
  · exact second attempt wait after

/-- In a single attempt there are no earlier ones. -/
theorem IsSingle.eq_nil {σ τ : List Deed} (single : IsSingle (σ ++ τ)) (pause : IsPause σ) :
    σ = [] := by
  rcases pause with rfl | ⟨before, attempt, wait, rfl⟩
  · rfl
  · exact absurd (by simp) (single attempt wait)

end Deed

open Deed

namespace Layer

/-- The layer does nothing to announce attempts. -/
theorem isSingle_refusal (l : Layer) (e : Fault) : IsSingle (l.refusal e) := by
  intro attempt wait mem
  cases l <;> simp [refusal] at mem

theorem isSingle_aftermath (l : Layer) (o : Outcome) : IsSingle (l.aftermath o) := by
  intro attempt wait mem
  cases l <;> simp [aftermath] at mem

/-- The mappers of the layer. -/
def mappers : Layer → List Mapper
  | .exceptions mappers => mappers
  | _ => []

end Layer

theorem BoundFallback.isSingle_scan (m : Method) (o : Outcome) (stages : List BoundFallback) :
    IsSingle (scan m o stages) := by
  induction stages with
  | nil => simp [IsSingle, scan]
  | cons stage rest ih =>
    intro attempt wait mem
    rw [scan] at mem
    split at mem
    · simp at mem
    · exact ih attempt wait (by simpa using mem)

theorem Substitute.Provides.isSingle {o : Outcome} {s : Substitute} {σ : List Deed} {service : Nat}
    (provides : s.Provides o σ service) : IsSingle σ := by
  cases provides <;> simp [IsSingle]

theorem Mapper.isSingle_offers (e : Fault) (mappers : List Mapper) : IsSingle (offers e mappers) := by
  induction mappers with
  | nil => simp [IsSingle, offers]
  | cons mapper rest ih =>
    intro attempt wait mem
    rw [offers] at mem
    split at mem
    · simp at mem
    · exact ih attempt wait (by simpa using mem)

theorem Retry.Closes.isSingle {r : Retry} {attempts : Nat} {last o : Outcome} {label : Option String}
    {h : Happening} (closes : r.Closes attempts last label h o) : IsSingle [.told h] := by
  cases closes <;> simp [IsSingle]

namespace Chain

/-- How a call through the layers has come to its outcome by these deeds: what it has got in the end,
and what each layer has made of that. -/
inductive Origin (m : Method) (service : Nat) : List Layer → List Deed → Outcome → Prop where
  | target (o : Outcome) : Origin m service [] [.called service, .replied service (.ended o)] o
  | refused {l : Layer} {inner : List Layer} {e : Fault} (refuses : l.Refuses e) :
      Origin m service (l :: inner) (l.refusal e) (.fault e)
  | admitted {l : Layer} {inner : List Layer} {σ : List Deed} {o : Outcome}
      (guard : l.capability = .limiter ∨ l.capability = .breaker ∨ l.capability = .bulkhead)
      (within : Origin m service inner σ o) :
      Origin m service (l :: inner) (.granted l.capability :: (σ ++ l.aftermath o)) o
  | attempted {r : Retry} {scheduler : Option Scheduler} {inner : List Layer}
      {earlier σ : List Deed} {attempts : Nat} {last o : Outcome} {label : Option String}
      {h : Happening} (pause : IsPause earlier) (within : Origin m service inner σ last)
      (final : ¬ r.config.Retried last ∨ attempts = r.config.maxAttempts)
      (closes : r.Closes attempts last label h o) :
      Origin m service (.retry r scheduler :: inner) (earlier ++ (σ ++ [.told h])) o
  | kept {stages : List BoundFallback} {inner : List Layer} {σ : List Deed} {o : Outcome}
      (within : Origin m service inner σ o) (nobody : stages.find? (·.Takes m o) = none) :
      Origin m service (.fallback stages :: inner) (σ ++ BoundFallback.scan m o stages) o
  | substituted {stages : List BoundFallback} {inner : List Layer} {σ provided : List Deed}
      {stage : BoundFallback} {number : Nat} {o instead : Outcome}
      (within : Origin m service inner σ o) (first : stages.find? (·.Takes m o) = some stage)
      (provides : stage.substitute.Provides o provided number) :
      Origin m service (.fallback stages :: inner)
        (σ ++ (BoundFallback.scan m o stages ++
          (provided ++ [.called number, .replied number (.ended instead)]))) instead
  | value {mappers : List Mapper} {inner : List Layer} {σ : List Deed} {v : Value}
      (within : Origin m service inner σ (.value v)) :
      Origin m service (.exceptions mappers :: inner) σ (.value v)
  | fault {mappers : List Mapper} {inner : List Layer} {σ : List Deed} {e : Fault}
      (within : Origin m service inner σ (.fault e)) :
      Origin m service (.exceptions mappers :: inner) (σ ++ Mapper.offers e mappers)
        (.fault (Mapper.replacement e mappers))

variable {m : Method} {service : Nat} {layers inner : List Layer} {σ : List Deed} {o : Outcome}

/-- A guard's call ends as its account says. -/
theorem Origin.of_guarded {l : Layer} {A : Account}
    (guard : l.capability = .limiter ∨ l.capability = .breaker ∨ l.capability = .bulkhead)
    (within : ∀ {σ o}, A σ (some o) → Origin m service inner σ o)
    (went : Account.guarded l A σ (some o)) : Origin m service (l :: inner) σ o := by
  cases went with
  | refused refuses => exact .refused refuses
  | ended went => exact .admitted guard (within went)

/-- Of the attempts only the last one decides. -/
theorem exists_last_attempt {r : Retry} {A : Account} {attempts : Nat} {end? : Option Outcome}
    (went : Account.attempted r A attempts σ end?) (ended : end? = some o) :
    ∃ earlier τ count last label h, IsPause earlier ∧ σ = earlier ++ (τ ++ [.told h]) ∧
      A τ (some last) ∧ (¬ r.config.Retried last ∨ count = r.config.maxAttempts) ∧
      r.Closes count last label h o := by
  induction went with
  | idle => cases ended
  | running => cases ended
  | ended went final closes =>
    cases ended
    exact ⟨[], _, _, _, _, _, .inl rfl, rfl, went, final, closes⟩
  | @again attempts σ τ retried _ _ _ _ _ ih =>
    obtain ⟨earlier, last, count, outcome, label, h, pause, rfl, went, final, closes⟩ := ih ended
    let before := σ ++ .told (.retried attempts (r.config.interval.wait attempts)) :: earlier
    refine ⟨before, last, count, outcome, label, h, .inr ?_, ?_, went, final, closes⟩
    · rcases pause with rfl | ⟨between, attempt, wait, rfl⟩
      · exact ⟨_, _, _, rfl⟩
      · exact ⟨σ ++ .told (.retried attempts (r.config.interval.wait attempts)) :: between,
          attempt, wait, by simp [before]⟩
    · simp [before]

/-- What the account says of an outcome is where it comes from. -/
theorem origin_of_account (went : account m service layers σ (some o)) :
    Origin m service layers σ o := by
  induction layers generalizing σ o with
  | nil =>
    cases went
    exact .target o
  | cons l inner ih =>
    cases l with
    | exceptions mappers =>
      cases went with
      | value went => exact .value (ih went)
      | fault went => exact .fault (ih went)
    | retry r scheduler =>
      obtain ⟨earlier, τ, count, last, label, h, pause, rfl, went, final, closes⟩ :=
        exists_last_attempt went rfl
      exact .attempted pause (ih went) final closes
    | limiter limiter scheduler => exact .of_guarded (.inl rfl) ih went
    | breaker b => exact .of_guarded (.inr (.inl rfl)) ih went
    | bulkhead b scheduler => exact .of_guarded (.inr (.inr rfl)) ih went
    | fallback stages =>
      cases went with
      | kept went nobody => exact .kept (ih went) nobody
      | substituted went first provides called =>
        cases called
        exact .substituted (ih went) first provides

/-- Where the outcome comes from that a call through the chain has had before faults are mapped, among
the deeds of its last attempt. -/
inductive Source (c : Chain) (final : List Deed) : Outcome → Prop where
  /-- The target has ended with it. -/
  | target {o : Outcome} (called : [.called c.service, .replied c.service (.ended o)] <:+: final) :
      Source c final o
  /-- The chain's own limiter, breaker or bulkhead has refused the call with it. -/
  | rejection {l : Layer} {e : Fault} (own : l ∈ c.layers) (refuses : l.Refuses e)
      (refused : l.refusal e <:+: final) : Source c final (.fault e)
  /-- The chain's retry has used up its attempts on values that it would not take. -/
  | exceeded {r : Retry} {scheduler : Option Scheduler} (own : .retry r scheduler ∈ c.layers)
      (fails : r.config.failsWhenExhausted = true)
      (told : .told (.exhausted r.config.maxAttempts) ∈ final) :
      Source c final (.fault (.maxRetriesExceeded r.name r.config.maxAttempts))
  /-- The fallback has ended with it that was the first to replace what the call would have had. -/
  | fallback {stages : List BoundFallback} {stage : BoundFallback} {provided : List Deed}
      {number : Nat} {o instead : Outcome} (own : .fallback stages ∈ c.layers)
      (source : Source c final o)
      (first : stages.find? (·.Takes c.route.method o) = some stage)
      (provides : stage.substitute.Provides o provided number)
      (called : BoundFallback.scan c.route.method o stages ++
        (provided ++ [.called number, .replied number (.ended instead)]) <:+: final) :
      Source c final instead

/-- What comes from a part comes from the whole. -/
theorem Source.mono {c : Chain} {part whole : List Deed} (source : c.Source part o)
    (within : part <:+: whole) : c.Source whole o := by
  induction source with
  | target called => exact .target (called.trans within)
  | rejection own refuses refused => exact .rejection own refuses (refused.trans within)
  | exceeded own fails told => exact .exceeded own fails (within.subset told)
  | fallback own _ first provides called ih =>
    exact .fallback own ih first provides (called.trans within)

/-- Without a retry a call is a single attempt. -/
theorem Origin.isSingle (origin : Origin m service layers σ o)
    (absent : .retry ∉ layers.map Stage.capability) : IsSingle σ := by
  induction origin with
  | target o => simp [IsSingle]
  | refused => exact Layer.isSingle_refusal _ _
  | @admitted l inner σ o _ _ ih =>
    have single := ih (mt (List.mem_cons_of_mem _) absent)
    have granted : IsSingle [Deed.granted l.capability] := by simp [IsSingle]
    exact granted.append (single.append (l.isSingle_aftermath o))
  | attempted => exact absurd List.mem_cons_self absent
  | kept _ _ ih =>
    exact (ih (mt (List.mem_cons_of_mem _) absent)).append (BoundFallback.isSingle_scan _ _ _)
  | substituted _ _ provides ih =>
    have single := ih (mt (List.mem_cons_of_mem _) absent)
    refine single.append ((BoundFallback.isSingle_scan _ _ _).append (provides.isSingle.append ?_))
    simp [IsSingle]
  | value _ ih => exact ih (mt (List.mem_cons_of_mem _) absent)
  | fault _ ih => exact (ih (mt (List.mem_cons_of_mem _) absent)).append (Mapper.isSingle_offers _ _)

variable {c : Chain} {placement : Placement}

/-- The outcome has its source in the last attempt. -/
def Explains (c : Chain) (σ : List Deed) (o : Outcome) : Prop :=
  ∃ earlier final, σ = earlier ++ final ∧ IsPause earlier ∧ IsSingle final ∧ c.Source final o

/-- More may be done in the last attempt. -/
theorem Explains.append (explains : c.Explains σ o) {more : List Deed} (single : IsSingle more)
    {last : Outcome} (source : ∀ {final}, c.Source (final ++ more) o → c.Source (final ++ more) last) :
    c.Explains (σ ++ more) last := by
  obtain ⟨earlier, final, rfl, pause, only, came⟩ := explains
  refine ⟨earlier, final ++ more, List.append_assoc _ _ _, pause, only.append single, ?_⟩
  exact source (came.mono (List.prefix_append final more).isInfix)

/-- A single attempt explains its outcome by what is done in it. -/
theorem Explains.source (explains : c.Explains σ o) (single : IsSingle σ) : c.Source σ o := by
  obtain ⟨earlier, final, rfl, pause, only, came⟩ := explains
  have none := single.eq_nil pause
  subst none
  exact came

/-- The layers stand in the chain, in the order of the placement and inside of the mapping. -/
structure Holds (c : Chain) (placement : Placement) (layers : List Layer) : Prop where
  own : ∀ l ∈ layers, l ∈ c.layers
  ordered : (layers.map Stage.capability).Sublist placement.order
  unmapped : .exceptions ∉ layers.map Stage.capability

theorem Holds.within {l : Layer} (holds : c.Holds placement (l :: inner)) : c.Holds placement inner where
  own l' mem := holds.own l' (List.mem_cons_of_mem l mem)
  ordered := List.sublist_of_cons_sublist holds.ordered
  unmapped := mt (List.mem_cons_of_mem _) holds.unmapped

theorem explains_of_origin (origin : Origin c.route.method service layers σ o)
    (target : service = c.service) (holds : c.Holds placement layers) : c.Explains σ o := by
  induction origin with
  | target o =>
    subst target
    exact ⟨[], _, rfl, .inl rfl, by simp [IsSingle], .target List.infix_rfl⟩
  | @refused l inner e refuses =>
    refine ⟨[], _, rfl, .inl rfl, l.isSingle_refusal e, ?_⟩
    exact .rejection (holds.own l List.mem_cons_self) refuses List.infix_rfl
  | @admitted l inner σ o guard within ih =>
    have inside : l.capability ≠ .exceptions ∧ l.capability ≠ .fallback := by
      rcases guard with is | is | is <;> rw [is] <;> decide
    have single : IsSingle σ := within.isSingle (Placement.retry_not_mem holds.ordered inside)
    have granted : IsSingle [Deed.granted l.capability] := by simp [IsSingle]
    have came := (ih holds.within).source single
    refine ⟨[], _, rfl, .inl rfl, granted.append (single.append (l.isSingle_aftermath o)), ?_⟩
    exact came.mono ⟨[.granted l.capability], l.aftermath o, rfl⟩
  | @attempted r scheduler inner earlier σ attempts last o label h pause within final closes ih =>
    have alone := Placement.retry_not_mem holds.ordered (by simp [Stage.capability])
    have single : IsSingle σ := within.isSingle alone
    have came := ((ih holds.within).source single).mono (List.prefix_append σ [.told h]).isInfix
    refine ⟨earlier, _, rfl, pause, single.append closes.isSingle, ?_⟩
    cases closes with
    | exceeded retried fails =>
      have used := final.resolve_left (not_not.mpr retried)
      subst used
      exact .exceeded (holds.own _ List.mem_cons_self) fails (by simp)
    | _ => exact came
  | kept _ _ ih => exact (ih holds.within).append (BoundFallback.isSingle_scan _ _ _) id
  | @substituted stages _ _ _ _ number o instead _ first provides ih =>
    have replied : IsSingle [.called number, .replied number (.ended instead)] := by
      simp [IsSingle]
    have single := (BoundFallback.isSingle_scan c.route.method o stages).append
      (provides.isSingle.append replied)
    apply (ih holds.within).append single
    intro final came
    exact .fallback (holds.own _ List.mem_cons_self) came first provides
      (List.suffix_append final _).isInfix
  | value => exact absurd List.mem_cons_self holds.unmapped
  | fault => exact absurd List.mem_cons_self holds.unmapped

/-- Inside of the mapping there are no mappers. -/
theorem mappers_eq_nil (unmapped : .exceptions ∉ layers.map Stage.capability) :
    layers.flatMap Layer.mappers = [] := by
  rw [List.flatMap_eq_nil_iff]
  intro l mem
  cases l with
  | exceptions mappers => exact absurd (List.mem_map_of_mem mem) unmapped
  | _ => rfl

/-- All of a chain's mappers map an outcome that the layers inside of them explain. -/
theorem exists_explained (origin : Origin c.route.method c.service c.layers σ o)
    (ordered : (c.layers.map Stage.capability).Sublist placement.order) :
    ∃ raw, c.Explains σ raw ∧ o = raw.mapped (c.layers.flatMap Layer.mappers) := by
  by_cases mapped : .exceptions ∈ c.layers.map Stage.capability
  · obtain ⟨l, inner, layers⟩ : ∃ l inner, c.layers = l :: inner :=
      List.exists_cons_of_ne_nil (by rintro none; simp [none] at mapped)
    rw [layers] at origin ordered mapped
    have unmapped : .exceptions ∉ inner.map Stage.capability := Placement.exceptions_not_mem ordered
    have holds : c.Holds placement inner := by
      refine ⟨fun l' mem => ?_, List.sublist_of_cons_sublist ordered, unmapped⟩
      rw [layers]
      exact List.mem_cons_of_mem l mem
    have all : c.layers.flatMap Layer.mappers = l.mappers := by
      rw [layers, List.flatMap_cons, mappers_eq_nil unmapped, List.append_nil]
    rw [all]
    cases origin with
    | value within => exact ⟨_, explains_of_origin within rfl holds, rfl⟩
    | fault within =>
      have explains := explains_of_origin within rfl holds
      exact ⟨_, explains.append (Mapper.isSingle_offers _ _) id, rfl⟩
    | refused refuses => cases refuses <;> simp [unmapped, Stage.capability] at mapped
    | admitted guard => rcases guard with is | is | is <;> simp [unmapped, is] at mapped
    | attempted | kept | substituted => simp [unmapped, Stage.capability] at mapped
  · refine ⟨o, explains_of_origin origin rfl ⟨fun _ mem => mem, ordered, mapped⟩, ?_⟩
    rw [mappers_eq_nil mapped, Outcome.mapped_nil]

end Chain

/-- The stage has nothing to do. -/
def Stage.IsIdle {F : Type} : Stage F → Prop
  | .exceptions mappers => mappers = []
  | .fallback stages => stages = []
  | _ => False

/-- The policy has nothing to say. -/
def Policy.IsIdle : Policy → Prop
  | .exceptions mappers => mappers = []
  | .fallback stages => stages = []
  | _ => False

theorem Policy.resolve_gives_idle {p : Policy} (idle : p.IsIdle) (context : Nat) (m : Method) :
    (p.resolve context m).Gives Stage.IsIdle := by
  cases p with
  | exceptions mappers =>
    cases idle
    have nothing : (pure [] : Build (List Mapper)).Gives fun resolved => resolved = [] := .pure rfl
    exact nothing.bind fun none => .pure none
  | fallback stages =>
    cases idle
    have nothing : (pure [] : Build (List ResolvedFallback)).Gives fun resolved => resolved = [] :=
      .pure rfl
    exact nothing.bind fun none => .pure none
  | _ => exact idle.elim

theorem PolicyTable.resolveEach_gives_idle {t : PolicyTable} {m : Method}
    (idle : ∀ c p, t.find? c m.name = some p → p.IsIdle) (context : Nat) (order : List Capability) :
    (t.resolveEach context m order).Gives fun stages => ∀ s ∈ stages, s.IsIdle := by
  induction order with
  | nil => exact .pure (by simp)
  | cons c rest ih =>
    refine .bind (seek_gives t c m) fun {found} sought => ?_
    cases found with
    | none => exact ih
    | some p =>
      refine .bind (p.resolve_gives_idle (idle c p sought.symm) context m) fun {stage} own => ?_
      exact .bind ih fun {stages} others => .pure (List.forall_mem_cons.mpr ⟨own, others⟩)

theorem ResolvedStage.isIdle_of_bindAll {m : Method} {stages : List ResolvedStage} :
    ∀ {layers}, bindAll m stages = .ok layers → (∀ s ∈ stages, s.IsIdle) →
      ∀ l ∈ layers, l.IsIdle := by
  induction stages with
  | nil =>
    intro layers bound _
    cases bound
    simp
  | cons s rest ih =>
    intro layers bound idle
    obtain ⟨l, inner, own, others, rfl⟩ := exists_of_bindAll_cons bound
    obtain ⟨first, later⟩ := List.forall_mem_cons.mp idle
    refine List.forall_mem_cons.mpr ⟨?_, ih others later⟩
    cases s with
    | exceptions mappers =>
      cases own
      exact first
    | fallback stages =>
      cases first
      cases own
      rfl
    | _ => exact first.elim

theorem Proxy.isIdle_of_build {p : Proxy} {r : Route} {u v : World} {c : Chain}
    (idle : ∀ capability policy, (p.policies u).find? capability r.method.name = some policy →
      policy.IsIdle) (built : (p.build r).run.run u = (.ok c, v)) :
    ∀ l ∈ c.layers, l.IsIdle := by
  obtain ⟨asked, -, -, -, stops⟩ := stops_of_build built
  cases stops with
  | @built stages layers resolved fits =>
    have all := PolicyTable.resolveEach_gives_idle idle p.context (p.order u) u v stages resolved
    exact ResolvedStage.isIdle_of_bindAll fits all

namespace Chain

/-- Layers that have nothing to do leave it at one call of the target. -/
theorem Origin.eq_of_isIdle {m : Method} {service : Nat} {layers : List Layer} {σ : List Deed}
    {o : Outcome} (origin : Origin m service layers σ o) (idle : ∀ l ∈ layers, l.IsIdle) :
    σ = [.called service, .replied service (.ended o)] := by
  induction origin with
  | target o => rfl
  | refused refuses =>
    have own := idle _ List.mem_cons_self
    cases refuses <;> exact own.elim
  | @admitted l inner σ o guard _ ih =>
    have own := idle l List.mem_cons_self
    cases l <;> simp [Stage.capability] at guard <;> exact own.elim
  | attempted => exact (idle _ List.mem_cons_self).elim
  | kept _ _ ih =>
    have none := idle _ List.mem_cons_self
    cases none
    rw [ih fun l mem => idle l (List.mem_cons_of_mem _ mem)]
    rfl
  | substituted _ first =>
    have none := idle _ List.mem_cons_self
    cases none
    cases first
  | value _ ih => exact ih fun l mem => idle l (List.mem_cons_of_mem _ mem)
  | fault _ ih =>
    have none := idle _ List.mem_cons_self
    cases none
    rw [ih fun l mem => idle l (List.mem_cons_of_mem _ mem)]
    rfl

/-- **Provenance of outcomes.** Take a chain that is built from any table of policies for a proxy, and a
call through it, direct or deferred, that ends with an outcome. In its last attempt there is the source
of the outcome: the target has ended with it, one of the chain's own guards has refused the call with
it, the retry has used up its attempts, or it is what the fallback has ended with that was selected for
one of these; a fault among them is mapped by the first mapper that replaces it. Otherwise each layer
lets the outcome of what it guards pass. Where no policies apply but such that are empty, the target is
called once and that is all. -/
theorem provenance {p : Proxy} {r : Route} {u v : World} {ds : List Declaration} {context : Context}
    {c : Chain} {args : Args} {σ : List Deed} {o : Outcome}
    (declared : u.tables[p.table]? = some (.ofDeclarations ds))
    (there : u.contexts[p.context]? = some context)
    (built : (p.build r).run.run u = (.ok c, v)) (does : c.Does args σ (some o)) :
    (∃ earlier final raw, σ = earlier ++ final ∧ IsPause earlier ∧ IsSingle final ∧
      c.Source final raw ∧ o = raw.mapped (c.layers.flatMap Layer.mappers)) ∧
    Origin c.route.method p.target c.layers σ o ∧
    ((∀ capability policy, (PolicyTable.ofDeclarations ds).find? capability r.method.name =
        some policy → policy.IsIdle) →
      σ = [.called p.target, .replied p.target (.ended o)]) := by
  obtain ⟨ordered, target⟩ := Proxy.capabilities_of_build declared there built
  have origin := origin_of_account (account_of_does does)
  obtain ⟨raw, ⟨earlier, final, split, pause, single, source⟩, mapped⟩ :=
    exists_explained origin ordered
  rw [target] at origin
  refine ⟨⟨earlier, final, raw, split, pause, single, source, mapped⟩, origin, fun idle => ?_⟩
  have table : p.policies u = .ofDeclarations ds := by
    rw [Proxy.policies, declared]
    rfl
  exact origin.eq_of_isIdle (Proxy.isIdle_of_build (by rwa [table]) built)

/-- The target and the fallback cannot be reached, and the mapper says so. -/
theorem provenance_fortified :
    let σ := Deed.own 0 (answer.filterMap Entry.deed?)
    σ = [.granted .limiter, .granted .bulkhead, .called 0, .replied 0 (.ended (.fault (.io "closed"))),
      .handlerAsked (.fault (.io "closed")), .called 1, .replied 1 (.ended (.fault (.io "closed"))),
      .mapperAsked "Discreet" (.io "closed")] ∧
    ∃ earlier final raw, σ = earlier ++ final ∧ IsPause earlier ∧ fortified.Source final raw ∧
      .fault (.text "failed") = raw.mapped [discreet] := by
  have ran : (Proxy.run fortified ⟨"key", 0⟩).run prepared = (.ended (.fault (.text "failed")), answered) :=
    run_of_completes fun _ => rfl
  have wrote : answered.history = prepared.history ++ answer := by decide +kernel
  obtain ⟨⟨earlier, final, raw, split, pause, -, source, mapped⟩, -, -⟩ :=
    provenance rfl rfl build_front (Does.direct ran wrote)
  exact ⟨by decide +kernel, earlier, final, raw, split, pause, source, mapped⟩

end Chain

end CallGuard
