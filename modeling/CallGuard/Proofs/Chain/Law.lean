import CallGuard.Catalog.Methods
import CallGuard.Proofs.Chain.Conduct
import CallGuard.Proofs.Chain.Funnel

/-!
# The funnel law

A call that ends with an outcome has gone through its chain as through a funnel: every stage was asked
as often as the one before it let something through. Main statement: `funnel_law`, which reads this
off the entries that the call itself has written in the journal, for direct and for deferred calls.
-/

namespace CallGuard

/-- A deferred call on its way, with what it has written so far. Between its polls anything may
happen elsewhere. -/
inductive Deferred.Reached {W : Type} (call : Deferred W) (args : Args) : List Entry → W → Prop where
  | start {w v : World} {m : W} {entries : List Entry}
      (started : (call.start args).run w = (.ok m, v)) (wrote : v.history = w.history ++ entries) :
      Reached call args entries m
  | poll {w v : World} {m next : W} {entries more : List Entry} (so : Reached call args entries m)
      (polled : (call.poll m).run w = (.waiting next, v)) (wrote : v.history = w.history ++ more) :
      Reached call args (entries ++ more) next

namespace Chain

/-- A call through the chain ends with the outcome, and these are the entries that it has written. A
direct call from which nothing calls back is one that ends so whatever became of such a call. -/
inductive Completes (c : Chain) (args : Args) : List Entry → Outcome → Prop where
  | direct {w v : World} {entries : List Entry} {o : Outcome}
      (ran : ∀ reenter, (c.direct reenter args).run w = (.ended o, v))
      (wrote : v.history = w.history ++ entries) : Completes c args entries o
  | deferred {w v : World} {m : Memory c.layers} {entries more : List Entry} {o : Outcome}
      (reached : c.deferred.Reached args entries m)
      (polled : (c.deferred.poll m).run w = (.done (.ended o), v))
      (wrote : v.history = w.history ++ more) : Completes c args (entries ++ more) o

theorem exists_callWithin_eq (enter : Reentry → Act (Except Reply Chain)) (depth : Nat) (c : Chain) :
    ∃ reenter, callWithin enter depth c = c.direct reenter := by
  cases depth with
  | zero => exact ⟨_, rfl⟩
  | succ depth => exact ⟨_, rfl⟩

/-- What such a direct call does is what a proxy makes of it. -/
theorem run_of_completes {c : Chain} {args : Args} {w v : World} {o : Outcome}
    (ran : ∀ reenter, (c.direct reenter args).run w = (.ended o, v)) :
    (Proxy.run c args).run w = (.ended o, v) := by
  obtain ⟨reenter, same⟩ := exists_callWithin_eq Proxy.enter Proxy.nestingLimit c
  rw [Proxy.run, same]
  exact ran reenter

end Chain

/-- A deferred call on its way has left its track in the journal. -/
theorem Deferred.Obeys.reached {W : Type} {call : Deferred W} {args : Args} {A : Account}
    {T : Track W} (h : call.Obeys args View.whole A T) {entries : List Entry} {m : W}
    (reached : call.Reached args entries m) : T (entries.filterMap Entry.deed?) m := by
  induction reached with
  | @start w v m entries started wrote =>
    obtain ⟨σ, seen, begun⟩ := h.start w
    rw [started] at seen begun
    rw [View.sees_whole seen wrote]
    exact begun
  | @poll w v m next entries more _ polled wrote ih =>
    obtain ⟨σ, seen, gone⟩ := h.poll ih w
    rw [polled] at seen gone
    rw [List.filterMap_append, View.sees_whole seen wrote]
    exact gone

/-- A deferred call that has its reply has written what its account says of it. -/
theorem Deferred.Obeys.replied {W : Type} {call : Deferred W} {args : Args} {A : Account}
    {T : Track W} (h : call.Obeys args View.whole A T) {entries more : List Entry} {m : W}
    {w v : World} {reply : Reply} (reached : call.Reached args entries m)
    (polled : (call.poll m).run w = (.done reply, v)) (wrote : v.history = w.history ++ more) :
    A.On ((entries ++ more).filterMap Entry.deed?) reply := by
  obtain ⟨σ, seen, gone⟩ := h.poll (h.reached reached) w
  rw [polled] at seen gone
  rw [List.filterMap_append, View.sees_whole seen wrote]
  exact gone

namespace Chain

theorem exists_obeys_whole (c : Chain) (args : Args) :
    ∃ T, c.deferred.Obeys args View.whole (account c.route.method c.service c.layers) T :=
  exists_obeys_deferred c.route c.service View.isFlat_whole args c.layers

/-- What a call has written when it has ended is what its account says. Nothing calls back from it, so
that all that is written in between is its own. -/
theorem account_of_completes {c : Chain} {args : Args} {entries : List Entry} {o : Outcome}
    (completed : c.Completes args entries o) :
    account c.route.method c.service c.layers (entries.filterMap Entry.deed?) (some o) := by
  cases completed with
  | @direct w v _ _ ran wrote =>
    let stopped : Reentry → Act Reply := fun _ => pure (.crashed "")
    have quiet : ∀ call, (stopped call).Tells View.whole fun σ _ => σ = [] := fun _ => .pure rfl
    have serves := fun service =>
      c.route.tells_direct_of_quiet View.isFlat_whole quiet service args
    obtain ⟨σ, seen, went⟩ := obeys_direct c.route c.service serves c.layers w
    rw [show directThrough c.route stopped c.service c.layers = c.direct stopped from rfl,
      ran stopped] at seen went
    rw [View.sees_whole seen wrote]
    exact went
  | deferred reached polled wrote =>
    obtain ⟨T, h⟩ := c.exists_obeys_whole args
    exact h.replied reached polled wrote

theorem manner_of_completes {c : Chain} {args : Args} {entries : List Entry} {o : Outcome}
    (completed : c.Completes args entries o) :
    ∃ σ, entries.filterMap Entry.signal? = σ.map Signal.plain ∧ manner c.service c.layers σ o := by
  obtain ⟨σ, manner, signals⟩ :=
    manner_of_account c.route.method c.service c.layers _ o (account_of_completes completed)
  exact ⟨σ, (Entry.filterMap_signal? entries).trans signals, manner⟩

variable {service : Nat} {layers inner : List Layer} {l : Layer} {σ : List Signal} {k j m : Nat}

/-- What the stage of the capability passes on of the requests. Without one everything is passed. -/
structure Passes (layers : List Layer) (σ : List Signal) (c : Capability) (requests passes : Nat) :
    Prop where
  conducts : ∀ l ∈ layers, l.capability = c → l.Conducts σ requests passes
  absent : c ∉ layers.map Stage.capability → passes = requests

/-- What the stages of the capabilities pass on, one after the other. -/
def Flows (layers : List Layer) (σ : List Signal) : List Capability → Nat → Nat → Prop
  | [], requests, passes => passes = requests
  | c :: rest, requests, passes =>
    ∃ between, Passes layers σ c requests between ∧ Flows layers σ rest between passes

theorem Flows.cons {order : List Capability} (h : Flows inner σ order k j)
    (other : l.capability ∉ order) : Flows (l :: inner) σ order k j := by
  induction order generalizing k with
  | nil => exact h
  | cons c rest ih =>
    obtain ⟨between, passes, flows⟩ := h
    have ne := List.ne_of_not_mem_cons other
    have later := List.not_mem_of_not_mem_cons other
    refine ⟨between, ⟨fun l' mem own => ?_, fun away => passes.absent fun within => ?_⟩,
      ih flows later⟩
    · rcases List.mem_cons.mp mem with rfl | within
      · exact absurd own ne
      · exact passes.conducts l' within own
    · exact away (List.mem_cons_of_mem l.capability within)

theorem flows_of_funnels {order : List Capability} (h : Funnels service layers σ k j)
    (ordered : (layers.map Stage.capability).Sublist order) (distinct : order.Nodup) :
    Flows layers σ order k j := by
  induction order generalizing layers k with
  | nil =>
    have none : layers = [] := List.map_eq_nil_iff.mp (List.sublist_nil.mp ordered)
    subst none
    exact h.1
  | cons c rest ih =>
    obtain ⟨once, later⟩ := List.nodup_cons.mp distinct
    cases layers with
    | nil => exact ⟨k, ⟨by simp, fun _ => rfl⟩, ih h (List.nil_sublist rest) later⟩
    | cons l inner =>
      by_cases own : l.capability = c
      · subst own
        obtain ⟨between, conducts, funnels⟩ := h
        have within : (inner.map Stage.capability).Sublist rest :=
          List.cons_sublist_cons.mp ordered
        refine ⟨between, ⟨fun l' mem same => ?_, fun away => absurd List.mem_cons_self away⟩,
          (ih funnels within later).cons once⟩
        rcases List.mem_cons.mp mem with rfl | inside
        · exact conducts
        · have again := within.subset (List.mem_map_of_mem inside)
          rw [same] at again
          exact absurd again once
      · have skipped : ((l :: inner).map Stage.capability).Sublist rest := by
          cases ordered with
          | cons _ sub => exact sub
          | cons_cons => exact absurd rfl own
        have away : c ∉ (l :: inner).map Stage.capability := fun mem =>
          once (skipped.subset mem)
        refine ⟨k, ⟨fun l' mem same => ?_, fun _ => rfl⟩, ih h skipped later⟩
        exact absurd (same ▸ List.mem_map_of_mem mem) away

/-- Whether a stage of the capability stands in the chain. -/
def Has (c : Chain) (capability : Capability) : Prop :=
  capability ∈ c.layers.map Stage.capability

instance (c : Chain) (capability : Capability) : Decidable (c.Has capability) :=
  inferInstanceAs (Decidable (capability ∈ c.layers.map Stage.capability))

/-- The stage of the capability, if there is one, is asked once for each request, and as many pass as
it grants. Without one nothing is asked and every request passes. -/
structure Gates (c : Chain) (capability : Capability) (journal : List Signal)
    (requests passes : Nat) : Prop where
  asked : journal.count (.asked capability true) + journal.count (.asked capability false) =
    if c.Has capability then requests else 0
  passed : passes = if c.Has capability then journal.count (.asked capability true) else requests

theorem Stays.count_eq_zero (stays : Stays layers σ) {s : Signal} {c : Capability}
    (own : s.owner? = some c) (absent : c ∉ layers.map Stage.capability) : σ.count s = 0 :=
  List.count_eq_zero.mpr fun mem => absent (stays s mem c own)

section Passing

variable {c : Chain} {capability : Capability}

theorem Passes.gates (h : Passes c.layers σ capability k j) (stays : Stays c.layers σ)
    (granted : ∀ l ∈ c.layers, l.capability = capability → Granted capability σ k j) :
    c.Gates capability σ k j := by
  by_cases there : c.Has capability
  · obtain ⟨l, mem, own⟩ := List.mem_map.mp there
    obtain ⟨asked, passed⟩ := granted l mem own
    exact ⟨by rw [if_pos there, asked], by rw [if_pos there, passed]⟩
  · have none : ∀ answer, σ.count (.asked capability answer) = 0 := fun answer =>
      stays.count_eq_zero rfl there
    exact ⟨by rw [if_neg there, none, none], by rw [if_neg there, h.absent there]⟩

theorem Passes.gates_limiter (h : Passes c.layers σ .limiter k j) (stays : Stays c.layers σ) :
    c.Gates .limiter σ k j := by
  refine h.gates stays fun l mem own => ?_
  have conducts := h.conducts l mem own
  cases l <;> first | exact conducts | cases own

theorem Passes.gates_bulkhead (h : Passes c.layers σ .bulkhead k j) (stays : Stays c.layers σ) :
    c.Gates .bulkhead σ k j := by
  refine h.gates stays fun l mem own => ?_
  have conducts := h.conducts l mem own
  cases l <;> first | exact conducts | cases own

theorem Passes.gates_breaker (h : Passes c.layers σ .breaker k j) (stays : Stays c.layers σ) :
    c.Gates .breaker σ k j ∧ σ.count .recorded = if c.Has .breaker then j else 0 := by
  have both : ∀ l ∈ c.layers, l.capability = .breaker →
      Granted .breaker σ k j ∧ σ.count .recorded = j := by
    intro l mem own
    have conducts := h.conducts l mem own
    cases l <;> first | exact conducts | cases own
  refine ⟨h.gates stays fun l mem own => (both l mem own).1, ?_⟩
  by_cases there : c.Has .breaker
  · obtain ⟨l, mem, own⟩ := List.mem_map.mp there
    rw [if_pos there]
    exact (both l mem own).2
  · rw [if_neg there]
    exact stays.count_eq_zero rfl there

theorem Passes.exceptions (h : Passes layers σ .exceptions k j) : j = k := by
  by_cases there : Capability.exceptions ∈ layers.map Stage.capability
  · obtain ⟨l, mem, own⟩ := List.mem_map.mp there
    have conducts := h.conducts l mem own
    cases l <;> first | exact conducts | cases own
  · exact h.absent there

theorem Passes.retry (h : Passes layers σ .retry 1 j) (stays : Stays layers σ) :
    j = σ.count .again + 1 ∧
      (∀ retry scheduler, .retry retry scheduler ∈ layers →
        σ.count .again + 1 ≤ retry.config.maxAttempts) ∧
      (.retry ∉ layers.map Stage.capability → σ.count .again = 0) := by
  have attempts : ∀ retry scheduler, .retry retry scheduler ∈ layers →
      j = σ.count .again + 1 ∧ σ.count .again + 1 ≤ retry.config.maxAttempts := by
    intro retry scheduler mem
    obtain ⟨passed, within⟩ := h.conducts _ mem rfl
    omega
  refine ⟨?_, fun retry scheduler mem => (attempts retry scheduler mem).2,
    fun absent => stays.count_eq_zero rfl absent⟩
  by_cases there : Capability.retry ∈ layers.map Stage.capability
  · obtain ⟨l, mem, own⟩ := List.mem_map.mp there
    cases l <;> first | exact (attempts _ _ mem).1 | cases own
  · rw [h.absent there, stays.count_eq_zero rfl there]

theorem Passes.fallback (h : Passes layers σ .fallback k j) (stays : Stays layers σ) :
    j = k ∧ (σ.filterMap Signal.substituted?).length ≤ k ∧
      ∀ service ∈ σ.filterMap Signal.substituted?,
        ∃ stages, .fallback stages ∈ layers ∧ BoundFallback.Offers stages service := by
  by_cases there : Capability.fallback ∈ layers.map Stage.capability
  · obtain ⟨l, mem, own⟩ := List.mem_map.mp there
    have conducts := h.conducts l mem own
    cases l <;> cases own
    obtain ⟨passed, within, offered⟩ := conducts
    exact ⟨passed, within, fun service called => ⟨_, mem, offered service called⟩⟩
  · have nobody : σ.filterMap Signal.substituted? = [] := by
      refine List.filterMap_eq_nil_iff.mpr fun s mem => ?_
      cases s with
      | substituted service => exact absurd (stays _ mem .fallback rfl) there
      | _ => rfl
    rw [nobody]
    exact ⟨h.absent there, Nat.zero_le k, by simp⟩

end Passing

end Chain

/-- The most fallbacks when a breaker has let so many calls through. -/
def Placement.allowance (permitted : Nat) : Placement → Nat
  | inner => permitted
  | outer => 1

namespace Chain

variable {service : Nat} {layers : List Layer} {σ : List Signal} {o : Outcome}

/-- Wherever the fallback stands, attempts ask the limiter, what the limiter grants asks the breaker,
and what the breaker grants asks the bulkhead. -/
theorem exists_passes {placement : Placement} {reached : Nat}
    (flows : Flows layers σ placement.order 1 reached) (stays : Stays layers σ) :
    ∃ attempts reserved permitted substituted,
      Passes layers σ .retry 1 attempts ∧ Passes layers σ .limiter attempts reserved ∧
      Passes layers σ .breaker reserved permitted ∧ Passes layers σ .bulkhead permitted reached ∧
      Passes layers σ .fallback (placement.allowance permitted) substituted := by
  cases placement with
  | inner =>
    obtain ⟨_, exceptions, a, retry, g, limiter, p, breaker, f, fallback, h, bulkhead, last⟩ := flows
    cases exceptions.exceptions
    have through := (fallback.fallback stays).1
    subst through last
    exact ⟨a, g, f, f, retry, limiter, breaker, bulkhead, fallback⟩
  | outer =>
    obtain ⟨_, exceptions, f, fallback, a, retry, g, limiter, p, breaker, h, bulkhead, last⟩ := flows
    cases exceptions.exceptions
    have through := (fallback.fallback stays).1
    subst through last
    exact ⟨a, g, p, 1, retry, limiter, breaker, bulkhead, fallback⟩

theorem exists_order (placement : Placement) :
    ∃ rest, placement.order = .exceptions :: rest ∧ .exceptions ∉ rest := by
  cases placement with
  | inner => exact ⟨_, rfl, by decide⟩
  | outer => exact ⟨_, rfl, by decide⟩

/-- Mappers are asked in the end, in their order, and only about faults. -/
theorem asked_mappers {placement : Placement}
    (ordered : (layers.map Stage.capability).Sublist placement.order)
    (went : manner service layers σ o) :
    ∃ before asked, σ = before ++ asked.map .mapped ∧ (∀ name, .mapped name ∉ before) ∧
      (asked = [] ∨ ∃ mappers, .exceptions mappers ∈ layers ∧
        asked <+: mappers.map Mapper.name ∧ ∃ e, o = .fault e) := by
  have distinct : (layers.map Stage.capability).Nodup :=
    ordered.nodup (by cases placement <;> decide)
  have untouched : ∀ {τ : List Signal} {within : List Layer}, Stays within τ →
      .exceptions ∉ within.map Stage.capability → ∀ name, .mapped name ∉ τ :=
    fun stays absent name mem => absent (stays _ mem .exceptions rfl)
  obtain ⟨stays, -⟩ := funnelled_manner distinct σ o went
  cases layers with
  | nil => exact ⟨σ, [], by simp, untouched stays (by simp), .inl rfl⟩
  | cons l inner =>
    obtain ⟨fresh, others⟩ := List.nodup_cons.mp distinct
    obtain ⟨rest, eq, once⟩ := exists_order placement
    have within : (inner.map Stage.capability).Sublist rest := by
      have tails := ordered.tail
      rwa [eq] at tails
    have absent : .exceptions ∉ inner.map Stage.capability := fun mem => once (within.subset mem)
    cases l with
    | exceptions mappers =>
      rcases went with went | ⟨τ, before, asked, went, start, rfl, e, rfl⟩
      · obtain ⟨stays, -⟩ := funnelled_manner others σ o went
        exact ⟨σ, [], by simp, untouched stays absent, .inl rfl⟩
      · obtain ⟨stays, -⟩ := funnelled_manner others τ _ went
        exact ⟨τ, asked, rfl, untouched stays absent,
          .inr ⟨mappers, List.mem_cons_self, start, e, rfl⟩⟩
    | _ =>
      refine ⟨σ, [], by simp, untouched stays ?_, .inl rfl⟩
      rw [List.map_cons, List.mem_cons, not_or]
      exact ⟨by simp [Stage.capability], absent⟩

end Chain

namespace Signal

variable (σ : List Signal)

/-- All but calls of services the journal tells as it is. -/
theorem count_plain {s : Signal} (told : s.plain = s) (other : s.called? = none) :
    (σ.map plain).count s = σ.count s := by
  rw [List.count, List.countP_map]
  refine List.countP_congr fun t _ => ?_
  cases t <;> cases s <;> simp_all [plain, called?]

theorem called_plain :
    ((σ.map plain).filterMap called?).Perm (σ.filterMap called? ++ σ.filterMap substituted?) := by
  induction σ with
  | nil => exact .nil
  | cons s rest ih =>
    cases s with
    | called service => exact ih.cons service
    | substituted service => exact (ih.cons service).trans List.perm_middle.symm
    | _ => exact ih

theorem mapped_plain {before : List Signal} (untouched : ∀ name, .mapped name ∉ before)
    (asked : List String) :
    (before ++ asked.map mapped).map plain = before.map plain ++ asked.map mapped ∧
      ∀ name, mapped name ∉ before.map plain := by
  refine ⟨?_, fun name mem => ?_⟩
  · rw [List.map_append, List.map_map]
    rfl
  · obtain ⟨s, here, eq⟩ := List.mem_map.mp mem
    cases s <;> cases eq
    exact untouched name here

end Signal

namespace Chain

theorem Gates.plain {c : Chain} {capability : Capability} {σ : List Signal} {k j : Nat}
    (h : c.Gates capability σ k j) : c.Gates capability (σ.map Signal.plain) k j := by
  have same : ∀ answer, (σ.map Signal.plain).count (.asked capability answer) =
      σ.count (.asked capability answer) := fun answer => Signal.count_plain σ rfl rfl
  exact ⟨by rw [same, same, h.asked], by rw [same, h.passed]⟩

/-- **The funnel law.** Take a chain that is built from any table of policies for a proxy, and a call
through it, direct or deferred, that ends with an outcome and from which nothing calls back. There
are at most as many attempts as the retry allows, and one where there is none. The limiter is asked
once for each attempt, the breaker once for each permission of the limiter, and records one outcome
for each call that it lets through; the bulkhead is asked once for each of these, and the target is
called once for each call that it admits. A stage that is not there lets everything pass. Besides
the target only services of fallbacks are called, at most one for each call that the breaker lets
through or, with the fallback outermost, at most one in all. In the end, and only about a fault,
mappers are asked, each at most once and in their order. -/
theorem funnel_law {p : Proxy} {r : Route} {u v : World} {ds : List Declaration}
    {context : Context} {c : Chain} {args : Args} {entries : List Entry} {o : Outcome}
    (declared : u.tables[p.table]? = some (.ofDeclarations ds))
    (there : u.contexts[p.context]? = some context)
    (built : (p.build r).run.run u = (.ok c, v)) (completed : c.Completes args entries o) :
    let journal := entries.filterMap Entry.signal?
    let attempts := journal.count .again + 1
    (∀ retry scheduler, .retry retry scheduler ∈ c.layers →
      attempts ≤ retry.config.maxAttempts) ∧
    (¬ c.Has .retry → attempts = 1) ∧
    ∃ reserved permitted admitted fallbacks,
      c.Gates .limiter journal attempts reserved ∧ c.Gates .breaker journal reserved permitted ∧
      journal.count .recorded = (if c.Has .breaker then permitted else 0) ∧
      c.Gates .bulkhead journal permitted admitted ∧
      (journal.filterMap Signal.called?).Perm (.replicate admitted p.target ++ fallbacks) ∧
      (∀ service ∈ fallbacks,
        ∃ stages, .fallback stages ∈ c.layers ∧ BoundFallback.Offers stages service) ∧
      fallbacks.length ≤ context.placement.allowance permitted ∧
      ∃ before asked, journal = before ++ asked.map .mapped ∧ (∀ name, .mapped name ∉ before) ∧
        (asked = [] ∨ ∃ mappers, .exceptions mappers ∈ c.layers ∧
          asked <+: mappers.map Mapper.name ∧ ∃ e, o = .fault e) := by
  obtain ⟨ordered, target⟩ := Proxy.capabilities_of_build declared there built
  obtain ⟨σ, signals, went⟩ := manner_of_completes completed
  have distinct : context.placement.order.Nodup := by cases context.placement <;> decide
  obtain ⟨stays, reached, funnels⟩ := funnelled_manner (ordered.nodup distinct) σ o went
  have flows := flows_of_funnels funnels ordered distinct
  -- What one stage lets pass is what the next one is asked for, whether or not it is there.
  obtain ⟨attempts, reserved, permitted, others, retry, limiter, breaker, bulkhead, fallback⟩ :=
    exists_passes flows stays
  obtain ⟨rfl, within, alone⟩ := retry.retry stays
  obtain ⟨guarded, recorded⟩ := breaker.gates_breaker stays
  obtain ⟨-, few, offered⟩ := fallback.fallback stays
  obtain ⟨before, asked, told, untouched, mapped⟩ := asked_mappers ordered went
  have again : (σ.map Signal.plain).count .again = σ.count .again := Signal.count_plain σ rfl rfl
  intro journal
  have shown : journal = σ.map Signal.plain := signals
  rw [shown, again]
  refine ⟨within, fun absent => congrArg (· + 1) (alone absent), reserved, permitted, reached,
    σ.filterMap Signal.substituted?, (limiter.gates_limiter stays).plain, guarded.plain, ?_,
    (bulkhead.gates_bulkhead stays).plain, ?_, offered, few, before.map Signal.plain, asked, ?_,
    (Signal.mapped_plain untouched asked).2, mapped⟩
  · rw [Signal.count_plain σ rfl rfl]
    exact recorded
  · rw [← target, ← funnels.targets]
    exact Signal.called_plain σ
  · rw [told]
    exact (Signal.mapped_plain untouched asked).1

/-- Says nothing of what went wrong. -/
def discreet : Mapper := ⟨"Discreet", false, .unchecked, fun _ => some (.text "failed")⟩

def precautions : List Declaration :=
  [.interface (.limiter ⟨"limiter", none, none⟩), .interface (.bulkhead ⟨"bulkhead", none, none⟩),
    .interface (.fallback [⟨.given "Second" Catalog.svcName 1, .anyFault⟩]),
    .interface (.exceptions [.given "Discreet" discreet])]

/-- Neither of two services can be reached. -/
def outage : World :=
  { World.empty with
    tables := #[.ofDeclarations precautions]
    contexts := #[.empty none .outer]
    services := #[⟨"first", [.ofEnding (.fault (.io "closed"))], 0⟩,
      ⟨"second", [.ofEnding (.fault (.io "closed"))], 0⟩] }

def front : Proxy := ⟨Catalog.svc, 0, 0, 0, .empty⟩

def fortified : Chain where
  route := Catalog.get
  service := 0
  layers := [.exceptions [discreet], .fallback [⟨.service 1, .anyFault⟩],
    .limiter ⟨"limiter", .standard, 0⟩ none, .bulkhead ⟨"bulkhead", .standard, 0⟩ none]

/-- The chain has been built. -/
def prepared : World := ((front.build Catalog.get).run.run outage).2

/-- A call through the chain has ended. -/
def answered : World :=
  ((fortified.direct (fun _ => pure (.crashed "")) ⟨"key", 0⟩).run prepared).2

/-- What the call has written. -/
def answer : List Entry := answered.history.drop prepared.history.length

theorem build_front : (front.build Catalog.get).run.run outage = (.ok fortified, prepared) := rfl

theorem completes_fortified :
    fortified.Completes ⟨"key", 0⟩ answer (.fault (.text "failed")) := by
  refine .direct (w := prepared) (v := answered) (fun _ => rfl) ?_
  decide +kernel

/-- The one attempt passes the limiter and the bulkhead, and then the second service and the mapper
are called. -/
theorem funnel_law_fortified :
    let journal := answer.filterMap Entry.signal?
    journal = [.asked .limiter true, .asked .bulkhead true, .called 0, .called 1,
      .mapped "Discreet"] ∧
    ∃ reserved permitted admitted fallbacks,
      fortified.Gates .limiter journal 1 reserved ∧
      fortified.Gates .bulkhead journal permitted admitted ∧
      [0, 1].Perm (.replicate admitted 0 ++ fallbacks) ∧ fallbacks.length ≤ 1 := by
  intro journal
  have told : journal = [.asked .limiter true, .asked .bulkhead true, .called 0, .called 1,
      .mapped "Discreet"] := by decide +kernel
  obtain ⟨-, alone, reserved, permitted, admitted, fallbacks, limiter, -, -, bulkhead, called, -,
    few, -⟩ := funnel_law rfl rfl build_front completes_fortified
  have once : journal.count .again + 1 = 1 := alone (by decide)
  rw [show (answer.filterMap Entry.signal?).count .again + 1 = 1 from once] at limiter
  have services : journal.filterMap Signal.called? = [0, 1] := by rw [told]; rfl
  rw [show (answer.filterMap Entry.signal?).filterMap Signal.called? = [0, 1] from services]
    at called
  exact ⟨told, reserved, permitted, admitted, fallbacks, limiter, bulkhead, called, few⟩

end Chain

end CallGuard
