import CallGuard.Proofs.Chain.Visits
import CallGuard.Proofs.Proxy.Provenance

/-!
# What the placement of a fallback decides

Around the bulkhead a fallback sees what the target and the bulkhead make of each request, and what it
leaves is what breaker and retry see. Outside of the retry it sees only what is left of the call in the
end, and nobody else sees what it puts in place of that. Main statement: `Chain.placement_decides`.
-/

namespace CallGuard

open Deed

namespace Chain

variable {m : Method} {target : Nat} {stages : List BoundFallback} {outside inside : List Layer}
  {σ : List Deed} {end? : Option Outcome} {o : Outcome}

/-- Only the bulkhead stands inside of a fallback that stands around it. -/
theorem inside_of_inner
    (ordered : ((.fallback stages :: inside).map Stage.capability).Sublist Placement.inner.order) :
    (inside.map Stage.capability).Sublist [.bulkhead] := by
  simpa [Stage.capability, Placement.order, Capability.all, List.cons_sublist_cons'] using ordered

/-- Only the mapping stands outside of a fallback that stands outside of the retry. -/
theorem outside_of_outer
    (ordered : ((outside ++ .fallback stages :: inside).map Stage.capability).Sublist
      Placement.outer.order) :
    (outside = [] ∨ ∃ mappers, outside = [.exceptions mappers]) ∧
      (inside.map Stage.capability).Sublist [.retry, .limiter, .breaker, .bulkhead] := by
  have mapping : ∀ l ∈ outside, l.capability = .exceptions := by
    intro l mem
    have two := pair_of_outside mem ordered
    revert two
    generalize l.capability = c
    cases c <;> decide
  cases outside with
  | nil =>
    refine ⟨.inl rfl, ?_⟩
    simpa [Stage.capability, Placement.order, List.cons_sublist_cons'] using ordered
  | cons l rest =>
    have own := mapping l List.mem_cons_self
    have none : rest = [] := by
      rw [List.eq_nil_iff_forall_not_mem]
      intro l' mem
      have two := Placement.exceptions_not_mem ordered
      rw [← mapping l' (List.mem_cons_of_mem l mem)] at two
      exact two (List.mem_map_of_mem (List.mem_append_left _ mem))
    subst none
    cases l <;> cases own
    refine ⟨.inr ⟨_, rfl⟩, ?_⟩
    simpa [Stage.capability, Placement.order, List.cons_sublist_cons'] using ordered

/-- What the fallback around the bulkhead sees is what the target has ended with, or that the bulkhead
is full. -/
theorem seen_of_account (ordered : (inside.map Stage.capability).Sublist [.bulkhead])
    (went : account m target inside σ (some o)) :
    [.called target, .replied target (.ended o)] <:+: σ ∨
      ∃ b scheduler, .bulkhead b scheduler ∈ inside ∧
        σ = [.refused (.bulkheadFull b.name b.config.capacity)] ∧
        o = .fault (.bulkheadFull b.name b.config.capacity) := by
  cases inside with
  | nil =>
    cases went
    exact .inl List.infix_rfl
  | cons l rest =>
    have both : l.capability = .bulkhead ∧ rest.map Stage.capability = [] := by
      simpa [List.cons_sublist_cons'] using ordered
    obtain ⟨own, none⟩ := both
    rw [List.map_eq_nil_iff] at none
    subst none
    cases l <;> cases own
    rcases Account.guarded_cases went with ⟨-, ended⟩ | ⟨e, refuses, rfl, ended⟩ | ⟨τ, within, rfl⟩
    · cases ended
    · cases refuses
      refine .inr ⟨_, _, List.mem_cons_self, rfl, ?_⟩
      simpa using ended
    · cases within
      exact .inl ⟨[.granted .bulkhead], [], rfl⟩

/-- The questions of a call are those about what its visits have seen. -/
theorem questions_of_visits {around : Deed → Prop} {visits : List Visit} {A : Account}
    (woven : Woven around (visits.map Visit.deeds) σ) (silent : ∀ d, around d → d.question? = none)
    (goes : ∀ v ∈ visits, v.Goes m stages A)
    (unasked : ∀ v ∈ visits, ∀ d ∈ v.inside, d.owner? ≠ some .fallback) :
    σ.filterMap question? = (visits.filterMap Visit.seen).flatMap (Visit.questions m stages) := by
  rw [woven.filterMap silent, List.flatMap_map]
  clear woven
  induction visits with
  | nil => rfl
  | cons v rest ih =>
    obtain ⟨first, others⟩ := List.forall_mem_cons.mp goes
    obtain ⟨calm, quiet⟩ := List.forall_mem_cons.mp unasked
    rw [List.flatMap_cons, ih others quiet, first.questions calm]
    cases seen : v.seen <;> simp [seen]

/-- What mappers do they do in the end. -/
theorem exists_asked
    (mapping : outside = [] ∨ ∃ mappers, outside = [.exceptions mappers])
    (went : account m target (outside ++ .fallback stages :: inside) σ end?) :
    ∃ τ asked left, Account.replaced m stages (account m target inside) τ left ∧
      σ = τ ++ asked ∧ end? = left.map (Outcome.mapped (outside.flatMap Layer.mappers)) ∧
      ∀ d ∈ asked, d.owner? = some .exceptions := by
  rcases mapping with rfl | ⟨mappers, rfl⟩
  · refine ⟨σ, [], end?, went, by simp, ?_, by simp⟩
    cases end? <;> simp [Outcome.mapped_nil]
  · have all : [Stage.exceptions mappers].flatMap Layer.mappers = mappers := by
      simp [Layer.mappers]
    rw [all]
    exact Account.exists_of_remapped went

/-- **The placement of a fallback decides what it sees.** Take a chain with a fallback that is built from
any table of policies for a proxy, and a call through it, direct or deferred, be it on its way, dropped,
crashed or ended. Around the bulkhead the call is made of attempts. The fallback sees what the target
and the bulkhead make of those that reach it, and asks about nothing else; the breaker, which grants a
permission for each of these, records what the fallback leaves, and the retry judges that, or the refusals
of limiter and breaker. Outside of the retry there is one visit: what the other guards and the target
do is done before the handlers are asked about what has come of that, and no more is done by those guards
afterwards. -/
theorem placement_decides {p : Proxy} {r : Route} {u w : World} {ds : List Declaration}
    {context : Context} {c : Chain} {args : Args}
    (declared : u.tables[p.table]? = some (.ofDeclarations ds))
    (there : u.contexts[p.context]? = some context)
    (built : (p.build r).run.run u = (.ok c, w))
    (stands : c.layers = outside ++ .fallback stages :: inside) (does : c.Does args σ end?) :
    (context.placement = .inner → ∃ attempts : List Attempt,
      let visits := attempts.filterMap Attempt.visit?
      Attempt.AccountFor c.route.method stages (account c.route.method p.target inside) outside
        attempts σ ∧
      (∀ v ∈ visits, ∀ o, v.seen = some o →
        [.called p.target, .replied p.target (.ended o)] <:+: v.inside ∨
        ∃ b scheduler, .bulkhead b scheduler ∈ inside ∧
          v.inside = [.refused (.bulkheadFull b.name b.config.capacity)] ∧
          o = .fault (.bulkheadFull b.name b.config.capacity)) ∧
      σ.filterMap question? =
        (visits.filterMap Visit.seen).flatMap (Visit.questions c.route.method stages) ∧
      ∀ retry scheduler, .retry retry scheduler ∈ outside →
        retry.Judges 1 (attempts.filterMap Attempt.outcome?) (σ.filterMap told?)) ∧
    (context.placement = .outer → ∃ (v : Visit) (asked : List Deed),
      v.Goes c.route.method stages (account c.route.method p.target inside) ∧
      σ = v.deeds ++ asked ∧ end? = v.left.map (Outcome.mapped (outside.flatMap Layer.mappers)) ∧
      (end? ≠ none → v.seen ≠ none) ∧
      σ.filterMap question? = v.seen.toList.flatMap (Visit.questions c.route.method stages) ∧
      (∀ d ∈ v.inside, d.Belongs p.target [.retry, .limiter, .breaker, .bulkhead]) ∧
      ∀ d ∈ v.after ++ asked, ∀ c, d.owner? = some c → c = .fallback ∨ c = .exceptions) := by
  obtain ⟨ordered, target⟩ := Proxy.capabilities_of_build declared there built
  have went := account_of_does does
  rw [stands] at ordered went
  rw [target] at went
  have belongs := staysWithin_account c.route.method p.target inside
  constructor
  · intro placed
    rw [placed] at ordered
    obtain ⟨attempts, accounts, judges⟩ := exists_accountFor ordered went
    have around : (inside.map Stage.capability).Sublist [.bulkhead] :=
      inside_of_inner (((List.sublist_append_right outside _).map Stage.capability).trans ordered)
    have goes : ∀ v ∈ attempts.filterMap Attempt.visit?,
        v.Goes c.route.method stages (account c.route.method p.target inside) :=
      fun v mem => accounts.goes v (Attempt.mem_of_visit mem)
    refine ⟨attempts, accounts, ?_, questions_of_visits accounts.woven ?_ goes ?_, judges⟩
    · intro v mem o seen
      have within := (goes v mem).inside
      rw [seen] at within
      exact seen_of_account around within
    · rintro d ⟨l, mem, owner⟩
      cases d with
      | handlerAsked o =>
        have two := pair_of_outside mem ordered
        rw [← Option.some.inj owner] at two
        exact absurd two (by decide)
      | _ => rfl
    · intro v mem d done owner
      have own := (belongs _ _ (goes v mem).inside d done).owner owner
      exact absurd (around.subset own) (by decide)
  · intro placed
    rw [placed] at ordered
    obtain ⟨mapping, within⟩ := outside_of_outer ordered
    obtain ⟨τ, asked, left, passed, rfl, ended, own⟩ := exists_asked mapping went
    obtain ⟨v, goes, rfl, rfl⟩ := Visit.exists_goes passed
    have inner : ∀ d ∈ v.inside, d.Belongs p.target [.retry, .limiter, .breaker, .bulkhead] :=
      fun d mem => (belongs _ _ goes.inside d mem).mono within.subset
    have unmapped : asked.filterMap question? = [] := by
      refine List.filterMap_eq_nil_iff.mpr fun d mem => ?_
      have owner := own d mem
      cases d <;> first | rfl | cases owner
    refine ⟨v, asked, goes, rfl, ended, ?_, ?_, inner, ?_⟩
    · intro settled
      apply goes.seen_of_left
      intro none
      apply settled
      rw [ended, none]
      rfl
    · rw [List.filterMap_append, unmapped, List.append_nil]
      apply goes.questions
      intro d mem owner
      exact absurd ((inner d mem).owner owner) (by decide)
    · intro d mem c owner
      rcases List.mem_append.mp mem with after | mapped
      · exact .inl (goes.owner_of_mem_after d after c owner)
      · exact .inr (Option.some.inj (owner.symm.trans (own d mapped)))

def spares : List Declaration :=
  [.interface (.retry ⟨"retry", none, none⟩), .interface (.breaker ⟨"breaker", none, none⟩),
    .interface (.fallback [⟨.given "Second" Catalog.svcName 1, .anyFault⟩])]

/-- The first service always fails, the second one never does. -/
def lopsided (placement : Placement) : World :=
  { World.empty with
    tables := #[.ofDeclarations spares]
    contexts := #[.empty none placement]
    services := #[⟨"first", [.ofEnding (.fault (.io "closed"))], 0⟩,
      ⟨"second", [.ofEnding (.value (.int 7))], 0⟩] }

def spare : Layer := .fallback [⟨.service 1, .anyFault⟩]

def guards : List Layer := [.retry ⟨"retry", .standard⟩ none, .breaker ⟨"breaker", .standard, 0⟩]

def spared : Placement → Chain
  | .inner => ⟨Catalog.get, 0, guards ++ [spare]⟩
  | .outer => ⟨Catalog.get, 0, spare :: guards⟩

/-- The chain has been built. -/
def laidOut (placement : Placement) : World :=
  ((front.build Catalog.get).run.run (lopsided placement)).2

/-- A call through the chain has ended. -/
def helped (placement : Placement) : World :=
  ((Proxy.run (spared placement) ⟨"key", 0⟩).run (laidOut placement)).2

/-- What the call has written. -/
def help (placement : Placement) : List Entry :=
  (helped placement).history.drop (laidOut placement).history.length

theorem build_spared (placement : Placement) :
    (front.build Catalog.get).run.run (lopsided placement) =
      (.ok (spared placement), laidOut placement) := by
  cases placement <;> rfl

theorem does_help (placement : Placement) :
    (spared placement).Does ⟨"key", 0⟩ (Deed.own 0 ((help placement).filterMap Entry.deed?))
      (some (.value (.int 7))) := by
  have wrote : (helped placement).history = (laidOut placement).history ++ help placement := by
    cases placement <;> decide +kernel
  have reply : ((Proxy.run (spared placement) ⟨"key", 0⟩).run (laidOut placement)).1 =
      .ended (.value (.int 7)) := by
    cases placement <;> decide +kernel
  exact .direct (Prod.ext reply rfl) wrote

/-- The fallback helps each time around the bulkhead, so that breaker and retry never learn that the
target has failed, and once in the end outside of the retry. -/
theorem placement_decides_spared :
    let around := Deed.own 0 ((help .inner).filterMap Entry.deed?)
    let outmost := Deed.own 0 ((help .outer).filterMap Entry.deed?)
    (around.filterMap question? = [.fault (.io "closed")] ∧ around.filterMap recorded? = [false] ∧
      ∃ attempts, Attempt.AccountFor Catalog.get.method [⟨.service 1, .anyFault⟩]
        (account Catalog.get.method 0 []) guards attempts around) ∧
    outmost.filterMap question? = [.fault (.io "closed")] ∧
      outmost.filterMap recorded? = [true, true, true] ∧
      ∃ (v : Visit) (asked : List Deed), outmost = v.deeds ++ asked ∧ v.seen ≠ none ∧
        ∀ d ∈ v.after ++ asked, ∀ c, d.owner? = some c → c = .fallback ∨ c = .exceptions := by
  have inner : (spared .inner).layers = guards ++ .fallback [⟨.service 1, .anyFault⟩] :: [] := rfl
  have outer : (spared .outer).layers = [] ++ .fallback [⟨.service 1, .anyFault⟩] :: guards := rfl
  obtain ⟨attempts, accounts, -, -, -⟩ :=
    (placement_decides rfl rfl (build_spared .inner) inner (does_help .inner)).1 rfl
  obtain ⟨v, asked, -, split, -, seen, -, -, others⟩ :=
    (placement_decides rfl rfl (build_spared .outer) outer (does_help .outer)).2 rfl
  refine ⟨⟨by decide +kernel, by decide +kernel, attempts, accounts⟩, by decide +kernel,
    by decide +kernel, v, asked, split, seen (Option.some_ne_none _), others⟩

end Chain

end CallGuard
