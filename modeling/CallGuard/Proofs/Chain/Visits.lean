import CallGuard.Proofs.Chain.Accounts
import CallGuard.Proofs.Chain.Built

/-!
# How calls pass the fallback

Every deed belongs to one of the layers, or it is a call of a service. A call passes the fallback once
for each request that reaches it, and what it does besides is for the layers outside of the fallback to
do. A `Visit` is one such request, an `Attempt` is what the retry makes, and `Chain.exists_accountFor`
takes apart what a call does when the fallback stands right around the bulkhead.
-/

namespace CallGuard

namespace Deed

/-- The capability of the stages that do such a thing. -/
def owner? : Deed → Option Capability
  | .granted c => some c
  | .denied | .recorded _ => some .breaker
  | .refused (.requestNotPermitted _) => some .limiter
  | .refused (.callNotPermitted ..) => some .breaker
  | .refused (.bulkheadFull ..) => some .bulkhead
  | .told _ => some .retry
  | .handlerAsked _ | .factoryAsked _ => some .fallback
  | .mapperAsked .. => some .exceptions
  | .called _ | .replied .. | .refused _ => none

/-- The service that was called or that has replied. -/
def service? : Deed → Option Nat
  | .called service | .replied service _ => some service
  | _ => none

/-- The outcome about which a handler was asked. -/
def question? : Deed → Option Outcome
  | .handlerAsked o => some o
  | _ => none

/-- What a breaker has recorded. -/
def recorded? : Deed → Option Bool
  | .recorded failed => some failed
  | _ => none

/-- What a retry has announced. -/
def told? : Deed → Option Happening
  | .told h => some h
  | _ => none

/-- It is done by stages of these capabilities, or is a call of the target and its reply. Other
services are called where there is a fallback. -/
def Belongs (target : Nat) (cs : List Capability) (d : Deed) : Prop :=
  match d.owner? with
  | some c => c ∈ cs
  | none => d.service? = some target ∨ .fallback ∈ cs

theorem Belongs.mono {target : Nat} {cs cs' : List Capability} {d : Deed}
    (belongs : d.Belongs target cs) (within : cs ⊆ cs') : d.Belongs target cs' := by
  unfold Belongs at *
  cases owner : d.owner? with
  | none =>
    rw [owner] at belongs
    exact belongs.imp_right fun mem => within mem
  | some c =>
    rw [owner] at belongs
    exact within belongs

theorem Belongs.cons {target : Nat} {cs : List Capability} {d : Deed} (belongs : d.Belongs target cs)
    (c : Capability) : d.Belongs target (c :: cs) :=
  belongs.mono (List.subset_cons_self c cs)

theorem belongs_of_owner {target : Nat} {c : Capability} {cs : List Capability} {d : Deed}
    (owner : d.owner? = some c) (mem : c ∈ cs) : d.Belongs target cs := by
  unfold Belongs
  rw [owner]
  exact mem

theorem Belongs.owner {target : Nat} {cs : List Capability} {d : Deed} (belongs : d.Belongs target cs)
    {c : Capability} (owner : d.owner? = some c) : c ∈ cs := by
  unfold Belongs at belongs
  rwa [owner] at belongs

end Deed

open Deed

namespace Layer

variable {l : Layer} {e : Fault}

theorem owner_of_mem_refusal (refuses : l.Refuses e) :
    ∀ d ∈ l.refusal e, d.owner? = some l.capability := by
  intro d mem
  cases refuses with
  | breaker b state =>
    simp only [refusal, List.mem_cons, List.not_mem_nil, or_false] at mem
    rcases mem with rfl | rfl <;> rfl
  | limiter | bulkhead => cases List.mem_singleton.mp mem; rfl

theorem owner_of_mem_aftermath (o : Outcome) :
    ∀ d ∈ l.aftermath o, d.owner? = some l.capability := by
  intro d mem
  cases l with
  | breaker b => cases List.mem_singleton.mp mem; rfl
  | _ => cases mem

end Layer

theorem BoundFallback.exists_scan_eq (m : Method) (o : Outcome) (stages : List BoundFallback) :
    ∃ asked, scan m o stages = .replicate asked (.handlerAsked o) := by
  induction stages with
  | nil => exact ⟨0, rfl⟩
  | cons stage rest ih =>
    obtain ⟨asked, ih⟩ := ih
    rw [scan]
    split
    · exact ⟨1, rfl⟩
    · exact ⟨asked + 1, by rw [ih, List.replicate_succ]⟩

theorem BoundFallback.owner_of_mem_scan {m : Method} {o : Outcome} {stages : List BoundFallback} :
    ∀ d ∈ scan m o stages, d.owner? = some .fallback := by
  intro d mem
  obtain ⟨asked, eq⟩ := exists_scan_eq m o stages
  rw [eq] at mem
  cases List.eq_of_mem_replicate mem
  rfl

theorem Substitute.Provides.owner {o : Outcome} {s : Substitute} {σ : List Deed} {service : Nat}
    (provides : s.Provides o σ service) : ∀ d ∈ σ, d.owner? = some .fallback := by
  cases provides <;> simp [owner?]

/-- To provide a service no handler is asked. -/
theorem Substitute.Provides.silent {o : Outcome} {s : Substitute} {σ : List Deed} {service : Nat}
    (provides : s.Provides o σ service) : σ.filterMap question? = [] := by
  cases provides <;> rfl

theorem Mapper.owner_of_mem_offers {e : Fault} {mappers : List Mapper} :
    ∀ d ∈ offers e mappers, d.owner? = some .exceptions := by
  induction mappers with
  | nil => simp [offers]
  | cons mapper rest ih =>
    intro d mem
    rw [offers] at mem
    rcases List.mem_cons.mp mem with rfl | later
    · rfl
    · split at later
      · cases later
      · exact ih d later

namespace Account

variable {A : Account} {target : Nat} {cs : List Capability}

/-- What becomes of a call at a guard: nothing yet, a refusal, or what becomes of it inside. -/
theorem guarded_cases {l : Layer} {σ : List Deed} {end? : Option Outcome}
    (went : guarded l A σ end?) :
    (σ = [] ∧ end? = none) ∨
    (∃ e, l.Refuses e ∧ σ = l.refusal e ∧ (end? = none ∨ end? = some (.fault e))) ∨
    ∃ τ, A τ end? ∧ σ = .granted l.capability :: (τ ++ end?.toList.flatMap l.aftermath) := by
  cases went with
  | idle => exact .inl ⟨rfl, rfl⟩
  | turned refuses => exact .inr (.inl ⟨_, refuses, rfl, .inl rfl⟩)
  | refused refuses => exact .inr (.inl ⟨_, refuses, rfl, .inr rfl⟩)
  | running so => exact .inr (.inr ⟨_, so, by simp⟩)
  | ended went => exact .inr (.inr ⟨_, went, by simp⟩)

/-- What becomes of a call inside of the mapping, and the mappers that are asked in the end. -/
theorem exists_of_remapped {mappers : List Mapper} {σ : List Deed} {end? : Option Outcome}
    (went : remapped mappers A σ end?) :
    ∃ τ asked left, A τ left ∧ σ = τ ++ asked ∧ end? = left.map (Outcome.mapped mappers) ∧
      ∀ d ∈ asked, d.owner? = some .exceptions := by
  cases went with
  | running so => exact ⟨σ, [], none, so, by simp, rfl, by simp⟩
  | value went => exact ⟨σ, [], _, went, by simp, rfl, by simp⟩
  | fault went => exact ⟨_, _, _, went, rfl, rfl, Mapper.owner_of_mem_offers⟩

/-- All that is done belongs to the target and to stages of these capabilities. -/
def StaysWithin (A : Account) (target : Nat) (cs : List Capability) : Prop :=
  ∀ σ end?, A σ end? → ∀ d ∈ σ, d.Belongs target cs

theorem ofService.service {σ : List Deed} {end? : Option Outcome} (called : ofService target σ end?) :
    ∀ d ∈ σ, d.owner? = none ∧ d.service? = some target := by
  cases called <;> simp [owner?, service?]

theorem staysWithin_ofService (target : Nat) : (ofService target).StaysWithin target [] := by
  intro σ end? went d mem
  obtain ⟨none, service⟩ := ofService.service went d mem
  unfold Belongs
  rw [none]
  exact .inl service

theorem StaysWithin.guarded (stays : A.StaysWithin target cs) (l : Layer) :
    (guarded l A).StaysWithin target (l.capability :: cs) := by
  intro σ end? went d mem
  have own : ∀ {d : Deed}, d.owner? = some l.capability → d.Belongs target (l.capability :: cs) :=
    fun owner => belongs_of_owner owner List.mem_cons_self
  rcases guarded_cases went with ⟨rfl, -⟩ | ⟨e, refuses, rfl, -⟩ | ⟨τ, within, rfl⟩
  · cases mem
  · exact own (Layer.owner_of_mem_refusal refuses d mem)
  · rcases List.mem_cons.mp mem with rfl | later
    · exact own rfl
    · rcases List.mem_append.mp later with inside | after
      · exact (stays _ _ within d inside).cons _
      · obtain ⟨o, -, after⟩ := List.mem_flatMap.mp after
        exact own (Layer.owner_of_mem_aftermath o d after)

theorem StaysWithin.attempted (stays : A.StaysWithin target cs) (r : Retry) (attempts : Nat) :
    (attempted r A attempts).StaysWithin target (.retry :: cs) := by
  intro σ end? went
  have told : ∀ h, (Deed.told h).Belongs target (.retry :: cs) :=
    fun h => belongs_of_owner rfl List.mem_cons_self
  induction went with
  | idle => simp
  | running so => exact fun d mem => (stays _ _ so d mem).cons _
  | ended went _ _ =>
    intro d mem
    rcases List.mem_append.mp mem with within | after
    · exact (stays _ _ went d within).cons _
    · cases List.mem_singleton.mp after
      exact told _
  | again went _ _ _ ih =>
    intro d mem
    rcases List.mem_append.mp mem with within | after
    · exact (stays _ _ went d within).cons _
    · rcases List.mem_cons.mp after with rfl | later
      · exact told _
      · exact ih d later

theorem StaysWithin.replaced (stays : A.StaysWithin target cs) (m : Method)
    (stages : List BoundFallback) :
    (replaced m stages A).StaysWithin target (.fallback :: cs) := by
  intro σ end? went d mem
  have own : ∀ {d : Deed}, d.owner? = some .fallback → d.Belongs target (.fallback :: cs) :=
    fun owner => belongs_of_owner owner List.mem_cons_self
  cases went with
  | running so => exact (stays _ _ so d mem).cons _
  | kept went _ =>
    rcases List.mem_append.mp mem with within | after
    · exact (stays _ _ went d within).cons _
    · exact own (BoundFallback.owner_of_mem_scan d after)
  | substituted went _ provides called =>
    rcases List.mem_append.mp mem with within | after
    · exact (stays _ _ went d within).cons _
    · rcases List.mem_append.mp after with asked | after
      · exact own (BoundFallback.owner_of_mem_scan d asked)
      · rcases List.mem_append.mp after with provided | after
        · exact own (provides.owner d provided)
        · unfold Belongs
          rw [(ofService.service called d after).1]
          exact .inr List.mem_cons_self

theorem StaysWithin.remapped (stays : A.StaysWithin target cs) (mappers : List Mapper) :
    (remapped mappers A).StaysWithin target (.exceptions :: cs) := by
  intro σ end? went d mem
  obtain ⟨τ, asked, left, inner, rfl, -, own⟩ := exists_of_remapped went
  rcases List.mem_append.mp mem with within | after
  · exact (stays _ _ inner d within).cons _
  · exact belongs_of_owner (own d after) List.mem_cons_self

end Account

/-- **Nothing is done that is not for one of the layers to do.** -/
theorem Chain.staysWithin_account (m : Method) (target : Nat) (layers : List Layer) :
    (account m target layers).StaysWithin target (layers.map Stage.capability) := by
  induction layers with
  | nil => exact Account.staysWithin_ofService target
  | cons l inner ih =>
    cases l with
    | exceptions mappers => exact ih.remapped mappers
    | retry r scheduler => exact ih.attempted r 1
    | fallback stages => exact ih.replaced m stages
    | limiter limiter scheduler => exact ih.guarded (.limiter limiter scheduler)
    | breaker b => exact ih.guarded (.breaker b)
    | bulkhead b scheduler => exact ih.guarded (.bulkhead b scheduler)

namespace Deed

/-- The pieces in their order, with deeds of one kind around them. -/
inductive Woven (around : Deed → Prop) : List (List Deed) → List Deed → Prop where
  | nil : Woven around [] []
  | around {d : Deed} {pieces : List (List Deed)} {σ : List Deed} (own : around d)
      (rest : Woven around pieces σ) : Woven around pieces (d :: σ)
  | piece {τ : List Deed} {pieces : List (List Deed)} {σ : List Deed}
      (rest : Woven around pieces σ) : Woven around (τ :: pieces) (τ ++ σ)

namespace Woven

variable {around wider : Deed → Prop} {pieces others : List (List Deed)} {σ τ : List Deed}

theorem append (first : Woven around pieces σ) (second : Woven around others τ) :
    Woven around (pieces ++ others) (σ ++ τ) := by
  induction first with
  | nil => exact second
  | around own _ ih => exact .around own ih
  | piece _ ih =>
    rw [List.append_assoc]
    exact .piece ih

theorem of_forall (own : ∀ d ∈ σ, around d) : Woven around [] σ := by
  induction σ with
  | nil => exact .nil
  | cons d rest ih =>
    obtain ⟨first, others⟩ := List.forall_mem_cons.mp own
    exact .around first (ih others)

theorem single (τ : List Deed) : Woven around [τ] τ := by
  have only : Woven around [τ] (τ ++ []) := .piece .nil
  rwa [List.append_nil] at only

theorem mono (woven : Woven around pieces σ) (implies : ∀ d, around d → wider d) :
    Woven wider pieces σ := by
  induction woven with
  | nil => exact .nil
  | around own _ ih => exact .around (implies _ own) ih
  | piece _ ih => exact .piece ih

/-- What nobody says around the pieces is said in them. -/
theorem filterMap {B : Type} {f : Deed → Option B} (woven : Woven around pieces σ)
    (silent : ∀ d, around d → f d = none) : σ.filterMap f = pieces.flatMap (·.filterMap f) := by
  induction woven with
  | nil => rfl
  | around own _ ih => rw [List.filterMap_cons_none (silent _ own), ih]
  | piece _ ih => rw [List.filterMap_append, ih, List.flatMap_cons]

end Woven

/-- Those who are no breakers grant no permissions of breakers and record nothing. -/
theorem quiet_of_owner {σ : List Deed} (other : ∀ d ∈ σ, d.owner? ≠ some .breaker) :
    σ.count (.granted .breaker) = 0 ∧ σ.filterMap recorded? = [] := by
  constructor
  · exact List.count_eq_zero.mpr fun mem => other _ mem rfl
  · refine List.filterMap_eq_nil_iff.mpr fun d mem => ?_
    cases d with
    | recorded failed => exact absurd rfl (other _ mem)
    | _ => rfl

/-- Those who are no retries announce no attempts. -/
theorem untold_of_owner {σ : List Deed} (other : ∀ d ∈ σ, d.owner? ≠ some .retry) :
    σ.filterMap told? = [] := by
  refine List.filterMap_eq_nil_iff.mpr fun d mem => ?_
  cases d with
  | told h => exact absurd rfl (other _ mem)
  | _ => rfl

end Deed

/-- How a request has passed the fallback: what was done inside of it and what the fallback has seen of
that, what it has done then and what it has left. -/
structure Visit where
  inside : List Deed
  seen : Option Outcome
  after : List Deed
  left : Option Outcome

namespace Visit

def deeds (v : Visit) : List Deed := v.inside ++ v.after

/-- The handlers of the stages are asked about what has come of the request, and the first to accept
it has its service called. -/
inductive Goes (m : Method) (stages : List BoundFallback) (A : Account) : Visit → Prop where
  | unseen {σ : List Deed} (so : A σ none) : Goes m stages A ⟨σ, none, [], none⟩
  | kept {σ : List Deed} {o : Outcome} (went : A σ (some o))
      (nobody : stages.find? (·.Takes m o) = none) :
      Goes m stages A ⟨σ, some o, BoundFallback.scan m o stages, some o⟩
  | substituted {σ provided τ : List Deed} {o : Outcome} {stage : BoundFallback} {service : Nat}
      {left : Option Outcome} (went : A σ (some o))
      (first : stages.find? (·.Takes m o) = some stage)
      (provides : stage.substitute.Provides o provided service)
      (called : Account.ofService service τ left) :
      Goes m stages A ⟨σ, some o, BoundFallback.scan m o stages ++ (provided ++ τ), left⟩

variable {m : Method} {stages : List BoundFallback} {A : Account} {v : Visit}

theorem exists_goes {σ : List Deed} {end? : Option Outcome}
    (went : Account.replaced m stages A σ end?) :
    ∃ v : Visit, v.Goes m stages A ∧ v.deeds = σ ∧ v.left = end? := by
  cases went with
  | running so => exact ⟨_, .unseen so, List.append_nil σ, rfl⟩
  | kept went nobody => exact ⟨_, .kept went nobody, rfl, rfl⟩
  | substituted went first provides called => exact ⟨_, .substituted went first provides called, rfl, rfl⟩

/-- What the fallback has seen is what has come of the request inside of it. -/
theorem Goes.inside (goes : v.Goes m stages A) : A v.inside v.seen := by
  cases goes with
  | unseen so => exact so
  | kept went => exact went
  | substituted went => exact went

/-- What the fallback does after the request belongs to it, but for the call of the service. -/
theorem Goes.owner_of_mem_after (goes : v.Goes m stages A) :
    ∀ d ∈ v.after, ∀ c, d.owner? = some c → c = .fallback := by
  intro d mem c owner
  cases goes with
  | unseen => cases mem
  | kept => exact Option.some.inj (owner.symm.trans (BoundFallback.owner_of_mem_scan d mem))
  | substituted _ _ provides called =>
    rcases List.mem_append.mp mem with asked | later
    · exact Option.some.inj (owner.symm.trans (BoundFallback.owner_of_mem_scan d asked))
    · rcases List.mem_append.mp later with provided | instead
      · exact Option.some.inj (owner.symm.trans (provides.owner d provided))
      · cases owner.symm.trans (Account.ofService.service called d instead).1

/-- The questions to the handlers of the stages about an outcome. -/
def questions (m : Method) (stages : List BoundFallback) (o : Outcome) : List Outcome :=
  (BoundFallback.scan m o stages).filterMap question?

/-- Nobody is asked but once about what the fallback has seen. -/
theorem Goes.questions (goes : v.Goes m stages A)
    (unasked : ∀ d ∈ v.inside, d.owner? ≠ some .fallback) :
    v.deeds.filterMap question? = v.seen.toList.flatMap (questions m stages) := by
  have before : v.inside.filterMap question? = [] := by
    refine List.filterMap_eq_nil_iff.mpr fun d mem => ?_
    cases d with
    | handlerAsked o => exact absurd rfl (unasked _ mem)
    | _ => rfl
  rw [deeds, List.filterMap_append, before, List.nil_append]
  cases goes with
  | unseen => rfl
  | kept => simp [Visit.questions]
  | @substituted _ provided τ _ _ _ _ _ _ provides called =>
    have silent : τ.filterMap question? = [] := by
      cases called <;> rfl
    simp [Visit.questions, provides.silent, silent]

/-- A fallback leaves nothing of what it has not seen. -/
theorem Goes.seen_of_left (goes : v.Goes m stages A) (left : v.left ≠ none) : v.seen ≠ none := by
  cases goes with
  | unseen => exact absurd rfl left
  | kept => exact Option.some_ne_none _
  | substituted => exact Option.some_ne_none _

end Visit

/-- What has come of an attempt: it has passed the fallback, it was refused before, or it was cut off
before it had come to anything. -/
inductive Attempt where
  | visited (v : Visit)
  | refused (e : Fault)
  | cut

namespace Attempt

def visit? : Attempt → Option Visit
  | visited v => some v
  | _ => none

theorem mem_of_visit {attempts : List Attempt} {v : Visit}
    (mem : v ∈ attempts.filterMap visit?) : .visited v ∈ attempts := by
  obtain ⟨a, made, visit⟩ := List.mem_filterMap.mp mem
  cases a <;> cases visit
  exact made

/-- What the attempt has ended with. -/
def outcome? : Attempt → Option Outcome
  | visited v => v.left
  | refused e => some (.fault e)
  | cut => none

end Attempt

/-- What the retry has announced when attempts from that number on have had these outcomes. After them
another attempt may be on its way. -/
inductive Retry.Judges (r : Retry) : Nat → List Outcome → List Happening → Prop where
  | pending (attempts : Nat) : Judges r attempts [] []
  | last {attempts : Nat} {last o : Outcome} {label : Option String} {h : Happening}
      (final : ¬ r.config.Retried last ∨ attempts = r.config.maxAttempts)
      (closes : r.Closes attempts last label h o) : Judges r attempts [last] [h]
  | again {attempts : Nat} {retried : Outcome} {outcomes : List Outcome} {told : List Happening}
      (isRetried : r.config.Retried retried) (allowed : attempts ≠ r.config.maxAttempts)
      (rest : Judges r (attempts + 1) outcomes told) :
      Judges r attempts (retried :: outcomes)
        (.retried attempts (r.config.interval.wait attempts) :: told)

/-- The deeds of a call as the attempts account for them: layers outside of the fallback do what is done
around the visits, and of these layers breakers grant a permission for each visit and record what it
leaves. -/
structure Attempt.AccountFor (m : Method) (stages : List BoundFallback) (A : Account)
    (outside : List Layer) (attempts : List Attempt) (σ : List Deed) : Prop where
  goes : ∀ v, .visited v ∈ attempts → v.Goes m stages A
  refused : ∀ e, .refused e ∈ attempts → ∃ l ∈ outside, l.Refuses e
  woven : Woven (fun d => ∃ l ∈ outside, d.owner? = some l.capability)
    ((attempts.filterMap visit?).map Visit.deeds) σ
  breaker : ∀ b, .breaker b ∈ outside →
    σ.count (.granted .breaker) = (attempts.filterMap visit?).length ∧
    σ.filterMap recorded? = ((attempts.filterMap visit?).filterMap Visit.left).map b.fails

namespace Attempt.AccountFor

variable {m : Method} {stages : List BoundFallback} {A : Account} {outside : List Layer}
  {attempts others : List Attempt} {σ τ : List Deed} {l : Layer}

theorem append (first : Attempt.AccountFor m stages A outside attempts σ)
    (second : Attempt.AccountFor m stages A outside others τ) :
    Attempt.AccountFor m stages A outside (attempts ++ others) (σ ++ τ) where
  goes v mem := (List.mem_append.mp mem).elim (first.goes v) (second.goes v)
  refused e mem := (List.mem_append.mp mem).elim (first.refused e) (second.refused e)
  woven := by
    rw [List.filterMap_append, List.map_append]
    exact first.woven.append second.woven
  breaker b mem := by
    obtain ⟨granted, recorded⟩ := first.breaker b mem
    obtain ⟨granted', recorded'⟩ := second.breaker b mem
    constructor
    · rw [List.count_append, granted, granted', List.filterMap_append, List.length_append]
    · rw [List.filterMap_append, recorded, recorded']
      simp

/-- An attempt without a visit, in which no breaker has let anything through. -/
theorem of_silent {a : Attempt} (unvisited : a.visit? = none)
    (refused : ∀ e, a = .refused e → ∃ l ∈ outside, l.Refuses e)
    (own : ∀ d ∈ σ, ∃ l ∈ outside, d.owner? = some l.capability)
    (quiet : σ.count (.granted .breaker) = 0 ∧ σ.filterMap recorded? = []) :
    Attempt.AccountFor m stages A outside [a] σ where
  goes v mem := by
    cases List.mem_singleton.mp mem
    cases unvisited
  refused e mem := refused e (List.mem_singleton.mp mem).symm
  woven := by
    rw [List.filterMap_cons_none unvisited]
    exact .of_forall own
  breaker b _ := by
    rw [List.filterMap_cons_none unvisited]
    exact quiet

/-- A layer that is no breaker stands outside, too, and does something before and after. -/
theorem wrap (account : Attempt.AccountFor m stages A outside attempts σ)
    (other : l.capability ≠ .breaker) (before after : List Deed)
    (first : ∀ d ∈ before, d.owner? = some l.capability)
    (last : ∀ d ∈ after, d.owner? = some l.capability) :
    Attempt.AccountFor m stages A (l :: outside) attempts (before ++ (σ ++ after)) where
  goes := account.goes
  refused e mem := by
    obtain ⟨l', within, refuses⟩ := account.refused e mem
    exact ⟨l', List.mem_cons_of_mem l within, refuses⟩
  woven := by
    have mine : ∀ {ρ : List Deed}, (∀ d ∈ ρ, d.owner? = some l.capability) →
        ∀ d ∈ ρ, ∃ l' ∈ l :: outside, d.owner? = some l'.capability :=
      fun own d mem => ⟨l, List.mem_cons_self, own d mem⟩
    have within := account.woven.mono fun d ⟨l', there, own⟩ =>
      (⟨l', List.mem_cons_of_mem l there, own⟩ : ∃ l' ∈ l :: outside, d.owner? = some l'.capability)
    have all := (Woven.of_forall (mine first)).append (within.append (.of_forall (mine last)))
    rwa [List.append_nil, List.nil_append] at all
  breaker b mem := by
    have silent : ∀ {ρ : List Deed}, (∀ d ∈ ρ, d.owner? = some l.capability) →
        ρ.count (.granted .breaker) = 0 ∧ ρ.filterMap recorded? = [] := fun own =>
      quiet_of_owner fun d there same => other (Option.some.inj ((own d there).symm.trans same))
    have within : .breaker b ∈ outside := by
      rcases List.mem_cons.mp mem with rfl | within
      · exact absurd rfl other
      · exact within
    obtain ⟨granted, recorded⟩ := account.breaker b within
    obtain ⟨none, nothing⟩ := silent first
    obtain ⟨none', nothing'⟩ := silent last
    constructor
    · rw [List.count_append, List.count_append, none, none', granted]
      omega
    · rw [List.filterMap_append, List.filterMap_append, nothing, nothing', recorded]
      simp

/-- A layer that is no breaker stands outside, too, and does something in the end. -/
theorem followed (account : Attempt.AccountFor m stages A outside attempts σ)
    (other : l.capability ≠ .breaker) {after : List Deed}
    (last : ∀ d ∈ after, d.owner? = some l.capability) :
    Attempt.AccountFor m stages A (l :: outside) attempts (σ ++ after) :=
  account.wrap other [] after (by simp) last

/-- A layer that is no breaker stands outside, too, and does nothing. -/
theorem widen (account : Attempt.AccountFor m stages A outside attempts σ)
    (other : l.capability ≠ .breaker) :
    Attempt.AccountFor m stages A (l :: outside) attempts σ := by
  have wider := account.wrap other [] [] (by simp) (by simp)
  rwa [List.append_nil, List.nil_append] at wider

end Attempt.AccountFor

theorem Layer.quiet_refusal (l : Layer) (e : Fault) :
    (l.refusal e).count (.granted .breaker) = 0 ∧ (l.refusal e).filterMap recorded? = [] := by
  cases l <;> exact ⟨rfl, rfl⟩

namespace Chain

variable {m : Method} {target : Nat} {stages : List BoundFallback} {outside inside : List Layer}
  {σ : List Deed} {end? : Option Outcome}

/-- A breaker right outside of the fallback lets a request pass and records what is left of it. -/
theorem accountFor_breaker {v : Visit} (b : Breaker)
    (goes : v.Goes m stages (account m target inside))
    (quiet : v.deeds.count (.granted .breaker) = 0 ∧ v.deeds.filterMap recorded? = []) :
    Attempt.AccountFor m stages (account m target inside) [.breaker b] [.visited v]
      (.granted .breaker :: (v.deeds ++ v.left.toList.flatMap (Layer.aftermath (.breaker b)))) where
  goes v' mem := by
    cases List.mem_singleton.mp mem
    exact goes
  refused e mem := by cases List.mem_singleton.mp mem
  woven := by
    refine .around ⟨_, List.mem_cons_self, rfl⟩ (.piece (.of_forall fun d mem => ?_))
    obtain ⟨o, -, after⟩ := List.mem_flatMap.mp mem
    exact ⟨_, List.mem_cons_self, Layer.owner_of_mem_aftermath o d after⟩
  breaker b' mem := by
    cases List.mem_singleton.mp mem
    obtain ⟨none, nothing⟩ := quiet
    constructor
    · rw [List.count_cons_self, List.count_append, none]
      cases v.left <;> rfl
    · rw [List.filterMap_cons_none rfl, List.filterMap_append, nothing]
      cases left : v.left <;> simp [Attempt.visit?, left, Layer.aftermath, recorded?]

/-- Between the breaker and a fallback around the bulkhead there is nothing. -/
theorem eq_nil_of_breaker {l : Layer}
    (guards : ∀ l' ∈ outside, l'.capability = .limiter ∨ l'.capability = .breaker)
    (ordered : ((l :: (outside ++ .fallback stages :: inside)).map Stage.capability).Sublist
      Placement.inner.order)
    (breaker : l.capability = .breaker) : outside = [] := by
  rw [List.eq_nil_iff_forall_not_mem]
  intro l' mem
  have two := Placement.pair_sublist ordered (List.mem_map_of_mem (List.mem_append_left _ mem))
  rw [breaker] at two
  revert two
  rcases guards l' mem with is | is <;> rw [is] <;> decide

/-- Limiter and breaker make one attempt of a request. -/
theorem exists_attempt (guards : ∀ l ∈ outside, l.capability = .limiter ∨ l.capability = .breaker)
    (ordered : ((outside ++ .fallback stages :: inside).map Stage.capability).Sublist
      Placement.inner.order)
    (went : account m target (outside ++ .fallback stages :: inside) σ end?) :
    ∃ a : Attempt, Attempt.AccountFor m stages (account m target inside) outside [a] σ ∧
      a.outcome? = end? := by
  induction outside generalizing σ end? with
  | nil =>
    obtain ⟨v, goes, rfl, rfl⟩ := Visit.exists_goes went
    refine ⟨.visited v, ⟨?_, by simp, .single _, by simp⟩, rfl⟩
    intro v' mem
    cases List.mem_singleton.mp mem
    exact goes
  | cons l rest ih =>
    obtain ⟨guard, others⟩ := List.forall_mem_cons.mp guards
    have guarded :
        Account.guarded l (account m target (rest ++ .fallback stages :: inside)) σ end? := by
      cases l <;> first | exact went | simp [Stage.capability] at guard
    rcases Account.guarded_cases guarded with ⟨rfl, rfl⟩ | ⟨e, refuses, rfl, ended⟩ | ⟨τ, within, rfl⟩
    · exact ⟨.cut, .of_silent rfl (by simp) (by simp) ⟨rfl, rfl⟩, rfl⟩
    · have own : ∀ d ∈ l.refusal e, ∃ l' ∈ l :: rest, d.owner? = some l'.capability :=
        fun d mem => ⟨l, List.mem_cons_self, Layer.owner_of_mem_refusal refuses d mem⟩
      rcases ended with rfl | rfl
      · exact ⟨.cut, .of_silent rfl (by simp) own (l.quiet_refusal e), rfl⟩
      · refine ⟨.refused e, .of_silent rfl ?_ own (l.quiet_refusal e), rfl⟩
        intro e' same
        cases same
        exact ⟨l, List.mem_cons_self, refuses⟩
    · by_cases breaker : l.capability = .breaker
      · obtain rfl := eq_nil_of_breaker others ordered breaker
        obtain ⟨v, goes, rfl, rfl⟩ := Visit.exists_goes within
        cases l <;> cases breaker
        refine ⟨.visited v, accountFor_breaker _ goes (quiet_of_owner fun d mem owner => ?_), rfl⟩
        have belongs := staysWithin_account m target (.fallback stages :: inside) _ _ within d mem
        have two : [Capability.breaker, .breaker].Sublist Placement.inner.order :=
          Placement.pair_sublist ordered (belongs.owner owner)
        exact absurd two (by decide)
      · obtain ⟨a, account, outcome⟩ := ih others (List.sublist_of_cons_sublist ordered) within
        refine ⟨a, account.wrap breaker [.granted l.capability] _ ?_ ?_, outcome⟩
        · exact List.forall_mem_singleton.mpr rfl
        · intro d mem
          obtain ⟨o, -, after⟩ := List.mem_flatMap.mp mem
          exact Layer.owner_of_mem_aftermath o d after

/-- A retry judges what its attempts have ended with. -/
theorem exists_accountFor_of_attempted {A : Account} {r : Retry} {attempts : Nat}
    (single : ∀ {σ end?}, A σ end? → ∃ a : Attempt,
      Attempt.AccountFor m stages (account m target inside) outside [a] σ ∧ a.outcome? = end?)
    (untold : ∀ {σ end?}, A σ end? → σ.filterMap told? = []) (scheduler : Option Scheduler)
    (went : Account.attempted r A attempts σ end?) :
    ∃ made,
      Attempt.AccountFor m stages (account m target inside) (.retry r scheduler :: outside) made σ ∧
        r.Judges attempts (made.filterMap Attempt.outcome?) (σ.filterMap told?) := by
  have other : Stage.capability (F := BoundFallback) (.retry r scheduler) ≠ .breaker := by
    simp [Stage.capability]
  have told : ∀ h, ∀ d ∈ [Deed.told h], d.owner? = some .retry := fun _ =>
    List.forall_mem_singleton.mpr rfl
  induction went with
  | idle => exact ⟨[], ⟨by simp, by simp, .nil, fun _ _ => ⟨rfl, rfl⟩⟩, .pending _⟩
  | running so =>
    obtain ⟨a, account, ended⟩ := single so
    refine ⟨[a], account.widen other, ?_⟩
    rw [untold so, List.filterMap_cons_none ended]
    exact .pending _
  | @ended _ σ last _ _ h went final closes =>
    obtain ⟨a, account, ended⟩ := single went
    refine ⟨[a], account.followed other (told h), ?_⟩
    rw [List.filterMap_append, untold went, List.filterMap_cons_some ended]
    exact .last final closes
  | @again attempts σ τ retried _ went isRetried allowed _ ih =>
    obtain ⟨a, account, ended⟩ := single went
    obtain ⟨made, others, judges⟩ := ih
    have first :=
      account.followed other (told (.retried attempts (r.config.interval.wait attempts)))
    refine ⟨a :: made, by simpa using first.append others, ?_⟩
    rw [List.filterMap_append, untold went, List.filterMap_cons_some ended]
    exact .again isRetried allowed judges

theorem pair_of_outside {placement : Placement} {l : Layer} (mem : l ∈ outside)
    (ordered : ((outside ++ .fallback stages :: inside).map Stage.capability).Sublist
      placement.order) : [l.capability, .fallback].Sublist placement.order := by
  have both : [l, .fallback stages].Sublist (outside ++ .fallback stages :: inside) :=
    (List.singleton_sublist.mpr mem).append (List.singleton_sublist.mpr List.mem_cons_self)
  exact (both.map Stage.capability).trans ordered

/-- Between the retry and the fallback that stands around the bulkhead there are limiter and breaker. -/
theorem guard_of_ordered {l : Layer} {c : Capability} (within : l ∈ outside)
    (ordered : (c :: (outside ++ .fallback stages :: inside).map Stage.capability).Sublist
      Placement.inner.order) (other : c ≠ .exceptions) :
    l.capability = .limiter ∨ l.capability = .breaker := by
  have first := Placement.pair_sublist ordered
    (List.mem_map_of_mem (f := Stage.capability) (List.mem_append_left _ within))
  have second := pair_of_outside within (List.sublist_of_cons_sublist ordered)
  revert first second
  generalize l.capability = d
  revert other
  cases c <;> cases d <;> decide

/-- Where there is no retry outside of the fallback a call is one attempt. -/
theorem exists_accountFor_of_guards
    (guards : ∀ l ∈ outside, l.capability = .limiter ∨ l.capability = .breaker)
    (ordered : ((outside ++ .fallback stages :: inside).map Stage.capability).Sublist
      Placement.inner.order)
    (went : account m target (outside ++ .fallback stages :: inside) σ end?) :
    ∃ attempts, Attempt.AccountFor m stages (account m target inside) outside attempts σ ∧
      ∀ r scheduler, .retry r scheduler ∈ outside →
        r.Judges 1 (attempts.filterMap Attempt.outcome?) (σ.filterMap told?) := by
  obtain ⟨a, account, -⟩ := exists_attempt guards ordered went
  refine ⟨[a], account, fun r scheduler mem => ?_⟩
  rcases guards _ mem with is | is <;> cases is

/-- **What a call does is what its attempts account for**, where the fallback stands right around the
bulkhead. -/
theorem exists_accountFor
    (ordered : ((outside ++ .fallback stages :: inside).map Stage.capability).Sublist
      Placement.inner.order)
    (went : account m target (outside ++ .fallback stages :: inside) σ end?) :
    ∃ attempts, Attempt.AccountFor m stages (account m target inside) outside attempts σ ∧
      ∀ r scheduler, .retry r scheduler ∈ outside →
        r.Judges 1 (attempts.filterMap Attempt.outcome?) (σ.filterMap told?) := by
  induction outside generalizing σ end? with
  | nil => exact exists_accountFor_of_guards (by simp) ordered went
  | cons l rest ih =>
    have within := List.sublist_of_cons_sublist ordered
    have later : l.capability ≠ .exceptions →
        ∀ l' ∈ rest, l'.capability = .limiter ∨ l'.capability = .breaker :=
      fun other l' mem => guard_of_ordered mem ordered other
    have alone : l.capability = .limiter ∨ l.capability = .breaker →
        ∃ attempts,
          Attempt.AccountFor m stages (account m target inside) (l :: rest) attempts σ ∧
          ∀ r scheduler, .retry r scheduler ∈ l :: rest →
            r.Judges 1 (attempts.filterMap Attempt.outcome?) (σ.filterMap told?) := by
      intro guard
      have outer : l.capability ≠ .exceptions := by rcases guard with is | is <;> simp [is]
      exact exists_accountFor_of_guards (List.forall_mem_cons.mpr ⟨guard, later outer⟩) ordered went
    cases l with
    | exceptions mappers =>
      have other : Stage.capability (F := BoundFallback) (.exceptions mappers) ≠ .breaker := by
        simp [Stage.capability]
      have inner : ∀ {r scheduler}, Stage.retry r scheduler ∈ .exceptions mappers :: rest →
          .retry r scheduler ∈ rest := by
        intro r scheduler mem
        simpa using mem
      obtain ⟨τ, asked, left, passed, rfl, -, own⟩ := Account.exists_of_remapped went
      obtain ⟨attempts, account, judges⟩ := ih within passed
      have silent : asked.filterMap told? = [] := untold_of_owner fun d mem retry => by
        cases (own d mem).symm.trans retry
      refine ⟨attempts, account.followed other own, fun r s mem => ?_⟩
      rw [List.filterMap_append, silent, List.append_nil]
      exact judges r s (inner mem)
    | retry r scheduler =>
      have guards := later (by simp [Stage.capability])
      have untold : ∀ {σ end?}, account m target (rest ++ .fallback stages :: inside) σ end? →
          σ.filterMap told? = [] := by
        intro σ end? went
        refine untold_of_owner fun d mem retry => ?_
        have belongs := staysWithin_account _ _ _ _ _ went d mem
        have two := Placement.pair_sublist ordered (belongs.owner retry)
        exact absurd two (by simp [Stage.capability]; decide)
      obtain ⟨made, account, judges⟩ := exists_accountFor_of_attempted
        (fun went => exists_attempt guards within went) untold scheduler went
      refine ⟨made, account, fun r' s mem => ?_⟩
      rcases List.mem_cons.mp mem with same | later
      · cases same
        exact judges
      · rcases guards _ later with is | is <;> cases is
    | limiter => exact alone (.inl rfl)
    | breaker => exact alone (.inr rfl)
    | fallback | bulkhead =>
      have two := Placement.pair_sublist ordered
        (List.mem_map_of_mem (f := Stage.capability) (List.mem_append_right rest List.mem_cons_self))
      exact absurd two (by simp only [Stage.capability]; decide)

end Chain

end CallGuard
