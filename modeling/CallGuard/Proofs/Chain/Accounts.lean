import CallGuard.Chain.Call
import CallGuard.Proofs.Breaker.Moves
import CallGuard.Proofs.Chain.Deeds
import CallGuard.Proofs.Retry.Course
import CallGuard.Proofs.Services

/-!
# Accounts of calls

The account of a call says what it may have done when it has ended with an outcome, and what as long
as it has none, be it that it is still on its way, was dropped or has crashed. Every layer turns the
account of what it guards into an account of its own; `Chain.account` is that of a call through all
layers. What single operations do is told here as well, one lemma for each of them.
-/

namespace CallGuard

/-- Which deeds a call has done by the time at which it has the outcome, or has none. -/
abbrev Account := List Deed → Option Outcome → Prop

namespace Layer

/-- The faults that the layer refuses calls with. -/
inductive Refuses : Layer → Fault → Prop where
  | limiter (l : Limiter) (s : Option Scheduler) :
      Refuses (.limiter l s) (.requestNotPermitted l.name)
  | breaker (b : Breaker) (state : CircuitState) :
      Refuses (.breaker b) (.callNotPermitted b.name state)
  | bulkhead (b : Bulkhead) (s : Option Scheduler) :
      Refuses (.bulkhead b s) (.bulkheadFull b.name b.config.capacity)

/-- What the layer does to refuse a call. -/
def refusal (l : Layer) (e : Fault) : List Deed :=
  match l with
  | .breaker _ => [.denied, .refused e]
  | _ => [.refused e]

/-- What the layer does when a call that it has let through has ended. -/
def aftermath (l : Layer) (o : Outcome) : List Deed :=
  match l with
  | .breaker b => [.recorded (b.fails o)]
  | _ => []

/-- What the layer has done when it has answered a request. -/
def Answers {A : Type} (l : Layer) (σ : List Deed) : Except Fault A → Prop
  | .ok _ => σ = [.granted l.capability]
  | .error e => σ = l.refusal e ∧ l.Refuses e

end Layer

namespace BoundFallback

/-- Whether the stage replaces the outcome. -/
def Takes (m : Method) (o : Outcome) (stage : BoundFallback) : Bool := stage.handler.accepts m o

/-- What the stages do to find one that replaces the outcome: handlers are asked up to the first that
accepts it. -/
def scan (m : Method) (o : Outcome) : List BoundFallback → List Deed
  | [] => []
  | stage :: rest => .handlerAsked o :: if stage.Takes m o then [] else scan m o rest

end BoundFallback

/-- What is done to provide the service in place of the outcome. -/
inductive Substitute.Provides (o : Outcome) : Substitute → List Deed → Nat → Prop where
  | service (number : Nat) : Provides o (.service number) [] number
  | made (make : Option Fault → Service) (number : Nat) :
      Provides o (.made make) [.factoryAsked o.fault?] number

namespace Mapper

/-- The questions to mappers about the fault, up to the first that replaces it. -/
def offers (e : Fault) : List Mapper → List Deed
  | [] => []
  | m :: rest => .mapperAsked m.name e :: if (m.replace? e).isSome then [] else offers e rest

/-- What the first mapper that replaces the fault makes of it. -/
def replacement (e : Fault) (mappers : List Mapper) : Fault :=
  (mappers.findSome? (·.replace? e)).getD e

end Mapper

/-- The outcome with the fault that the first mapper gives that replaces it. -/
def Outcome.mapped (mappers : List Mapper) : Outcome → Outcome
  | .value v => .value v
  | .fault e => .fault (Mapper.replacement e mappers)

theorem Outcome.mapped_nil (o : Outcome) : o.mapped [] = o := by
  cases o <;> rfl

namespace Account

/-- What the account says of a reply. A crash is no outcome. -/
def On (A : Account) (σ : List Deed) : Reply → Prop
  | .ended o => A σ (some o)
  | .crashed _ => A σ none

/-- A call of a service. -/
inductive ofService (service : Nat) : Account where
  | begun : ofService service [.called service] none
  | crashed (text : String) :
      ofService service [.called service, .replied service (.crashed text)] none
  | ended (o : Outcome) :
      ofService service [.called service, .replied service (.ended o)] (some o)

/-- A call that the layer refuses or lets through. -/
inductive guarded (l : Layer) (A : Account) : Account where
  | idle : guarded l A [] none
  | turned {e : Fault} (refuses : l.Refuses e) : guarded l A (l.refusal e) none
  | refused {e : Fault} (refuses : l.Refuses e) : guarded l A (l.refusal e) (some (.fault e))
  | running {σ : List Deed} (so : A σ none) : guarded l A (.granted l.capability :: σ) none
  | ended {σ : List Deed} {o : Outcome} (went : A σ (some o)) :
      guarded l A (.granted l.capability :: (σ ++ l.aftermath o)) (some o)

/-- A call that is attempted, from the attempt of that number on. -/
inductive attempted (r : Retry) (A : Account) : Nat → Account where
  | idle {attempts : Nat} : attempted r A attempts [] none
  | running {attempts : Nat} {σ : List Deed} (so : A σ none) : attempted r A attempts σ none
  | ended {attempts : Nat} {σ : List Deed} {last o : Outcome} {label : Option String} {h : Happening}
      (went : A σ (some last))
      (final : ¬ r.config.Retried last ∨ attempts = r.config.maxAttempts)
      (closes : r.Closes attempts last label h o) :
      attempted r A attempts (σ ++ [.told h]) (some o)
  | again {attempts : Nat} {σ τ : List Deed} {retried : Outcome} {end? : Option Outcome}
      (went : A σ (some retried)) (isRetried : r.config.Retried retried)
      (allowed : attempts ≠ r.config.maxAttempts) (rest : attempted r A (attempts + 1) τ end?) :
      attempted r A attempts
        (σ ++ .told (.retried attempts (r.config.interval.wait attempts)) :: τ) end?

/-- A call whose outcome the stages may replace by that of another service. -/
inductive replaced (m : Method) (stages : List BoundFallback) (A : Account) : Account where
  | running {σ : List Deed} (so : A σ none) : replaced m stages A σ none
  | kept {σ : List Deed} {o : Outcome} (went : A σ (some o))
      (nobody : stages.find? (·.Takes m o) = none) :
      replaced m stages A (σ ++ BoundFallback.scan m o stages) (some o)
  | substituted {σ provided τ : List Deed} {o : Outcome} {stage : BoundFallback} {service : Nat}
      {end? : Option Outcome} (went : A σ (some o))
      (first : stages.find? (·.Takes m o) = some stage)
      (provides : stage.substitute.Provides o provided service)
      (called : ofService service τ end?) :
      replaced m stages A (σ ++ (BoundFallback.scan m o stages ++ (provided ++ τ))) end?

/-- A call whose fault mappers may replace. -/
inductive remapped (mappers : List Mapper) (A : Account) : Account where
  | running {σ : List Deed} (so : A σ none) : remapped mappers A σ none
  | value {σ : List Deed} {v : Value} (went : A σ (some (.value v))) :
      remapped mappers A σ (some (.value v))
  | fault {σ : List Deed} {e : Fault} (went : A σ (some (.fault e))) :
      remapped mappers A (σ ++ Mapper.offers e mappers)
        (some (.fault (Mapper.replacement e mappers)))

end Account

/-- The account of a call of the method through the layer. -/
def Layer.account (m : Method) (A : Account) (l : Layer) : Account :=
  match l with
  | .exceptions mappers => .remapped mappers A
  | .retry r _ => .attempted r A 1
  | .fallback stages => .replaced m stages A
  | .limiter .. | .breaker _ | .bulkhead .. => .guarded l A

/-- The account of a call of the method that goes through the layers to the service. -/
def Chain.account (m : Method) (service : Nat) : List Layer → Account
  | [] => .ofService service
  | l :: inner => l.account m (account m service inner)

variable {V : View}

namespace Breaker

variable (b : Breaker)

theorem tells_report (h : Happening) :
    (b.report h).Tells V fun σ _ => σ = (h.deed? b.name).toList := by
  cases h with
  | transitioned source target =>
    exact .bind_quiet (Act.tells_raise _ _) fun _ => Act.tells_emit _ _ _
  | _ => exact Act.tells_emit _ _ _

theorem tells_update (c : Circuit) (happened : List Happening) :
    (b.update c happened).Tells V fun σ _ => σ = happened.filterMap (·.deed? b.name) := by
  refine .bind_quiet (Act.tells_quiet (fun _ => rfl) fun _ => rfl) fun _ => ?_
  induction happened with
  | nil => exact .pure rfl
  | cons h rest ih =>
    refine .bind (b.tells_report h) fun {σ _} first => ih.imp fun {τ _} others => ?_
    subst first others
    cases deed : h.deed? b.name <;> simp [deed]

theorem tells_acquire : b.acquire.Tells V (Layer.Answers (.breaker b)) := by
  refine .get_bind fun w => ?_
  have quiet : ((b.circuit w).acquire b.config w.now).2.2.filterMap (·.deed? b.name) = [] := by
    rcases Circuit.acquire_cases b.config w.now (b.circuit w) with
      ⟨-, h⟩ | ⟨-, h⟩ | ⟨-, h⟩ | ⟨-, -, h⟩ | ⟨-, -, h⟩ <;> rw [h] <;> rfl
  generalize (b.circuit w).acquire b.config w.now = answered at quiet ⊢
  obtain ⟨state | permit, c, happened⟩ := answered
  · refine .bind_quiet ((b.tells_update c happened).imp fun told => told.trans quiet) fun _ => ?_
    refine .bind_one (Act.tells_write (e := .permissionAsked b.name false) trivial) fun _ => ?_
    refine .bind_quiet (Act.tells_raise _ _) fun _ => ?_
    refine .bind_one (Act.tells_emit b.name b.config.listeners (.breakerRejected state)) fun _ => ?_
    exact .pure ⟨rfl, .breaker b state⟩
  · refine .bind_quiet ((b.tells_update c happened).imp fun told => told.trans quiet) fun _ => ?_
    refine .bind_one (Act.tells_write (e := .permissionAsked b.name true) trivial) fun _ => ?_
    exact .pure rfl

theorem tells_recordAs (failed : Bool) :
    (b.recordAs failed).Tells V fun σ _ => σ = [.recorded failed] := by
  refine .get_bind fun w => ?_
  have once : ((b.circuit w).record b.config w.now failed).2.filterMap (·.deed? b.name) =
      [.recorded failed] := by
    rcases Circuit.record_cases b.config w.now (b.circuit w) failed with
      ⟨-, h⟩ | ⟨-, -, h⟩ | ⟨-, -, h⟩ | ⟨target, -, -, h⟩ <;> rw [h] <;> cases failed <;> rfl
  generalize (b.circuit w).record b.config w.now failed = answered at once ⊢
  obtain ⟨c, happened⟩ := answered
  exact (b.tells_update c happened).imp fun told => told.trans once

theorem tells_abandon (permit : Option Nat) : (b.abandon permit).Tells V fun σ _ => σ = [] := by
  cases permit with
  | none => exact .pure rfl
  | some epoch => exact .get_bind fun w => b.tells_update _ []

end Breaker

theorem Limiter.tells_reserve (l : Limiter) (scheduler : Option Scheduler) (timeout : Nanos) :
    (l.reserve timeout).Tells V (Layer.Answers (.limiter l scheduler)) := by
  refine .get_bind fun w => ?_
  rcases (l.balance w).reserve w.now timeout with ⟨wait | needed, balance⟩
  · refine .bind_quiet (Act.tells_quiet (fun _ => rfl) fun _ => rfl) fun _ => ?_
    refine .bind_one (Act.tells_emit l.name l.config.listeners (.permitAcquired wait)) fun _ => ?_
    exact .pure rfl
  · refine .bind_quiet (Act.tells_quiet (fun _ => rfl) fun _ => rfl) fun _ => ?_
    refine .bind_quiet (Act.tells_raise _ _) fun _ => ?_
    refine .bind_one (Act.tells_emit l.name l.config.listeners (.permitRejected timeout))
      fun _ => ?_
    exact .pure ⟨rfl, .limiter l scheduler⟩

namespace Bulkhead

variable (b : Bulkhead)

theorem tells_update (s : Slots) : (b.update s).Tells V fun σ _ => σ = [] :=
  Act.tells_quiet (fun _ => rfl) fun _ => rfl

theorem tells_take : b.take.Tells V fun σ _ => σ = [] := by
  refine .get_bind fun w => ?_
  cases (b.slots w).take? with
  | none => exact .pure rfl
  | some s => exact .bind_quiet (b.tells_update s) fun _ => .pure rfl

theorem tells_claim (ticket : Nat) : (b.claim ticket).Tells V fun σ _ => σ = [] := by
  refine .get_bind fun w => ?_
  cases (b.slots w).claim? ticket with
  | none => exact .pure rfl
  | some s => exact .bind_quiet (b.tells_update s) fun _ => .pure rfl

theorem tells_enqueue : b.enqueue.Tells V fun σ _ => σ = [] :=
  Act.tells_quiet (fun _ => rfl) fun _ => rfl

theorem tells_withdraw (ticket : Nat) : (b.withdraw ticket).Tells V fun σ _ => σ = [] :=
  Act.tells_quiet (fun _ => rfl) fun _ => rfl

theorem tells_permit : b.permit.Tells V fun σ _ => σ = [.granted .bulkhead] :=
  .bind_quiet (Act.tells_raise _ _) fun _ => .get_bind fun _ => Act.tells_emit _ _ _

theorem tells_finish : b.finish.Tells V fun σ _ => σ = [] :=
  .bind_quiet (Act.tells_emit b.name b.config.listeners .callFinished) fun _ =>
    Act.tells_quiet (fun _ => rfl) fun _ => rfl

theorem tells_reject (A : Account) (scheduler : Option Scheduler) :
    b.reject.Tells V (Account.guarded (.bulkhead b scheduler) A).On := by
  refine .bind_quiet (Act.tells_raise _ _) fun _ => ?_
  refine .bind_one (Act.tells_emit b.name b.config.listeners (.callRejected b.config.capacity))
    fun _ => ?_
  exact .pure (.refused (.bulkhead b scheduler))

end Bulkhead

namespace Retry

variable (r : Retry)

theorem tells_again (attempts : Nat) :
    (r.again attempts).Tells V fun σ _ =>
      σ = [.told (.retried attempts (r.config.interval.wait attempts))] := by
  refine .bind_quiet (Act.tells_raise _ _) fun _ => ?_
  exact .bind_one (Act.tells_emit r.name r.config.listeners (.retried attempts _)) fun _ => .pure rfl

/-- The end of a call is told as it closes. -/
theorem tells_close {attempts : Nat} {last : Outcome} {act : Act Outcome}
    (ran : ∀ w, ∃ label h o, r.Closes attempts last label h o ∧
      act.run w = (o, r.concluded label h w)) :
    act.Tells V fun σ o => ∃ label h, r.Closes attempts last label h o ∧ σ = [.told h] := by
  intro w
  obtain ⟨label, h, o, closes, ran⟩ := ran w
  rw [ran]
  refine ⟨[.told h], ?_, label, h, closes, rfl⟩
  have told : h.deed? r.name = some (.told h) := by cases closes <;> rfl
  have counted : ∀ v : World, v.proxies = w.proxies → v.history = w.history →
      V.sees w (v.append (v.reported r.name r.config.listeners h)) [.told h] := by
    intro v proxies history
    have deeds := v.deeds_reported r.name r.config.listeners h
    rw [told] at deeds
    have seen : V.sees v (v.append (v.reported r.name r.config.listeners h)) _ :=
      V.plain _ rfl (v.history_append _) (v.isPlain_of_mem_reported r.name r.config.listeners h)
    rw [deeds] at seen
    exact V.trans (V.quiet proxies history) seen
  cases label with
  | none => exact counted w rfl rfl
  | some label => exact counted (w.raise _) rfl rfl

theorem tells_accept {attempts : Nat} {last : Outcome} (accepted : ¬ r.config.Retried last) :
    (r.accept attempts last).Tells V fun σ o =>
      ∃ label h, r.Closes attempts last label h o ∧ σ = [.told h] :=
  r.tells_close fun w => by
    obtain ⟨label, h, closes, ran⟩ := r.run_accept attempts accepted w
    exact ⟨label, h, last, closes, ran⟩

theorem tells_exhaust {attempts : Nat} {last : Outcome} (retried : r.config.Retried last) :
    (r.exhaust attempts last).Tells V fun σ o =>
      ∃ label h, r.Closes attempts last label h o ∧ σ = [.told h] :=
  r.tells_close (r.run_exhaust attempts retried)

theorem tells_rest (scheduler : Option Scheduler) (wait : Nanos) :
    (rest scheduler wait).Tells V fun σ _ => σ = [] := by
  cases scheduler with
  | none => exact .pure rfl
  | some s => exact Act.tells_delay s wait

end Retry

theorem Mapper.tells_replaceFirst (e : Fault) (mappers : List Mapper) :
    (replaceFirst e mappers).Tells V fun σ e' =>
      σ = offers e mappers ∧ e' = replacement e mappers := by
  induction mappers with
  | nil => exact .pure ⟨rfl, rfl⟩
  | cons m rest ih =>
    refine .bind_one (Act.tells_write (e := .mapperAsked m.announced m.name e) trivial) fun _ => ?_
    cases replaced : m.replace? e with
    | some e' => exact .pure (by simp [offers, replacement, replaced])
    | none => exact ih.imp fun {τ _} others => by simp [offers, replacement, replaced, others]

theorem Service.tells_enroll (s : Service) : s.enroll.Tells V fun σ _ => σ = [] :=
  Act.tells_quiet (fun _ => rfl) fun _ => rfl

theorem BoundFallback.tells_select (m : Method) (o : Outcome) (stages : List BoundFallback) :
    (select m o stages).Tells V fun σ found => match found with
      | none => stages.find? (·.Takes m o) = none ∧ σ = scan m o stages
      | some service => ∃ stage provided, stages.find? (·.Takes m o) = some stage ∧
          stage.substitute.Provides o provided service ∧ σ = scan m o stages ++ provided := by
  induction stages with
  | nil => exact .pure ⟨rfl, rfl⟩
  | cons stage rest ih =>
    have asked : (stage.handler.ask m o).Tells V fun σ accepted =>
        σ = [.handlerAsked o] ∧ accepted = stage.Takes m o :=
      .bind_one (Act.tells_write (e := .handlerAsked stage.handler.announced m.display o) trivial)
        fun _ => .pure ⟨rfl, rfl⟩
    refine asked.bind fun {σ accepted} eq => ?_
    obtain ⟨rfl, rfl⟩ := eq
    cases takes : stage.Takes m o with
    | false =>
      refine ih.imp fun {τ found} others => ?_
      rw [List.find?_cons, takes, scan, takes]
      cases found with
      | none => exact ⟨others.1, by rw [others.2]; rfl⟩
      | some service =>
        obtain ⟨other, provided, first, provides, rfl⟩ := others
        exact ⟨other, provided, first, provides, rfl⟩
    | true =>
      rw [List.find?_cons, takes, scan, takes]
      have provided : (stage.substitute.provide o.fault?).Tells V fun σ service =>
          stage.substitute.Provides o σ service := by
        cases stage.substitute with
        | service number => exact .pure (.service number)
        | made make =>
          refine .bind_one (Act.tells_write (e := .factoryAsked o.fault?) trivial) fun _ => ?_
          exact (Service.tells_enroll _).imp fun {τ number} quiet => quiet ▸ .made make number
      exact provided.bind fun {τ service} provides =>
        .pure ⟨stage, τ, rfl, provides, by simp⟩

end CallGuard
