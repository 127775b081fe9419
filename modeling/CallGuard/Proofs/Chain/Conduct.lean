import CallGuard.Proofs.Chain.Accounts

/-!
# Chains keep their accounts

What is seen of a call through a chain is what its account says, whoever looks: for direct calls and
for deferred ones, which keep in their memory how far they have come while anything may happen
elsewhere between their polls. Main statements: `Chain.obeys_direct` and `Chain.exists_obeys_deferred`.
-/

namespace CallGuard

/-- Of a direct call is seen what its account says. -/
def Direct.Obeys (call : Direct) (args : Args) (V : View) (A : Account) : Prop :=
  (call args).Tells V A.On

/-- The deeds of a deferred call so far, and what it remembers of them. -/
abbrev Track (W : Type) := List Deed → W → Prop

namespace Track

variable {W : Type}

/-- What has come of an attempt to start the call. -/
def Begun (T : Track W) (A : Account) (σ : List Deed) : Except String W → Prop
  | .ok m => T σ m
  | .error _ => A σ none

/-- What has come of a poll. -/
def Gone (T : Track W) (A : Account) (σ : List Deed) : Progress W → Prop
  | .waiting m => T σ m
  | .done reply => A.On σ reply

end Track

/-- Of a deferred call is seen what its account says, along the track: up to the last poll, and when
it is dropped. -/
structure Deferred.Obeys {W : Type} (call : Deferred W) (args : Args) (V : View) (A : Account)
    (T : Track W) : Prop where
  start : (call.start args).Tells V fun σ started => T.Begun A σ started
  poll {ρ : List Deed} {m : W} (so : T ρ m) :
    (call.poll m).Tells V fun σ progress => T.Gone A (ρ ++ σ) progress
  drop {ρ : List Deed} {m : W} (so : T ρ m) : (call.drop m).Tells V fun σ _ => σ = []
  unended {ρ : List Deed} {m : W} (so : T ρ m) : A ρ none

namespace Deferred.Obeys

variable {W : Type} {call : Deferred W} {args : Args} {V : View} {A : Account} {T : Track W}

/-- Nothing is seen between the polls of somebody who waits for the call. -/
theorem tells_awaitWithin (h : call.Obeys args V A T) (n : Nat) {ρ : List Deed} {m : W}
    (so : T ρ m) : (call.awaitWithin n m).Tells V fun σ reply => A.On (ρ ++ σ) reply := by
  induction n generalizing ρ m with
  | zero =>
    refine .pure ?_
    rw [List.append_nil]
    exact h.unended so
  | succ n ih =>
    refine .bind (h.poll so) fun {σ progress} gone => ?_
    cases progress with
    | done reply => exact .pure (by rw [List.append_nil]; exact gone)
    | waiting m =>
      dsimp only
      cases call.timer m with
      | none => exact .pure (by rw [List.append_nil]; exact h.unended gone)
      | some timer =>
        refine .bind_quiet (Act.tells_outwait timer) fun _ => ?_
        simpa only [List.append_assoc] using ih gone

/-- A deferred call that is waited for is a call of the same account. -/
theorem tells_await (h : call.Obeys args V A T) : (call.await args).Tells V A.On := by
  refine .bind h.start fun {σ started} begun => ?_
  cases started with
  | error text => exact .pure (by rw [List.append_nil]; exact begun)
  | ok m => exact h.tells_awaitWithin waitLimit begun

end Deferred.Obeys

namespace View

/-- Calls of services are seen as they were written. -/
def IsFlat (V : View) : Prop :=
  ∀ {w v : World} (entries : List Entry), v.proxies = w.proxies →
    v.history = w.history ++ entries → V.sees w v (entries.filterMap Entry.deed?)

/-- Calls of services are seen, and not what the code of the service does meanwhile. -/
def Encloses (V : View) : Prop :=
  ∀ {w x y v : World} {σ : List Deed} {e : Entry} {service : Nat} {reply : Reply},
    e.deed? = some (.called service) → x.proxies = w.proxies → x.history = w.history ++ [e] →
    V.sees x y σ → v.proxies = y.proxies → v.history = y.history ++ [.replied service reply] →
    V.sees w v [.called service, .replied service reply]

/-- All that is written is seen. -/
def whole : View where
  sees w v σ := ∃ entries, v.history = w.history ++ entries ∧ entries.filterMap Entry.deed? = σ
  trans := by
    rintro u w v _ _ ⟨before, begun, rfl⟩ ⟨after, ended, rfl⟩
    refine ⟨before ++ after, ?_, List.filterMap_append⟩
    rw [ended, begun, List.append_assoc]
  plain entries _ wrote _ := ⟨entries, wrote, rfl⟩

theorem isFlat_whole : whole.IsFlat := fun entries _ wrote => ⟨entries, wrote, rfl⟩

theorem sees_whole {w v : World} {σ : List Deed} {entries : List Entry}
    (seen : whole.sees w v σ) (wrote : v.history = w.history ++ entries) :
    entries.filterMap Entry.deed? = σ := by
  obtain ⟨written, grown, deeds⟩ := seen
  cases List.append_cancel_left (wrote.symm.trans grown)
  exact deeds

end View

variable {W : Type} {V : View} {A : Account} {T : Track W} {args : Args} {call : Direct}
  {future : Deferred W}

namespace Account

theorem ofService_on (service : Nat) (reply : Reply) :
    (ofService service).On [.called service, .replied service reply] reply := by
  cases reply with
  | ended o => exact .ended o
  | crashed text => exact .crashed text

/-- A call that a layer has let through has its reply. -/
theorem guarded_on {l : Layer} {σ : List Deed} {reply : Reply} (went : A.On σ reply)
    (calm : ∀ o, l.aftermath o = []) :
    (guarded l A).On (.granted l.capability :: σ) reply := by
  cases reply with
  | crashed text => exact .running went
  | ended o =>
    have ended := guarded.ended (l := l) went
    rwa [calm, List.append_nil] at ended

end Account

theorem Service.tells_take (flat : V.IsFlat) (service : Nat) (operation : String) (args : Args) :
    (take service operation args).Tells V fun σ _ => σ = [.called service] := by
  intro w
  rw [run_take]
  exact ⟨_, flat [.called w.now service (w.service service).label operation args] rfl
    (w.history_append _), rfl⟩

theorem Act.tells_replied (flat : V.IsFlat) (service : Nat) (reply : Reply) :
    (write (.replied service reply)).Tells V fun σ _ => σ = [.replied service reply] := by
  intro w
  rw [run_write]
  exact ⟨_, flat [.replied service reply] rfl (w.history_append _), rfl⟩

namespace Route

variable (r : Route) {service : Nat} {reenter : Reentry → Act Reply}

/-- What the code of a service does between call and reply. -/
def work (reenter : Reentry → Act Reply) (args : Args) (plan : Plan) : Act Reply := do
  Act.sleep plan.sleep
  match plan.reentry with
  | some call => reenter call
  | none => pure (r.planned args plan.ending)

/-- What the code of a service replies. -/
def answer (service : Nat) (args : Args) (reply : Reply) : Act Reply := do
  Act.write (.replied service (r.finishReply args reply))
  return r.finishReply args reply

theorem direct_eq (reenter : Reentry → Act Reply) (service : Nat) (args : Args) :
    r.direct reenter service args = Service.take service r.operation.name (r.pass args) >>=
      fun plan => r.work reenter args plan >>= r.answer service args := by
  refine congrArg (Service.take service r.operation.name (r.pass args) >>= ·)
    (funext fun plan => ?_)
  unfold work
  cases plan.reentry <;> rfl

/-- The code of a service may do what it likes if that is not seen. -/
theorem tells_direct (encloses : V.Encloses)
    (any : ∀ call, (reenter call).Tells V fun _ _ => True) (service : Nat) (args : Args) :
    (r.direct reenter service args).Tells V (Account.ofService service).On := by
  intro w
  have worked : ∀ plan, (r.work reenter args plan).Tells V fun _ _ => True := by
    intro plan
    refine .bind_quiet (Act.tells_sleep _) fun _ => ?_
    cases plan.reentry with
    | some call => exact any call
    | none => exact .pure trivial
  let called : Entry :=
    .called w.now service (w.service service).label r.operation.name (r.pass args)
  let x := w.reach service r.operation.name (r.pass args)
  have reached : x.history = w.history ++ [called] := w.history_append _
  have same : x.proxies = w.proxies := rfl
  obtain ⟨σ, inside, -⟩ := worked (w.service service).plan x
  rw [direct_eq, Act.run_bind, Service.run_take, Act.run_bind, answer, Act.run_bind, Act.run_write]
  exact ⟨_, encloses (e := called) rfl same reached inside rfl (World.history_append _ _),
    Account.ofService_on service _⟩

/-- The code of a service does nothing on its own. -/
theorem tells_direct_of_quiet (flat : V.IsFlat)
    (quiet : ∀ call, (reenter call).Tells V fun σ _ => σ = []) (service : Nat) (args : Args) :
    (r.direct reenter service args).Tells V (Account.ofService service).On := by
  have worked : ∀ plan, (r.work reenter args plan).Tells V fun σ _ => σ = [] := by
    intro plan
    refine .bind_quiet (Act.tells_sleep _) fun _ => ?_
    cases plan.reentry with
    | some call => exact quiet call
    | none => exact .pure rfl
  rw [direct_eq]
  refine (Service.tells_take flat service _ _).bind_one fun plan => ?_
  refine .bind_quiet (worked plan) fun reply => ?_
  exact .bind_one (Act.tells_replied flat service _) fun _ => .pure (Account.ofService_on service _)

/-- The track of a call of the service. -/
def track (service : Nat) : Track Errand := fun σ e => σ = [.called service] ∧ e.service = service

theorem obeys_deferred (flat : V.IsFlat) (service : Nat) (args : Args) :
    (r.deferred service).Obeys args V (Account.ofService service) (track service) where
  start := by
    refine (Service.tells_take flat service _ _).bind_one fun plan => ?_
    rcases plan.eager with _ | _ <;> rcases r.planned args plan.ending with o | text
    · exact .get_bind fun _ => .pure ⟨rfl, rfl⟩
    · exact .get_bind fun _ => .pure ⟨rfl, rfl⟩
    · exact .get_bind fun _ => .pure ⟨rfl, rfl⟩
    · exact .bind_one (Act.tells_replied flat service _) fun _ => .pure (.crashed text)
  poll {ρ e} so := by
    obtain ⟨rfl, own⟩ := so
    intro w
    have polled : (r.deferred service).poll e = e.poll := rfl
    rw [polled, Errand.run_poll]
    split
    · exact ⟨_, flat [.replied e.service e.reply] rfl (w.history_append _),
        own ▸ Account.ofService_on e.service e.reply⟩
    · exact ⟨[], V.quiet rfl rfl, rfl, own⟩
  drop _ := .pure rfl
  unended so := so.1 ▸ .begun

end Route

namespace Breaker

variable (b : Breaker)

/-- What the reply of a call leads the breaker to do. -/
theorem tells_conclude (permit : Option Nat) {σ : List Deed} {reply : Reply}
    (went : A.On σ reply) : (b.conclude permit reply).Tells V fun τ _ =>
      (Account.guarded (.breaker b) A).On (.granted .breaker :: (σ ++ τ)) reply := by
  cases reply with
  | ended o =>
    refine (b.tells_recordAs (b.fails o)).imp fun {τ _} recorded => ?_
    subst recorded
    exact .ended went
  | crashed text =>
    refine (b.tells_abandon permit).imp fun {τ _} quiet => ?_
    subst quiet
    rw [List.append_nil]
    exact .running went

theorem obeys_direct (h : call.Obeys args V A) :
    (b.direct call).Obeys args V (.guarded (.breaker b) A) := by
  refine .bind b.tells_acquire fun {σ answer} answers => ?_
  cases answer with
  | error e =>
    obtain ⟨rfl, refuses⟩ := answers
    exact .pure (by rw [List.append_nil]; exact (.refused refuses))
  | ok permit =>
    obtain rfl := answers
    exact .bind h fun went => (b.tells_conclude permit went).map id

/-- The track of a call through the breaker. -/
def track (T : Track W) : Track (Admitted W)
  | σ, .refused e => σ = Layer.refusal (.breaker b) e ∧ Layer.Refuses (.breaker b) e
  | σ, .running _ m => ∃ τ, T τ m ∧ σ = .granted .breaker :: τ

theorem obeys_deferred (h : future.Obeys args V A T) :
    (b.deferred future).Obeys args V (.guarded (.breaker b) A) (b.track T) where
  start := by
    refine .bind b.tells_acquire fun {σ answer} answers => ?_
    cases answer with
    | error e => exact .pure (by rw [List.append_nil]; exact answers)
    | ok permit =>
      obtain rfl := answers
      refine .bind h.start fun {τ started} begun => ?_
      cases started with
      | error text =>
        refine .bind_quiet (b.tells_abandon permit) fun _ => .pure ?_
        rw [List.append_nil]
        exact .running begun
      | ok m => exact .pure (by rw [List.append_nil]; exact ⟨τ, begun, rfl⟩)
  poll {ρ state} so := by
    cases state with
    | refused e =>
      obtain ⟨rfl, refuses⟩ := so
      exact .pure (by rw [List.append_nil]; exact (.refused refuses))
    | running permit m =>
      obtain ⟨before, so, rfl⟩ := so
      refine .bind (h.poll so) fun {τ progress} gone => ?_
      cases progress with
      | waiting m => exact .pure (by rw [List.append_nil]; exact ⟨before ++ τ, gone, rfl⟩)
      | done reply =>
        simp only [List.cons_append, ← List.append_assoc]
        exact (b.tells_conclude permit gone).map id
  drop {ρ state} so := by
    cases state with
    | refused e => exact .pure rfl
    | running permit m =>
      obtain ⟨before, so, -⟩ := so
      exact .bind_quiet (h.drop so) fun _ => b.tells_abandon permit
  unended {ρ state} so := by
    cases state with
    | refused e =>
      obtain ⟨rfl, refuses⟩ := so
      exact .turned refuses
    | running permit m =>
      obtain ⟨before, so, rfl⟩ := so
      exact .running (h.unended so)

end Breaker

namespace Limiter

variable (l : Limiter)

theorem obeys_direct (scheduler : Option Scheduler) (h : call.Obeys args V A) :
    (l.direct call).Obeys args V (.guarded (.limiter l scheduler) A) := by
  refine .bind (l.tells_reserve scheduler _) fun {σ answer} answers => ?_
  cases answer with
  | error e =>
    obtain ⟨rfl, refuses⟩ := answers
    exact .pure (by rw [List.append_nil]; exact .refused refuses)
  | ok wait =>
    obtain rfl := answers
    refine .bind_quiet (Act.tells_sleep wait) fun _ => h.imp fun {τ reply} went => ?_
    exact Account.guarded_on went fun _ => rfl

/-- The track of a call through the limiter. -/
def track (scheduler : Option Scheduler) (T : Track W) : Track (Limited W)
  | σ, .refused e =>
    σ = Layer.refusal (.limiter l scheduler) e ∧ Layer.Refuses (.limiter l scheduler) e
  | σ, .waiting _ m | σ, .running m => ∃ τ, T τ m ∧ σ = .granted .limiter :: τ

theorem tells_follow (scheduler : Option Scheduler) (h : future.Obeys args V A T) {ρ : List Deed}
    {m : W} (so : T ρ m) :
    (follow future m).Tells V fun σ progress =>
      (l.track scheduler T).Gone (.guarded (.limiter l scheduler) A) (.granted .limiter :: (ρ ++ σ))
        progress := by
  refine .bind (h.poll so) fun {τ progress} gone => ?_
  cases progress with
  | waiting m => exact .pure ⟨ρ ++ τ, gone, by simp⟩
  | done reply =>
    refine .pure ?_
    rw [List.append_nil]
    exact Account.guarded_on (l := .limiter l scheduler) gone fun _ => rfl

theorem obeys_deferred (scheduler : Option Scheduler) (h : future.Obeys args V A T) :
    (l.deferred scheduler future).Obeys args V (.guarded (.limiter l scheduler) A)
      (l.track scheduler T) where
  start := by
    refine .bind (l.tells_reserve scheduler _) fun {σ answer} answers => ?_
    cases answer with
    | error e => exact .pure (by rw [List.append_nil]; exact answers)
    | ok wait =>
      obtain rfl := answers
      refine .bind h.start fun {τ started} begun => ?_
      cases started with
      | error text => exact .pure (by rw [List.append_nil]; exact .running begun)
      | ok m =>
        cases scheduler with
        | none => exact .pure ⟨τ, begun, by simp [Stage.capability]⟩
        | some s =>
          cases wait with
          | zero => exact .pure ⟨τ, begun, by simp [Stage.capability]⟩
          | succ wait =>
            exact .bind_quiet (Act.tells_delay s _) fun timer =>
              .pure ⟨τ, begun, by simp [Stage.capability]⟩
  poll {ρ state} so := by
    cases state with
    | refused e =>
      obtain ⟨rfl, refuses⟩ := so
      exact .pure (by rw [List.append_nil]; exact .refused refuses)
    | running m =>
      obtain ⟨before, so, rfl⟩ := so
      exact l.tells_follow scheduler h so
    | waiting timer m =>
      obtain ⟨before, so, rfl⟩ := so
      refine .bind_quiet (Act.tells_isOver timer) fun rung => ?_
      cases rung with
      | true => exact l.tells_follow scheduler h so
      | false => exact .pure ⟨before, so, by simp⟩
  drop {ρ state} so := by
    cases state with
    | refused e => exact .pure rfl
    | running m | waiting timer m =>
      obtain ⟨before, so, -⟩ := so
      exact h.drop so
  unended {ρ state} so := by
    cases state with
    | refused e =>
      obtain ⟨rfl, refuses⟩ := so
      exact .turned refuses
    | running m | waiting timer m =>
      obtain ⟨before, so, rfl⟩ := so
      exact .running (h.unended so)

end Limiter

namespace Bulkhead

variable (b : Bulkhead) (scheduler : Option Scheduler)

theorem obeys_direct (h : call.Obeys args V A) :
    (b.direct scheduler call).Obeys args V (.guarded (.bulkhead b scheduler) A) := by
  refine .bind_quiet b.tells_take fun taken => ?_
  cases taken with
  | true =>
    refine b.tells_permit.bind_one fun _ => .bind h fun {τ reply} went => ?_
    refine .bind_quiet b.tells_finish fun _ => .pure ?_
    rw [List.append_nil]
    exact Account.guarded_on went fun _ => rfl
  | false =>
    cases b.waitsOn scheduler with
    | none => exact b.tells_reject A scheduler
    | some s =>
      refine .bind_quiet (Act.tells_delay s _) fun timer => ?_
      exact .bind_quiet (Act.tells_outwait timer) fun _ => b.tells_reject A scheduler

/-- The track of a call through the bulkhead. -/
def track (args : Args) (T : Track W) : Track (Housed W)
  | σ, .fresh a | σ, .queued a _ _ => a = args ∧ σ = []
  | σ, .running m => ∃ τ, T τ m ∧ σ = .granted .bulkhead :: τ

variable {b scheduler}

theorem tells_watch (h : future.Obeys args V A T) {ρ : List Deed} {m : W} (so : T ρ m) :
    (b.watch future m).Tells V fun σ progress =>
      (track args T).Gone (.guarded (.bulkhead b scheduler) A) (.granted .bulkhead :: (ρ ++ σ))
        progress := by
  refine .bind (h.poll so) fun {τ progress} gone => ?_
  cases progress with
  | waiting m => exact .pure ⟨ρ ++ τ, gone, by simp⟩
  | done reply =>
    refine .bind_quiet b.tells_finish fun _ => .pure ?_
    rw [List.append_nil]
    exact Account.guarded_on (l := .bulkhead b scheduler) gone fun _ => rfl

theorem tells_enter (h : future.Obeys args V A T) :
    (b.enter future args).Tells V fun σ progress =>
      (track args T).Gone (.guarded (.bulkhead b scheduler) A) σ progress := by
  refine b.tells_permit.bind_one fun _ => .bind h.start fun {τ started} begun => ?_
  cases started with
  | error text =>
    refine .bind_quiet b.tells_finish fun _ => .pure ?_
    rw [List.append_nil]
    exact .running (l := .bulkhead b scheduler) begun
  | ok m => exact tells_watch h begun

theorem tells_queue (h : future.Obeys args V A T) (ticket : Nat) (timer : Timer) :
    (b.queue future args ticket timer).Tells V fun σ progress =>
      (track args T).Gone (.guarded (.bulkhead b scheduler) A) σ progress := by
  refine .bind_quiet (b.tells_claim ticket) fun claimed => ?_
  cases claimed with
  | true => exact tells_enter h
  | false =>
    refine .bind_quiet (Act.tells_isOver timer) fun rung => ?_
    cases rung with
    | false => exact .pure ⟨rfl, rfl⟩
    | true =>
      refine .bind_quiet (b.tells_withdraw ticket) fun _ => ?_
      exact (b.tells_reject A scheduler).map id

variable (b scheduler)

theorem obeys_deferred (h : future.Obeys args V A T) :
    (b.deferred scheduler future).Obeys args V (.guarded (.bulkhead b scheduler) A)
      (track args T) where
  start := .pure ⟨rfl, rfl⟩
  poll {ρ state} so := by
    cases state with
    | running m =>
      obtain ⟨before, so, rfl⟩ := so
      exact tells_watch h so
    | queued a ticket timer =>
      obtain ⟨rfl, rfl⟩ := so
      exact tells_queue h ticket timer
    | fresh a =>
      obtain ⟨rfl, rfl⟩ := so
      refine .bind_quiet b.tells_take fun taken => ?_
      cases taken with
      | true => exact tells_enter h
      | false =>
        cases b.waitsOn scheduler with
        | none => exact (b.tells_reject A scheduler).map id
        | some s =>
          refine .bind_quiet b.tells_enqueue fun ticket => ?_
          exact .bind_quiet (Act.tells_delay s _) fun timer => tells_queue h ticket timer
  drop {ρ state} so := by
    cases state with
    | fresh a => exact .pure rfl
    | queued a ticket timer => exact b.tells_withdraw ticket
    | running m =>
      obtain ⟨before, so, -⟩ := so
      exact .bind_quiet (h.drop so) fun _ => b.tells_finish
  unended {ρ state} so := by
    cases state with
    | fresh a | queued a ticket timer =>
      obtain ⟨-, rfl⟩ := so
      exact .idle
    | running m =>
      obtain ⟨before, so, rfl⟩ := so
      exact .running (h.unended so)

end Bulkhead

namespace Retry

variable (r : Retry)

/-- Earlier attempts, after which the one of that number is made. -/
def Tried (A : Account) (attempts : Nat) (ρ : List Deed) : Prop :=
  ∀ σ end?, Account.attempted r A attempts σ end? → Account.attempted r A 1 (ρ ++ σ) end?

variable {r}

theorem tried_first : r.Tried A (r.config.maxAttempts - (r.config.maxAttempts - 1)) [] := by
  rw [Nat.sub_sub_self r.config.maxAttempts_pos]
  exact fun _ _ => id

theorem Tried.again {left : Nat} (bound : left + 1 < r.config.maxAttempts) {ρ σ : List Deed}
    {o : Outcome} (tried : r.Tried A (r.config.maxAttempts - (left + 1)) ρ) (went : A σ (some o))
    (retried : r.config.Retried o) :
    let attempts := r.config.maxAttempts - (left + 1)
    r.Tried A (r.config.maxAttempts - left)
      (ρ ++ (σ ++ [.told (.retried attempts (r.config.interval.wait attempts))])) := by
  intro attempts τ end? rest
  have next : attempts + 1 = r.config.maxAttempts - left := by omega
  rw [← next] at rest
  have all := tried _ _ (.again went retried (by omega) rest)
  simpa using all

/-- What is told of the outcome of an attempt that is the last one. -/
theorem tells_last {attempts : Nat} {ρ σ : List Deed} {last : Outcome} (tried : r.Tried A attempts ρ)
    (went : A σ (some last)) (final : ¬ r.config.Retried last ∨ attempts = r.config.maxAttempts)
    {act : Act Outcome} (told : act.Tells V fun σ o =>
      ∃ label h, r.Closes attempts last label h o ∧ σ = [.told h]) :
    act.Tells V fun τ o => Account.attempted r A 1 (ρ ++ (σ ++ τ)) (some o) := by
  refine told.imp fun {τ o} closed => ?_
  obtain ⟨label, h, closes, rfl⟩ := closed
  exact tried _ _ (.ended went final closes)

theorem tells_attempt (h : call.Obeys args V A) (left : Nat) (bound : left < r.config.maxAttempts) :
    ∀ {ρ}, r.Tried A (r.config.maxAttempts - left) ρ →
      (r.attempt call args left).Tells V fun σ reply =>
        (Account.attempted r A 1).On (ρ ++ σ) reply := by
  induction left with
  | zero =>
    intro ρ tried
    rw [attempt]
    refine .bind h fun {σ reply} went => ?_
    rcases reply with last | text
    · dsimp only
      by_cases retried : r.config.Retried last
      · rw [if_pos (RetryConfig.retries_iff.mpr retried)]
        exact (tells_last tried went (.inr rfl) (r.tells_exhaust retried)).map id
      · rw [if_neg (mt RetryConfig.retries_iff.mp retried)]
        exact (tells_last tried went (.inl retried) (r.tells_accept retried)).map id
    · exact .pure (by rw [List.append_nil]; exact tried _ _ (.running went))
  | succ left ih =>
    intro ρ tried
    rw [attempt]
    refine .bind h fun {σ reply} went => ?_
    rcases reply with last | text
    · dsimp only
      by_cases retried : r.config.Retried last
      · rw [if_pos (RetryConfig.retries_iff.mpr retried)]
        have next := tried.again bound went retried
        refine (r.tells_again _).bind_one fun wait => ?_
        refine .bind_quiet (Act.tells_sleep wait) fun _ => ?_
        exact (ih (by omega) next).imp fun done => by simpa using done
      · rw [if_neg (mt RetryConfig.retries_iff.mp retried)]
        exact (tells_last tried went (.inl retried) (r.tells_accept retried)).map id
    · exact .pure (by rw [List.append_nil]; exact tried _ _ (.running went))

theorem obeys_direct (h : call.Obeys args V A) :
    (r.direct call).Obeys args V (.attempted r A 1) := by
  have bound : r.config.maxAttempts - 1 < r.config.maxAttempts :=
    Nat.sub_lt r.config.maxAttempts_pos Nat.one_pos
  exact tells_attempt h _ bound tried_first

variable (r) in
/-- The track of a retried call. -/
def track (args : Args) (A : Account) (T : Track W) : Track (Retrying W)
  | σ, .fresh a => a = args ∧ σ = []
  | σ, .attempting a left m => a = args ∧ left < r.config.maxAttempts ∧
    ∃ ρ τ, r.Tried A (r.config.maxAttempts - left) ρ ∧ T τ m ∧ σ = ρ ++ τ
  | σ, .resting a left _ => a = args ∧ left < r.config.maxAttempts ∧
    r.Tried A (r.config.maxAttempts - left) σ

theorem tells_pursue (h : future.Obeys args V A T) (scheduler : Option Scheduler) (left : Nat)
    (bound : left < r.config.maxAttempts) :
    ∀ {ρ τ m}, r.Tried A (r.config.maxAttempts - left) ρ → T τ m →
      (r.pursue scheduler future args left m).Tells V fun σ progress =>
        (r.track args A T).Gone (.attempted r A 1) (ρ ++ (τ ++ σ)) progress := by
  induction left with
  | zero =>
    intro ρ τ m tried so
    rw [pursue]
    refine .bind (h.poll so) fun {σ progress} gone => ?_
    simp only [← List.append_assoc τ]
    rcases progress with m | (last | text)
    · exact .pure (by rw [List.append_nil]; exact ⟨rfl, bound, ρ, τ ++ σ, tried, gone, rfl⟩)
    · dsimp only
      by_cases retried : r.config.Retried last
      · rw [if_pos (RetryConfig.retries_iff.mpr retried)]
        exact (tells_last tried gone (.inr rfl) (r.tells_exhaust retried)).map id
      · rw [if_neg (mt RetryConfig.retries_iff.mp retried)]
        exact (tells_last tried gone (.inl retried) (r.tells_accept retried)).map id
    · exact .pure (by rw [List.append_nil]; exact tried _ _ (.running gone))
  | succ left ih =>
    intro ρ τ m tried so
    rw [pursue]
    refine .bind (h.poll so) fun {σ progress} gone => ?_
    simp only [← List.append_assoc τ]
    rcases progress with m | (last | text)
    · exact .pure (by rw [List.append_nil]; exact ⟨rfl, bound, ρ, τ ++ σ, tried, gone, rfl⟩)
    · dsimp only
      by_cases retried : r.config.Retried last
      · rw [if_pos (RetryConfig.retries_iff.mpr retried)]
        have next := tried.again bound gone retried
        refine (r.tells_again _).bind_one fun wait => ?_
        refine .bind_quiet (tells_rest scheduler wait) fun timer => ?_
        refine .bind_quiet (Act.tells_isOver timer) fun rung => ?_
        cases rung with
        | false => exact .pure ⟨rfl, by omega, next⟩
        | true =>
          refine .bind h.start fun {υ started} begun => ?_
          cases started with
          | error text =>
            refine .pure (show Account.attempted r A 1 _ none from ?_)
            have cut := next _ _ (.running begun)
            simpa using cut
          | ok m => exact (ih (by omega) next begun).imp fun done => by simpa using done
      · rw [if_neg (mt RetryConfig.retries_iff.mp retried)]
        exact (tells_last tried gone (.inl retried) (r.tells_accept retried)).map id
    · exact .pure (by rw [List.append_nil]; exact tried _ _ (.running gone))

theorem tells_launch (h : future.Obeys args V A T) (scheduler : Option Scheduler) {left : Nat}
    (bound : left < r.config.maxAttempts) {ρ : List Deed}
    (tried : r.Tried A (r.config.maxAttempts - left) ρ) :
    (r.launch scheduler future args left).Tells V fun σ progress =>
      (r.track args A T).Gone (.attempted r A 1) (ρ ++ σ) progress := by
  refine .bind h.start fun {τ started} begun => ?_
  cases started with
  | error text => exact .pure (by rw [List.append_nil]; exact tried _ _ (.running begun))
  | ok m => exact tells_pursue h scheduler left bound tried begun

theorem obeys_deferred (h : future.Obeys args V A T) (scheduler : Option Scheduler) :
    (r.deferred scheduler future).Obeys args V (.attempted r A 1) (r.track args A T) where
  start := .pure ⟨rfl, rfl⟩
  poll {ρ state} so := by
    cases state with
    | fresh a =>
      obtain ⟨rfl, rfl⟩ := so
      have bound : r.config.maxAttempts - 1 < r.config.maxAttempts :=
        Nat.sub_lt r.config.maxAttempts_pos Nat.one_pos
      exact tells_launch h scheduler bound tried_first
    | attempting a left m =>
      obtain ⟨rfl, bound, earlier, τ, tried, so, rfl⟩ := so
      simp only [List.append_assoc]
      exact tells_pursue h scheduler left bound tried so
    | resting a left timer =>
      obtain ⟨rfl, bound, tried⟩ := so
      refine .bind_quiet (Act.tells_isOver timer) fun rung => ?_
      cases rung with
      | true => exact tells_launch h scheduler bound tried
      | false => exact .pure (by rw [List.append_nil]; exact ⟨rfl, bound, tried⟩)
  drop {ρ state} so := by
    cases state with
    | fresh a | resting a left timer => exact .pure rfl
    | attempting a left m =>
      obtain ⟨-, -, earlier, τ, -, so, -⟩ := so
      exact h.drop so
  unended {ρ state} so := by
    cases state with
    | fresh a =>
      obtain ⟨-, rfl⟩ := so
      exact .idle
    | attempting a left m =>
      obtain ⟨-, -, earlier, τ, tried, so, rfl⟩ := so
      exact tried _ _ (.running (h.unended so))
    | resting a left timer =>
      have idle := so.2.2 _ _ .idle
      rwa [List.append_nil] at idle

end Retry

namespace Mapper

variable (mappers : List Mapper)

theorem tells_remap {σ : List Deed} {reply : Reply} (went : A.On σ reply) :
    (remap mappers reply).Tells V fun τ reply =>
      (Account.remapped mappers A).On (σ ++ τ) reply := by
  rcases reply with (v | e) | text
  · exact .pure (by rw [List.append_nil]; exact .value went)
  · refine (tells_replaceFirst e mappers).map fun {τ e'} told => ?_
    obtain ⟨rfl, rfl⟩ := told
    exact .fault went
  · exact .pure (by rw [List.append_nil]; exact .running went)

theorem obeys_direct (h : call.Obeys args V A) :
    (direct mappers call).Obeys args V (.remapped mappers A) :=
  .bind h fun went => tells_remap mappers went

theorem obeys_deferred (h : future.Obeys args V A T) :
    (deferred mappers future).Obeys args V (.remapped mappers A) T where
  start := by
    refine h.start.imp fun {σ started} begun => ?_
    cases started with
    | error text => exact .running begun
    | ok m => exact begun
  poll {ρ m} so := by
    refine .bind (h.poll so) fun {τ progress} gone => ?_
    cases progress with
    | waiting m => exact .pure (by rw [List.append_nil]; exact gone)
    | done reply =>
      simp only [← List.append_assoc]
      exact (tells_remap mappers gone).map id
  drop so := h.drop so
  unended so := .running (h.unended so)

end Mapper

namespace BoundFallback

variable (r : Route) (stages : List BoundFallback)

theorem obeys_direct {reenter : Reentry → Act Reply}
    (serves : ∀ service, (r.direct reenter service args).Tells V (Account.ofService service).On)
    (h : call.Obeys args V A) :
    (direct r reenter stages call).Obeys args V (.replaced r.method stages A) := by
  refine .bind h fun {σ reply} went => ?_
  cases reply with
  | crashed text => exact .pure (by rw [List.append_nil]; exact .running went)
  | ended o =>
    refine .bind (tells_select r.method o stages) fun {τ found} selected => ?_
    cases found with
    | none =>
      obtain ⟨nobody, rfl⟩ := selected
      exact .pure (by rw [List.append_nil]; exact .kept went nobody)
    | some service =>
      obtain ⟨stage, provided, first, provides, rfl⟩ := selected
      refine (serves service).imp fun {υ reply} called => ?_
      rw [List.append_assoc]
      cases reply with
      | ended last => exact .substituted went first provides called
      | crashed text => exact .substituted went first provides called

/-- The track of a call with fallbacks. -/
def track (args : Args) (A : Account) (T : Track W) : Track (Replacing W)
  | σ, .trying a m => a = args ∧ T σ m
  | σ, .replaced e => ∃ ρ τ service, Route.track service τ e ∧ σ = ρ ++ τ ∧
    ∀ {υ end?}, Account.ofService service υ end? →
      Account.replaced r.method stages A (ρ ++ υ) end?

variable {r stages}

theorem tells_follow (flat : V.IsFlat) (args : Args) {ρ τ : List Deed} {e : Errand} {service : Nat}
    (so : Route.track service τ e)
    (rest : ∀ {υ end?}, Account.ofService service υ end? →
      Account.replaced r.method stages A (ρ ++ υ) end?) :
    (follow e : Act (Progress (Replacing W))).Tells V fun σ progress =>
      (track r stages args A T).Gone (.replaced r.method stages A) (ρ ++ (τ ++ σ)) progress := by
  have polled := (r.obeys_deferred flat service args).poll so
  refine Act.Tells.bind polled fun {σ progress} gone => ?_
  rcases progress with e | (o | text)
  · exact .pure (by rw [List.append_nil]; exact ⟨ρ, τ ++ σ, service, gone, rfl, rest⟩)
  · exact .pure (by rw [List.append_nil]; exact rest gone)
  · exact .pure (by rw [List.append_nil]; exact rest gone)

theorem obeys_deferred (flat : V.IsFlat) (h : future.Obeys args V A T) :
    (deferred r stages future).Obeys args V (.replaced r.method stages A)
      (track r stages args A T) where
  start := by
    refine .bind h.start fun {τ started} begun => ?_
    cases started with
    | error text => exact .pure (by rw [List.append_nil]; exact .running begun)
    | ok m => exact .pure (by rw [List.append_nil]; exact ⟨rfl, begun⟩)
  poll {ρ state} so := by
    cases state with
    | replaced e =>
      obtain ⟨ρ, τ, service, so, rfl, rest⟩ := so
      simp only [List.append_assoc]
      exact tells_follow flat args so rest
    | trying a m =>
      obtain ⟨rfl, so⟩ := so
      refine .bind (h.poll so) fun {τ progress} gone => ?_
      rcases progress with m | (o | text)
      · exact .pure (by rw [List.append_nil]; exact ⟨rfl, gone⟩)
      · refine .bind (tells_select r.method o stages) fun {σ found} selected => ?_
        cases found with
        | none =>
          obtain ⟨nobody, rfl⟩ := selected
          refine .pure ?_
          rw [List.append_nil, ← List.append_assoc]
          exact .kept gone nobody
        | some service =>
          obtain ⟨stage, provided, first, provides, rfl⟩ := selected
          have rest : ∀ {υ end?}, Account.ofService service υ end? →
              Account.replaced r.method stages A
                (ρ ++ τ ++ (scan r.method o stages ++ provided) ++ υ) end? := by
            intro υ end? called
            have all := Account.replaced.substituted gone first provides called
            simpa using all
          refine .bind ((r.obeys_deferred flat service a).start) fun {υ started} begun => ?_
          cases started with
          | error text =>
            refine .pure (show Account.replaced r.method stages A _ none from ?_)
            have done := rest begun
            simpa using done
          | ok e =>
            have follows := tells_follow (W := W) (T := T) flat a begun rest
            exact follows.imp fun done => by simpa using done
      · exact .pure (by rw [List.append_nil]; exact .running gone)
  drop {ρ state} so := by
    cases state with
    | replaced e => exact .pure rfl
    | trying a m => exact h.drop so.2
  unended {ρ state} so := by
    cases state with
    | replaced e =>
      obtain ⟨ρ, τ, service, so, rfl, rest⟩ := so
      obtain ⟨rfl, -⟩ := so
      exact rest .begun
    | trying a m => exact .running (h.unended so.2)

end BoundFallback

namespace Chain

variable (r : Route) (service : Nat)

/-- **Direct chains keep their accounts**, if the calls of services at their ends do. -/
theorem obeys_direct {reenter : Reentry → Act Reply}
    (serves : ∀ service, (r.direct reenter service args).Tells V (Account.ofService service).On)
    (layers : List Layer) :
    (directThrough r reenter service layers).Obeys args V (account r.method service layers) := by
  induction layers with
  | nil => exact serves service
  | cons l inner ih =>
    cases l with
    | exceptions mappers => exact Mapper.obeys_direct mappers ih
    | retry retry scheduler => exact Retry.obeys_direct ih
    | limiter limiter scheduler => exact limiter.obeys_direct scheduler ih
    | breaker breaker => exact breaker.obeys_direct ih
    | fallback stages => exact BoundFallback.obeys_direct r stages serves ih
    | bulkhead bulkhead scheduler => exact bulkhead.obeys_direct scheduler ih

/-- **Deferred chains keep their accounts**, along some track. -/
theorem exists_obeys_deferred (flat : V.IsFlat) (args : Args) (layers : List Layer) :
    ∃ T, (deferredThrough r service layers).Obeys args V (account r.method service layers) T := by
  induction layers with
  | nil => exact ⟨_, r.obeys_deferred flat service args⟩
  | cons l inner ih =>
    obtain ⟨T, ih⟩ := ih
    cases l with
    | exceptions mappers => exact ⟨_, Mapper.obeys_deferred mappers ih⟩
    | retry retry scheduler => exact ⟨_, Retry.obeys_deferred ih scheduler⟩
    | limiter limiter scheduler => exact ⟨_, limiter.obeys_deferred scheduler ih⟩
    | breaker breaker => exact ⟨_, breaker.obeys_deferred ih⟩
    | fallback stages => exact ⟨_, BoundFallback.obeys_deferred flat ih⟩
    | bulkhead bulkhead scheduler => exact ⟨_, bulkhead.obeys_deferred scheduler ih⟩

/-- What services call back for is not seen. -/
theorem obeys_direct_of_encloses (encloses : V.Encloses) {reenter : Reentry → Act Reply}
    (any : ∀ call, (reenter call).Tells V fun _ _ => True) (c : Chain) (args : Args) :
    (c.direct reenter).Obeys args V (account c.route.method c.service c.layers) :=
  obeys_direct c.route c.service (fun service => c.route.tells_direct encloses any service args)
    c.layers

/-- **Nested calls keep their accounts**, whatever chains services enter. -/
theorem tells_callWithin (encloses : V.Encloses) {enter : Reentry → Act (Except Reply Chain)}
    (entered : ∀ call, (enter call).Tells V fun _ _ => True) (depth : Nat) (c : Chain) (args : Args) :
    (callWithin enter depth c args).Tells V (account c.route.method c.service c.layers).On := by
  induction depth generalizing c args with
  | zero => exact obeys_direct_of_encloses encloses (fun _ => .pure trivial) c args
  | succ depth ih =>
    refine obeys_direct_of_encloses encloses (fun call => ?_) c args
    refine .bind (entered call) fun {_ found} _ => ?_
    cases found with
    | error reply => exact .pure trivial
    | ok inner => exact (ih inner call.args).imp fun _ => trivial

end Chain

end CallGuard
