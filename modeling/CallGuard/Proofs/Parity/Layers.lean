import CallGuard.Proofs.Parity.Awaiting
import CallGuard.Proofs.Parity.Twins

/-!
# Layers around parallel calls

A deferred call is parallel to a direct one when in twin worlds both end with the same outcome and
leave twins. Calls of a service are parallel when it is plain, and every layer makes parallel calls of
parallel calls as long as it waits for nothing but another attempt: `parallels` for each of them, by
what the layer makes of a poll of the call inside it.
-/

namespace CallGuard

variable {W V A : Type} {S : Scope}

namespace Deferred

/-- In twin worlds the act of a direct call ends with an outcome, to which the act of the deferred
call leads as well, and there are twins in the end. -/
def Matches (call : Deferred W) (act : Act (Progress W)) (S : Scope) (direct : Act Reply) :
    Prop :=
  ∀ w v, Twins S w v → ∃ o u, (direct.run w).1 = .ended o ∧
    call.Leads (act.run v) (.ended o, u) ∧ Twins S (direct.run w).2 u

/-- The deferred call goes the way of the direct one. -/
def Parallels (call : Deferred W) (direct : Direct) (S : Scope) (args : Args) : Prop :=
  call.Matches (call.opening args) S (direct args)

namespace Matches

variable {call : Deferred W} {outer : Deferred V}

/-- Both begin in the same way. -/
theorem bind {act : Act A} {goal : A → Prop} {later : A → Act (Progress W)} {next : A → Act Reply}
    (first : act.Agrees S goal) (rest : ∀ a, goal a → call.Matches (later a) S (next a)) :
    call.Matches (act >>= later) S (act >>= next) := by
  intro w v twins
  obtain ⟨same, reached, between⟩ := first w v twins
  rw [Act.run_bind, Act.run_bind, same]
  exact rest _ reached _ _ between

/-- Both are done with what comes of an act. -/
theorem done {act : Act Reply} (h : act.Agrees S fun reply => ∃ o, reply = .ended o) :
    call.Matches (do return .done (← act)) S act := by
  intro w v twins
  obtain ⟨same, ⟨o, ended⟩, after⟩ := h w v twins
  refine ⟨o, (act.run v).2, ended, ?_, after⟩
  rw [← ended, ← same]
  exact .done _ _

theorem pure (o : Outcome) : call.Matches (pure (.done (.ended o))) S (pure (.ended o)) := by
  have ended : (Pure.pure (.ended o) : Act Reply).Agrees S fun reply => ∃ o, reply = .ended o :=
    .pure ⟨o, rfl⟩
  exact done ended

/-- Both go on when the call inside has its outcome. -/
theorem wrap {inner : Deferred W} {wrap : W → V} {onward : Progress W → Act (Progress V)}
    (wraps : outer.Wraps inner wrap onward) {act : Act (Progress W)} {direct : Act Reply}
    {next : Reply → Act Reply} (h : inner.Matches act S direct)
    (rest : ∀ o, outer.Matches (onward (.done (.ended o))) S (next (.ended o))) :
    outer.Matches (act >>= onward) S (direct >>= next) := by
  intro w v twins
  obtain ⟨o, u, ended, led, between⟩ := h w v twins
  obtain ⟨last, t, done, leads, after⟩ := rest o _ _ between
  refine ⟨last, t, ?_, ?_, ?_⟩
  · rw [Act.run_bind, ended]
    exact done
  · exact wraps.leads led leads
  · rw [Act.run_bind, ended]
    exact after

/-- The reply of the call inside is that of the outer one. -/
theorem relay {inner : Deferred W} {wrap : W → V} {onward : Progress W → Act (Progress V)}
    (wraps : outer.Wraps inner wrap onward)
    (relays : ∀ reply, onward (.done reply) = Pure.pure (.done reply)) {act : Act (Progress W)}
    {direct : Act Reply} (h : inner.Matches act S direct) :
    outer.Matches (act >>= onward) S direct := by
  intro w v twins
  obtain ⟨o, u, ended, led, after⟩ := h w v twins
  refine ⟨o, u, ended, wraps.leads led ?_, after⟩
  rw [relays]
  exact .done (.ended o) u

end Matches

end Deferred

variable {call : Direct} {future : Deferred W} {args : Args}

namespace Breaker

variable (b : Breaker)

/-- What the breaker makes of a poll of the call it has let through. -/
def onward (permit : Option Nat) : Progress W → Act (Progress (Admitted W))
  | .waiting m => return .waiting (.running permit m)
  | .done reply => do
    b.conclude permit reply
    return .done reply

theorem opening_eq (future : Deferred W) (args : Args) :
    (b.deferred future).opening args = b.acquire >>= fun answer =>
      match answer with
      | .error e => pure (.done (.refusal e))
      | .ok permit => future.opening args >>= b.onward permit := by
  simp only [Deferred.opening_bind]
  funext w
  change ((b.deferred future).opening args).run w = (b.acquire >>= _).run w
  simp only [Deferred.opening, deferred, Act.run_bind]
  cases (b.acquire.run w).1 with
  | error e => rfl
  | ok permit =>
    simp only [Act.run_bind]
    cases ((future.start args).run (b.acquire.run w).2).1 <;> rfl

theorem parallels (h : future.Parallels call S args) :
    (b.deferred future).Parallels (b.direct call) S args := by
  unfold Deferred.Parallels
  rw [b.opening_eq]
  refine .bind b.agrees_acquire fun answer _ => ?_
  cases answer with
  | error e => exact .pure _
  | ok permit =>
    have wraps : (b.deferred future).Wraps future (.running permit) (b.onward permit) :=
      ⟨fun _ => rfl, fun _ => rfl⟩
    exact .wrap wraps h fun o => .bind (b.agrees_record o) fun _ _ => .pure o

end Breaker

namespace Limiter

variable (l : Limiter)

/-- What the limiter makes of a poll of the call it has let through. -/
def onward : Progress W → Act (Progress (Limited W))
  | .waiting m => return .waiting (.running m)
  | .done reply => return .done reply

/-- A call that may go on at once is started and polled. -/
theorem opening_eq (scheduler : Option Scheduler) (future : Deferred W) (args : Args) :
    (l.deferred scheduler future).opening args = l.reserve (l.patience scheduler) >>= fun answer =>
      match answer with
      | .error e => pure (.done (.refusal e))
      | .ok 0 => future.opening args >>= onward
      | .ok (wait + 1) => future.start args >>= fun started =>
        match started, scheduler with
        | .error text, _ => pure (.done (.crashed text))
        | .ok m, some s => Act.delay s (wait + 1) >>= fun timer =>
          (l.deferred scheduler future).poll (.waiting timer m)
        | .ok m, none => follow future m := by
  simp only [Deferred.opening_bind]
  funext w
  change ((l.deferred scheduler future).opening args).run w = (l.reserve _ >>= _).run w
  simp only [Deferred.opening, deferred, Act.run_bind]
  rcases ((l.reserve (l.patience scheduler)).run w).1 with e | (_ | wait)
  · rfl
  · simp only [Act.run_bind]
    cases ((future.start args).run _).1 <;> cases scheduler <;> rfl
  · simp only [Act.run_bind]
    cases ((future.start args).run _).1 <;> cases scheduler <;> rfl

theorem parallels (impatient : l.config.timeout = 0) (scheduler : Option Scheduler)
    (h : future.Parallels call S args) :
    (l.deferred scheduler future).Parallels (l.direct call) S args := by
  have patience : l.patience scheduler = l.config.timeout := by
    cases scheduler with
    | none => exact impatient.symm
    | some s => rfl
  unfold Deferred.Parallels
  rw [l.opening_eq, patience]
  refine .bind (l.agrees_reserve _) fun answer granted => ?_
  rcases answer with e | (_ | wait)
  · exact .pure _
  · have wraps : (l.deferred scheduler future).Wraps future .running onward :=
      ⟨fun _ => rfl, fun _ => rfl⟩
    exact .relay wraps (fun _ => rfl) h
  · have none := granted _ rfl
    rw [impatient] at none
    exact absurd none (Nat.not_succ_le_zero wait)

end Limiter

namespace Bulkhead

variable (b : Bulkhead) {scheduler : Option Scheduler}

/-- What the bulkhead makes of a poll of the call it has let through. -/
def onward : Progress W → Act (Progress (Housed W))
  | .waiting m => return .waiting (.running m)
  | .done reply => do
    b.finish
    return .done reply

theorem opening_eq (nowhere : b.waitsOn scheduler = none) (future : Deferred W) (args : Args) :
    (b.deferred scheduler future).opening args = b.take >>= fun taken =>
      if taken then b.permit >>= fun _ => future.opening args >>= b.onward
      else do return .done (← b.reject) := by
  have opened : (b.deferred scheduler future).opening args =
      (b.deferred scheduler future).poll (.fresh args) := rfl
  rw [opened]
  simp only [deferred, nowhere, Deferred.opening_bind]
  funext w
  change (b.take >>= _).run w = (b.take >>= _).run w
  rw [Act.run_bind, Act.run_bind]
  cases (b.take.run w).1 <;> rfl

theorem parallels (impatient : b.config.maxWait = 0) (scheduler other : Option Scheduler)
    (h : future.Parallels call S args) :
    (b.deferred scheduler future).Parallels (b.direct other call) S args := by
  have nowhere : ∀ scheduler, b.waitsOn scheduler = none := fun _ => if_pos impatient
  unfold Deferred.Parallels
  rw [b.opening_eq (nowhere scheduler)]
  refine .bind b.agrees_take fun taken _ => ?_
  cases taken with
  | true =>
    refine .bind b.agrees_permit fun _ _ => ?_
    have wraps : (b.deferred scheduler future).Wraps future .running b.onward :=
      ⟨fun _ => rfl, fun _ => rfl⟩
    exact .wrap wraps h fun o => .bind b.agrees_finish fun _ _ => .pure o
  | false =>
    rw [nowhere]
    exact .done (b.agrees_reject.imp fun _ refused => ⟨_, refused⟩)

end Bulkhead

namespace Mapper

variable (mappers : List Mapper)

/-- What mapping makes of a poll. -/
def onward : Progress W → Act (Progress W)
  | .waiting m => return .waiting m
  | .done reply => return .done (← remap mappers reply)

theorem opening_eq (future : Deferred W) (args : Args) :
    (deferred mappers future).opening args = future.opening args >>= onward mappers := by
  rw [Deferred.opening_bind]
  funext w
  change ((deferred mappers future).opening args).run w = (future.start args >>= _).run w
  simp only [Deferred.opening, deferred, Act.run_bind]
  cases ((future.start args).run w).1 <;> rfl

theorem parallels (h : future.Parallels call S args) :
    (deferred mappers future).Parallels (direct mappers call) S args := by
  have wraps : (deferred mappers future).Wraps future id (onward mappers) :=
    ⟨fun _ => rfl, fun _ => rfl⟩
  unfold Deferred.Parallels
  rw [opening_eq]
  exact .wrap wraps h fun o => .done (agrees_remap mappers o)

end Mapper

namespace Retry

variable (r : Retry) (scheduler : Option Scheduler)

/-- What a retry makes of a poll of an attempt with so many attempts left after it. -/
def onward (future : Deferred W) (args : Args) (left : Nat) :
    Progress W → Act (Progress (Retrying W))
  | .waiting m => return .waiting (.attempting args left m)
  | .done (.crashed text) => return .done (.crashed text)
  | .done (.ended o) => do
    let attempts := r.config.maxAttempts - left
    if r.config.retries o then
      match left with
      | 0 => return .done (.ended (← r.exhaust attempts o))
      | left + 1 =>
        let timer ← rest scheduler (← r.again attempts)
        (r.deferred scheduler future).poll (.resting args left timer)
    else return .done (.ended (← r.accept attempts o))

theorem pursue_eq (future : Deferred W) (args : Args) (left : Nat) (m : W) :
    r.pursue scheduler future args left m =
      future.poll m >>= r.onward scheduler future args left := by
  cases left with
  | zero => rw [pursue]; rfl
  | succ left => rw [pursue]; rfl

theorem launch_eq (future : Deferred W) (args : Args) (left : Nat) :
    r.launch scheduler future args left =
      future.opening args >>= r.onward scheduler future args left := by
  rw [Deferred.opening_bind, launch]
  simp only [pursue_eq]
  rfl

/-- A resting call goes on when its time has come. -/
theorem run_poll_resting {args : Args} {left : Nat} {timer : Timer} (future : Deferred W)
    (w : World) :
    ((r.deferred scheduler future).poll (.resting args left timer)).run w =
      if timer.isOver w.clock then (r.launch scheduler future args left).run w
      else (.waiting (.resting args left timer), w) := by
  change ((Act.isOver timer >>= _).run w) = _
  rw [Act.run_bind, Act.run_isOver]
  split <;> rfl

/-- A direct call sleeps while the deferred one waits on its scheduler. -/
theorem matches_rest {left : Nat} {wait : Nanos} (whole : Nanos.perMilli ∣ wait) {next : Act Reply}
    (h : (r.deferred (some S.scheduler) future).Matches
      (r.launch (some S.scheduler) future args left) S next) :
    (r.deferred (some S.scheduler) future).Matches
      (rest (some S.scheduler) wait >>= fun timer =>
        (r.deferred (some S.scheduler) future).poll (.resting args left timer)) S
      (Act.sleep wait >>= fun _ => next) := by
  intro w v twins
  let s := S.scheduler
  have asked := (twins.delayAsked wait).pass whole
  obtain ⟨o, u, ended, led, after⟩ := h _ _ asked
  refine ⟨o, u, ended, ?_, after⟩
  rw [Act.run_bind, rest, Act.run_delay]
  by_cases none : wait = 0
  · -- The timer is over from the start.
    subst none
    rw [run_poll_resting, if_pos (by rfl)]
    exact led
  · obtain ⟨n, rfl⟩ := whole
    have due : Nanos.perMilli ∣ v.clock s + Nanos.perMilli * n := by
      rw [twins.clock]
      exact Nat.dvd_add twins.whole (Nat.dvd_mul_right _ n)
    have polls : ∀ t, ((r.deferred (some s) future).poll
        (.resting args left (.start s (v.clock s) (Nanos.perMilli * n)))).run t =
          if v.clock s + Nanos.perMilli * n ≤ t.clock s then
            (r.launch (some s) future args left).run t
          else (.waiting (.resting args left (.start s (v.clock s) (Nanos.perMilli * n))), t) := by
      intro t
      rw [run_poll_resting]
      simp only [Timer.isOver_start none due]
    -- Until the timer has rung a poll leaves everything as it is.
    exact .sleep polls n rfl led

theorem wraps (future : Deferred W) (args : Args) (left : Nat) :
    (r.deferred scheduler future).Wraps future (.attempting args left)
      (r.onward scheduler future args left) :=
  ⟨r.pursue_eq scheduler future args left, fun _ => rfl⟩

/-- Both end with what is announced about the last outcome. -/
theorem matches_end {act : Act Outcome} (h : act.Agrees S fun _ => True) {outer : Deferred V} :
    outer.Matches (act >>= fun o => pure (.done (.ended o))) S
      (act >>= fun o => pure (.ended o)) :=
  .bind h fun o _ => .pure o

/-- All waits before further attempts are whole milliseconds. -/
def Paced : Prop :=
  ∀ n, 0 < n → n < r.config.maxAttempts → Nanos.perMilli ∣ r.config.interval.wait n

variable {r}

theorem matches_attempt (paced : r.Paced) (h : future.Parallels call S args) (left : Nat) :
    left < r.config.maxAttempts →
      (r.deferred (some S.scheduler) future).Matches
        (r.launch (some S.scheduler) future args left) S (r.attempt call args left) := by
  induction left with
  | zero =>
    intro _
    rw [launch_eq, attempt]
    refine .wrap (r.wraps _ future args 0) h fun o => ?_
    by_cases again : r.config.retries o = true
    · simp only [onward, if_pos again]
      exact matches_end (r.agrees_exhaust _ o)
    · simp only [onward, if_neg again]
      exact matches_end (r.agrees_accept _ o)
  | succ left ih =>
    intro bound
    rw [launch_eq, attempt]
    refine .wrap (r.wraps _ future args (left + 1)) h fun o => ?_
    by_cases again : r.config.retries o = true
    · simp only [onward, if_pos again]
      refine .bind (r.agrees_again _) fun wait eq => ?_
      have whole := paced (r.config.maxAttempts - (left + 1)) (by omega) (by omega)
      rw [eq]
      exact r.matches_rest whole (ih (by omega))
    · simp only [onward, if_neg again]
      exact matches_end (r.agrees_accept _ o)

theorem parallels (paced : r.Paced) (h : future.Parallels call S args) :
    (r.deferred (some S.scheduler) future).Parallels (r.direct call) S args := by
  have bound : r.config.maxAttempts - 1 < r.config.maxAttempts :=
    Nat.sub_lt r.config.maxAttempts_pos Nat.one_pos
  exact matches_attempt paced h _ bound

end Retry

/-- An errand that nothing holds up is over when its time has come. -/
theorem Errand.run_poll_ungated {e : Errand} (ungated : e.gate = none) (finite : e.hangs = false)
    (w : World) :
    e.poll.run w = if e.due ≤ w.now then
        (Act.write (.replied e.service e.reply) >>= fun _ => pure (.done e.reply)).run w
      else (.waiting e, w) := by
  have decided : e.isOver w = decide (e.due ≤ w.now) := by simp [isOver, ungated, finite]
  rw [run_poll, decided, Act.run_bind, Act.run_write]
  simp only [decide_eq_true_eq]
  rfl

namespace Route

variable (r : Route)

/-- A direct call sleeps while the errand of the deferred one waits. -/
theorem matches_errand {d : Nanos} (whole : Nanos.perMilli ∣ d) (service : Nat) {reply : Reply}
    (ends : ∃ o, reply = .ended o) :
    (r.deferred service).Matches
      (get >>= fun w => (⟨service, w.now + d, none, false, reply⟩ : Errand).poll) S
      (Act.sleep d >>= fun _ => Act.write (.replied service reply) >>= fun _ => pure reply) := by
  intro w v twins
  have handedOver : (Act.write (.replied service reply) >>= fun _ => pure reply : Act Reply).Agrees S
      fun reply => ∃ o, reply = .ended o :=
    .bind (Act.agrees_write rfl) fun _ _ => .pure ends
  have done : (r.deferred service).Matches _ S _ := .done handedOver
  obtain ⟨o, u, ended, led, after⟩ := done _ _ (twins.pass whole)
  refine ⟨o, u, ended, ?_, after⟩
  obtain ⟨n, rfl⟩ := whole
  exact .sleep (s := .shared) (Errand.run_poll_ungated rfl rfl) n rfl led

/-- A plain call is started and polled. -/
theorem opening_eq (service : Nat) (args : Args) :
    (r.deferred service).opening args =
      Service.take service r.operation.name (r.pass args) >>= fun plan =>
        match plan.eager, r.planned args plan.ending with
        | true, .crashed text => Act.write (.replied service (.crashed text)) >>= fun _ =>
          pure (.done (.crashed text))
        | _, reply => get >>= fun w =>
          (⟨service, w.now + plan.sleep, plan.gate, plan.hangs, r.finishReply args reply⟩ :
            Errand).poll := by
  funext w
  change ((r.deferred service).opening args).run w = (Service.take service _ _ >>= _).run w
  simp only [Deferred.opening, deferred, Act.run_bind]
  cases ((Service.take service r.operation.name (r.pass args)).run w).1.eager <;>
    cases r.planned args ((Service.take service r.operation.name (r.pass args)).run w).1.ending <;>
    rfl

theorem parallels {service : Nat} (reached : S.reaches service) (reenter : Reentry → Act Reply)
    (args : Args) : (r.deferred service).Parallels (r.direct reenter service) S args := by
  unfold Deferred.Parallels
  rw [opening_eq]
  refine .bind (Service.agrees_take reached _ _) fun plan plain => ?_
  obtain ⟨o, planned⟩ : ∃ o, r.planned args plan.ending = .ended o := by
    cases ending : plan.ending with
    | crash text => exact absurd ending (plain.ends text)
    | _ => exact ⟨_, rfl⟩
  have ends : ∃ o', r.finishReply args (.ended o) = .ended o' := by
    cases o with
    | value v => exact ⟨_, rfl⟩
    | fault e => exact ⟨_, rfl⟩
  simp only [plain.ungated, plain.finite, plain.silent, planned]
  cases plan.eager with
  | false => exact r.matches_errand plain.whole service ends
  | true => exact r.matches_errand plain.whole service ends

end Route

namespace BoundFallback

variable (r : Route) (stages : List BoundFallback)

/-- What fallbacks make of a poll of the call they stand around. -/
def onward (args : Args) : Progress W → Act (Progress (Replacing W))
  | .waiting m => return .waiting (.trying args m)
  | .done (.crashed text) => return .done (.crashed text)
  | .done (.ended o) => do
    match ← select r.method o stages with
    | none => return .done (.ended o)
    | some service =>
      match ← (r.deferred service).start args with
      | .error text => return .done (.crashed text)
      | .ok e => follow e

/-- What fallbacks make of a poll of the errand in place of the call. -/
def relay : Progress Errand → Act (Progress (Replacing W))
  | .waiting e => return .waiting (.replaced e)
  | .done reply => return .done reply

theorem onward_ended (args : Args) (o : Outcome) :
    (onward r stages args (.done (.ended o)) : Act (Progress (Replacing W))) =
      select r.method o stages >>= fun found =>
        match found with
        | none => pure (.done (.ended o))
        | some service => (r.deferred service).opening args >>= relay := by
  simp only [Deferred.opening_bind]
  refine congrArg (select r.method o stages >>= ·) (funext fun found => ?_)
  cases found with
  | none => rfl
  | some service =>
    refine congrArg ((r.deferred service).start args >>= ·) (funext fun started => ?_)
    cases started <;> rfl

theorem opening_eq (future : Deferred W) (args : Args) :
    (deferred r stages future).opening args = future.opening args >>= onward r stages args := by
  rw [Deferred.opening_bind]
  funext w
  change ((deferred r stages future).opening args).run w = (future.start args >>= _).run w
  simp only [Deferred.opening, deferred, Act.run_bind]
  cases ((future.start args).run w).1 <;> rfl

theorem parallels (within : ∀ stage ∈ stages, stage.substitute.Within S)
    (reenter : Reentry → Act Reply) (h : future.Parallels call S args) :
    (deferred r stages future).Parallels (direct r reenter stages call) S args := by
  have wraps : (deferred r stages future).Wraps future (.trying args) (onward r stages args) :=
    ⟨fun _ => rfl, fun _ => rfl⟩
  unfold Deferred.Parallels
  rw [opening_eq]
  refine .wrap wraps h fun o => ?_
  rw [onward_ended]
  refine .bind (agrees_select r.method o within) fun found reached => ?_
  cases found with
  | none => exact .pure o
  | some service =>
    have relays : (deferred r stages future).Wraps (r.deferred service) .replaced relay :=
      ⟨fun _ => rfl, fun _ => rfl⟩
    have called := r.parallels (reached service rfl) reenter args
    exact .relay relays (fun _ => rfl) called

end BoundFallback

end CallGuard
