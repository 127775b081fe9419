import CallGuard.Proofs.Breaker.Effects
import CallGuard.Proofs.Chain.Setup
import CallGuard.Proofs.Retry.Course
import CallGuard.Proofs.Services

/-!
# What calls change

A call changes the world only in a few ways: it notes something in the journal, reports an event to
listeners, raises a counter, asks for a delay, or acts on what guards and services remember. So a
relation between worlds that goes along with each of these goes along with every call, be it direct
or deferred, through whatever layers. What a retry announces and how it ends stays in one piece here,
and delays are asked for only by layers with a scheduler. Main statements: `Chain.leads_directThrough`
and `Chain.leads_deferredThrough`.
-/

namespace CallGuard

/-- What the stage waits on when it waits. -/
def Stage.scheduler? {F : Type} : Stage F → Option Scheduler
  | .retry _ scheduler | .limiter _ scheduler | .bulkhead _ scheduler => scheduler
  | .exceptions _ | .breaker _ | .fallback _ => none

/-- Whether it is a retry that reports it. -/
def Happening.isOfRetry : Happening → Bool
  | .retried .. | .succeeded _ | .exhausted _ | .ignoredFault => true
  | _ => false

/-- Whether it is a retry that raises the counter. -/
def Counter.isOfRetry (c : Counter) : Bool :=
  c.metric = "retry_attempts_total" || c.metric = "retry_calls_total"

/-- An entry that is neither an event nor a request for a delay. -/
def Entry.IsNote : Entry → Prop
  | .emitted _ | .delayAsked _ => False
  | _ => True

namespace World

/-- A relation between worlds that goes along with whatever is done in the course of a call, but for
the delays that are asked for. -/
structure Admits (good : World → World → Prop) : Prop where
  same : ∀ {w v}, v.tally = w.tally → v.history = w.history → good w v
  trans : ∀ {u v w}, good u v → good v w → good u w
  noted : ∀ w {e : Entry}, e.IsNote → good w (w.append [e])
  reported : ∀ w guard listeners {h : Happening}, h.isOfRetry = false →
    good w (w.append (w.reported guard listeners h))
  counted : ∀ w {c : Counter}, c.isOfRetry = false → good w (w.raise c)
  announced : ∀ (r : Retry) attempts w, good w (r.announced attempts w)
  concluded : ∀ {r : Retry} {attempts last label h o}, r.Closes attempts last label h o →
    ∀ w, good w (r.concluded label h w)

/-- The relation goes along with requests for delays as well. -/
def Delays (good : World → World → Prop) : Prop := ∀ w d, good w (w.append [.delayAsked d])

end World

variable {A B : Type} {good : World → World → Prop}

/-- Wherever the act starts, it ends in a world that is related to that one. -/
def Act.Leads (good : World → World → Prop) (act : Act A) : Prop := ∀ w, good w (act.run w).2

/-- Every call leads on. -/
def Direct.LeadsOn (good : World → World → Prop) (call : Direct) : Prop :=
  ∀ args, (call args).Leads good

/-- The call leads on whenever it is started, polled or dropped, whatever it remembers. -/
structure Deferred.LeadsOn {W : Type} (good : World → World → Prop) (call : Deferred W) : Prop where
  start : ∀ args, (call.start args).Leads good
  poll : ∀ m, (call.poll m).Leads good
  drop : ∀ m, (call.drop m).Leads good

namespace World.Admits

theorem pure (admits : Admits good) (a : A) : (Pure.pure a : Act A).Leads good :=
  fun _ => admits.same rfl rfl

theorem bind (admits : Admits good) {act : Act A} {next : A → Act B} (first : act.Leads good)
    (rest : ∀ a, (next a).Leads good) : (act >>= next).Leads good :=
  fun w => admits.trans (first w) (rest (act.run w).1 (act.run w).2)

/-- What follows may depend on the world as it is. -/
theorem get_bind {next : World → Act B} (rest : ∀ w, (next w).Leads good) :
    ((get : Act World) >>= next).Leads good :=
  fun w => rest w w

theorem write (admits : Admits good) {e : Entry} (note : e.IsNote) :
    (Act.write e).Leads good := by
  intro w
  rw [Act.run_write]
  exact admits.noted w note

theorem emit (admits : Admits good) (guard : String) (listeners : List Listener) {h : Happening}
    (other : h.isOfRetry = false) : (Act.emit guard listeners h).Leads good := by
  intro w
  rw [Act.run_emit]
  exact admits.reported w guard listeners other

theorem raise (admits : Admits good) {metric : String} {labels : List (String × String)}
    (other : Counter.isOfRetry ⟨metric, labels⟩ = false) : (Act.raise metric labels).Leads good := by
  intro w
  rw [Act.run_raise]
  exact admits.counted w other

theorem sleep (admits : Admits good) (d : Nanos) : (Act.sleep d).Leads good :=
  fun _ => admits.same rfl rfl

theorem isOver (admits : Admits good) (t : Timer) : (Act.isOver t).Leads good :=
  fun _ => admits.same rfl rfl

theorem outwait (admits : Admits good) (t : Timer) : (Act.outwait t).Leads good := by
  intro w
  obtain ⟨now, ahead, waited⟩ := w.exists_outwait t
  rw [Act.run_outwait, waited]
  exact admits.same rfl rfl

theorem delay (delays : World.Delays good) (s : Scheduler) (d : Nanos) :
    (Act.delay s d).Leads good := by
  intro w
  rw [Act.run_delay]
  exact delays w d

end World.Admits

/-- Without a scheduler no call waits for a slot. -/
theorem Bulkhead.scheduler_ne_none {b : Bulkhead} {scheduler : Option Scheduler} {s : Scheduler}
    (waits : b.waitsOn scheduler = some s) : scheduler ≠ none := by
  rintro rfl
  unfold waitsOn at waits
  split at waits <;> cases waits

variable {W : Type} {call : Direct} {future : Deferred W} (admits : World.Admits good)

include admits

namespace Breaker

variable (b : Breaker)

theorem leads_report {h : Happening} (other : h.isOfRetry = false) : (b.report h).Leads good := by
  have emitted : (b.emit h).Leads good := admits.emit b.name b.config.listeners other
  cases h with
  | transitioned source target => exact admits.bind (admits.raise rfl) fun _ => emitted
  | _ => exact emitted

theorem leads_update (c : Circuit) {happened : List Happening}
    (other : ∀ h ∈ happened, h.isOfRetry = false) : (b.update c happened).Leads good := by
  have told : (happened.forM b.report).Leads good := by
    induction happened with
    | nil => exact admits.pure ()
    | cons h rest ih =>
      obtain ⟨own, others⟩ := List.forall_mem_cons.mp other
      exact admits.bind (b.leads_report admits own) fun _ => ih others
  exact admits.bind (fun _ => admits.same rfl rfl) fun _ => told

theorem leads_acquire : b.acquire.Leads good := by
  refine World.Admits.get_bind fun w => ?_
  have other : ∀ h ∈ ((b.circuit w).acquire b.config w.now).2.2, h.isOfRetry = false := by
    rcases Circuit.acquire_cases b.config w.now (b.circuit w) with
      ⟨-, eq⟩ | ⟨-, eq⟩ | ⟨-, eq⟩ | ⟨-, -, eq⟩ | ⟨-, -, eq⟩ <;> rw [eq] <;> simp [Happening.isOfRetry]
  rcases ran : (b.circuit w).acquire b.config w.now with ⟨state | permit, c, happened⟩ <;>
    rw [ran] at other
  · refine admits.bind (b.leads_update admits c other) fun _ => ?_
    refine admits.bind (admits.write trivial) fun _ => ?_
    refine admits.bind (admits.raise rfl) fun _ => ?_
    exact admits.bind (admits.emit b.name b.config.listeners rfl) fun _ => admits.pure _
  · refine admits.bind (b.leads_update admits c other) fun _ => ?_
    exact admits.bind (admits.write trivial) fun _ => admits.pure _

theorem leads_recordAs (failed : Bool) : (b.recordAs failed).Leads good := by
  intro w
  rw [run_recordAs]
  refine b.leads_update admits _ ?_ w
  rcases Circuit.record_cases b.config w.now (b.circuit w) failed with
    ⟨-, eq⟩ | ⟨-, -, eq⟩ | ⟨-, -, eq⟩ | ⟨target, -, -, eq⟩ <;> rw [eq] <;> cases failed <;>
    simp [Circuit.recorded, Happening.isOfRetry]

theorem leads_abandon (permit : Option Nat) : (b.abandon permit).Leads good := by
  cases permit with
  | none => exact admits.pure ()
  | some epoch => exact World.Admits.get_bind fun w => b.leads_update admits _ (by simp)

theorem leads_conclude (permit : Option Nat) (reply : Reply) :
    (b.conclude permit reply).Leads good := by
  cases reply with
  | ended o => exact b.leads_recordAs admits (b.fails o)
  | crashed text => exact b.leads_abandon admits permit

theorem leads_direct (h : call.LeadsOn good) : (b.direct call).LeadsOn good := by
  intro args
  refine admits.bind (b.leads_acquire admits) fun answer => ?_
  cases answer with
  | error e => exact admits.pure _
  | ok permit =>
    refine admits.bind (h args) fun reply => ?_
    exact admits.bind (b.leads_conclude admits permit reply) fun _ => admits.pure _

theorem leads_deferred (h : future.LeadsOn good) : (b.deferred future).LeadsOn good where
  start args := by
    refine admits.bind (b.leads_acquire admits) fun answer => ?_
    cases answer with
    | error e => exact admits.pure _
    | ok permit =>
      refine admits.bind (h.start args) fun started => ?_
      cases started with
      | error text => exact admits.bind (b.leads_abandon admits permit) fun _ => admits.pure _
      | ok m => exact admits.pure _
  poll state := by
    cases state with
    | refused e => exact admits.pure _
    | running permit m =>
      refine admits.bind (h.poll m) fun progress => ?_
      cases progress with
      | waiting m => exact admits.pure _
      | done reply =>
        exact admits.bind (b.leads_conclude admits permit reply) fun _ => admits.pure _
  drop state := by
    cases state with
    | refused e => exact admits.pure _
    | running permit m => exact admits.bind (h.drop m) fun _ => b.leads_abandon admits permit

end Breaker

namespace Limiter

variable (l : Limiter)

theorem leads_reserve (timeout : Nanos) : (l.reserve timeout).Leads good := by
  refine World.Admits.get_bind fun w => ?_
  rcases (l.balance w).reserve w.now timeout with ⟨wait | needed, balance⟩
  · refine admits.bind (fun _ => admits.same rfl rfl) fun _ => ?_
    exact admits.bind (admits.emit l.name l.config.listeners rfl) fun _ => admits.pure _
  · refine admits.bind (fun _ => admits.same rfl rfl) fun _ => ?_
    refine admits.bind (admits.raise rfl) fun _ => ?_
    exact admits.bind (admits.emit l.name l.config.listeners rfl) fun _ => admits.pure _

theorem leads_direct (h : call.LeadsOn good) : (l.direct call).LeadsOn good := by
  intro args
  refine admits.bind (l.leads_reserve admits _) fun answer => ?_
  cases answer with
  | error e => exact admits.pure _
  | ok wait => exact admits.bind (admits.sleep wait) fun _ => h args

theorem leads_follow (h : future.LeadsOn good) (m : W) : (follow future m).Leads good := by
  refine admits.bind (h.poll m) fun progress => ?_
  cases progress <;> exact admits.pure _

theorem leads_deferred {scheduler : Option Scheduler} (delays : scheduler ≠ none → World.Delays good)
    (h : future.LeadsOn good) : (l.deferred scheduler future).LeadsOn good where
  start args := by
    refine admits.bind (l.leads_reserve admits _) fun answer => ?_
    cases answer with
    | error e => exact admits.pure _
    | ok wait =>
      refine admits.bind (h.start args) fun started => ?_
      cases started with
      | error text => exact admits.pure _
      | ok m =>
        cases scheduler with
        | none => exact admits.pure _
        | some s =>
          cases wait with
          | zero => exact admits.pure _
          | succ wait =>
            exact admits.bind (World.Admits.delay (delays nofun) s _) fun _ => admits.pure _
  poll state := by
    cases state with
    | refused e => exact admits.pure _
    | running m => exact leads_follow admits h m
    | waiting timer m =>
      refine admits.bind (admits.isOver timer) fun rung => ?_
      cases rung with
      | true => exact leads_follow admits h m
      | false => exact admits.pure _
  drop state := by
    cases state with
    | refused e => exact admits.pure _
    | running m | waiting timer m => exact h.drop m

end Limiter

namespace Bulkhead

variable (b : Bulkhead)

theorem leads_update (s : Slots) : (b.update s).Leads good := fun _ => admits.same rfl rfl

theorem leads_take : b.take.Leads good := by
  refine World.Admits.get_bind fun w => ?_
  cases (b.slots w).take? with
  | none => exact admits.pure _
  | some s => exact admits.bind (b.leads_update admits s) fun _ => admits.pure _

theorem leads_claim (ticket : Nat) : (b.claim ticket).Leads good := by
  refine World.Admits.get_bind fun w => ?_
  cases (b.slots w).claim? ticket with
  | none => exact admits.pure _
  | some s => exact admits.bind (b.leads_update admits s) fun _ => admits.pure _

theorem leads_enqueue : b.enqueue.Leads good := fun _ => admits.same rfl rfl

theorem leads_withdraw (ticket : Nat) : (b.withdraw ticket).Leads good :=
  fun _ => admits.same rfl rfl

theorem leads_permit : b.permit.Leads good := by
  refine admits.bind (admits.raise rfl) fun _ => World.Admits.get_bind fun w => ?_
  exact admits.emit b.name b.config.listeners rfl

theorem leads_finish : b.finish.Leads good :=
  admits.bind (admits.emit b.name b.config.listeners rfl) fun _ =>
    World.Admits.get_bind fun _ => b.leads_update admits _

theorem leads_reject : b.reject.Leads good :=
  admits.bind (admits.raise rfl) fun _ =>
    admits.bind (admits.emit b.name b.config.listeners rfl) fun _ => admits.pure _

theorem leads_direct {scheduler : Option Scheduler} (delays : scheduler ≠ none → World.Delays good)
    (h : call.LeadsOn good) : (b.direct scheduler call).LeadsOn good := by
  intro args
  refine admits.bind (b.leads_take admits) fun taken => ?_
  cases taken with
  | true =>
    refine admits.bind (b.leads_permit admits) fun _ => admits.bind (h args) fun reply => ?_
    exact admits.bind (b.leads_finish admits) fun _ => admits.pure _
  | false =>
    cases waits : b.waitsOn scheduler with
    | none => exact b.leads_reject admits
    | some s =>
      have asked := World.Admits.delay (delays (scheduler_ne_none waits)) s b.config.maxWait
      refine admits.bind asked fun timer => ?_
      exact admits.bind (admits.outwait timer) fun _ => b.leads_reject admits

variable {b}

theorem leads_watch (h : future.LeadsOn good) (m : W) : (b.watch future m).Leads good := by
  refine admits.bind (h.poll m) fun progress => ?_
  cases progress with
  | waiting m => exact admits.pure _
  | done reply => exact admits.bind (b.leads_finish admits) fun _ => admits.pure _

theorem leads_enter (h : future.LeadsOn good) (args : Args) : (b.enter future args).Leads good := by
  refine admits.bind (b.leads_permit admits) fun _ => admits.bind (h.start args) fun started => ?_
  cases started with
  | error text => exact admits.bind (b.leads_finish admits) fun _ => admits.pure _
  | ok m => exact leads_watch admits h m

theorem leads_queue (h : future.LeadsOn good) (args : Args) (ticket : Nat) (timer : Timer) :
    (b.queue future args ticket timer).Leads good := by
  refine admits.bind (b.leads_claim admits ticket) fun claimed => ?_
  cases claimed with
  | true => exact leads_enter admits h args
  | false =>
    refine admits.bind (admits.isOver timer) fun rung => ?_
    cases rung with
    | false => exact admits.pure _
    | true =>
      refine admits.bind (b.leads_withdraw admits ticket) fun _ => ?_
      exact admits.bind (b.leads_reject admits) fun _ => admits.pure _

variable (b)

theorem leads_deferred {scheduler : Option Scheduler} (delays : scheduler ≠ none → World.Delays good)
    (h : future.LeadsOn good) : (b.deferred scheduler future).LeadsOn good where
  start _ := admits.pure _
  poll state := by
    cases state with
    | running m => exact leads_watch admits h m
    | queued args ticket timer => exact leads_queue admits h args ticket timer
    | fresh args =>
      refine admits.bind (b.leads_take admits) fun taken => ?_
      cases taken with
      | true => exact leads_enter admits h args
      | false =>
        cases waits : b.waitsOn scheduler with
        | none => exact admits.bind (b.leads_reject admits) fun _ => admits.pure _
        | some s =>
          refine admits.bind (b.leads_enqueue admits) fun ticket => ?_
          exact admits.bind (World.Admits.delay (delays (scheduler_ne_none waits)) s _) fun timer =>
            leads_queue admits h args ticket timer
  drop state := by
    cases state with
    | fresh args => exact admits.pure _
    | queued args ticket timer => exact b.leads_withdraw admits ticket
    | running m => exact admits.bind (h.drop m) fun _ => b.leads_finish admits

end Bulkhead

namespace Retry

variable (r : Retry)

theorem leads_again (attempts : Nat) : (r.again attempts).Leads good := by
  intro w
  rw [run_again]
  exact admits.announced r attempts w

theorem leads_accept {attempts : Nat} {last : Outcome} (accepted : ¬ r.config.Retried last) :
    (r.accept attempts last).Leads good := by
  intro w
  obtain ⟨label, h, closes, ran⟩ := r.run_accept attempts accepted w
  rw [ran]
  exact admits.concluded closes w

theorem leads_exhaust {attempts : Nat} {last : Outcome} (retried : r.config.Retried last) :
    (r.exhaust attempts last).Leads good := by
  intro w
  obtain ⟨label, h, o, closes, ran⟩ := r.run_exhaust attempts retried w
  rw [ran]
  exact admits.concluded closes w

theorem leads_attempt (h : call.LeadsOn good) (args : Args) (left : Nat) :
    (r.attempt call args left).Leads good := by
  induction left with
  | zero =>
    rw [attempt]
    refine admits.bind (h args) fun reply => ?_
    rcases reply with last | text
    · dsimp only
      by_cases retried : r.config.Retried last
      · rw [if_pos (RetryConfig.retries_iff.mpr retried)]
        exact admits.bind (r.leads_exhaust admits retried) fun _ => admits.pure _
      · rw [if_neg (mt RetryConfig.retries_iff.mp retried)]
        exact admits.bind (r.leads_accept admits retried) fun _ => admits.pure _
    · exact admits.pure _
  | succ left ih =>
    rw [attempt]
    refine admits.bind (h args) fun reply => ?_
    rcases reply with last | text
    · dsimp only
      by_cases retried : r.config.Retried last
      · rw [if_pos (RetryConfig.retries_iff.mpr retried)]
        refine admits.bind (r.leads_again admits _) fun wait => ?_
        exact admits.bind (admits.sleep wait) fun _ => ih
      · rw [if_neg (mt RetryConfig.retries_iff.mp retried)]
        exact admits.bind (r.leads_accept admits retried) fun _ => admits.pure _
    · exact admits.pure _

theorem leads_direct (h : call.LeadsOn good) : (r.direct call).LeadsOn good :=
  fun args => r.leads_attempt admits h args _

theorem leads_rest {scheduler : Option Scheduler} (delays : scheduler ≠ none → World.Delays good)
    (wait : Nanos) : (rest scheduler wait).Leads good := by
  cases scheduler with
  | none => exact admits.pure _
  | some s => exact World.Admits.delay (delays nofun) s wait

theorem leads_pursue {scheduler : Option Scheduler} (delays : scheduler ≠ none → World.Delays good)
    (h : future.LeadsOn good) (args : Args) (left : Nat) :
    ∀ m, (r.pursue scheduler future args left m).Leads good := by
  induction left with
  | zero =>
    intro m
    rw [pursue]
    refine admits.bind (h.poll m) fun progress => ?_
    rcases progress with m | (last | text)
    · exact admits.pure _
    · dsimp only
      by_cases retried : r.config.Retried last
      · rw [if_pos (RetryConfig.retries_iff.mpr retried)]
        exact admits.bind (r.leads_exhaust admits retried) fun _ => admits.pure _
      · rw [if_neg (mt RetryConfig.retries_iff.mp retried)]
        exact admits.bind (r.leads_accept admits retried) fun _ => admits.pure _
    · exact admits.pure _
  | succ left ih =>
    intro m
    rw [pursue]
    refine admits.bind (h.poll m) fun progress => ?_
    rcases progress with m | (last | text)
    · exact admits.pure _
    · dsimp only
      by_cases retried : r.config.Retried last
      · rw [if_pos (RetryConfig.retries_iff.mpr retried)]
        refine admits.bind (r.leads_again admits _) fun wait => ?_
        refine admits.bind (leads_rest admits delays wait) fun timer => ?_
        refine admits.bind (admits.isOver timer) fun rung => ?_
        cases rung with
        | false => exact admits.pure _
        | true =>
          refine admits.bind (h.start args) fun started => ?_
          cases started with
          | error text => exact admits.pure _
          | ok m => exact ih m
      · rw [if_neg (mt RetryConfig.retries_iff.mp retried)]
        exact admits.bind (r.leads_accept admits retried) fun _ => admits.pure _
    · exact admits.pure _

theorem leads_launch {scheduler : Option Scheduler} (delays : scheduler ≠ none → World.Delays good)
    (h : future.LeadsOn good) (args : Args) (left : Nat) :
    (r.launch scheduler future args left).Leads good := by
  refine admits.bind (h.start args) fun started => ?_
  cases started with
  | error text => exact admits.pure _
  | ok m => exact r.leads_pursue admits delays h args left m

theorem leads_deferred {scheduler : Option Scheduler} (delays : scheduler ≠ none → World.Delays good)
    (h : future.LeadsOn good) : (r.deferred scheduler future).LeadsOn good where
  start _ := admits.pure _
  poll state := by
    cases state with
    | fresh args => exact r.leads_launch admits delays h args _
    | attempting args left m => exact r.leads_pursue admits delays h args left m
    | resting args left timer =>
      refine admits.bind (admits.isOver timer) fun rung => ?_
      cases rung with
      | true => exact r.leads_launch admits delays h args left
      | false => exact admits.pure _
  drop state := by
    cases state with
    | fresh args | resting args left timer => exact admits.pure _
    | attempting args left m => exact h.drop m

end Retry

namespace Mapper

theorem leads_replaceFirst (e : Fault) (mappers : List Mapper) :
    (replaceFirst e mappers).Leads good := by
  induction mappers with
  | nil => exact admits.pure _
  | cons m rest ih =>
    refine admits.bind (admits.write trivial) fun _ => ?_
    cases m.replace? e with
    | some replacement => exact admits.pure _
    | none => exact ih

theorem leads_remap (mappers : List Mapper) (reply : Reply) :
    (remap mappers reply).Leads good := by
  rcases reply with (v | e) | text
  · exact admits.pure _
  · exact admits.bind (leads_replaceFirst admits e mappers) fun _ => admits.pure _
  · exact admits.pure _

theorem leads_direct (mappers : List Mapper) (h : call.LeadsOn good) :
    (direct mappers call).LeadsOn good :=
  fun args => admits.bind (h args) fun reply => leads_remap admits mappers reply

theorem leads_deferred (mappers : List Mapper) (h : future.LeadsOn good) :
    (deferred mappers future).LeadsOn good where
  start := h.start
  poll m := by
    refine admits.bind (h.poll m) fun progress => ?_
    cases progress with
    | waiting m => exact admits.pure _
    | done reply => exact admits.bind (leads_remap admits mappers reply) fun _ => admits.pure _
  drop := h.drop

end Mapper

theorem Service.leads_enroll (s : Service) : s.enroll.Leads good := fun _ => admits.same rfl rfl

theorem Service.leads_take (number : Nat) (operation : String) (args : Args) :
    (take number operation args).Leads good :=
  World.Admits.get_bind fun _ => admits.bind (admits.write trivial) fun _ =>
    admits.bind (fun _ => admits.same rfl rfl) fun _ => admits.pure _

theorem Errand.leads_poll (e : Errand) : e.poll.Leads good := by
  refine World.Admits.get_bind fun w => ?_
  split
  · exact admits.bind (admits.write trivial) fun _ => admits.pure _
  · exact admits.pure _

namespace Route

variable (r : Route)

/-- A service does nothing but what it calls itself. -/
theorem leads_direct {reenter : Reentry → Act Reply} (within : ∀ call, (reenter call).Leads good)
    (service : Nat) : (r.direct reenter service).LeadsOn good := by
  intro args
  refine admits.bind (Service.leads_take admits service _ _) fun plan => ?_
  refine admits.bind (admits.sleep plan.sleep) fun _ => ?_
  have replied : ∀ reply, (do Act.write (.replied service (r.finishReply args reply))
                              return r.finishReply args reply : Act Reply).Leads good :=
    fun _ => admits.bind (admits.write trivial) fun _ => admits.pure _
  cases plan.reentry with
  | some call => exact admits.bind (within call) replied
  | none => exact admits.bind (admits.pure _) replied

theorem leads_deferred (service : Nat) : (r.deferred service).LeadsOn good where
  start args := by
    refine admits.bind (Service.leads_take admits service _ _) fun plan => ?_
    rcases plan.eager with _ | _ <;> rcases r.planned args plan.ending with o | text
    · exact World.Admits.get_bind fun _ => admits.pure _
    · exact World.Admits.get_bind fun _ => admits.pure _
    · exact World.Admits.get_bind fun _ => admits.pure _
    · exact admits.bind (admits.write trivial) fun _ => admits.pure _
  poll e := e.leads_poll admits
  drop _ := admits.pure _

end Route

namespace BoundFallback

variable (r : Route)

theorem leads_select (m : Method) (o : Outcome) (stages : List BoundFallback) :
    (select m o stages).Leads good := by
  induction stages with
  | nil => exact admits.pure _
  | cons stage rest ih =>
    have asked : (stage.handler.ask m o).Leads good :=
      admits.bind (admits.write trivial) fun _ => admits.pure _
    have provided : (stage.substitute.provide o.fault?).Leads good := by
      cases stage.substitute with
      | service number => exact admits.pure _
      | made make =>
        exact admits.bind (admits.write trivial) fun _ => Service.leads_enroll admits _
    refine admits.bind asked fun accepted => ?_
    cases accepted with
    | true => exact admits.bind provided fun _ => admits.pure _
    | false => exact ih

theorem leads_direct {reenter : Reentry → Act Reply} (within : ∀ call, (reenter call).Leads good)
    (stages : List BoundFallback) (h : call.LeadsOn good) :
    (direct r reenter stages call).LeadsOn good := by
  intro args
  refine admits.bind (h args) fun reply => ?_
  cases reply with
  | crashed text => exact admits.pure _
  | ended o =>
    refine admits.bind (leads_select admits r.method o stages) fun found => ?_
    cases found with
    | none => exact admits.pure _
    | some service => exact r.leads_direct admits within service args

theorem leads_follow (e : Errand) : (follow e : Act (Progress (Replacing W))).Leads good := by
  refine admits.bind (e.leads_poll admits) fun progress => ?_
  cases progress <;> exact admits.pure _

theorem leads_deferred (stages : List BoundFallback) (h : future.LeadsOn good) :
    (deferred r stages future).LeadsOn good where
  start args := by
    refine admits.bind (h.start args) fun started => ?_
    cases started <;> exact admits.pure _
  poll state := by
    cases state with
    | replaced e => exact leads_follow admits e
    | trying args m =>
      refine admits.bind (h.poll m) fun progress => ?_
      rcases progress with m | (o | text)
      · exact admits.pure _
      · refine admits.bind (leads_select admits r.method o stages) fun found => ?_
        cases found with
        | none => exact admits.pure _
        | some service =>
          refine admits.bind ((r.leads_deferred admits service).start args) fun started => ?_
          cases started with
          | error text => exact admits.pure _
          | ok e => exact leads_follow admits e
      · exact admits.pure _
  drop state := by
    cases state with
    | trying args m => exact h.drop m
    | replaced e => exact admits.pure _

end BoundFallback

namespace Layer

variable (r : Route) {l : Layer}

theorem leads_direct {reenter : Reentry → Act Reply} (within : ∀ call, (reenter call).Leads good)
    (delays : l.scheduler? ≠ none → World.Delays good) (h : call.LeadsOn good) :
    (l.direct r reenter call).LeadsOn good := by
  cases l with
  | exceptions mappers => exact Mapper.leads_direct admits mappers h
  | retry retry scheduler => exact retry.leads_direct admits h
  | limiter limiter scheduler => exact limiter.leads_direct admits h
  | breaker breaker => exact breaker.leads_direct admits h
  | fallback stages => exact BoundFallback.leads_direct admits r within stages h
  | bulkhead bulkhead scheduler => exact bulkhead.leads_direct admits delays h

theorem leads_deferred (delays : l.scheduler? ≠ none → World.Delays good) (h : future.LeadsOn good) :
    (l.deferred r future).LeadsOn good := by
  cases l with
  | exceptions mappers => exact Mapper.leads_deferred admits mappers h
  | retry retry scheduler => exact retry.leads_deferred admits delays h
  | limiter limiter scheduler => exact limiter.leads_deferred admits delays h
  | breaker breaker => exact breaker.leads_deferred admits h
  | fallback stages => exact BoundFallback.leads_deferred admits r stages h
  | bulkhead bulkhead scheduler => exact bulkhead.leads_deferred admits delays h

end Layer

namespace Chain

variable (r : Route) (service : Nat)

/-- **Direct calls** do nothing but what services call themselves and what layers do that have no
scheduler, if the relation does not go along with delays. -/
theorem leads_directThrough {reenter : Reentry → Act Reply}
    (within : ∀ call, (reenter call).Leads good) {layers : List Layer}
    (delays : ∀ l ∈ layers, l.scheduler? ≠ none → World.Delays good) :
    (directThrough r reenter service layers).LeadsOn good := by
  induction layers with
  | nil => exact r.leads_direct admits within service
  | cons l inner ih =>
    obtain ⟨own, others⟩ := List.forall_mem_cons.mp delays
    exact Layer.leads_direct admits r within own (ih others)

/-- **Deferred calls**, however far they have come. -/
theorem leads_deferredThrough {layers : List Layer}
    (delays : ∀ l ∈ layers, l.scheduler? ≠ none → World.Delays good) :
    (deferredThrough r service layers).LeadsOn good := by
  induction layers with
  | nil => exact r.leads_deferred admits service
  | cons l inner ih =>
    obtain ⟨own, others⟩ := List.forall_mem_cons.mp delays
    exact Layer.leads_deferred admits r own (ih others)

/-- Nested calls, whatever chains services enter. -/
theorem leads_callWithin (delays : World.Delays good) {enter : Reentry → Act (Except Reply Chain)}
    (entered : ∀ call, (enter call).Leads good) (depth : Nat) (c : Chain) :
    (callWithin enter depth c).LeadsOn good := by
  induction depth generalizing c with
  | zero =>
    exact leads_directThrough admits c.route c.service (fun _ => admits.pure _) fun _ _ _ => delays
  | succ depth ih =>
    refine leads_directThrough admits c.route c.service (fun call => ?_) fun _ _ _ => delays
    refine admits.bind (entered call) fun found => ?_
    cases found with
    | error reply => exact admits.pure _
    | ok inner => exact ih inner call.args

end Chain

namespace Deferred

/-- Waiting for a started call, however often it may wait itself. -/
theorem leads_awaitWithin (h : future.LeadsOn good) (n : Nat) (m : W) :
    (future.awaitWithin n m).Leads good := by
  induction n generalizing m with
  | zero => exact admits.pure _
  | succ n ih =>
    refine admits.bind (h.poll m) fun progress => ?_
    cases progress with
    | done reply => exact admits.pure _
    | waiting m =>
      dsimp only
      cases future.timer m with
      | none => exact admits.pure _
      | some timer => exact admits.bind (admits.outwait timer) fun _ => ih m

theorem leads_await (h : future.LeadsOn good) (args : Args) : (future.await args).Leads good := by
  refine admits.bind (h.start args) fun started => ?_
  cases started with
  | error text => exact admits.pure _
  | ok m => exact leads_awaitWithin admits h waitLimit m

end Deferred

/-- What is made for chains changes neither counters nor events. -/
theorem World.Admits.allows : World.Allows good where
  refl _ := admits.same rfl rfl
  trans := admits.trans
  written w e making := by
    refine admits.noted w ?_
    cases e <;> trivial
  counted _ _ := admits.same rfl rfl
  shared _ _ := admits.same rfl rfl
  enrolled _ _ := admits.same rfl rfl
  kept _ _ _ _ := admits.same rfl rfl

theorem Primitive.allowed_of_admits (k : Primitive) (context : Nat) :
    k.kind.Allowed good context where
  made name c w := by
    cases k with
    | retry | limiter | breaker => exact admits.same rfl rfl
    | bulkhead =>
      change good w ((Bulkhead.make name c).run.run w).2
      unfold Bulkhead.make
      split <;> exact admits.same rfl rfl
  kept _ _ _ := admits.same rfl rfl

/-- Building a chain, whatever comes of it. -/
theorem Proxy.leads_build_of_admits (p : Proxy) (r : Route) : (p.build r).Leads good := by
  have allows := admits.allows
  have sought (t : PolicyTable) (c : Capability) : (t.seek c r.method).Leads good := by
    refine Build.Leads.bind allows (.get allows) fun w => ?_
    have wrote : (Act.write (.policySought w.announcesPolicies c.name r.method.name)).Leads good :=
      admits.write trivial
    exact Build.Leads.bind allows wrote fun _ => .pure allows _
  exact leads_build allows sought fun q =>
    q.leads_resolve allows p.context r.method fun k _ _ => k.allowed_of_admits admits p.context

namespace Proxy

theorem leads_chain (number : Nat) (r : Route) : (chain number r).Leads good := by
  have allows := admits.allows
  have read : (liftM (Proxy.read number) : Build Proxy).Leads good := fun _ => admits.same rfl rfl
  refine Build.Leads.bind allows read fun p => ?_
  cases p.cache.find? r.method.key with
  | some c =>
    dsimp only
    split
    · exact .pure allows c
    · exact .throw allows _
  | none =>
    have kept (c : Chain) : (liftM (keep number r.method.key c) : Build Unit).Leads good :=
      fun _ => admits.same rfl rfl
    refine Build.Leads.bind allows (p.leads_build_of_admits admits r) fun c => ?_
    exact Build.Leads.bind allows (kept c) fun _ => .pure allows c

theorem leads_enter (call : Reentry) : (enter call).Leads good := by
  have read : (Proxy.read call.proxy).Leads good := fun _ => admits.same rfl rfl
  refine admits.bind read fun p => ?_
  cases p.interface.route? call.method with
  | none => exact admits.pure _
  | some r =>
    have found : (chain call.proxy r).run.Leads good := leads_chain admits call.proxy r
    refine admits.bind found fun result => ?_
    cases result <;> exact admits.pure _

theorem leads_run (delays : World.Delays good) (c : Chain) : Direct.LeadsOn good (run c) :=
  Chain.leads_callWithin admits delays (leads_enter admits) nestingLimit c

/-- A call of a method, to its end. -/
theorem leads_call (delays : World.Delays good) (number : Nat) (r : Route) (args : Args) :
    (Proxy.call number r args).Leads good := by
  have found : (chain number r).run.Leads good := leads_chain admits number r
  refine admits.bind found fun result => ?_
  cases result with
  | error halt => exact admits.pure _
  | ok c =>
    dsimp only
    cases c.route.method.shape with
    | direct => exact leads_run admits delays c args
    | deferred =>
      have future : c.deferred.LeadsOn good :=
        Chain.leads_deferredThrough admits c.route c.service fun _ _ _ => delays
      exact Deferred.leads_await admits future args

/-- The start of a call of a method, which a direct one runs to its end. -/
theorem leads_start (delays : World.Delays good) (number : Nat) (r : Route) (args : Args) :
    (start number r args).Leads good := by
  have found : (chain number r).run.Leads good := leads_chain admits number r
  refine admits.bind found fun result => ?_
  rcases result with (e | text) | c
  · exact admits.pure _
  · exact admits.pure _
  · dsimp only
    cases c.route.method.shape with
    | deferred =>
      have future : c.deferred.LeadsOn good :=
        Chain.leads_deferredThrough admits c.route c.service fun _ _ _ => delays
      refine admits.bind (future.start args) fun started => ?_
      cases started <;> exact admits.pure _
    | direct =>
      refine admits.bind (leads_run admits delays c args) fun reply => ?_
      cases reply <;> exact admits.pure _

end Proxy

namespace Ongoing

theorem leads_poll (delays : World.Delays good) (o : Ongoing) : o.poll.Leads good := by
  cases o with
  | ready reply => exact admits.pure _
  | running c m =>
    have future : c.deferred.LeadsOn good :=
      Chain.leads_deferredThrough admits c.route c.service fun _ _ _ => delays
    refine admits.bind (future.poll m) fun progress => ?_
    cases progress <;> exact admits.pure _

theorem leads_drop (delays : World.Delays good) (o : Ongoing) : o.drop.Leads good := by
  cases o with
  | ready reply => exact admits.pure _
  | running c m =>
    have future : c.deferred.LeadsOn good :=
      Chain.leads_deferredThrough admits c.route c.service fun _ _ _ => delays
    exact future.drop m

end Ongoing

end CallGuard
