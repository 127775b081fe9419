import CallGuard.Catalog.Methods
import CallGuard.Proofs.Parity.Layers
import CallGuard.Proofs.Retry.Course

/-!
# Retried calls run their course

A direct retried call and a deferred one make the same attempts and come to the same ends. Main
statement: `Retry.runs_course`.
-/

namespace CallGuard

namespace Deferred

variable {W V : Type} {call : Deferred W} {outer : Deferred V}

/-- From how far a call has come to its reply: as long as it waits it is polled again, at any later
time and whatever else has happened until then. -/
inductive Goes (call : Deferred W) : Progress W × World → Reply × World → Prop where
  | done (reply : Reply) (w : World) : Goes call (.done reply, w) (reply, w)
  | wait {m : W} {w later : World} {last : Reply × World} (after : w.now ≤ later.now)
      (rest : Goes call ((call.poll m).run later) last) : Goes call (.waiting m, w) last

/-- The call is started, polled until it has its reply, and that is an outcome. -/
def Ends (call : Deferred W) (args : Args) (w : World) (o : Outcome) (v : World) : Prop :=
  ∃ m u, (call.start args).run w = (.ok m, u) ∧ call.Goes (.waiting m, u) (.ended o, v)

/-- The call is started and polled at once, and then goes to an outcome. -/
def Opens (call : Deferred W) (args : Args) (w : World) (o : Outcome) (v : World) : Prop :=
  call.Goes ((call.opening args).run w) (.ended o, v)

theorem goes_done_iff {reply : Reply} {w : World} {last : Reply × World} :
    call.Goes (.done reply, w) last ↔ last = (reply, w) := by
  constructor
  · rintro ⟨⟩
    rfl
  · rintro rfl
    exact .done reply w

theorem goes_waiting_iff {m : W} {w : World} {last : Reply × World} :
    call.Goes (.waiting m, w) last ↔
      ∃ later : World, w.now ≤ later.now ∧ call.Goes ((call.poll m).run later) last := by
  constructor
  · rintro (_ | ⟨after, rest⟩)
    exact ⟨_, after, rest⟩
  · rintro ⟨later, after, rest⟩
    exact .wait after rest

/-- The outer call goes on from where the inner one has gone to. -/
theorem Wraps.goes_iff {inner : Deferred W} {wrap : W → V}
    {onward : Progress W → Act (Progress V)} (wraps : outer.Wraps inner wrap onward)
    {progress : Progress W × World} {last : Reply × World} :
    outer.Goes ((onward progress.1).run progress.2) last ↔
      ∃ reply u, inner.Goes progress (reply, u) ∧
        outer.Goes ((onward (.done reply)).run u) last := by
  have poll : ∀ m later, (outer.poll (wrap m)).run later =
      (onward ((inner.poll m).run later).1).run ((inner.poll m).run later).2 := by
    intro m later
    rw [wraps.polls, Act.run_bind]
  constructor
  · intro goes
    generalize start : (onward progress.1).run progress.2 = begun at goes
    induction goes generalizing progress with
    | done reply w =>
      obtain ⟨m | reply', u⟩ := progress
      · rw [wraps.waits] at start
        cases start
      · refine ⟨reply', u, .done reply' u, ?_⟩
        rw [start]
        exact .done reply w
    | wait after rest ih =>
      obtain ⟨m | reply', u⟩ := progress
      · rw [wraps.waits] at start
        cases start
        obtain ⟨reply, t, ended, onto⟩ := ih (poll m _).symm
        exact ⟨reply, t, .wait after ended, onto⟩
      · refine ⟨reply', u, .done reply' u, ?_⟩
        rw [start]
        exact .wait after rest
  · rintro ⟨reply, u, ended, onto⟩
    generalize inside : (reply, u) = final at ended
    induction ended with
    | done reply' w =>
      cases inside
      exact onto
    | @wait m w later _ after _ ih =>
      rw [wraps.waits]
      refine .wait after ?_
      rw [poll]
      exact ih inside

/-- An outer call that goes on after an outcome only. -/
theorem Wraps.goes_ended_iff {inner : Deferred W} {wrap : W → V}
    {onward : Progress W → Act (Progress V)} (wraps : outer.Wraps inner wrap onward)
    (relays : ∀ text, onward (.done (.crashed text)) = pure (.done (.crashed text)))
    {progress : Progress W × World} {o : Outcome} {v : World} :
    outer.Goes ((onward progress.1).run progress.2) (.ended o, v) ↔
      ∃ last u, inner.Goes progress (.ended last, u) ∧
        outer.Goes ((onward (.done (.ended last))).run u) (.ended o, v) := by
  rw [wraps.goes_iff]
  constructor
  · rintro ⟨last | text, u, ended, onto⟩
    · exact ⟨last, u, ended, onto⟩
    · rw [relays, Act.run_pure, goes_done_iff] at onto
      cases onto
  · rintro ⟨last, u, ended, onto⟩
    exact ⟨.ended last, u, ended, onto⟩

end Deferred

namespace Retry

variable {W : Type} (r : Retry) (scheduler : Option Scheduler)

/-- A direct call sleeps as long as it has announced. -/
def Sleeps (attempts : Nat) (w v : World) : Prop :=
  v = (r.announced attempts w).pass (r.config.interval.wait attempts)

theorem exists_sleeps (attempts : Nat) (w : World) : ∃ v, r.Sleeps attempts w v := ⟨_, rfl⟩

/-- A deferred call goes on at once without a scheduler. On one it asks for a delay as long as it has
announced, and goes on when it finds that this is over. -/
def Rests (attempts : Nat) (w v : World) : Prop :=
  let wait := r.config.interval.wait attempts
  match scheduler with
  | none => v = r.announced attempts w
  | some s =>
    let asked := (r.announced attempts w).append [.delayAsked wait]
    let timer := Timer.start s (asked.clock s) wait
    if timer.isOver asked.clock then v = asked
    else asked.now ≤ v.now ∧ timer.isOver v.clock

/-- The clock of the scheduler has moved on by the wait after a rest. -/
theorem Rests.le_clock {s : Scheduler} {attempts : Nat} {w v : World}
    (rests : r.Rests (some s) attempts w v) :
    w.clock s + r.config.interval.wait attempts ≤ v.clock s := by
  unfold Rests at rests
  dsimp only at rests
  by_cases none : r.config.interval.wait attempts = 0
  · rw [none] at rests ⊢
    rw [if_pos (by rfl)] at rests
    rw [rests]
    exact Nat.le_refl _
  · split at rests
    next rung =>
      rw [rests]
      exact Timer.le_of_isOver none rung
    next => exact Timer.le_of_isOver none rests.2

/-- Every rest can be waited out. -/
theorem exists_rests (attempts : Nat) (w : World) : ∃ v, r.Rests scheduler attempts w v := by
  cases scheduler with
  | none => exact ⟨_, rfl⟩
  | some s =>
    unfold Rests
    dsimp only
    split
    next => exact ⟨_, rfl⟩
    next => exact ⟨_, World.now_le_outwait _ _, World.isOver_outwait _ _⟩

variable {r} {scheduler} {future : Deferred W} {call : Direct} {args : Args} {w v : World}
  {o : Outcome}

/-- The act ends with an outcome, which the direct call ends with. -/
theorem run_ended_iff {act : Act Outcome} :
    (act >>= fun o => pure (Reply.ended o)).run w = (.ended o, v) ↔ act.run w = (o, v) := by
  rw [Act.run_bind, Act.run_pure]
  obtain ⟨o', v'⟩ := act.run w
  constructor <;> rintro ⟨⟩ <;> rfl

variable (r call args) in
/-- What a direct call makes of the reply of an attempt with so many attempts left after it. -/
def afterwards (left : Nat) : Reply → Act Reply
  | .crashed text => return .crashed text
  | .ended o => do
    let attempts := r.config.maxAttempts - left
    if r.config.retries o then
      match left with
      | 0 => return .ended (← r.exhaust attempts o)
      | left + 1 =>
        Act.sleep (← r.again attempts)
        r.attempt call args left
    else return .ended (← r.accept attempts o)

theorem attempt_eq (left : Nat) :
    r.attempt call args left = call args >>= r.afterwards call args left := by
  cases left with
  | zero => rw [attempt]; rfl
  | succ left => rw [attempt]; rfl

/-- A direct call that goes on after an outcome only. -/
theorem run_bind_ended_iff {act : Act Reply} (next : Reply → Act Reply)
    (relays : ∀ text, next (.crashed text) = pure (.crashed text)) :
    (act >>= next).run w = (.ended o, v) ↔
      ∃ last u, act.run w = (.ended last, u) ∧ (next (.ended last)).run u = (.ended o, v) := by
  rw [Act.run_bind]
  obtain ⟨last | text, u⟩ := act.run w
  · constructor
    · exact fun rest => ⟨last, u, rfl, rest⟩
    · rintro ⟨_, _, ⟨⟩, rest⟩
      exact rest
  · constructor
    · intro ran
      rw [relays] at ran
      cases ran
    · rintro ⟨_, _, ⟨⟩, _⟩

/-- What the direct call does from an attempt on, by how many attempts are left after it. -/
theorem run_attempt_iff (left : Nat) (bound : left < r.config.maxAttempts) :
    (r.attempt call args left).run w = (.ended o, v) ↔
      r.Proceeds (fun w o v => (call args).run w = (.ended o, v)) r.Sleeps
        (r.config.maxAttempts - left) w o v := by
  induction left generalizing w with
  | zero =>
    rw [proceeds_iff, attempt_eq, run_bind_ended_iff (r.afterwards call args 0) fun _ => rfl]
    refine exists_congr fun last => exists_congr fun u => and_congr_right fun _ => ?_
    rw [Settles, if_neg (by simp), afterwards]
    by_cases retried : r.config.Retried last
    · simp only [if_pos (RetryConfig.retries_iff.mpr retried)]
      rw [run_ended_iff, run_exhaust_iff retried]
    · simp only [if_neg (mt RetryConfig.retries_iff.mp retried)]
      rw [run_ended_iff, run_accept_iff retried]
  | succ left ih =>
    have further : r.config.maxAttempts - (left + 1) + 1 = r.config.maxAttempts - left := by omega
    rw [proceeds_iff, attempt_eq,
      run_bind_ended_iff (r.afterwards call args (left + 1)) fun _ => rfl]
    refine exists_congr fun last => exists_congr fun u => and_congr_right fun _ => ?_
    rw [Settles, afterwards]
    by_cases retried : r.config.Retried last
    · simp only [if_pos (RetryConfig.retries_iff.mpr retried)]
      rw [if_pos ⟨retried, by omega⟩, Act.run_bind, run_again, Act.run_bind, Act.run_sleep,
        ih (by omega), further]
      exact (exists_eq_left (p := fun t => r.Proceeds _ _ _ t o v)).symm
    · simp only [if_neg (mt RetryConfig.retries_iff.mp retried)]
      rw [run_ended_iff, run_accept_iff retried, if_neg (fun again => retried again.1)]

/-- A call that rests goes on when its time has come. -/
theorem goes_resting_iff {left : Nat} {timer : Timer} {last : Reply × World} :
    (r.deferred scheduler future).Goes
      (((r.deferred scheduler future).poll (.resting args left timer)).run w) last ↔
      ∃ t, (if timer.isOver w.clock then t = w else w.now ≤ t.now ∧ timer.isOver t.clock) ∧
        (r.deferred scheduler future).Goes ((r.launch scheduler future args left).run t) last := by
  by_cases rung : timer.isOver w.clock
  · simp only [run_poll_resting, if_pos rung, exists_eq_left]
  · simp only [run_poll_resting, if_neg rung]
    constructor
    · intro goes
      generalize start : ((Progress.waiting (.resting args left timer), w) :
        Progress (Retrying W) × World) = begun at goes
      induction goes generalizing w with
      | done reply t => cases start
      | @wait m u later last after rest ih =>
        cases start
        by_cases rings : timer.isOver later.clock
        · rw [run_poll_resting, if_pos rings] at rest
          exact ⟨later, ⟨after, rings⟩, rest⟩
        · obtain ⟨t, ⟨sooner, rings⟩, goes⟩ := ih rings (by rw [run_poll_resting, if_neg rings])
          exact ⟨t, ⟨Nat.le_trans after sooner, rings⟩, goes⟩
    · rintro ⟨t, ⟨after, rings⟩, goes⟩
      refine .wait after ?_
      rw [run_poll_resting, if_pos rings]
      exact goes

/-- A call that has been announced to go on rests as its scheduler says. -/
theorem goes_rest_iff {left attempts : Nat} {last : Reply × World} :
    (r.deferred scheduler future).Goes
        ((rest scheduler (r.config.interval.wait attempts) >>= fun timer =>
          (r.deferred scheduler future).poll (.resting args left timer)).run
            (r.announced attempts w)) last ↔
      ∃ t, r.Rests scheduler attempts w t ∧
        (r.deferred scheduler future).Goes ((r.launch scheduler future args left).run t) last := by
  cases scheduler with
  | none =>
    rw [rest, Act.run_bind, Act.run_pure, goes_resting_iff]
    exact exists_congr fun t => and_congr_left fun _ => Iff.rfl
  | some s =>
    rw [rest, Act.run_bind, Act.run_delay, goes_resting_iff]
    exact exists_congr fun t => and_congr_left fun _ => Iff.rfl

/-- A deferred call that goes on after an outcome only. -/
theorem goes_ended_iff {act : Act Outcome} :
    (r.deferred scheduler future).Goes
        ((act >>= fun o => pure (Progress.done (.ended o))).run w) (.ended o, v) ↔
      act.run w = (o, v) := by
  rw [Act.run_bind, Act.run_pure, Deferred.goes_done_iff]
  obtain ⟨o', v'⟩ := act.run w
  constructor <;> rintro ⟨⟩ <;> rfl

/-- What the deferred call does from an attempt on, by how many attempts are left after it. -/
theorem goes_launch_iff (left : Nat) (bound : left < r.config.maxAttempts) :
    (r.deferred scheduler future).Goes ((r.launch scheduler future args left).run w)
        (.ended o, v) ↔
      r.Proceeds (future.Opens args) (r.Rests scheduler) (r.config.maxAttempts - left) w o v := by
  induction left generalizing w with
  | zero =>
    rw [proceeds_iff, launch_eq, Act.run_bind,
      (r.wraps scheduler future args 0).goes_ended_iff fun _ => rfl]
    refine exists_congr fun last => exists_congr fun u => and_congr_right fun _ => ?_
    rw [Settles, if_neg (by simp), onward]
    by_cases retried : r.config.Retried last
    · simp only [if_pos (RetryConfig.retries_iff.mpr retried)]
      rw [goes_ended_iff, run_exhaust_iff retried]
    · simp only [if_neg (mt RetryConfig.retries_iff.mp retried)]
      rw [goes_ended_iff, run_accept_iff retried]
  | succ left ih =>
    have further : r.config.maxAttempts - (left + 1) + 1 = r.config.maxAttempts - left := by omega
    rw [proceeds_iff, launch_eq, Act.run_bind,
      (r.wraps scheduler future args (left + 1)).goes_ended_iff fun _ => rfl]
    refine exists_congr fun last => exists_congr fun u => and_congr_right fun _ => ?_
    rw [Settles, onward]
    by_cases retried : r.config.Retried last
    · simp only [if_pos (RetryConfig.retries_iff.mpr retried)]
      rw [if_pos ⟨retried, by omega⟩, Act.run_bind, run_again, goes_rest_iff, further]
      exact exists_congr fun t => and_congr_right fun _ => ih (by omega)
    · simp only [if_neg (mt RetryConfig.retries_iff.mp retried)]
      rw [goes_ended_iff, run_accept_iff retried, if_neg (fun again => retried again.1)]

/-- A retried call, direct or deferred, makes as many attempts with its arguments as it takes until
an outcome is not retried or no more are allowed, announces each further one and waits for it as long
as it has announced, and ends as the last attempt says. It comes to its end if the attempts do, and
no attempt is made before its wait is over on the clock of the scheduler. -/
theorem runs_course (r : Retry) (scheduler : Option Scheduler) (call : Direct) (future : Deferred W)
    (args : Args) (w : World) :
    (∀ o v, (r.direct call args).run w = (.ended o, v) ↔
      r.Decides (fun w o v => (call args).run w = (.ended o, v)) r.Sleeps w o v) ∧
    ((∀ w, ∃ o v, (call args).run w = (.ended o, v)) →
      ∃ o v, (r.direct call args).run w = (.ended o, v)) ∧
    (∀ o v, (r.deferred scheduler future).Ends args w o v ↔
      ∃ polled : World, w.now ≤ polled.now ∧
        r.Decides (future.Opens args) (r.Rests scheduler) polled o v) ∧
    ((∀ w, ∃ o v, future.Opens args w o v) →
      ∃ o v, (r.deferred scheduler future).Ends args w o v) ∧
    ∀ s attempts w v, r.Rests (some s) attempts w v →
      w.clock s + r.config.interval.wait attempts ≤ v.clock s := by
  have bound : r.config.maxAttempts - 1 < r.config.maxAttempts :=
    Nat.sub_lt r.config.maxAttempts_pos Nat.one_pos
  have first : r.config.maxAttempts - (r.config.maxAttempts - 1) = 1 := by
    have := r.config.maxAttempts_pos
    omega
  have direct : ∀ o v, (r.direct call args).run w = (.ended o, v) ↔
      r.Decides (fun w o v => (call args).run w = (.ended o, v)) r.Sleeps w o v := by
    intro o v
    rw [decides_iff, ← first]
    exact run_attempt_iff _ bound
  have deferred : ∀ o v, (r.deferred scheduler future).Ends args w o v ↔
      ∃ polled : World, w.now ≤ polled.now ∧
        r.Decides (future.Opens args) (r.Rests scheduler) polled o v := by
    intro o v
    have polled : ∀ polled : World,
        (r.deferred scheduler future).Goes
          (((r.deferred scheduler future).poll (.fresh args)).run polled) (.ended o, v) ↔
        r.Decides (future.Opens args) (r.Rests scheduler) polled o v := by
      intro polled
      rw [decides_iff, ← first]
      exact goes_launch_iff _ bound
    simp only [← polled, ← Deferred.goes_waiting_iff]
    constructor
    · rintro ⟨m, u, started, goes⟩
      cases started
      exact goes
    · exact fun goes => ⟨.fresh args, w, rfl, goes⟩
  refine ⟨direct, fun ends => ?_, deferred, fun ends => ?_, fun _ _ _ _ => Rests.le_clock r⟩
  · obtain ⟨o, v, decides⟩ := exists_decides ends r.exists_sleeps w
    exact ⟨o, v, (direct o v).mpr decides⟩
  · obtain ⟨o, v, decides⟩ := exists_decides ends (r.exists_rests scheduler) w
    exact ⟨o, v, (deferred o v).mpr ⟨w, Nat.le_refl _, decides⟩⟩

/-- Three attempts, two milliseconds apart, on every fault and on zero, which is no result either. -/
def stubborn : Retry where
  name := "retry"
  config := { RetryConfig.standard with
    interval := .fixed (Nanos.ofMillis 2)
    valueFilter := some (· = .int 0)
    failsWhenExhausted := true }

/-- The service gives a zero, fails, and gives zeros from then on. -/
def barren : World :=
  { World.empty with
    services := #[⟨"first", [.ofEnding (.value (.int 0)), .ofEnding (.fault (.io "closed")),
      .ofEnding (.value (.int 0))], 0⟩] }

def inquiry : Direct := Catalog.get.direct (fun _ => pure (.crashed "")) 0

/-- Values and faults count alike: the third attempt is the last one. -/
theorem runs_course_stubborn :
    ∃ v, (stubborn.direct inquiry ⟨"key", 0⟩).run barren =
        (.ended (.fault (.maxRetriesExceeded "retry" 3)), v) ∧
      v.now = Nanos.ofMillis 4 ∧
      stubborn.Decides (fun w o v => (inquiry ⟨"key", 0⟩).run w = (.ended o, v)) stubborn.Sleeps
        barren (.fault (.maxRetriesExceeded "retry" 3)) v := by
  obtain ⟨direct, -⟩ :=
    runs_course stubborn none inquiry (Catalog.get.deferred 0) ⟨"key", 0⟩ barren
  have told : ((stubborn.direct inquiry ⟨"key", 0⟩).run barren).1 =
      .ended (.fault (.maxRetriesExceeded "retry" 3)) := by decide +kernel
  have slept : ((stubborn.direct inquiry ⟨"key", 0⟩).run barren).2.now = Nanos.ofMillis 4 := by
    decide +kernel
  exact ⟨_, Prod.ext told rfl, slept, (direct _ _).mp (Prod.ext told rfl)⟩

end Retry

end CallGuard
