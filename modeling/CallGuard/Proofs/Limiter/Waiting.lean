import CallGuard.Proofs.Acts
import CallGuard.Session.Solo

/-!
# When rate-limited calls begin

A permission of a later cycle is valid only after a wait. A direct call begins what it guards after
the wait, a deferred one before it: there the wait holds back the polls alone. Main statements:
`begins_when_valid_iff` says when each begins, and in `deferred_begins_early` a deferred call reaches
its service in a cycle that has no permission left.
-/

namespace CallGuard

namespace Timer

/-- A timer has not rung while the wait lasts on the clock of its scheduler. -/
theorem isOver_early {s : Scheduler} {now length : Nanos} {clock : Scheduler → Nanos}
    (wait : length ≠ 0) (early : clock s < now + length) :
    (start s now length).isOver clock = false := by
  refine Bool.eq_false_iff.mpr fun rung => ?_
  exact Nat.not_le_of_lt early (le_of_isOver wait rung)

end Timer

namespace Limiter

variable {l : Limiter} {w v : World} {wait timeout : Nanos} {args : Args}

/-- A request for a permission takes no time. -/
theorem now_reserve (l : Limiter) (w : World) (timeout : Nanos) :
    ((l.reserve timeout).run w).2.now = w.now := by
  simp only [reserve, Act.run_bind, Act.run_get, Act.run_modify]
  cases ((l.balance w).reserve w.now timeout).1 with
  | granted wait => simp only [Act.run_bind, emit, Act.run_emit, Act.run_pure, World.append]
  | refused needed =>
    simp only [Act.run_bind, emit, Act.run_emit, Act.run_raise, Act.run_pure, World.append,
      World.raise]

theorem now_of_reserve {answer : Except Fault Nanos}
    (h : (l.reserve timeout).run w = (answer, v)) : v.now = w.now := by
  have kept := now_reserve l w timeout
  rwa [h] at kept

theorem direct_granted (granted : (l.reserve l.config.timeout).run w = (.ok wait, v))
    (call : Direct) : (l.direct call args).run w = (call args).run (v.pass wait) := by
  rw [direct, Act.run_bind_of granted]
  rfl

variable {W : Type}

/-- What a deferred call remembers once the call that it guards has been started. -/
def arrange (scheduler : Option Scheduler) (wait : Nanos) :
    Except String W → Act (Except String (Limited W))
  | .error text => return .error text
  | .ok m =>
    match scheduler, wait with
    | some s, wait + 1 => return .ok (.waiting (← Act.delay s (wait + 1)) m)
    | _, _ => return .ok (.running m)

theorem start_granted {scheduler : Option Scheduler}
    (granted : (l.reserve (l.patience scheduler)).run w = (.ok wait, v)) (call : Deferred W) :
    ((l.deferred scheduler call).start args).run w =
      (call.start args >>= arrange scheduler wait).run v := by
  simp only [deferred, Act.run_bind_of granted, Act.run_bind]
  cases (call.start args |>.run v).1 <;> rfl

/-- Before the timer rings a poll does not reach the guarded call. -/
theorem poll_waiting {scheduler : Option Scheduler} {timer : Timer}
    (early : timer.isOver w.clock = false) (call : Deferred W) (m : W) :
    ((l.deferred scheduler call).poll (.waiting timer m)).run w =
      (.waiting (.waiting timer m), w) := by
  simp only [deferred, Act.run_bind, Act.run_isOver, early]
  rfl

/-- **When guarded calls begin.** Take a request that is granted with a wait. A direct call begins
the call that it guards just when the wait is over. A deferred one begins it at the time of the
request, which is before the permission is valid unless there is no wait. Only the polls of what has
begun are held back until then. -/
theorem begins_when_valid_iff (l : Limiter) {w v : World} {wait : Nanos} (args : Args) :
    ((l.reserve l.config.timeout).run w = (.ok wait, v) →
      ∃ u, u.now = w.now + wait ∧
        ∀ call : Direct, (l.direct call args).run w = (call args).run u) ∧
    ∀ (scheduler : Option Scheduler) (W : Type),
      (l.reserve (l.patience scheduler)).run w = (.ok wait, v) →
      ∃ u, u.now = w.now ∧ (w.now + wait ≤ u.now ↔ wait = 0) ∧
        ∀ call : Deferred W,
          ((l.deferred scheduler call).start args).run w =
            (call.start args >>= arrange scheduler wait).run u ∧
          ∀ m x s, (call.start args).run u = (.ok m, x) → scheduler = some s →
            w.clock s ≤ x.clock s → ∀ z, w.clock s ≤ z.clock s → z.clock s < w.clock s + wait →
            ∃ timer y, (arrange scheduler wait (.ok m)).run x = (.ok (.waiting timer m), y) ∧
              ((l.deferred scheduler call).poll (.waiting timer m)).run z =
                (.waiting (.waiting timer m), z) := by
  refine ⟨fun granted => ⟨v.pass wait, ?_, direct_granted granted⟩, ?_⟩
  · have kept := now_of_reserve granted
    exact congrArg (· + wait) kept
  · intro scheduler W granted
    have kept := now_of_reserve granted
    have valid : w.now + wait ≤ v.now ↔ wait = 0 := by
      rw [kept]
      constructor
      · intro early
        exact Nat.eq_zero_of_le_zero (Nat.le_of_add_le_add_left early)
      · rintro rfl
        exact Nat.le_refl _
    refine ⟨v, kept, valid, fun call => ⟨start_granted granted call, ?_⟩⟩
    rintro m x s _ rfl forward z since early
    have later : z.clock s < x.clock s + wait :=
      Nat.lt_of_lt_of_le early (Nat.add_le_add_right forward wait)
    obtain ⟨wait, rfl⟩ : ∃ n, wait = n + 1 := by
      cases wait with
      | zero => exact absurd early (Nat.not_lt_of_le since)
      | succ n => exact ⟨n, rfl⟩
    refine ⟨Timer.start s (x.clock s) (wait + 1), x.append [.delayAsked (wait + 1)], ?_, ?_⟩
    · simp only [arrange, Act.run_bind, Act.run_delay, Act.run_pure]
    · exact poll_waiting (Timer.isOver_early (Nat.succ_ne_zero wait) later) call m

/-- A limiter with one permission in a tenth of a second, for which calls wait as long. -/
def sparing : Limiter :=
  ⟨"sparing", .ofSettings [.limit 1, .period (Nanos.ofMillis 100), .timeout (Nanos.ofMillis 100)], 0⟩

/-- The permission of the first cycle has been taken. -/
def depleted : World :=
  { World.empty with
    balances := #[{ Balance.ofLimit 1 (Nanos.ofMillis 100) 0 with permissions := 0 }]
    services := #[⟨"target", [], 0⟩] }

theorem reserve_depleted : ∃ v,
    (sparing.reserve sparing.config.timeout).run depleted = (.ok (Nanos.ofMillis 100), v) :=
  ⟨_, rfl⟩

/-- A direct call on the limiter begins after a tenth of a second, a deferred one at once. -/
theorem begins_when_valid_iff_depleted :
    (∃ u : World, u.now = Nanos.ofMillis 100 ∧
      ∀ call : Direct, (sparing.direct call ⟨"", 2⟩).run depleted = (call ⟨"", 2⟩).run u) ∧
    ∃ u : World, u.now = 0 ∧ ¬ Nanos.ofMillis 100 ≤ u.now ∧ ∀ call : Deferred Errand,
      ((sparing.deferred (some .shared) call).start ⟨"", 2⟩).run depleted =
        (call.start ⟨"", 2⟩ >>= arrange (some .shared) (Nanos.ofMillis 100)).run u := by
  obtain ⟨v, granted⟩ := reserve_depleted
  have start : depleted.now = 0 := rfl
  have both := @begins_when_valid_iff sparing depleted v (Nanos.ofMillis 100) ⟨"", 2⟩
  rw [start, Nat.zero_add] at both
  obtain ⟨direct, deferred⟩ := both
  obtain ⟨u, now, valid, begins⟩ := deferred (some .shared) Errand granted
  refine ⟨direct granted, u, now, fun early => ?_, fun call => (begins call).1⟩
  exact absurd (valid.mp early) (by decide)

/-- The permission is valid only after a tenth of a second, and the service is called at once. -/
theorem deferred_begins_early :
    ((sparing.reserve sparing.config.timeout).run depleted).1 = .ok (Nanos.ofMillis 100) ∧
    let calls := (((Guard.limiter sparing).start (some .shared) 2).run depleted).2.history
    .called 0 0 "target" "call" ⟨"", 2⟩ ∈ calls ∧ 0 < depleted.now + Nanos.ofMillis 100 := by
  obtain ⟨v, granted⟩ := reserve_depleted
  refine ⟨by rw [granted], ?_, by decide⟩
  decide +kernel

end Limiter

end CallGuard
