import CallGuard.Proofs.Breaker.Interleaving
import CallGuard.Service.Call

/-!
# Permits of a half-open circuit

The permits that are out are those of the trial calls on their way and of the trial calls that have
ended, so a half-open circuit never runs out of permits while it waits for nobody. Main statement:
`permits_account`, which says so of all traffic and that the calls of both shapes make such traffic.
-/

namespace CallGuard

namespace Trial

variable {config : BreakerConfig} {c : Circuit} {period : Nat} {calls : List Passage}

/-- Trial calls that have ended are among the outcomes. -/
theorem served_le (h : Trial config c period calls) (sound : ∀ call ∈ calls, call.Sound period) :
    calls.countP (Passage.servedOf period) ≤ c.trials.length := by
  rw [h.outcomes.length_eq, List.length_filterMap_eq_countP]
  refine List.countP_mono_left fun call mem served => ?_
  simp only [Passage.servedOf, Bool.and_eq_true, decide_eq_true_eq] at served
  obtain ⟨here, done⟩ := served
  cases fate : call.fate with
  | underway | lost =>
    rw [fate] at done
    cases done
  | ended failed ending =>
    obtain ⟨begun, ended⟩ := (sound call mem).ended failed ending fate
    have now : ending = period := by omega
    simp [Passage.outcomeIn, fate, now]

/-- When no trial call is on its way, there is a permit left. -/
theorem free (h : Trial config c period calls) (sound : ∀ call ∈ calls, call.Sound period)
    (few : period < Circuit.epochs) (idle : calls.countP (Passage.runsOf period) = 0) :
    c.permits < config.trialCalls := by
  have permits := h.permits few
  have served := h.served_le sound
  have undecided := h.undecided
  omega

end Trial

namespace Breaker

variable {b : Breaker} {s : Traffic}

theorem acquire_free {w : World} (half : (b.circuit w).state = .halfOpen)
    (free : (b.circuit w).permits < b.config.trialCalls) :
    (b.acquire.run w).1 = .ok (some (b.circuit w).epoch) := by
  rw [acquire_granted (Circuit.acquire_trial half free)]

/-- **Permits account for the trial calls.** However the calls through a breaker overlap, and
however often it is moved by hand: while it is half-open, as many permits are out as calls let
through in this period are on their way or have ended, and never more than there are trial calls.
What a call of an earlier period hands back changes nothing. A call that ends has exactly its own
outcome recorded, any other none. And when no call let through in this period is on its way, the
next request is granted. Calls of both shapes go through the breaker by the steps of such traffic, and
what each of them does to it becomes of this call alone. -/
theorem permits_account (h : b.Reachable s) (few : s.period < Circuit.epochs) :
    ((b.circuit s.world).state = .halfOpen →
      (b.circuit s.world).permits =
        s.calls.countP (Passage.runsOf s.period) + s.calls.countP (Passage.servedOf s.period) ∧
      (b.circuit s.world).permits ≤ b.config.trialCalls ∧
      (s.calls.countP (Passage.runsOf s.period) = 0 →
        ∃ permit, (b.acquire.run s.world).1 = .ok (some permit))) ∧
    (∀ call ∈ s.calls, call.period < s.period →
      b.circuit ((b.abandon call.permit).run s.world).2 = b.circuit s.world) ∧
    (∀ call ∈ s.calls,
      call.reports.filterMap Entry.recorded? = call.fate.outcome?.toList) ∧
    (∀ call args, b.Passes s call args) ∧
    ∀ {W : Type} (call : Deferred W), b.PassesDeferred s call := by
  obtain ⟨c, made, books⟩ := kept_of_reachable h
  have circuit := circuit_of made
  refine ⟨fun half => ?_, fun call mem earlier => ?_, fun call mem => ?_, passes_direct b s,
    passes_deferred b s⟩
  · rw [circuit] at half ⊢
    have trial := books.trial half
    refine ⟨trial.permits few, trial.within, fun idle => ⟨c.epoch, ?_⟩⟩
    rw [← circuit] at half ⊢
    exact acquire_free half (circuit ▸ trial.free books.sound few idle)
  · have left := leaves_abandon made call.permit
    rw [circuit_of left.circuit, circuit, Circuit.handBack_eq, if_neg]
    rintro ⟨half, permit⟩
    have now := (books.permit_iff half mem few).mp permit
    omega
  · exact (books.sound call mem).recorded

/-- A breaker with one trial call, for which it does not wait. -/
def hasty : Breaker := ⟨"hasty", .ofSettings [.openWait 0, .trialCalls 1], 0⟩

/-- A call is under way, and the circuit has been opened by hand. -/
def overtaken : Traffic :=
  let new : Traffic := ⟨{ World.empty with circuits := #[.fresh] }, 0, []⟩
  let s := hasty.letThrough new none (hasty.acquire.run new.world).2
  hasty.next s ((hasty.force .opened).run s.world).2 s.calls

/-- A second call is the trial call, and the first is still under way. -/
def overlapping : Traffic :=
  hasty.letThrough overtaken (some 2) (hasty.acquire.run overtaken.world).2

theorem reachable_overlapping : hasty.Reachable overlapping := by
  have new : hasty.Reachable ⟨{ World.empty with circuits := #[.fresh] }, 0, []⟩ := .start rfl
  have opened : hasty.Reachable overtaken :=
    .next (.next new (.grant rfl)) (.force .opened (by decide) rfl)
  exact .next opened (.grant rfl)

/-- The trial call has the one permit, and the call from before the circuit opened has none. A third
call is refused, whatever it would have done; and if the trial call is one to a service and is dropped,
this becomes of it and of no other call. -/
theorem permits_account_overlapping :
    overlapping.period < Circuit.epochs ∧ (hasty.circuit overlapping.world).permits = 1 ∧
      overlapping.calls.countP (Passage.runsOf overlapping.period) = 1 ∧
      overlapping.calls.countP (Passage.servedOf overlapping.period) = 0 ∧
      (∀ call args, ((hasty.direct call args).run overlapping.world).1 =
        .refusal (.callNotPermitted "hasty" .halfOpen)) ∧
      ∀ (r : Route) (service : Nat) (memory : Errand), ∃ u t, hasty.Reachable t ∧
        hasty.Befalls 1 .lost u t ∧ u.calls = overlapping.calls ∧
        ((hasty.deferred (r.deferred service)).drop (.running (some 2) memory)).run
          overlapping.world = ((), t.world) := by
  have few : overlapping.period < Circuit.epochs := by decide
  obtain ⟨half, -, -, direct, deferred⟩ := permits_account reachable_overlapping few
  obtain ⟨permits, -, -⟩ := half (by decide)
  have runs : overlapping.calls.countP (Passage.runsOf overlapping.period) = 1 := by decide
  have served : overlapping.calls.countP (Passage.servedOf overlapping.period) = 0 := by decide
  rw [runs, served] at permits
  refine ⟨few, permits, runs, served, fun call args => ?_, fun r service memory => ?_⟩
  · obtain ⟨-, refused⟩ := (direct call args).refused (e := .callNotPermitted "hasty" .halfOpen) rfl
    rw [refused]
  · have kept : (((r.deferred service).drop memory).run overlapping.world).2.circuits[hasty.cell]? =
        overlapping.world.circuits[hasty.cell]? := rfl
    have inside := Inside.elsewhere kept 1
    obtain ⟨t, lost, dropped⟩ := (deferred (r.deferred service)).dropped (n := 1) rfl rfl inside
    exact ⟨_, t, reachable_overlapping.path (inside.path.tail lost.step), lost, rfl, dropped⟩

end Breaker

end CallGuard
