import CallGuard.Proofs.Breaker.Permits
import CallGuard.Proofs.Breaker.Verdicts

/-!
# Outcomes of calls from earlier periods

What a call hands back counts only in the period in which the call was let through, but its outcome
counts in whatever period it comes. Main statements: `conclude_respects_period_iff` says exactly
when the outcome of a call leaves a later period alone and what the verdict of a half-open circuit
is taken over, and in `late_outcome_decides` a call from before the circuit opened closes it.
-/

namespace CallGuard

namespace Circuit

variable {config : BreakerConfig} {c : Circuit}

theorem record_eq_self_iff (calm : c.state = .closed → opens config c.window = false) (now : Nanos)
    (failed : Bool) :
    (c.record config now failed).1 = c ↔
      c.state = .opened ∨ c.state = .closed ∧ slide config c.window failed = c.window := by
  constructor
  · intro kept
    rcases record_cases config now c failed with
      ⟨opened, -⟩ | ⟨closed, -, eq⟩ | ⟨-, -, eq⟩ | ⟨target, away, -, eq⟩
    · exact .inl opened
    · rw [eq] at kept
      exact .inr ⟨closed, congrArg Circuit.window kept⟩
    · rw [eq] at kept
      have longer := congrArg (fun c => c.trials.length) kept
      simp at longer
    · rw [eq] at kept
      exact absurd (congrArg Circuit.state kept) away
  · rintro (opened | ⟨closed, same⟩)
    · rw [record_opened opened]
    · rw [record_closed closed (by rw [same]; exact calm closed), same]

end Circuit

/-- The outcomes of all calls that ended in the period. -/
def outcomesIn (period : Nat) (calls : List Passage) : List Bool :=
  calls.filterMap (Passage.outcomeIn period)

/-- The outcomes of the calls that ended in the period and were let through in it. -/
def ownOutcomesIn (period : Nat) (calls : List Passage) : List Bool :=
  outcomesIn period (calls.filter fun call => call.period = period)

theorem ownOutcomesIn_sublist (period : Nat) (calls : List Passage) :
    (ownOutcomesIn period calls).Sublist (outcomesIn period calls) :=
  List.filter_sublist.filterMap _

theorem outcomesIn_eq_own_iff (period : Nat) (calls : List Passage) :
    outcomesIn period calls = ownOutcomesIn period calls ↔
      ∀ call ∈ calls, call.outcomeIn period ≠ none → call.period = period := by
  induction calls with
  | nil => simp [outcomesIn, ownOutcomesIn]
  | cons call rest ih =>
    rw [List.forall_mem_cons, ← ih]
    cases outcome : call.outcomeIn period with
    | none =>
      by_cases own : call.period = period <;>
        simp [outcomesIn, ownOutcomesIn, own, outcome]
    | some failed =>
      by_cases own : call.period = period
      · simp [outcomesIn, ownOutcomesIn, own, outcome]
      · have shorter := (ownOutcomesIn_sublist period rest).length_le
        have counted : outcomesIn period (call :: rest) = failed :: outcomesIn period rest :=
          List.filterMap_cons_some outcome
        have skipped : ownOutcomesIn period (call :: rest) = ownOutcomesIn period rest := by
          simp [ownOutcomesIn, own]
        rw [counted, skipped]
        constructor
        · intro same
          rw [← same, List.length_cons] at shorter
          omega
        · rintro ⟨punctual, -⟩
          exact absurd (punctual (by simp)) own

namespace Books

variable {config : BreakerConfig} {c : Circuit} {period : Nat} {calls : List Passage}

/-- A half-open circuit decides by the outcomes of all calls that ended in its period. -/
theorem state_finish (h : Books config c period calls) (half : c.state = .halfOpen) {n : Nat}
    {call : Passage} {failed : Bool} (here : calls[n]? = some call)
    (running : call.fate = .underway) (entries : List Entry) (now : Nanos) :
    let os := outcomesIn period (calls.set n (call.settle (.ended failed period) entries))
    (c.record config now failed).1.state =
      if os.length < config.trialCalls then .halfOpen else Circuit.verdict config os := by
  intro os
  have settling : Fate.ended failed period ≠ .underway := by simp
  obtain ⟨-, -, outcomes⟩ := counts_settle period here running settling entries
  have outcome : (call.settle (.ended failed period) entries).outcomeIn period = some failed :=
    if_pos rfl
  rw [outcome, Option.toList_some] at outcomes
  have perm : os.Perm (c.trials ++ [failed]) :=
    outcomes.trans ((h.trial half).outcomes.symm.append_right [failed])
  have length : os.length = c.trials.length + 1 := by simp [perm.length_eq]
  rcases Nat.lt_or_ge (c.trials.length + 1) config.trialCalls with few | last
  · rw [Circuit.record_trial half few, length, if_pos few]
    exact half
  · rw [Circuit.record_verdict half last, length, if_neg (Nat.not_lt_of_le last)]
    simp only [Circuit.moved, Circuit.verdict, Circuit.trips_perm perm]

end Books

namespace Breaker

variable {b : Breaker} {s : Traffic}

/-- **Outcomes of late calls count.** When a call ends, the circuit takes its outcome whatever its
permit says. So the outcome of a call that was let through before the last transition leaves the
circuit alone just if this is open, or closed with a window that does not change; and a half-open
circuit is decided by the outcomes of all calls that ended in its period, which are those of its own
trial calls just if no call from before has ended in it. -/
theorem conclude_respects_period_iff (h : b.Reachable s) {n : Nat} {call : Passage}
    (here : s.calls[n]? = some call) (running : call.fate = .underway) (o : Outcome) :
    let c := b.circuit s.world
    let w := ((b.conclude call.permit (.ended o)).run s.world).2
    let d := b.circuit w
    let calls := s.calls.set n
      (call.settle (.ended (b.fails o) s.period) (w.since s.world.written))
    let os := outcomesIn s.period calls
    d = (c.record b.config s.world.now (b.fails o)).1 ∧
    ((d ≠ c → call.period = s.period) ↔
      call.period = s.period ∨ c.state = .opened ∨
        c.state = .closed ∧ Circuit.slide b.config c.window (b.fails o) = c.window) ∧
    (c.state = .halfOpen →
      d.state = (if os.length < b.config.trialCalls then .halfOpen
        else Circuit.verdict b.config os) ∧
      (os = ownOutcomesIn s.period calls ↔
        ∀ other ∈ calls, other.outcomeIn s.period ≠ none → other.period = s.period)) := by
  obtain ⟨c, made, books⟩ := kept_of_reachable h
  have left : b.Leaves s.world _ _ _ := leaves_recordAs made (b.fails o)
  have recorded : b.circuit ((b.conclude call.permit (.ended o)).run s.world).2 =
      (c.record b.config s.world.now (b.fails o)).1 := circuit_of left.circuit
  intro before w d calls os
  simp only [before, d, w, circuit_of made, recorded]
  refine ⟨trivial, ?_, fun half => ⟨?_, outcomesIn_eq_own_iff _ _⟩⟩
  · rw [← Circuit.record_eq_self_iff books.calm s.world.now (b.fails o)]
    constructor
    · intro respects
      by_cases kept : (c.record b.config s.world.now (b.fails o)).1 = c
      · exact .inr kept
      · exact .inl (respects kept)
    · rintro (same | kept) changed
      · exact same
      · exact absurd kept changed
  · exact books.state_finish half here running _ s.world.now

/-- The call from before the circuit opened does not leave the half-open circuit alone. -/
theorem conclude_respects_period_iff_overlapping :
    ∃ call, overlapping.calls[0]? = some call ∧ call.fate = .underway ∧
      ¬ (hasty.circuit ((hasty.conclude call.permit (.ended (.value (.int 1)))).run
          overlapping.world).2 ≠ hasty.circuit overlapping.world →
        call.period = overlapping.period) := by
  obtain ⟨call, here⟩ : ∃ call, overlapping.calls[0]? = some call := ⟨_, rfl⟩
  have running : call.fate = .underway := by
    cases here
    rfl
  have earlier : call.period ≠ overlapping.period := by
    cases here
    decide
  obtain ⟨-, respects, -⟩ :=
    conclude_respects_period_iff reachable_overlapping here running (.value (.int 1))
  have half : (hasty.circuit overlapping.world).state = .halfOpen := by decide
  refine ⟨call, here, running, fun holds => ?_⟩
  rcases respects.mp holds with same | opened | ⟨closed, -⟩
  · exact earlier same
  · exact absurd (half.symm.trans opened) (by decide)
  · exact absurd (half.symm.trans closed) (by decide)

/-- The call from before the circuit opened ends well, and that closes the circuit while its one
trial call is still on its way. -/
theorem late_outcome_decides :
    hasty.Reachable overlapping ∧
    (hasty.circuit overlapping.world).state = .halfOpen ∧
    (∃ call, overlapping.calls[0]? = some call ∧ call.fate = .underway ∧
      call.period ≠ overlapping.period ∧
      (hasty.circuit ((hasty.conclude call.permit (.ended (.value (.int 1)))).run
        overlapping.world).2).state = .closed) ∧
    ∃ trial, overlapping.calls[1]? = some trial ∧ trial.fate = .underway ∧
      trial.period = overlapping.period := by
  refine ⟨reachable_overlapping, by decide, ⟨_, rfl, rfl, by decide, by decide +kernel⟩,
    ⟨_, rfl, rfl, by decide⟩⟩

end Breaker

end CallGuard
