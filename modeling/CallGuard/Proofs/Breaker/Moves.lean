import CallGuard.Breaker.Circuit

/-!
# What each operation does to a circuit

One equation for each case of each operation: its answer, the circuit that it leaves and what it
reports. Nothing after this looks into the operations themselves. `move` puts the operations on one
footing, for statements about any number of them in any order.
-/

namespace CallGuard

namespace Circuit

/-- The circuit just after a move to the state. -/
def moved (c : Circuit) (target : CircuitState) (now : Nanos) : Circuit where
  state := target
  window := []
  openedAt := if target = .opened then some now else none
  permits := 0
  trials := []
  epoch := (c.epoch + 1) % epochs

/-- What is reported of a recorded outcome. -/
def recorded (failed : Bool) : Happening := if failed then .failureRecorded else .successRecorded

/-- Whether the outcomes since the circuit closed open it: enough of the latest ones are there, and
too many of them are failures. -/
def opens (config : BreakerConfig) (window : List Bool) : Bool :=
  min config.minimum config.window ≤ window.length && trips config window

theorem opens_nil (config : BreakerConfig) : opens config [] = false := by
  have minimum := config.minimum_pos
  have window := config.window_pos
  have few : ¬ min config.minimum config.window ≤ ([] : List Bool).length := by
    rw [List.length_nil]
    omega
  rw [opens, decide_eq_false few, Bool.false_and]

variable {c : Circuit} {config : BreakerConfig} {now : Nanos}

theorem transition_self {target : CircuitState} (h : c.state = target) :
    c.transition target now = (c, []) := by
  rw [transition, if_pos h]

theorem transition_of_ne {target : CircuitState} (h : c.state ≠ target) :
    c.transition target now = (c.moved target now, [.transitioned c.state target]) := by
  rw [transition, if_neg h]
  rfl

theorem acquire_closed (h : c.state = .closed) : c.acquire config now = (.ok none, c, []) := by
  simp [acquire, isDue, h]

theorem acquire_waiting (h : c.state = .opened) (early : c.isDue config now = false) :
    c.acquire config now = (.error .opened, c, []) := by
  simp [acquire, early, h]

theorem opened_of_isDue (due : c.isDue config now = true) : c.state = .opened := by
  simp only [isDue, Bool.and_eq_true, decide_eq_true_eq] at due
  exact due.1

theorem acquire_due (due : c.isDue config now = true) :
    c.acquire config now =
      (.ok (some ((c.epoch + 1) % epochs)), { c.moved .halfOpen now with permits := 1 },
        [.transitioned .opened .halfOpen]) := by
  have opened := opened_of_isDue due
  have away : c.state ≠ .halfOpen := by simp [opened]
  simp only [acquire, due, if_true, transition_of_ne away, opened]
  exact if_pos config.trialCalls_pos

theorem acquire_trial (h : c.state = .halfOpen) (free : c.permits < config.trialCalls) :
    c.acquire config now = (.ok (some c.epoch), { c with permits := c.permits + 1 }, []) := by
  simp [acquire, isDue, h, free]

theorem acquire_full (h : c.state = .halfOpen) (full : config.trialCalls ≤ c.permits) :
    c.acquire config now = (.error .halfOpen, c, []) := by
  simp [acquire, isDue, h, Nat.not_lt_of_le full]

theorem state_cases (c : Circuit) :
    c.state = .closed ∨ c.state = .opened ∨ c.state = .halfOpen := by
  cases c.state <;> simp

/-- All that a request can do. -/
theorem acquire_cases (config : BreakerConfig) (now : Nanos) (c : Circuit) :
    (c.state = .closed ∧ c.acquire config now = (.ok none, c, [])) ∨
    (c.state = .opened ∧ c.acquire config now = (.error .opened, c, [])) ∨
    (c.state = .opened ∧ c.acquire config now =
      (.ok (some ((c.epoch + 1) % epochs)), { c.moved .halfOpen now with permits := 1 },
        [.transitioned .opened .halfOpen])) ∨
    (c.state = .halfOpen ∧ c.permits < config.trialCalls ∧
      c.acquire config now = (.ok (some c.epoch), { c with permits := c.permits + 1 }, [])) ∨
    (c.state = .halfOpen ∧ config.trialCalls ≤ c.permits ∧
      c.acquire config now = (.error .halfOpen, c, [])) := by
  rcases c.state_cases with closed | opened | half
  · exact .inl ⟨closed, acquire_closed closed⟩
  · cases due : c.isDue config now with
    | false => exact .inr (.inl ⟨opened, acquire_waiting opened due⟩)
    | true => exact .inr (.inr (.inl ⟨opened, acquire_due due⟩))
  · rcases Nat.lt_or_ge c.permits config.trialCalls with free | full
    · exact .inr (.inr (.inr (.inl ⟨half, free, acquire_trial half free⟩)))
    · exact .inr (.inr (.inr (.inr ⟨half, full, acquire_full half full⟩)))

@[simp] theorem state_release (c : Circuit) (epoch : Nat) : (c.release epoch).state = c.state := by
  unfold release
  split <;> rfl

/-- Taking back whatever permit a call has, which is void in any other period. -/
theorem handBack_eq (permit : Option Nat) :
    permit.elim c c.release =
      if c.state = .halfOpen ∧ permit = some c.epoch then { c with permits := c.permits - 1 }
      else c := by
  cases permit with
  | none => simp
  | some epoch => simp only [Option.elim_some, release, Option.some.injEq, eq_comm]

theorem record_opened (h : c.state = .opened) (failed : Bool) :
    c.record config now failed = (c, [recorded failed]) := by
  simp [record, h, recorded]

theorem record_closed (h : c.state = .closed) {failed : Bool}
    (stays : opens config (slide config c.window failed) = false) :
    c.record config now failed =
      ({ c with window := slide config c.window failed }, [recorded failed]) := by
  unfold opens at stays
  simp only [record, h, stays]
  rfl

theorem record_opens (h : c.state = .closed) {failed : Bool}
    (trips : opens config (slide config c.window failed) = true) :
    c.record config now failed =
      (c.moved .opened now, [recorded failed, .transitioned .closed .opened]) := by
  unfold opens at trips
  have away : { c with window := slide config c.window failed }.state ≠ .opened := by simp [h]
  simp only [record, h, trips, if_true] at away ⊢
  rw [transition_of_ne away]
  rfl

theorem record_trial (h : c.state = .halfOpen) {failed : Bool}
    (undecided : c.trials.length + 1 < config.trialCalls) :
    c.record config now failed =
      ({ c with trials := c.trials ++ [failed] }, [recorded failed]) := by
  have few : ¬ config.trialCalls ≤ (c.trials ++ [failed]).length := by
    rw [List.length_append, List.length_singleton]
    omega
  simp only [record, h, if_neg few]
  rfl

/-- The state that the outcomes of all trial calls call for. -/
def verdict (config : BreakerConfig) (trials : List Bool) : CircuitState :=
  if trips config trials then .opened else .closed

theorem verdict_ne_halfOpen (config : BreakerConfig) (trials : List Bool) :
    verdict config trials ≠ .halfOpen := by
  unfold verdict
  split <;> decide

theorem record_verdict (h : c.state = .halfOpen) {failed : Bool}
    (last : config.trialCalls ≤ c.trials.length + 1) :
    c.record config now failed =
      (c.moved (verdict config (c.trials ++ [failed])) now,
        [recorded failed, .transitioned .halfOpen (verdict config (c.trials ++ [failed]))]) := by
  have all : config.trialCalls ≤ (c.trials ++ [failed]).length := by
    rw [List.length_append, List.length_singleton]
    exact last
  have away : { c with trials := c.trials ++ [failed] }.state ≠
      verdict config (c.trials ++ [failed]) := by
    intro same
    exact verdict_ne_halfOpen config _ (same.symm.trans h)
  simp only [verdict, h] at away
  simp only [record, h, if_pos all, verdict]
  rw [transition_of_ne away]
  rfl

/-- All that the recording of an outcome can do. -/
theorem record_cases (config : BreakerConfig) (now : Nanos) (c : Circuit) (failed : Bool) :
    (c.state = .opened ∧ c.record config now failed = (c, [recorded failed])) ∨
    (c.state = .closed ∧ opens config (slide config c.window failed) = false ∧
      c.record config now failed =
        ({ c with window := slide config c.window failed }, [recorded failed])) ∨
    (c.state = .halfOpen ∧ c.trials.length + 1 < config.trialCalls ∧
      c.record config now failed =
        ({ c with trials := c.trials ++ [failed] }, [recorded failed])) ∨
    ∃ target, target ≠ c.state ∧ target ≠ .halfOpen ∧ c.record config now failed =
      (c.moved target now, [recorded failed, .transitioned c.state target]) := by
  rcases c.state_cases with closed | opened | half
  · cases trip : opens config (slide config c.window failed) with
    | false => exact .inr (.inl ⟨closed, rfl, record_closed closed trip⟩)
    | true =>
      have opening : c.record config now failed = _ := record_opens closed trip
      rw [← closed] at opening
      exact .inr (.inr (.inr ⟨.opened, by simp [closed], by decide, opening⟩))
  · exact .inl ⟨opened, record_opened opened failed⟩
  · rcases Nat.lt_or_ge (c.trials.length + 1) config.trialCalls with undecided | last
    · exact .inr (.inr (.inl ⟨half, undecided, record_trial half undecided⟩))
    · have decided := verdict_ne_halfOpen config (c.trials ++ [failed])
      have deciding : c.record config now failed = _ := record_verdict half last
      rw [← half] at deciding decided
      exact .inr (.inr (.inr ⟨_, decided, half ▸ decided, deciding⟩))

/-- Something done to a circuit. -/
inductive Move where
  | ask (now : Nanos)
  | handBack (epoch : Nat)
  | record (now : Nanos) (failed : Bool)
  | forceOpen (now : Nanos)
  | reset (now : Nanos)
  deriving DecidableEq, Repr

namespace Move

/-- Whether it moves the circuit by hand. -/
def isForced : Move → Bool
  | forceOpen _ | reset _ => true
  | ask _ | handBack _ | record .. => false

/-- The outcome that it records. -/
def outcome? : Move → Option Bool
  | record _ failed => some failed
  | ask _ | handBack _ | forceOpen _ | reset _ => none

end Move

/-- The outcomes that are recorded in the course of the moves. -/
def outcomes (moves : List Move) : List Bool := moves.filterMap Move.outcome?

def move (config : BreakerConfig) (c : Circuit) : Move → Circuit
  | .ask now => (c.acquire config now).2.1
  | .handBack epoch => c.release epoch
  | .record now failed => (c.record config now failed).1
  | .forceOpen now => (c.transition .opened now).1
  | .reset now => (c.transition .closed now).1

/-- The circuit after the moves. -/
def after (config : BreakerConfig) (c : Circuit) (moves : List Move) : Circuit :=
  moves.foldl (move config) c

@[simp] theorem after_nil (config : BreakerConfig) (c : Circuit) : after config c [] = c := rfl

@[simp] theorem after_append_singleton (config : BreakerConfig) (c : Circuit) (moves : List Move)
    (m : Move) : after config c (moves ++ [m]) = move config (after config c moves) m := by
  simp [after]

@[simp] theorem outcomes_append_singleton (moves : List Move) (m : Move) :
    outcomes (moves ++ [m]) = outcomes moves ++ m.outcome?.toList := by
  simp only [outcomes, List.filterMap_append]
  cases h : m.outcome? <;> simp [h]

end Circuit

end CallGuard
