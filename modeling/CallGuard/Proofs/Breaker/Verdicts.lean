import CallGuard.Proofs.Breaker.Moves
import Mathlib.Data.List.DropRight

/-!
# What the outcomes make of a circuit

A closed circuit is the list of its latest outcomes, and a half-open one the list of all outcomes of
its trial calls, whatever permits are handed out and back meanwhile. Main statements:
`closed_after` and `halfOpen_after` say this of any number of moves, and `outcomes_decide` what the
next outcome makes of the state.
-/

namespace CallGuard

namespace Circuit

variable {config : BreakerConfig}

/-- A move either keeps the state or begins a new one, with nothing in it but permits. -/
theorem move_cases (config : BreakerConfig) (c : Circuit) (m : Move) :
    (c.move config m).state = c.state ∨
      ∃ target now permits, target ≠ c.state ∧
        c.move config m = { c.moved target now with permits := permits } := by
  cases m with
  | ask now =>
    rcases acquire_cases config now c with
      ⟨-, h⟩ | ⟨-, h⟩ | ⟨opened, h⟩ | ⟨-, -, h⟩ | ⟨-, -, h⟩ <;> rw [move, h]
    · exact .inl rfl
    · exact .inl rfl
    · exact .inr ⟨.halfOpen, now, 1, by simp [opened], rfl⟩
    · exact .inl rfl
    · exact .inl rfl
  | handBack epoch => exact .inl (state_release c epoch)
  | record now failed =>
    rcases record_cases config now c failed with
      ⟨-, h⟩ | ⟨-, -, h⟩ | ⟨-, -, h⟩ | ⟨target, away, -, h⟩ <;> rw [move, h]
    · exact .inl rfl
    · exact .inl rfl
    · exact .inl rfl
    · exact .inr ⟨target, now, 0, away, rfl⟩
  | forceOpen now =>
    by_cases h : c.state = .opened
    · exact .inl (by rw [move, transition_self h])
    · exact .inr ⟨.opened, now, 0, Ne.symm h, by rw [move, transition_of_ne h]; rfl⟩
  | reset now =>
    by_cases h : c.state = .closed
    · exact .inl (by rw [move, transition_self h])
    · exact .inr ⟨.closed, now, 0, Ne.symm h, by rw [move, transition_of_ne h]; rfl⟩

/-- The circuit has just come into its state: it is new, or a move has changed its state. -/
def HasEntered (config : BreakerConfig) (c : Circuit) : Prop :=
  c = fresh ∨ ∃ d m, c = move config d m ∧ c.state ≠ d.state

theorem HasEntered.blank {c : Circuit} (h : c.HasEntered config) :
    c.window = [] ∧ c.trials = [] := by
  rcases h with rfl | ⟨d, m, rfl, changed⟩
  · exact ⟨rfl, rfl⟩
  · rcases move_cases config d m with same | ⟨target, now, permits, -, new⟩
    · exact absurd same changed
    · rw [new]
      exact ⟨rfl, rfl⟩

/-- Unless the circuit is open, what is neither recorded nor forced touches only the permits. -/
theorem move_quiet (config : BreakerConfig) {c : Circuit} {m : Move} (h : c.state ≠ .opened)
    (free : m.isForced = false) (quiet : m.outcome? = none) :
    ∃ permits, c.move config m = { c with permits := permits } := by
  cases m with
  | ask now =>
    rcases acquire_cases config now c with
      ⟨-, h⟩ | ⟨opened, -⟩ | ⟨opened, -⟩ | ⟨-, -, h⟩ | ⟨-, -, h⟩
    · exact ⟨c.permits, by rw [move, h]⟩
    · exact absurd opened h
    · exact absurd opened h
    · exact ⟨c.permits + 1, by rw [move, h]⟩
    · exact ⟨c.permits, by rw [move, h]⟩
  | handBack epoch =>
    rw [move, release]
    split
    · exact ⟨_, rfl⟩
    · exact ⟨c.permits, rfl⟩
  | record now failed => cases quiet
  | forceOpen now => cases free
  | reset now => cases free

theorem rtake_rtake_succ (os : List Bool) (n : Nat) :
    List.rtake (List.rtake os (n + 1)) n = List.rtake os n := by
  simp only [List.rtake_eq_reverse_take_reverse, List.reverse_reverse, List.take_take,
    Nat.min_eq_left (Nat.le_succ n)]

/-- Sliding keeps the window the latest outcomes. -/
theorem slide_rtake (config : BreakerConfig) (os : List Bool) (failed : Bool) :
    slide config (os.rtake config.window) failed = (os ++ [failed]).rtake config.window := by
  obtain ⟨n, hn⟩ := Nat.exists_eq_succ_of_ne_zero (Nat.ne_of_gt config.window_pos)
  change List.rtake (os.rtake config.window ++ [failed]) config.window = _
  rw [hn, Nat.succ_eq_add_one, List.rtake_concat_succ, List.rtake_concat_succ, rtake_rtake_succ]

/-- Whether one of the outcomes, as the latest one, opens a circuit that has recorded them since it
closed. -/
def OpensWithin (config : BreakerConfig) (os : List Bool) : Prop :=
  ∃ i, 0 < i ∧ i ≤ os.length ∧ opens config ((os.take i).rtake config.window) = true

theorem OpensWithin.append {os : List Bool} (h : OpensWithin config os) (more : List Bool) :
    OpensWithin config (os ++ more) := by
  obtain ⟨i, pos, bound, trips⟩ := h
  refine ⟨i, pos, by rw [List.length_append]; omega, ?_⟩
  rwa [List.take_append_of_le_length bound]

/-- Until an outcome opens it, a circuit is closed and its window is the latest outcomes. -/
theorem closed_after {c : Circuit} (h : c.state = .closed) (empty : c.window = [])
    {moves : List Move} (free : ∀ m ∈ moves, m.isForced = false)
    (stays : ¬ OpensWithin config (outcomes moves)) :
    (after config c moves).state = .closed ∧
      (after config c moves).window = (outcomes moves).rtake config.window := by
  induction moves using List.reverseRecOn with
  | nil => exact ⟨h, by simpa [outcomes] using empty⟩
  | append_singleton moves m ih =>
    rw [after_append_singleton, outcomes_append_singleton]
    rw [outcomes_append_singleton] at stays
    obtain ⟨closed, window⟩ := ih (fun m hm => free m (List.mem_append_left _ hm))
      fun opened => stays (opened.append _)
    cases outcome : m.outcome? with
    | none =>
      obtain ⟨permits, quiet⟩ := move_quiet config (closed.trans_ne (by decide))
        (free m (by simp)) outcome
      rw [quiet]
      exact ⟨closed, by simpa using window⟩
    | some failed =>
      obtain ⟨now, rfl⟩ : ∃ now, m = .record now failed := by
        cases m <;> cases outcome
        exact ⟨_, rfl⟩
      have slid := slide_rtake config (outcomes moves) failed
      have keeps : opens config ((outcomes moves ++ [failed]).rtake config.window) = false := by
        refine Bool.eq_false_iff.mpr fun trips => ?_
        refine stays ⟨(outcomes moves ++ [failed]).length, by simp, by simp [Move.outcome?], ?_⟩
        rwa [Move.outcome?, Option.toList_some, List.take_length]
      rw [← window] at slid
      rw [move, record_closed closed (by rwa [slid])]
      exact ⟨closed, slid⟩

/-- Short of the last trial call, a circuit is half-open and has all their outcomes. -/
theorem halfOpen_after {c : Circuit} (h : c.state = .halfOpen) (empty : c.trials = [])
    {moves : List Move} (free : ∀ m ∈ moves, m.isForced = false)
    (few : (outcomes moves).length < config.trialCalls) :
    (after config c moves).state = .halfOpen ∧
      (after config c moves).trials = outcomes moves := by
  induction moves using List.reverseRecOn with
  | nil => exact ⟨h, empty⟩
  | append_singleton moves m ih =>
    rw [outcomes_append_singleton, List.length_append] at few
    rw [after_append_singleton, outcomes_append_singleton]
    obtain ⟨half, trials⟩ := ih (fun m hm => free m (List.mem_append_left _ hm)) (by omega)
    cases outcome : m.outcome? with
    | none =>
      obtain ⟨permits, quiet⟩ := move_quiet config (half.trans_ne (by decide))
        (free m (by simp)) outcome
      rw [quiet]
      exact ⟨half, by simpa using trials⟩
    | some failed =>
      obtain ⟨now, rfl⟩ : ∃ now, m = .record now failed := by
        cases m <;> cases outcome
        exact ⟨_, rfl⟩
      rw [move, record_trial half (by simpa [trials, Move.outcome?] using few)]
      exact ⟨half, by simp [trials]⟩

/-- The rate of failures depends on how many there are, and not on when they came. -/
theorem failureRate_perm {os shuffled : List Bool} (h : os.Perm shuffled) :
    failureRate os = failureRate shuffled := by
  simp only [failureRate, h.isEmpty_eq, h.count_eq, h.length_eq]

theorem trips_perm {os shuffled : List Bool} (h : os.Perm shuffled) :
    trips config os = trips config shuffled := by
  rw [trips, trips, failureRate_perm h]

/-- **Outcomes decide the state.** Take any circuit that has just come into its state, and any moves
after that of which none is forced. A closed circuit opens with the first outcome that leaves enough
failures among the latest ones, and until then its window is just these. A half-open one opens or
closes with the outcome of its last trial call, by the outcomes of all of them in whatever order. An
open one takes no notice of outcomes. -/
theorem outcomes_decide (config : BreakerConfig) {c : Circuit} (entered : c.HasEntered config)
    (moves : List Move) (free : ∀ m ∈ moves, m.isForced = false) :
    (c.state = .closed → ¬ OpensWithin config (outcomes moves) →
      (after config c moves).state = .closed ∧
      (after config c moves).window = (outcomes moves).rtake config.window ∧
      ∀ now failed, ((after config c moves).move config (.record now failed)).state =
        if opens config ((outcomes moves ++ [failed]).rtake config.window) then .opened
        else .closed) ∧
    (c.state = .halfOpen → (outcomes moves).length < config.trialCalls →
      (after config c moves).state = .halfOpen ∧
      ∀ now failed shuffled, shuffled.Perm (outcomes moves ++ [failed]) →
        ((after config c moves).move config (.record now failed)).state =
          if shuffled.length < config.trialCalls then .halfOpen
          else if trips config shuffled then .opened else .closed) ∧
    ((after config c moves).state = .opened → ∀ now failed,
      (after config c moves).move config (.record now failed) = after config c moves) := by
  obtain ⟨window, trials⟩ := entered.blank
  refine ⟨?_, ?_, ?_⟩
  · intro h stays
    obtain ⟨closed, latest⟩ := closed_after h window free stays
    refine ⟨closed, latest, fun now failed => ?_⟩
    have slid := slide_rtake config (outcomes moves) failed
    rw [← latest] at slid
    rw [← slid]
    cases trip : opens config (slide config (after config c moves).window failed) with
    | false => rw [move, record_closed closed trip]; exact closed
    | true => rw [move, record_opens closed trip]; rfl
  · intro h few
    obtain ⟨half, all⟩ := halfOpen_after h trials free few
    refine ⟨half, fun now failed shuffled perm => ?_⟩
    have length : shuffled.length = (outcomes moves).length + 1 := by simp [perm.length_eq]
    rw [length, trips_perm perm, ← all]
    rcases Nat.lt_or_ge ((after config c moves).trials.length + 1) config.trialCalls
      with undecided | last
    · rw [move, record_trial half undecided, if_pos undecided]
      exact half
    · rw [move, record_verdict half last, if_neg (Nat.not_lt_of_le last)]
      rfl
  · intro opened now failed
    rw [move, record_opened opened]

/-- A new circuit that looks at two outcomes opens with the second failure. -/
theorem outcomes_decide_fresh :
    let config := BreakerConfig.ofSettings [.window 2, .minimum 2]
    let moves := [Move.ask 0, .record 0 true]
    (after config fresh moves).state = .closed ∧
      ((after config fresh moves).move config (.record 1 true)).state = .opened := by
  intro config moves
  have calm : ¬ OpensWithin config (outcomes moves) := by
    rintro ⟨i, pos, bound, trips⟩
    have one : i = 1 := Nat.le_antisymm bound pos
    rw [one] at trips
    exact absurd trips (by decide)
  have entered : fresh.HasEntered config := .inl rfl
  obtain ⟨closing, -, -⟩ := outcomes_decide config entered moves (by decide)
  obtain ⟨closed, -, next⟩ := closing rfl calm
  have opening : opens config ((outcomes moves ++ [true]).rtake config.window) = true := by
    decide +kernel
  refine ⟨closed, ?_⟩
  rw [next 1 true, if_pos opening]

end Circuit

end CallGuard
