import CallGuard.Proofs.Breaker.Verdicts

/-!
# Circuits after a reset

To those who ask for permission and record outcomes, a circuit is its state and what it has noted in
it, and the epoch only tells its permits apart. A reset of an open or half-open circuit makes it a
new one in this sense, but one of a closed circuit is no transition and leaves its window. Main
statements: `answers_alike` says that circuits that are alike stay so whatever is done to both, and
`reset_renews_iff` says exactly when a reset makes a circuit as good as new.
-/

namespace CallGuard

namespace Circuit

variable {config : BreakerConfig} {c d : Circuit} {now : Nanos}

namespace Move

/-- Whether it is a request for permission or an outcome. -/
def isUse : Move → Bool
  | ask _ | record .. => true
  | handBack _ | forceOpen _ | reset _ => false

/-- Whether it takes back a permit. This alone depends on the epoch. -/
def isHandBack : Move → Bool
  | handBack _ => true
  | ask _ | record .. | forceOpen _ | reset _ => false

theorem isHandBack_of_isUse {m : Move} (h : m.isUse = true) : m.isHandBack = false := by
  cases m <;> first | rfl | cases h

end Move

/-- What a move shows of the circuit: whether a request is granted and else which state refuses it,
what is reported, and the state after it. -/
structure Answer where
  granted : Except CircuitState Unit
  happened : List Happening
  state : CircuitState

def answer (config : BreakerConfig) (c : Circuit) : Move → Answer
  | .ask now =>
    let (answer, d, happened) := c.acquire config now
    ⟨answer.map fun _ => (), happened, d.state⟩
  | .handBack epoch => ⟨.ok (), [], (c.release epoch).state⟩
  | .record now failed =>
    let (d, happened) := c.record config now failed
    ⟨.ok (), happened, d.state⟩
  | .forceOpen now =>
    let (d, happened) := c.transition .opened now
    ⟨.ok (), happened, d.state⟩
  | .reset now =>
    let (d, happened) := c.transition .closed now
    ⟨.ok (), happened, d.state⟩

/-- What the moves show, one after the other. -/
def answers (config : BreakerConfig) (c : Circuit) : List Move → List Answer
  | [] => []
  | m :: rest => c.answer config m :: (c.move config m).answers config rest

/-- Whether one of the outcomes opens a closed circuit that has this window. -/
def opensAfter (config : BreakerConfig) (window : List Bool) : List Bool → Bool
  | [] => false
  | failed :: rest =>
    opens config (slide config window failed) ||
      opensAfter config (slide config window failed) rest

theorem opensAfter_concat (window os : List Bool) (failed : Bool) :
    opensAfter config window (os ++ [failed]) =
      (opensAfter config window os ||
        opens config ((os ++ [failed]).foldl (slide config) window)) := by
  induction os generalizing window with
  | nil => simp [opensAfter]
  | cons first rest ih =>
    rw [List.cons_append, opensAfter, ih, opensAfter, List.foldl_cons, Bool.or_assoc]

theorem foldl_slide_rtake (before os : List Bool) :
    os.foldl (slide config) (before.rtake config.window) = (before ++ os).rtake config.window := by
  induction os generalizing before with
  | nil => simp
  | cons failed rest ih => rw [List.foldl_cons, slide_rtake, ih, ← List.append_cons]

/-- As many outcomes as the window holds drive out all that was in it. -/
theorem foldl_slide_of_full (window : List Bool) {os : List Bool}
    (full : config.window ≤ os.length) :
    os.foldl (slide config) window = os.rtake config.window := by
  obtain ⟨failed, rest, rfl⟩ : ∃ failed rest, os = failed :: rest := by
    apply List.exists_cons_of_length_pos
    exact Nat.lt_of_lt_of_le config.window_pos full
  have slid : slide config window failed = (window ++ [failed]).rtake config.window := rfl
  have short : config.window ≤ (failed :: rest).reverse.length := by simpa using full
  rw [List.foldl_cons, slid, foldl_slide_rtake, ← List.append_cons]
  simp only [List.rtake_eq_reverse_take_reverse, List.reverse_append,
    List.take_append_of_le_length short]

/-- Two windows that stand alike towards few outcomes do so towards any number. -/
theorem opensAfter_congr {window other : List Bool}
    (few : ∀ os : List Bool, os.length < config.window →
      opensAfter config window os = opensAfter config other os) (os : List Bool) :
    opensAfter config window os = opensAfter config other os := by
  induction os using List.reverseRecOn with
  | nil => rfl
  | append_singleton os failed ih =>
    rcases Nat.lt_or_ge (os ++ [failed]).length config.window with short | full
    · exact few _ short
    · rw [opensAfter_concat, opensAfter_concat, ih, foldl_slide_of_full window full,
        foldl_slide_of_full other full]

/-- The circuits differ at most in their epochs, in what their state does not look at, and in
windows that stand alike towards all outcomes to come. -/
structure Alike (config : BreakerConfig) (c d : Circuit) : Prop where
  state : c.state = d.state
  window : c.state = .closed → ∀ os,
    opensAfter config c.window os = opensAfter config d.window os
  openedAt : c.state = .opened → c.openedAt = d.openedAt
  permits : c.state = .halfOpen → c.permits = d.permits
  trials : c.state = .halfOpen → c.trials = d.trials

theorem alike_moved (config : BreakerConfig) (c d : Circuit) (target : CircuitState)
    (now : Nanos) (permits : Nat) :
    Alike config { c.moved target now with permits := permits }
      { d.moved target now with permits := permits } :=
  ⟨rfl, fun _ _ => rfl, fun _ => rfl, fun _ => rfl, fun _ => rfl⟩

namespace Alike

theorem isDue (h : Alike config c d) : c.isDue config now = d.isDue config now := by
  rcases c.state_cases with closed | opened | half
  · simp [Circuit.isDue, ← h.state, closed]
  · simp only [Circuit.isDue, ← h.state, h.openedAt opened]
  · simp [Circuit.isDue, ← h.state, half]

theorem ask (h : Alike config c d) (now : Nanos) :
    c.answer config (.ask now) = d.answer config (.ask now) ∧
      Alike config (c.move config (.ask now)) (d.move config (.ask now)) := by
  have same := h.state
  rcases c.state_cases with closed | opened | half
  · simp only [answer, move, acquire_closed closed, acquire_closed (same.symm.trans closed)]
    exact ⟨by rw [same], h⟩
  · cases due : c.isDue config now with
    | false =>
      rw [answer, answer, move, move, acquire_waiting opened due,
        acquire_waiting (same.symm.trans opened) (h.isDue.symm.trans due)]
      exact ⟨by simp only [same], h⟩
    | true =>
      rw [answer, answer, move, move, acquire_due due, acquire_due (h.isDue.symm.trans due)]
      exact ⟨rfl, alike_moved config c d .halfOpen now 1⟩
  · have permits := h.permits half
    rcases Nat.lt_or_ge c.permits config.trialCalls with free | full
    · rw [answer, answer, move, move, acquire_trial half free,
        acquire_trial (same.symm.trans half) (permits ▸ free)]
      exact ⟨by simp only [Except.map, same],
        { h with permits := fun _ => congrArg (· + 1) permits }⟩
    · rw [answer, answer, move, move, acquire_full half full,
        acquire_full (same.symm.trans half) (permits ▸ full)]
      exact ⟨by simp only [same], h⟩

theorem record (h : Alike config c d) (now : Nanos) (failed : Bool) :
    c.answer config (.record now failed) = d.answer config (.record now failed) ∧
      Alike config (c.move config (.record now failed)) (d.move config (.record now failed)) := by
  have same := h.state
  rcases c.state_cases with closed | opened | half
  · have windows := h.window closed
    have other := same.symm.trans closed
    have next : opens config (slide config c.window failed) =
        opens config (slide config d.window failed) := by
      simpa only [opensAfter, Bool.or_false] using windows [failed]
    cases trip : opens config (slide config c.window failed) with
    | true =>
      rw [answer, answer, move, move, record_opens closed trip,
        record_opens other (next.symm.trans trip)]
      exact ⟨rfl, alike_moved config c d .opened now 0⟩
    | false =>
      rw [answer, answer, move, move, record_closed closed trip,
        record_closed other (next.symm.trans trip)]
      refine ⟨by simp only [same], { h with window := fun _ os => ?_ }⟩
      simpa only [opensAfter, trip, ← next, Bool.false_or] using windows (failed :: os)
  · rw [answer, answer, move, move, record_opened opened, record_opened (same.symm.trans opened)]
    exact ⟨by simp only [same], h⟩
  · have trials := h.trials half
    rcases Nat.lt_or_ge (c.trials.length + 1) config.trialCalls with few | last
    · rw [answer, answer, move, move, record_trial half few,
        record_trial (same.symm.trans half) (trials ▸ few)]
      exact ⟨by simp only [same],
        { h with trials := fun _ => congrArg (· ++ [failed]) trials }⟩
    · rw [answer, answer, move, move, record_verdict half last,
        record_verdict (same.symm.trans half) (trials ▸ last), trials]
      exact ⟨rfl, alike_moved config c d _ now 0⟩

theorem transition (h : Alike config c d) (target : CircuitState) (now : Nanos) :
    (c.transition target now).2 = (d.transition target now).2 ∧
      Alike config (c.transition target now).1 (d.transition target now).1 := by
  by_cases there : c.state = target
  · rw [transition_self there, transition_self (h.state.symm.trans there)]
    exact ⟨rfl, h⟩
  · rw [transition_of_ne there, transition_of_ne (h.state ▸ there), h.state]
    exact ⟨rfl, alike_moved config c d target now 0⟩

/-- A move shows the same of both circuits, and they stay alike. -/
theorem move (h : Alike config c d) {m : Move} (kept : m.isHandBack = false) :
    c.answer config m = d.answer config m ∧ Alike config (c.move config m) (d.move config m) := by
  cases m with
  | ask now => exact h.ask now
  | handBack epoch => cases kept
  | record now failed => exact h.record now failed
  | forceOpen now =>
    obtain ⟨happened, after⟩ := h.transition .opened now
    exact ⟨by simp only [answer, happened, after.state], after⟩
  | reset now =>
    obtain ⟨happened, after⟩ := h.transition .closed now
    exact ⟨by simp only [answer, happened, after.state], after⟩

end Alike

theorem answers_alike (h : Alike config c d) {moves : List Move}
    (kept : ∀ m ∈ moves, m.isHandBack = false) :
    answers config c moves = answers config d moves := by
  induction moves generalizing c d with
  | nil => rfl
  | cons m rest ih =>
    rw [List.forall_mem_cons] at kept
    obtain ⟨same, after⟩ := h.move kept.1
    rw [answers, answers, same, ih after kept.2]

theorem alike_reset_of_ne (config : BreakerConfig) (away : c.state ≠ .closed) (now : Nanos) :
    Alike config (c.move config (.reset now)) fresh := by
  rw [move, transition_of_ne away]
  exact ⟨rfl, fun _ _ => rfl, fun _ => rfl, fun _ => rfl, fun _ => rfl⟩

/-- Recording outcomes shows whether one of them opens the circuit. -/
theorem opensAfter_eq_any (closed : c.state = .closed) (now : Nanos) (os : List Bool) :
    opensAfter config c.window os =
      (answers config c (os.map (.record now))).any fun a => a.state = .opened := by
  induction os generalizing c with
  | nil => rfl
  | cons failed rest ih =>
    rw [List.map_cons, answers, List.any_cons, opensAfter]
    cases trip : opens config (slide config c.window failed) with
    | true =>
      rw [answer, record_opens closed trip]
      rfl
    | false =>
      have rest := ih (c := { c with window := slide config c.window failed }) closed
      rw [answer, move, record_closed closed trip, ← rest]
      simp [closed]

/-- **Reset.** What a reset leaves answers all requests and outcomes to come as a new circuit does,
unless the circuit is closed already. Then its window stays, and it answers so just if none of its
outcomes makes a difference: any outcomes too few to fill the window open it if and only if they
open a new one. -/
theorem reset_renews_iff (config : BreakerConfig) (c : Circuit) (now : Nanos) :
    (∀ later : List Move, (∀ m ∈ later, m.isUse = true) →
      answers config (c.move config (.reset now)) later = answers config fresh later) ↔
    (c.state = .closed → ∀ os : List Bool, os.length < config.window →
      opensAfter config c.window os = opensAfter config [] os) := by
  constructor
  · intro renewed closed os _
    have uses : ∀ m ∈ os.map (Move.record now), m.isUse = true := by
      intro m hm
      obtain ⟨failed, -, rfl⟩ := List.mem_map.mp hm
      rfl
    have same := renewed _ uses
    rw [move, transition_self closed] at same
    rw [opensAfter_eq_any closed now, same]
    exact (opensAfter_eq_any rfl now os).symm
  · intro idle later uses
    have kept : ∀ m ∈ later, m.isHandBack = false := fun m hm =>
      Move.isHandBack_of_isUse (uses m hm)
    apply answers_alike ?_ kept
    by_cases closed : c.state = .closed
    · rw [move, transition_self closed]
      exact {
        state := closed
        window := fun _ => opensAfter_congr (idle closed)
        openedAt := fun opened => absurd (closed.symm.trans opened) (by decide)
        permits := fun half => absurd (closed.symm.trans half) (by decide)
        trials := fun half => absurd (closed.symm.trans half) (by decide) }
    · exact alike_reset_of_ne config closed now

/-- A circuit that looks at two outcomes has recorded a failure and is reset. The next failure opens
it, as it does not open a new one. -/
theorem reset_keeps_failure :
    let config := BreakerConfig.ofSettings [.window 2, .minimum 2]
    let c := (after config fresh [.record 0 true]).move config (.reset 0)
    (answers config c [.record 0 true]).map Answer.state = [.opened] ∧
      (answers config fresh [.record 0 true]).map Answer.state = [.closed] := by
  decide +kernel

end Circuit

end CallGuard
