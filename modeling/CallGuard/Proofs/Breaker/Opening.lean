import CallGuard.Proofs.Breaker.Effects
import Mathlib.Logic.Relation

/-!
# How long a circuit stays open

A circuit opens when too many outcomes are failures, when its trial calls fail, or by hand. From then
on outcomes of calls that were let through before keep coming in, and it may be opened by hand again;
none of this moves the time at which it opened. A `Turn` is one operation of the breaker or anything
else that happens while the clock goes on, and a `Course` is any number of them.

Main statement: `open_until_due`.
-/

namespace CallGuard

namespace Circuit

variable {c : Circuit} {config : BreakerConfig} {now : Nanos}

theorem openedAt_transition {target : CircuitState} (before : c.state ≠ .opened)
    (opened : (c.transition target now).1.state = .opened) :
    (c.transition target now).1.openedAt = some now := by
  by_cases same : c.state = target
  · rw [transition_self same] at opened
    exact absurd opened before
  · rw [transition_of_ne same] at opened ⊢
    change target = .opened at opened
    rw [opened]
    rfl

theorem openedAt_record {failed : Bool} (before : c.state ≠ .opened)
    (opened : (c.record config now failed).1.state = .opened) :
    (c.record config now failed).1.openedAt = some now := by
  rcases record_cases config now c failed with
    ⟨already, -⟩ | ⟨closed, -, eq⟩ | ⟨half, -, eq⟩ | ⟨target, -, -, eq⟩
  · exact absurd already before
  · rw [eq] at opened
    exact absurd (closed.symm.trans opened) (by decide)
  · rw [eq] at opened
    exact absurd (half.symm.trans opened) (by decide)
  · rw [eq] at opened ⊢
    change target = .opened at opened
    rw [opened]
    rfl

/-- A request does not open a circuit. -/
theorem state_acquire_ne (before : c.state ≠ .opened) :
    (c.acquire config now).2.1.state ≠ .opened := by
  intro opened
  rcases acquire_cases config now c with
    ⟨-, eq⟩ | ⟨already, -⟩ | ⟨already, -⟩ | ⟨-, -, eq⟩ | ⟨-, -, eq⟩
  · rw [eq] at opened
    exact before opened
  · exact before already
  · exact before already
  · rw [eq] at opened
    exact before opened
  · rw [eq] at opened
    exact before opened

/-- An open circuit has no permits to take back. -/
theorem handBack_opened (opened : c.state = .opened) (permit : Option Nat) :
    permit.elim c c.release = c := by
  rw [handBack_eq, if_neg]
  rintro ⟨half, -⟩
  exact absurd (opened.symm.trans half) (by decide)

end Circuit

namespace Breaker

/-- One operation of the breaker, or a change of the world that leaves its circuit alone and does not
turn the clock back. A request is made by hand or for a call; an outcome is that of a call or one
reported by hand; a permit is given back when a call crashes or is dropped. -/
inductive Turn (b : Breaker) : World → World → Prop where
  | ask (w : World) : Turn b w (b.acquire.run w).2
  | record (w : World) (failed : Bool) : Turn b w ((b.recordAs failed).run w).2
  | abandon (w : World) (permit : Option Nat) : Turn b w ((b.abandon permit).run w).2
  | force (w : World) (target : CircuitState) (byHand : target ≠ .halfOpen) :
      Turn b w ((b.force target).run w).2
  | elsewhere {w v : World} (kept : v.circuits[b.cell]? = w.circuits[b.cell]?)
      (later : w.now ≤ v.now) : Turn b w v

/-- Any number of turns. -/
def Course (b : Breaker) : World → World → Prop := Relation.ReflTransGen b.Turn

/-- Any number of turns through which the circuit is open. -/
def StaysOpen (b : Breaker) : World → World → Prop :=
  Relation.ReflTransGen fun w v => b.Turn w v ∧ (b.circuit v).state = .opened

/-- The circuit is open and has been since that time. -/
structure OpenSince (b : Breaker) (t : Nanos) (w : World) : Prop where
  made : w.circuits[b.cell]? = some (b.circuit w)
  opened : (b.circuit w).state = .opened
  since : (b.circuit w).openedAt = some t
  past : t ≤ w.now

variable {b : Breaker} {u w v : World} {c : Circuit} {t : Nanos}

theorem Turn.made (turn : b.Turn w v) (made : w.circuits[b.cell]? = some c) :
    ∃ d, v.circuits[b.cell]? = some d := by
  cases turn with
  | ask => exact ⟨_, (leaves_acquire made).2.circuit⟩
  | record failed => exact ⟨_, (leaves_recordAs made failed).circuit⟩
  | abandon permit => exact ⟨_, (leaves_abandon made permit).circuit⟩
  | force target => exact ⟨_, (leaves_force made target).circuit⟩
  | elsewhere kept => exact ⟨c, kept.trans made⟩

theorem Course.made (course : b.Course w v) (made : w.circuits[b.cell]? = some c) :
    ∃ d, v.circuits[b.cell]? = some d := by
  induction course with
  | refl => exact ⟨c, made⟩
  | tail _ turn ih =>
    obtain ⟨d, there⟩ := ih
    exact turn.made there

theorem OpenSince.of_circuit (made : v.circuits[b.cell]? = some c) (opened : c.state = .opened)
    (since : c.openedAt = some t) (past : t ≤ v.now) : b.OpenSince t v := by
  have there := circuit_of made
  constructor
  · rw [there]
    exact made
  · rw [there]
    exact opened
  · rw [there]
    exact since
  · exact past

theorem OpenSince.of_leaves {outcomes : List Bool} (left : b.Leaves w v c outcomes)
    (opened : c.state = .opened) (since : c.openedAt = some t) (past : t ≤ w.now) :
    b.OpenSince t v := by
  apply OpenSince.of_circuit left.circuit opened since
  rw [left.now]
  exact past

/-- A circuit that opens has been open since just then. -/
theorem Turn.enters (turn : b.Turn u w) (made : u.circuits[b.cell]? = some c)
    (before : (b.circuit u).state ≠ .opened) (opened : (b.circuit w).state = .opened) :
    b.OpenSince w.now w := by
  have was := circuit_of made
  rw [was] at before
  cases turn with
  | ask =>
    have left := (leaves_acquire made).2
    rw [circuit_of left.circuit] at opened
    exact absurd opened (Circuit.state_acquire_ne before)
  | record failed =>
    have left := leaves_recordAs made failed
    rw [circuit_of left.circuit] at opened
    rw [left.now]
    exact .of_leaves left opened (Circuit.openedAt_record before opened) (Nat.le_refl _)
  | abandon permit =>
    have left := leaves_abandon made permit
    have same : (permit.elim c c.release).state = c.state := by cases permit <;> simp
    rw [circuit_of left.circuit, same] at opened
    exact absurd opened before
  | force target =>
    have left := leaves_force made target
    rw [circuit_of left.circuit] at opened
    rw [left.now]
    exact .of_leaves left opened (Circuit.openedAt_transition before opened) (Nat.le_refl _)
  | elsewhere kept =>
    rw [circuit_of (kept.trans made)] at opened
    exact absurd opened before

namespace OpenSince

/-- The wait is over when it has lasted long enough since the circuit opened. -/
theorem isDue_iff (h : b.OpenSince t w) :
    (b.circuit w).isDue b.config w.now = true ↔ t + b.config.openWait ≤ w.now := by
  simp only [Circuit.isDue, h.opened, h.since, decide_true, Bool.true_and, Option.any_some,
    decide_eq_true_eq]
  exact Nat.le_sub_iff_add_le' h.past

theorem acquire_early (h : b.OpenSince t w) (early : w.now < t + b.config.openWait) :
    (b.circuit w).acquire b.config w.now = (.error .opened, b.circuit w, []) := by
  apply Circuit.acquire_waiting h.opened
  rw [Bool.eq_false_iff]
  intro due
  exact Nat.not_le_of_lt early (h.isDue_iff.mp due)

theorem acquire_due (h : b.OpenSince t w) (late : t + b.config.openWait ≤ w.now) :
    (b.circuit w).acquire b.config w.now =
      (.ok (some (((b.circuit w).epoch + 1) % Circuit.epochs)),
        { (b.circuit w).moved .halfOpen w.now with permits := 1 },
        [.transitioned .opened .halfOpen]) :=
  Circuit.acquire_due (h.isDue_iff.mpr late)

/-- What a turn does to an open circuit: nothing at all, unless it is reset or a request comes after
the wait. -/
theorem turn (h : b.OpenSince t w) (turn : b.Turn w v) :
    b.OpenSince t v ∨ v = ((b.force .closed).run w).2 ∨
      t + b.config.openWait ≤ w.now ∧ v = (b.acquire.run w).2 := by
  cases turn with
  | ask =>
    rcases Nat.lt_or_ge w.now (t + b.config.openWait) with early | late
    · left
      have left := (leaves_acquire h.made).2
      rw [h.acquire_early early] at left
      exact .of_leaves left h.opened h.since h.past
    · right
      right
      exact ⟨late, rfl⟩
  | record failed =>
    left
    have left := leaves_recordAs h.made failed
    rw [Circuit.record_opened h.opened] at left
    exact .of_leaves left h.opened h.since h.past
  | abandon permit =>
    left
    have left := leaves_abandon h.made permit
    rw [Circuit.handBack_opened h.opened] at left
    exact .of_leaves left h.opened h.since h.past
  | force target byHand =>
    cases target with
    | closed => exact .inr (.inl rfl)
    | opened =>
      left
      have left := leaves_force h.made .opened
      rw [Circuit.transition_self h.opened] at left
      exact .of_leaves left h.opened h.since h.past
    | halfOpen => exact absurd rfl byHand
  | elsewhere kept later =>
    left
    exact .of_circuit (kept.trans h.made) h.opened h.since (Nat.le_trans h.past later)

theorem state_reset (h : b.OpenSince t w) :
    (b.circuit ((b.force .closed).run w).2).state = .closed := by
  have left := leaves_force h.made .closed
  have away : (b.circuit w).state ≠ .closed := by simp [h.opened]
  rw [circuit_of left.circuit, Circuit.transition_of_ne away]
  rfl

theorem state_acquire (h : b.OpenSince t w) (late : t + b.config.openWait ≤ w.now) :
    (b.acquire.run w).1 = .ok (some (((b.circuit w).epoch + 1) % Circuit.epochs)) ∧
      b.circuit (b.acquire.run w).2 =
        { (b.circuit w).moved .halfOpen w.now with permits := 1 } := by
  obtain ⟨answer, left⟩ := leaves_acquire h.made
  rw [h.acquire_due late] at answer left
  exact ⟨answer, circuit_of left.circuit⟩

/-- As long as the circuit is open it has been so since the same time. -/
theorem stays (h : b.OpenSince t w) (stays : b.StaysOpen w v) : b.OpenSince t v := by
  induction stays with
  | refl => exact h
  | @tail x y _ step ih =>
    obtain ⟨turn, opened⟩ := step
    rcases ih.turn turn with still | reset | ⟨late, asked⟩
    · exact still
    · rw [reset, ih.state_reset] at opened
      exact absurd opened (by decide)
    · rw [asked, (ih.state_acquire late).2] at opened
      exact absurd opened (by simp [Circuit.moved])

end OpenSince

/-- The act runs by turns. -/
def Runs {A : Type} (b : Breaker) (act : Act A) : Prop := ∀ w, b.Course w (act.run w).2

/-- The deferred call runs by turns, whatever it remembers. -/
structure RunsDeferred {W : Type} (b : Breaker) (call : Deferred W) : Prop where
  start : ∀ args, b.Runs (call.start args)
  poll : ∀ memory, b.Runs (call.poll memory)
  drop : ∀ memory, b.Runs (call.drop memory)

namespace Runs

variable {A B : Type} {act : Act A} {next : A → Act B}

theorem pure (a : A) : b.Runs (pure a) := fun _ => .refl

theorem bind (first : b.Runs act) (rest : ∀ a, b.Runs (next a)) : b.Runs (act >>= next) := by
  intro w
  rw [Act.run_bind]
  exact (first w).trans (rest _ _)

theorem acquire : b.Runs b.acquire := fun w => .single (.ask w)

theorem abandon (permit : Option Nat) : b.Runs (b.abandon permit) :=
  fun w => .single (.abandon w permit)

theorem conclude (permit : Option Nat) (reply : Reply) : b.Runs (b.conclude permit reply) := by
  cases reply with
  | ended o => exact fun w => .single (.record w (b.fails o))
  | crashed text => exact abandon permit

/-- A call through the breaker runs by turns if what it guards does. -/
theorem direct {call : Direct} (inside : ∀ args, b.Runs (call args)) (args : Args) :
    b.Runs (b.direct call args) := by
  apply bind acquire
  intro answer
  cases answer with
  | error e => exact pure _
  | ok permit =>
    apply bind (inside args)
    intro reply
    apply bind (conclude permit reply)
    intro _
    exact pure _

theorem deferred {W : Type} {call : Deferred W} (inside : b.RunsDeferred call) :
    b.RunsDeferred (b.deferred call) where
  start args := by
    apply bind acquire
    intro answer
    cases answer with
    | error e => exact pure _
    | ok permit =>
      apply bind (inside.start args)
      intro started
      cases started with
      | error text =>
        apply bind (abandon permit)
        intro _
        exact pure _
      | ok memory => exact pure _
  poll memory := by
    cases memory with
    | refused e => exact pure _
    | running permit inner =>
      apply bind (inside.poll inner)
      intro progress
      cases progress with
      | waiting inner => exact pure _
      | done reply =>
        apply bind (conclude permit reply)
        intro _
        exact pure _
  drop memory := by
    cases memory with
    | refused e => exact pure _
    | running permit inner =>
      apply bind (inside.drop inner)
      intro _
      exact abandon permit

end Runs

/-- What a call meets whose request is refused: it ends with the refusal, in either shape, and what it
guards has nothing to do with it. -/
def Refuses (b : Breaker) (w : World) (e : Fault) : Prop :=
  b.acquire.run w = (.error e, (b.acquire.run w).2) ∧
    (∀ (call : Direct) (args : Args),
      (b.direct call args).run w = (.refusal e, (b.acquire.run w).2)) ∧
    ∀ {W : Type} (call : Deferred W) (args : Args),
      ((b.deferred call).start args).run w = (.ok (.refused e), (b.acquire.run w).2) ∧
      ∀ x, ((b.deferred call).poll (.refused e)).run x = (.done (.refusal e), x) ∧
        ((b.deferred call).drop (.refused e)).run x = ((), x)

theorem refuses_of_acquire {e : Fault} (refused : (b.acquire.run w).1 = .error e) :
    b.Refuses w e := by
  have asked : b.acquire.run w = (.error e, (b.acquire.run w).2) := Prod.ext refused rfl
  refine ⟨asked, fun call args => ?_, fun call args => ⟨?_, fun x => ⟨rfl, rfl⟩⟩⟩
  · simp only [Breaker.direct, Act.run_bind_of asked]
    rfl
  · simp only [Breaker.deferred, Act.run_bind_of asked]
    rfl

/-- **An open circuit stays open until its wait is over**, whatever else is done with the breaker in
the meantime. While it has been open since some time, every request before the end of the wait is
refused, without a call of what is guarded and without a change to the circuit. The circuit leaves
this state only when it is reset or when a request comes after the wait; and the first such request
moves it to half-open and is the first trial call. Calls through the breaker run by turns of this
kind. -/
theorem open_until_due {start : World} (made : start.circuits[b.cell]? = some .fresh)
    (course : b.Course start u) (opening : b.Turn u w) (before : (b.circuit u).state ≠ .opened)
    (opened : (b.circuit w).state = .opened) (stays : b.StaysOpen w v) :
    (v.now < w.now + b.config.openWait →
      b.Refuses v (.callNotPermitted b.name .opened) ∧
        b.circuit (b.acquire.run v).2 = b.circuit v) ∧
    (∀ x, b.Turn v x → (b.circuit x).state ≠ .opened →
      x = ((b.force .closed).run v).2 ∨
        w.now + b.config.openWait ≤ v.now ∧ x = (b.acquire.run v).2) ∧
    (w.now + b.config.openWait ≤ v.now →
      ∃ epoch, (b.acquire.run v).1 = .ok (some epoch) ∧
        (b.circuit (b.acquire.run v).2).state = .halfOpen ∧
        (b.circuit (b.acquire.run v).2).epoch = epoch ∧
        (b.circuit (b.acquire.run v).2).permits = 1) ∧
    (∀ call : Direct, (∀ args, b.Runs (call args)) → ∀ args, b.Runs (b.direct call args)) ∧
    ∀ {W : Type} (call : Deferred W), b.RunsDeferred call → b.RunsDeferred (b.deferred call) := by
  obtain ⟨c, there⟩ := course.made made
  have since : b.OpenSince w.now v := (opening.enters there before opened).stays stays
  refine ⟨fun early => ?_, fun x turn left => ?_, fun late => ?_, ?_, ?_⟩
  · obtain ⟨answer, left⟩ := leaves_acquire since.made
    rw [since.acquire_early early] at answer left
    exact ⟨refuses_of_acquire answer, circuit_of left.circuit⟩
  · rcases since.turn turn with still | reset | due
    · exact absurd still.opened left
    · exact .inl reset
    · exact .inr due
  · obtain ⟨granted, half⟩ := since.state_acquire late
    refine ⟨_, granted, ?_, ?_, ?_⟩ <;> rw [half] <;> rfl
  · intro call inside args
    exact .direct inside args
  · intro W call inside
    exact Runs.deferred inside

/-- A breaker that waits for fifty nanoseconds. -/
def patient : Breaker := ⟨"patient", .ofSettings [.openWait 50, .trialCalls 1], 0⟩

/-- Nothing has been done with the breaker, and the clock stands at ten. -/
def quiet : World := { World.empty with now := 10, circuits := #[.fresh] }

def tripped : World := ((patient.force .opened).run quiet).2

/-- Twenty nanoseconds later an outcome has come in late, and the circuit has been opened again. -/
def belated : World :=
  ((patient.force .opened).run ((patient.recordAs true).run (tripped.pass 20)).2).2

theorem staysOpen_belated : patient.StaysOpen tripped belated := by
  have passed : patient.StaysOpen tripped (tripped.pass 20) :=
    .single ⟨.elsewhere rfl (by decide), by decide⟩
  have recorded := passed.tail ⟨.record _ true, by decide⟩
  exact recorded.tail ⟨.force _ .opened (by decide), by decide⟩

/-- The circuit opened at ten. A request at thirty is refused, and one at sixty is granted. -/
theorem open_until_due_belated :
    patient.Refuses belated (.callNotPermitted "patient" .opened) ∧
      ∃ epoch, (patient.acquire.run (belated.pass 30)).1 = .ok (some epoch) := by
  have made : quiet.circuits[patient.cell]? = some .fresh := rfl
  have opening : patient.Turn quiet tripped := .force _ .opened (by decide)
  have later : patient.StaysOpen tripped (belated.pass 30) :=
    staysOpen_belated.tail ⟨.elsewhere rfl (by decide), by decide⟩
  obtain ⟨early, -⟩ :=
    open_until_due made .refl opening (by decide) (by decide) staysOpen_belated
  obtain ⟨-, -, late, -⟩ := open_until_due made .refl opening (by decide) (by decide) later
  obtain ⟨epoch, granted, -⟩ := late (by decide)
  exact ⟨(early (by decide)).1, epoch, granted⟩

end Breaker

end CallGuard
