import CallGuard.Proofs.Breaker.Opening
import Mathlib.Algebra.Ring.Int.Defs

/-!
# The moves of a circuit

Requests, recorded outcomes and operations by hand all may move a circuit, and each move is reported
and counted. A `Chronicle` lists the moves that a breaker reports in the course of a run, each with
the operation that caused it. Main statement: `moves_form_path`.
-/

namespace CallGuard

/-- The move that is reported. -/
def Happening.move? : Happening → Option (CircuitState × CircuitState)
  | .transitioned source target => some (source, target)
  | _ => none

/-- The move that a guard of that name reports in the entry. -/
def Entry.move? (guard : String) : Entry → Option (CircuitState × CircuitState)
  | .emitted e => if e.guard = guard then e.happening.move? else none
  | _ => none

theorem CircuitState.name_inj {s t : CircuitState} : s.name = t.name ↔ s = t := by
  cases s <;> cases t <;> decide

theorem World.moves_reported (w : World) (guard : String) (listeners : List Listener)
    (h : Happening) :
    (w.reported guard listeners h).filterMap (Entry.move? guard) = h.move?.toList := by
  rw [filterMap_reported (fun _ _ => rfl), Entry.move?, if_pos rfl]

namespace Breaker

/-- What counts the moves to the state. -/
def moveCounter (b : Breaker) (target : CircuitState) : Counter :=
  ⟨"circuitbreaker_transitions_total", [("circuitbreaker", b.name), ("to", target.name)]⟩

/-- How often a move to the state was counted under the name of the breaker. -/
def movesTo (b : Breaker) (w : World) (target : CircuitState) : Nat :=
  w.tally.count (b.moveCounter target)

theorem movesTo_raise (b : Breaker) (w : World) (source target : CircuitState) :
    b.movesTo (w.raise (b.moveCounter source)) target =
      b.movesTo w target + [source].count target := by
  rw [movesTo, World.raise, Tally.count_raise, List.count_singleton]
  by_cases same : source = target
  · subst same
    simp [movesTo]
  · have other : b.moveCounter source ≠ b.moveCounter target := by
      simp [moveCounter, CircuitState.name_inj, same]
    simp [movesTo, other, same]

/-- From one world to the other these moves and no others are reported under the name of the breaker,
and each of them is counted. -/
structure Moves (b : Breaker) (w v : World) (moves : List (CircuitState × CircuitState)) : Prop where
  written : World.Picks (Entry.move? b.name) w v moves
  counted : ∀ target, b.movesTo v target = b.movesTo w target + (moves.map Prod.snd).count target

variable {b : Breaker} {u w v : World} {moves more : List (CircuitState × CircuitState)}

namespace Moves

theorem refl (w : World) : b.Moves w w [] :=
  ⟨.of_history rfl, fun _ => rfl⟩

theorem trans (first : b.Moves u w moves) (second : b.Moves w v more) :
    b.Moves u v (moves ++ more) := by
  refine ⟨first.written.trans second.written, fun target => ?_⟩
  rw [second.counted, first.counted, List.map_append, List.count_append, Nat.add_assoc]

/-- Where an operation begins does not matter beyond the journal and the counters. -/
theorem of_same (h : b.Moves u v moves) (history : u.history = w.history)
    (tally : u.tally = w.tally) : b.Moves w v moves := by
  constructor
  · rw [World.Picks, ← history]
    exact h.written
  · intro target
    rw [h.counted, movesTo, movesTo, tally]

end Moves

theorem moves_write (w : World) (e : Entry) (other : e.move? b.name = none) :
    b.Moves w (w.write e) [] :=
  ⟨w.picks_write other, fun _ => rfl⟩

theorem moves_raise (w : World) {c : Counter} (other : ∀ target, c ≠ b.moveCounter target) :
    b.Moves w (w.raise c) [] :=
  ⟨.of_history rfl, fun target => (Tally.count_raise _ _ _).trans (if_neg (other target))⟩

theorem moves_emit (w : World) (listeners : List Listener) {h : Happening} (other : h.move? = none) :
    b.Moves w (w.emit b.name listeners h) [] := by
  rw [World.emit_eq_append]
  refine ⟨⟨_, w.history_append _, ?_⟩, fun _ => rfl⟩
  rw [World.moves_reported, other]
  rfl

theorem moves_report (w : World) (h : Happening) :
    b.Moves w ((b.report h).run w).2 h.move?.toList := by
  cases h with
  | transitioned source target =>
    let counted := w.raise (b.moveCounter target)
    change b.Moves w (counted.emit b.name b.config.listeners (.transitioned source target)) _
    rw [World.emit_eq_append]
    constructor
    · exact ⟨_, counted.history_append _, World.moves_reported _ _ _ _⟩
    · exact b.movesTo_raise w target
  | _ => exact moves_emit w b.config.listeners rfl

theorem moves_reportAll (w : World) (happened : List Happening) :
    b.Moves w ((happened.forM b.report).run w).2 (happened.filterMap Happening.move?) := by
  induction happened generalizing w with
  | nil => exact .refl w
  | cons h rest ih =>
    have both := (moves_report w h).trans (ih ((b.report h).run w).2)
    have split : (h :: rest).filterMap Happening.move? =
        h.move?.toList ++ rest.filterMap Happening.move? := by
      cases moved : h.move? <;> simp [moved]
    rwa [← split] at both

theorem moves_update (w : World) (c : Circuit) (happened : List Happening) :
    b.Moves w ((b.update c happened).run w).2 (happened.filterMap Happening.move?) :=
  (moves_reportAll { w with circuits := w.circuits.setIfInBounds b.cell c } happened).of_same rfl rfl

theorem moves_acquire (w : World) : b.Moves w (b.acquire.run w).2
    (((b.circuit w).acquire b.config w.now).2.2.filterMap Happening.move?) := by
  rcases h : (b.circuit w).acquire b.config w.now with ⟨state | permit, d, happened⟩
  · have moved := moves_update (b := b) w d happened
    have asked := moved.trans (moves_write _ (.permissionAsked b.name false) rfl)
    have counted := asked.trans (moves_raise _ (c := ⟨"circuitbreaker_calls_rejected_total",
      [("circuitbreaker", b.name)]⟩) (by simp [moveCounter]))
    have told := counted.trans (moves_emit _ b.config.listeners (h := .breakerRejected state) rfl)
    rw [List.append_nil, List.append_nil, List.append_nil] at told
    rw [acquire_refused h]
    exact told
  · have moved := moves_update (b := b) w d happened
    have asked := moved.trans (moves_write _ (.permissionAsked b.name true) rfl)
    rw [List.append_nil] at asked
    rw [acquire_granted h]
    exact asked

theorem moves_force (w : World) (target : CircuitState) : b.Moves w ((b.force target).run w).2
    (((b.circuit w).transition target w.now).2.filterMap Happening.move?) := by
  rw [run_force]
  exact moves_update w _ _

theorem moves_recordAs (w : World) (failed : Bool) : b.Moves w ((b.recordAs failed).run w).2
    (((b.circuit w).record b.config w.now failed).2.filterMap Happening.move?) := by
  rw [run_recordAs]
  exact moves_update w _ _

/-- What can be done with a breaker. -/
inductive Operation where
  /-- A request for permission. -/
  | ask
  /-- An outcome, which may come late. -/
  | record (failed : Bool)
  /-- A permit is given back without an outcome. -/
  | abandon (permit : Option Nat)
  | forceOpen
  | reset

namespace Operation

def act (b : Breaker) : Operation → Act Unit
  | ask => do let _ ← b.acquire
  | record failed => b.recordAs failed
  | abandon permit => b.abandon permit
  | forceOpen => b.force .opened
  | reset => b.force .closed

/-- What the operation does to the circuit, and what happens then. -/
def effect (config : BreakerConfig) (now : Nanos) (c : Circuit) : Operation → Circuit × List Happening
  | ask => (c.acquire config now).2
  | record failed => c.record config now failed
  | abandon permit => (permit.elim c c.release, [])
  | forceOpen => c.transition .opened now
  | reset => c.transition .closed now

/-- Whether the circuit is moved by hand. -/
def isForced : Operation → Bool
  | forceOpen | reset => true
  | ask | record _ | abandon _ => false

/-- The moves that the operation can cause. -/
inductive Causes : Operation → CircuitState → CircuitState → Prop where
  | expired : Causes ask .opened .halfOpen
  | tripped (failed : Bool) : Causes (record failed) .closed .opened
  | relapsed (failed : Bool) : Causes (record failed) .halfOpen .opened
  | recovered (failed : Bool) : Causes (record failed) .halfOpen .closed
  | forced {source : CircuitState} (away : source ≠ .opened) : Causes forceOpen source .opened
  | reset {source : CircuitState} (away : source ≠ .closed) : Causes reset source .closed

theorem Causes.of_record {source target : CircuitState} (failed : Bool) (away : target ≠ source)
    (waits : source ≠ .opened) (decided : target ≠ .halfOpen) :
    Causes (record failed) source target := by
  cases source with
  | closed =>
    cases target with
    | closed => exact absurd rfl away
    | opened => exact .tripped failed
    | halfOpen => exact absurd rfl decided
  | opened => exact absurd rfl waits
  | halfOpen =>
    cases target with
    | closed => exact .recovered failed
    | opened => exact .relapsed failed
    | halfOpen => exact absurd rfl decided

theorem Causes.ne {op : Operation} {source target : CircuitState}
    (causes : op.Causes source target) : source ≠ target := by
  cases causes with
  | expired | tripped | relapsed | recovered => decide
  | forced away | reset away => exact away

/-- Only a request leads to the half-open state, and only from the open one. -/
theorem Causes.of_halfOpen {op : Operation} {source : CircuitState}
    (causes : op.Causes source .halfOpen) : source = .opened ∧ op = ask := by
  cases causes with
  | expired => exact ⟨rfl, rfl⟩

/-- The moves that are not made by hand. -/
def naturalMoves : List (CircuitState × CircuitState) :=
  [(.closed, .opened), (.opened, .halfOpen), (.halfOpen, .opened), (.halfOpen, .closed)]

theorem Causes.natural {op : Operation} {source target : CircuitState}
    (causes : op.Causes source target) (unforced : op.isForced = false) :
    (source, target) ∈ naturalMoves := by
  cases causes with
  | expired | tripped | relapsed | recovered => decide
  | forced | reset => cases unforced

theorem transition_cases (now : Nanos) (c : Circuit) (target : CircuitState) :
    ((c.transition target now).2.filterMap Happening.move? = [] ∧
      (c.transition target now).1.state = c.state) ∨
    c.state ≠ target ∧ (c.transition target now).2.filterMap Happening.move? = [(c.state, target)] ∧
      (c.transition target now).1.state = target := by
  by_cases already : c.state = target
  · left
    rw [Circuit.transition_self already]
    exact ⟨rfl, rfl⟩
  · right
    rw [Circuit.transition_of_ne already]
    exact ⟨already, rfl, rfl⟩

/-- The circuit stays in its state, or it makes a move that the operation can cause and reports
that move alone. -/
theorem effect_cases (config : BreakerConfig) (now : Nanos) (c : Circuit) (op : Operation) :
    ((op.effect config now c).2.filterMap Happening.move? = [] ∧
      (op.effect config now c).1.state = c.state) ∨
    ∃ target, (op.effect config now c).2.filterMap Happening.move? = [(c.state, target)] ∧
      (op.effect config now c).1.state = target ∧ op.Causes c.state target := by
  cases op with
  | ask =>
    rcases Circuit.acquire_cases config now c with
      ⟨-, eq⟩ | ⟨-, eq⟩ | ⟨opened, eq⟩ | ⟨-, -, eq⟩ | ⟨-, -, eq⟩
    · exact .inl (by simp [effect, eq])
    · exact .inl (by simp [effect, eq])
    · right
      refine ⟨.halfOpen, ?_, ?_, ?_⟩
      · simp [effect, eq, opened, Happening.move?]
      · simp [effect, eq, Circuit.moved]
      · rw [opened]
        exact .expired
    · exact .inl (by simp [effect, eq])
    · exact .inl (by simp [effect, eq])
  | record failed =>
    have plain : (Circuit.recorded failed).move? = none := by cases failed <;> rfl
    by_cases opened : c.state = .opened
    · exact .inl (by simp [effect, Circuit.record_opened opened, plain])
    · rcases Circuit.record_cases config now c failed with
        ⟨already, -⟩ | ⟨-, -, eq⟩ | ⟨-, -, eq⟩ | ⟨target, away, trial, eq⟩
      · exact absurd already opened
      · exact .inl (by simp [effect, eq, plain])
      · exact .inl (by simp [effect, eq, plain])
      · right
        refine ⟨target, ?_, ?_, ?_⟩
        · rw [effect, eq, List.filterMap_cons_none plain]
          rfl
        · rw [effect, eq]
          rfl
        · exact .of_record failed away opened trial
  | abandon permit =>
    left
    cases permit <;> simp [effect]
  | forceOpen =>
    rcases transition_cases now c .opened with unmoved | ⟨away, moved⟩
    · exact .inl unmoved
    · exact .inr ⟨.opened, moved.1, moved.2, .forced away⟩
  | reset =>
    rcases transition_cases now c .closed with unmoved | ⟨away, moved⟩
    · exact .inl unmoved
    · exact .inr ⟨.closed, moved.1, moved.2, .reset away⟩

variable {c : Circuit}

theorem circuit_act (op : Operation) (made : w.circuits[b.cell]? = some c) :
    ((op.act b).run w).2.circuits[b.cell]? = some (op.effect b.config w.now c).1 := by
  cases op with
  | ask => exact (leaves_acquire made).2.circuit
  | record failed => exact (leaves_recordAs made failed).circuit
  | abandon permit => exact (leaves_abandon made permit).circuit
  | forceOpen => exact (leaves_force made .opened).circuit
  | reset => exact (leaves_force made .closed).circuit

theorem moves_act (op : Operation) (w : World) : b.Moves w ((op.act b).run w).2
    ((op.effect b.config w.now (b.circuit w)).2.filterMap Happening.move?) := by
  cases op with
  | ask => exact moves_acquire w
  | record failed => exact moves_recordAs w failed
  | abandon permit =>
    cases permit with
    | none => exact .refl w
    | some epoch => exact moves_update w ((b.circuit w).release epoch) []
  | forceOpen => exact moves_force w .opened
  | reset => exact moves_force w .closed

end Operation

/-- A move of the circuit, with the operation that caused it. -/
structure Change where
  cause : Operation
  source : CircuitState
  target : CircuitState

namespace Change

/-- What is reported of it. -/
def move (change : Change) : CircuitState × CircuitState := (change.source, change.target)

/-- The changes lead from one state to another, each from where the one before it has led. -/
def Path : CircuitState → List Change → CircuitState → Prop
  | source, [], target => source = target
  | source, change :: rest, target => change.source = source ∧ Path change.target rest target

theorem Path.concat {source : CircuitState} {changes : List Change} {change : Change}
    (path : Path source changes change.source) : Path source (changes ++ [change]) change.target := by
  induction changes generalizing source with
  | nil => exact ⟨path.symm, rfl⟩
  | cons first rest ih => exact ⟨path.1, ih path.2⟩

end Change

/-- What the breaker reports in the course of an operation. -/
def changesBy (b : Breaker) (op : Operation) (w : World) : List Change :=
  ((((op.act b).run w).2.since w.written).filterMap (Entry.move? b.name)).map fun move =>
    ⟨op, move.1, move.2⟩

/-- The moves that a breaker reports from the start of a run to a world, in order. A run consists of
operations of the breaker, and of anything else that leaves its circuit alone; what the world was
before and after that is listed as well. -/
inductive Chronicle (b : Breaker) (start : World) : World → List Change → List (World × World) → Prop
    where
  | start : Chronicle b start start [] []
  | operate {w : World} {changes : List Change} {asides : List (World × World)}
      (before : Chronicle b start w changes asides) (op : Operation) :
      Chronicle b start ((op.act b).run w).2 (changes ++ b.changesBy op w) asides
  | elsewhere {w v : World} {changes : List Change} {asides : List (World × World)}
      (before : Chronicle b start w changes asides)
      (kept : v.circuits[b.cell]? = w.circuits[b.cell]?) :
      Chronicle b start v changes (asides ++ [(w, v)])

/-- What is written from one world to the other reports no moves under the name of the breaker. -/
def Silent (b : Breaker) (w v : World) : Prop := World.Picks (Entry.move? b.name) w v []

/-- What an operation reports is one move of the circuit that it can cause, or nothing. -/
theorem changesBy_cases (op : Operation) (w : World) :
    (b.changesBy op w = [] ∧ (op.effect b.config w.now (b.circuit w)).1.state = (b.circuit w).state) ∨
    ∃ target, b.changesBy op w = [⟨op, (b.circuit w).state, target⟩] ∧
      (op.effect b.config w.now (b.circuit w)).1.state = target ∧
      op.Causes (b.circuit w).state target := by
  rw [changesBy, (op.moves_act w).written.since]
  rcases op.effect_cases b.config w.now (b.circuit w) with ⟨none, same⟩ | ⟨target, one, moved, causes⟩
  · left
    rw [none]
    exact ⟨rfl, same⟩
  · right
    rw [one]
    exact ⟨target, rfl, moved, causes⟩

theorem moves_changesBy (op : Operation) (w : World) :
    b.Moves w ((op.act b).run w).2 ((b.changesBy op w).map Change.move) := by
  have moved := op.moves_act (b := b) w
  rw [← moved.written.since] at moved
  rw [changesBy, List.map_map]
  simpa [Function.comp_def, Change.move] using moved

namespace Chronicle

variable {start : World} {changes : List Change} {asides : List (World × World)}

/-- The circuit is where the reported moves have led, and each was one that its cause can cause. -/
theorem path (run : b.Chronicle start w changes asides)
    (made : start.circuits[b.cell]? = some .fresh) :
    ∃ c, w.circuits[b.cell]? = some c ∧ Change.Path .closed changes c.state ∧
      ∀ change ∈ changes, change.cause.Causes change.source change.target := by
  induction run with
  | start => exact ⟨.fresh, made, rfl, List.forall_mem_nil _⟩
  | @operate w changes asides before op ih =>
    obtain ⟨c, there, path, each⟩ := ih
    refine ⟨_, op.circuit_act there, ?_⟩
    rcases changesBy_cases (b := b) op w with ⟨none, same⟩ | ⟨target, one, moved, causes⟩
    · rw [circuit_of there] at same
      rw [none, List.append_nil, same]
      exact ⟨path, each⟩
    · rw [circuit_of there] at one moved causes
      rw [one, moved]
      exact ⟨Change.Path.concat path, List.forall_mem_append.mpr
        ⟨each, List.forall_mem_singleton.mpr causes⟩⟩
  | elsewhere before kept ih =>
    obtain ⟨c, there, path, each⟩ := ih
    exact ⟨c, kept.trans there, path, each⟩

/-- Every reported move has been counted, besides what was counted otherwise. -/
theorem counted (run : b.Chronicle start w changes asides) (target : CircuitState) :
    (b.movesTo w target : Int) = b.movesTo start target +
      (asides.map fun a => (b.movesTo a.2 target : Int) - b.movesTo a.1 target).sum +
      (changes.map Change.target).count target := by
  induction run with
  | start => simp
  | @operate w changes asides before op ih =>
    have more := (moves_changesBy (b := b) op w).counted target
    rw [List.map_map] at more
    change _ = _ + List.count target ((b.changesBy op w).map Change.target) at more
    rw [List.map_append, List.count_append]
    omega
  | @elsewhere w v changes asides before kept ih =>
    rw [List.map_append, List.sum_append, List.map_singleton, List.sum_singleton]
    dsimp only
    omega

/-- If nothing else reports moves under that name, the journal has the reported moves and no others. -/
theorem written (run : b.Chronicle start w changes asides)
    (silent : ∀ aside ∈ asides, b.Silent aside.1 aside.2) :
    World.Picks (Entry.move? b.name) start w (changes.map Change.move) := by
  induction run with
  | start => exact .of_history rfl
  | @operate w changes asides before op ih =>
    rw [List.map_append]
    exact (ih silent).trans (moves_changesBy op w).written
  | @elsewhere w v changes asides before kept ih =>
    obtain ⟨earlier, last⟩ := List.forall_mem_append.mp silent
    have nothing : b.Silent w v := last (w, v) (List.mem_singleton_self _)
    have told := (ih earlier).trans nothing
    rwa [List.append_nil] at told

/-- A chronicle goes on through every course of the breaker. -/
theorem continues (run : b.Chronicle start w changes asides) (course : b.Course w v) :
    ∃ more others, b.Chronicle start v (changes ++ more) (asides ++ others) := by
  induction course with
  | refl => exact ⟨[], [], by rwa [List.append_nil, List.append_nil]⟩
  | @tail x y _ turn ih =>
    obtain ⟨more, others, run⟩ := ih
    have operate (op : Operation) : ∃ more others,
        b.Chronicle start ((op.act b).run x).2 (changes ++ more) (asides ++ others) :=
      ⟨_, _, List.append_assoc changes _ _ ▸ run.operate op⟩
    cases turn with
    | ask => exact operate .ask
    | record failed => exact operate (.record failed)
    | abandon permit => exact operate (.abandon permit)
    | force target byHand =>
      cases target with
      | closed => exact operate .reset
      | opened => exact operate .forceOpen
      | halfOpen => exact absurd rfl byHand
    | elsewhere kept later =>
      exact ⟨_, _, List.append_assoc asides _ _ ▸ run.elsewhere kept⟩

end Chronicle

/-- **The reported moves form a path.** In every run of a new breaker, whatever calls, late outcomes
and operations by hand it consists of, the moves that are reported lead from the closed state to the
state that the circuit is in, each from where the one before it has led and to another state. None
leads from the closed to the half-open state; the half-open state is entered from the open one and
only by a request; and all that is not done by hand makes one of four moves. The counter of the moves
to a state has grown by the number of the reported ones, besides what others of the same name have
counted; and if these report nothing, the journal has the same moves in the same order. Calls through
the breaker are runs of this kind. -/
theorem moves_form_path {start : World} {changes : List Change} {asides : List (World × World)}
    (made : start.circuits[b.cell]? = some .fresh) (run : b.Chronicle start w changes asides) :
    Change.Path .closed changes (b.circuit w).state ∧
    (∀ change ∈ changes, change.source ≠ change.target ∧
      ¬(change.source = .closed ∧ change.target = .halfOpen) ∧
      (change.target = .halfOpen → change.source = .opened ∧ change.cause = .ask) ∧
      (change.cause.isForced = false → change.move ∈ Operation.naturalMoves)) ∧
    (∀ target, (b.movesTo w target : Int) = b.movesTo start target +
      (asides.map fun aside => (b.movesTo aside.2 target : Int) - b.movesTo aside.1 target).sum +
      (changes.map Change.target).count target) ∧
    ((∀ aside ∈ asides, b.Silent aside.1 aside.2) →
      (w.since start.written).filterMap (Entry.move? b.name) = changes.map Change.move) ∧
    (∀ v, b.Course w v →
      ∃ more others, b.Chronicle start v (changes ++ more) (asides ++ others)) ∧
    (∀ call : Direct, (∀ args, b.Runs (call args)) → ∀ args, b.Runs (b.direct call args)) ∧
    ∀ {W : Type} (call : Deferred W), b.RunsDeferred call → b.RunsDeferred (b.deferred call) := by
  obtain ⟨c, there, path, each⟩ := run.path made
  rw [circuit_of there]
  refine ⟨path, ?_, run.counted, ?_, fun v course => run.continues course, ?_, ?_⟩
  · intro change mem
    have causes := each change mem
    refine ⟨causes.ne, ?_, ?_, causes.natural⟩
    · rintro ⟨closed, half⟩
      rw [closed, half] at causes
      cases causes.of_halfOpen.1
    · intro half
      rw [half] at causes
      exact causes.of_halfOpen
  · intro silent
    exact (run.written silent).since
  · intro call inside args
    exact .direct inside args
  · intro W call inside
    exact Runs.deferred inside

/-- The circuit has been opened by hand, and after the wait a trial call has succeeded. -/
def probed : World :=
  ((patient.recordAs false).run (patient.acquire.run (tripped.pass 60)).2).2

theorem chronicle_probed : ∃ changes,
    patient.Chronicle quiet probed changes [(tripped, tripped.pass 60)] ∧
    changes.map Change.move = [(.closed, .opened), (.opened, .halfOpen), (.halfOpen, .closed)] := by
  have new : patient.Chronicle quiet quiet [] [] := .start
  have opened := new.operate .forceOpen
  have waited := opened.elsewhere (v := tripped.pass 60) rfl
  have closed := (waited.operate .ask).operate (.record false)
  exact ⟨_, closed, by decide +kernel⟩

/-- The journal has the three moves, of which the one to the half-open state is counted once. -/
theorem moves_form_path_probed :
    (probed.since quiet.written).filterMap (Entry.move? "patient") =
      [(.closed, .opened), (.opened, .halfOpen), (.halfOpen, .closed)] ∧
    (patient.movesTo probed .halfOpen : Int) = 1 ∧
    ∃ changes, changes.map Change.move =
        [(.closed, .opened), (.opened, .halfOpen), (.halfOpen, .closed)] ∧
      Change.Path .closed changes (patient.circuit probed).state := by
  obtain ⟨changes, run, moves⟩ := chronicle_probed
  obtain ⟨path, -, counted, written, -⟩ := moves_form_path rfl run
  have silent : ∀ aside ∈ [(tripped, tripped.pass 60)], patient.Silent aside.1 aside.2 :=
    List.forall_mem_singleton.mpr (.of_history rfl)
  have targets : changes.map Change.target = [.opened, .halfOpen, .closed] := by
    have all := congrArg (List.map Prod.snd) moves
    rwa [List.map_map] at all
  have once := counted .halfOpen
  rw [targets] at once
  exact ⟨(written silent).trans moves, once, changes, moves, path⟩

end Breaker

end CallGuard
