import CallGuard.Breaker.Call
import CallGuard.Proofs.Acts
import CallGuard.Proofs.Breaker.Moves

/-!
# What a breaker does in the world

Each operation of a breaker leaves its circuit as the circuit's own operation does, lets no time
pass, and reports the outcomes that it records and no others. `Leaves` says so in one relation,
which composes.
-/

namespace CallGuard

/-- The recorded outcome that it reports; `true` is a failure. -/
def Happening.recorded? : Happening → Option Bool
  | .successRecorded => some false
  | .failureRecorded => some true
  | _ => none

/-- The recorded outcome that a guard reports in the entry. -/
def Entry.recorded? : Entry → Option Bool
  | .emitted e => e.happening.recorded?
  | _ => none

namespace Breaker

/-- From one world to the other the breaker's circuit becomes the given one, no time passes, and
these outcomes and no others are reported as recorded. -/
structure Leaves (b : Breaker) (w v : World) (c : Circuit) (outcomes : List Bool) : Prop where
  circuit : v.circuits[b.cell]? = some c
  now : v.now = w.now
  written : ∃ entries, v.history = w.history ++ entries ∧
    entries.filterMap Entry.recorded? = outcomes

variable {b : Breaker} {w v : World} {c d : Circuit}

theorem Leaves.refl (made : w.circuits[b.cell]? = some c) : b.Leaves w w c [] :=
  ⟨made, rfl, World.Picks.of_history rfl⟩

theorem Leaves.trans {u : World} {os more : List Bool} (first : b.Leaves u w c os)
    (second : b.Leaves w v d more) : b.Leaves u v d (os ++ more) :=
  ⟨second.circuit, second.now.trans first.now, World.Picks.trans first.written second.written⟩

/-- What is written from one world to the other reports just these outcomes. -/
theorem Leaves.recorded_since {os : List Bool} (h : b.Leaves w v c os) :
    (v.since w.written).filterMap Entry.recorded? = os := World.Picks.since h.written

theorem leaves_emit (made : w.circuits[b.cell]? = some c) (listeners : List Listener)
    (h : Happening) :
    b.Leaves w (w.emit b.name listeners h) c h.recorded?.toList := by
  rw [World.emit_eq_append]
  exact ⟨made, rfl, _, w.history_append _, World.filterMap_reported (fun _ _ => rfl) w _ _ h⟩

theorem leaves_write (made : w.circuits[b.cell]? = some c) (e : Entry)
    (other : e.recorded? = none) : b.Leaves w (w.write e) c [] :=
  ⟨made, rfl, World.picks_write w other⟩

/-- Where an operation begins does not matter beyond the clock and the journal. -/
theorem Leaves.of_same {u : World} {os : List Bool} (h : b.Leaves u v c os) (now : u.now = w.now)
    (history : u.history = w.history) : b.Leaves w v c os :=
  ⟨h.circuit, h.now.trans now, history ▸ h.written⟩

theorem leaves_report (made : w.circuits[b.cell]? = some c) (h : Happening) :
    b.Leaves w ((b.report h).run w).2 c h.recorded?.toList := by
  cases h with
  | transitioned source target =>
    let counted := w.raise ⟨"circuitbreaker_transitions_total",
      [("circuitbreaker", b.name), ("to", target.name)]⟩
    have emitted := leaves_emit (w := counted) made b.config.listeners (.transitioned source target)
    exact emitted.of_same rfl rfl
  | _ => exact leaves_emit made b.config.listeners _

theorem leaves_reportAll (made : w.circuits[b.cell]? = some c) (happened : List Happening) :
    b.Leaves w ((happened.forM b.report).run w).2 c (happened.filterMap Happening.recorded?) := by
  induction happened generalizing w with
  | nil => exact .refl made
  | cons h rest ih =>
    have first := leaves_report made h
    have both := first.trans (ih first.circuit)
    have split : (h :: rest).filterMap Happening.recorded? =
        h.recorded?.toList ++ rest.filterMap Happening.recorded? := by
      cases recorded : h.recorded? <;> simp [recorded]
    rwa [← split] at both

theorem leaves_update (made : w.circuits[b.cell]? = some d) (c : Circuit)
    (happened : List Happening) :
    b.Leaves w ((b.update c happened).run w).2 c (happened.filterMap Happening.recorded?) := by
  obtain ⟨inside, -⟩ := Array.getElem?_eq_some_iff.mp made
  have put : (w.circuits.setIfInBounds b.cell c)[b.cell]? = some c := by
    rw [Array.getElem?_setIfInBounds_self, if_pos inside]
  let replaced := { w with circuits := w.circuits.setIfInBounds b.cell c }
  exact (leaves_reportAll (w := replaced) put happened).of_same rfl rfl

theorem circuit_of (made : w.circuits[b.cell]? = some c) : b.circuit w = c := by
  rw [circuit, made, Option.getD_some]

theorem acquire_granted {permit : Option Nat} {happened : List Happening}
    (h : (b.circuit w).acquire b.config w.now = (.ok permit, d, happened)) :
    b.acquire.run w =
      (.ok permit, ((b.update d happened).run w).2.write (.permissionAsked b.name true)) := by
  simp only [acquire, StateT.run_bind, StateT.run_get, pure_bind, h]
  rfl

theorem acquire_refused {state : CircuitState} {happened : List Happening}
    (h : (b.circuit w).acquire b.config w.now = (.error state, d, happened)) :
    b.acquire.run w = (.error (.callNotPermitted b.name state),
      ((((b.update d happened).run w).2.write (.permissionAsked b.name false)).raise
        ⟨"circuitbreaker_calls_rejected_total", [("circuitbreaker", b.name)]⟩).emit b.name
          b.config.listeners (.breakerRejected state)) := by
  simp only [acquire, StateT.run_bind, StateT.run_get, pure_bind, h]
  rfl

/-- A request is answered as by the circuit, and the fault of a refusal names the breaker. -/
theorem leaves_acquire (made : w.circuits[b.cell]? = some c) :
    (b.acquire.run w).1 =
        (c.acquire b.config w.now).1.mapError (.callNotPermitted b.name) ∧
      b.Leaves w (b.acquire.run w).2 (c.acquire b.config w.now).2.1 [] := by
  have quiet : (c.acquire b.config w.now).2.2.filterMap Happening.recorded? = [] := by
    rcases Circuit.acquire_cases b.config w.now c with
      ⟨-, h⟩ | ⟨-, h⟩ | ⟨-, h⟩ | ⟨-, -, h⟩ | ⟨-, -, h⟩ <;> rw [h] <;> rfl
  have updated := leaves_update made (c.acquire b.config w.now).2.1 (c.acquire b.config w.now).2.2
  rw [quiet] at updated
  rcases h : c.acquire b.config w.now with ⟨state | permit, d, happened⟩ <;> rw [h] at updated
  · have asked := updated.trans
      (leaves_write updated.circuit (.permissionAsked b.name false) rfl)
    rw [acquire_refused (by rw [circuit_of made, h])]
    let counted := (((b.update d happened).run w).2.write (.permissionAsked b.name false)).raise
      ⟨"circuitbreaker_calls_rejected_total", [("circuitbreaker", b.name)]⟩
    have told :=
      leaves_emit (w := counted) asked.circuit b.config.listeners (.breakerRejected state)
    exact ⟨rfl, asked.trans (told.of_same rfl rfl)⟩
  · have asked := updated.trans
      (leaves_write updated.circuit (.permissionAsked b.name true) rfl)
    rw [acquire_granted (by rw [circuit_of made, h])]
    exact ⟨rfl, asked⟩

/-- An operation on the circuit, with all that follows from it. -/
theorem run_updating (f : World → Circuit × List Happening) :
    StateT.run (do
      let w ← get
      let (c, happened) := f w
      b.update c happened : Act Unit) w = (b.update (f w).1 (f w).2).run w := rfl

theorem run_recordAs (failed : Bool) :
    let answer := (b.circuit w).record b.config w.now failed
    (b.recordAs failed).run w = (b.update answer.1 answer.2).run w :=
  run_updating fun w => (b.circuit w).record b.config w.now failed

theorem run_force (target : CircuitState) :
    let answer := (b.circuit w).transition target w.now
    (b.force target).run w = (b.update answer.1 answer.2).run w :=
  run_updating fun w => (b.circuit w).transition target w.now

theorem leaves_recordAs (made : w.circuits[b.cell]? = some c) (failed : Bool) :
    b.Leaves w ((b.recordAs failed).run w).2 (c.record b.config w.now failed).1 [failed] := by
  have once : (c.record b.config w.now failed).2.filterMap Happening.recorded? = [failed] := by
    rcases Circuit.record_cases b.config w.now c failed with
      ⟨-, h⟩ | ⟨-, -, h⟩ | ⟨-, -, h⟩ | ⟨target, -, -, h⟩ <;> rw [h] <;> cases failed <;> rfl
  have updated := leaves_update made (c.record b.config w.now failed).1
    (c.record b.config w.now failed).2
  rw [once] at updated
  rw [run_recordAs, circuit_of made]
  exact updated

theorem leaves_abandon (made : w.circuits[b.cell]? = some c) (permit : Option Nat) :
    b.Leaves w ((b.abandon permit).run w).2 (permit.elim c c.release) [] := by
  cases permit with
  | none => exact .refl made
  | some epoch =>
    have updated := leaves_update made (c.release epoch) []
    rwa [← circuit_of made] at updated ⊢

theorem leaves_force (made : w.circuits[b.cell]? = some c) (target : CircuitState) :
    b.Leaves w ((b.force target).run w).2 (c.transition target w.now).1 [] := by
  have quiet : (c.transition target w.now).2.filterMap Happening.recorded? = [] := by
    by_cases h : c.state = target
    · rw [Circuit.transition_self h]
      rfl
    · rw [Circuit.transition_of_ne h]
      rfl
  have updated := leaves_update made (c.transition target w.now).1 (c.transition target w.now).2
  rw [quiet] at updated
  rw [run_force, circuit_of made]
  exact updated

end Breaker

end CallGuard
