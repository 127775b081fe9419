import CallGuard.Proofs.Acts
import CallGuard.Call
import CallGuard.Scheduler

/-!
# Waiting for deferred calls

Whoever waits for a deferred call polls it while the clocks run from millisecond to millisecond. How
often is no matter as long as polls that find the call waiting change nothing, and then everybody
who waits sees the same end. Main statements: `Leads.lasts` and `Leads.eq_of_lasts`, that such a call
has an end and that it has only one.
-/

namespace CallGuard

theorem World.pass_pass (w : World) (d e : Nanos) : (w.pass d).pass e = w.pass (d + e) := by
  unfold pass
  simp [Nat.add_assoc]

/-- A full millisecond is a tick of its own. -/
theorem Nanos.nextTick_le_tick {a b : Nat} (whole : perMilli ∣ a) (h : a ≤ b) :
    nextTick a ≤ tick b := by
  unfold perMilli at whole
  unfold nextTick tick perMilli
  omega

/-- A timer that is due at a full millisecond rings on time. -/
theorem Timer.isOver_start {s : Scheduler} {now length : Nanos} (wait : length ≠ 0)
    (whole : Nanos.perMilli ∣ now + length) (clock : Scheduler → Nanos) :
    (start s now length).isOver clock ↔ now + length ≤ clock s := by
  refine ⟨le_of_isOver wait, fun late => ?_⟩
  rw [start_of_ne_zero wait, isOver, decide_eq_true_eq]
  exact Nanos.nextTick_le_tick whole late

namespace Deferred

variable {W V : Type} {call : Deferred W}

/-- Starts a call and polls it for the first time. -/
def opening (call : Deferred W) (args : Args) : Act (Progress W) := do
  match ← call.start args with
  | .error text => return .done (.crashed text)
  | .ok m => call.poll m

/-- What comes after the opening comes after the start if that has crashed, and after the poll. -/
theorem opening_bind {A : Type} (call : Deferred W) (args : Args) (next : Progress W → Act A) :
    call.opening args >>= next = call.start args >>= fun started =>
      match started with
      | .error text => next (.done (.crashed text))
      | .ok m => call.poll m >>= next := by
  funext w
  change (call.opening args >>= next).run w = _
  rw [Act.run_bind, opening, Act.run_bind]
  change _ = (call.start args >>= _).run w
  rw [Act.run_bind]
  cases ((call.start args).run w).1 <;> rfl

/-- From how far a call has come to its reply: it is polled again and again, at once or after a
millisecond. -/
inductive Lasts (call : Deferred W) : Progress W × World → Reply × World → Prop where
  | done (reply : Reply) (w : World) : Lasts call (.done reply, w) (reply, w)
  | again {m : W} {w : World} {last : Reply × World}
      (rest : Lasts call ((call.poll m).run w) last) : Lasts call (.waiting m, w) last
  | later {m : W} {w : World} {last : Reply × World}
      (rest : Lasts call ((call.poll m).run (w.pass Nanos.perMilli)) last) :
      Lasts call (.waiting m, w) last

/-- From how far a call has come to its reply, when it is polled once every millisecond and a second
poll would find everything as it is. -/
inductive Leads (call : Deferred W) : Progress W × World → Reply × World → Prop where
  | done (reply : Reply) (w : World) : Leads call (.done reply, w) (reply, w)
  | wait {m : W} {w : World} {last : Reply × World}
      (still : (call.poll m).run w = (.waiting m, w))
      (rest : Leads call ((call.poll m).run (w.pass Nanos.perMilli)) last) :
      Leads call (.waiting m, w) last

namespace Leads

variable {progress : Progress W × World} {last other : Reply × World}

/-- The call ends for somebody who waits for it. -/
theorem lasts (led : call.Leads progress last) : call.Lasts progress last := by
  induction led with
  | done reply w => exact .done reply w
  | wait still rest ih => exact .later ih

/-- The call ends in the same way for everybody who waits for it. -/
theorem eq_of_lasts (lasted : call.Lasts progress other) (led : call.Leads progress last) :
    other = last := by
  induction lasted with
  | done reply w =>
    cases led
    rfl
  | again _ ih =>
    -- One more poll finds the call where it was, and so it still leads to the same end.
    obtain - | ⟨still, rest⟩ := led
    refine ih ?_
    rw [still]
    exact .wait still rest
  | later _ ih =>
    obtain - | ⟨still, rest⟩ := led
    exact ih rest

end Leads

/-- What the outer call remembers is what the inner one remembers and a bit more, and its polls poll
the inner one and then go on. -/
structure Wraps (outer : Deferred V) (inner : Deferred W) (wrap : W → V)
    (onward : Progress W → Act (Progress V)) : Prop where
  polls : ∀ m, outer.poll (wrap m) = inner.poll m >>= onward
  waits : ∀ m, onward (.waiting m) = pure (.waiting (wrap m))

/-- When the inner call has its reply the outer one goes on. -/
theorem Wraps.leads {outer : Deferred V} {inner : Deferred W} {wrap : W → V}
    {onward : Progress W → Act (Progress V)} (wraps : outer.Wraps inner wrap onward)
    {progress : Progress W × World} {reply : Reply} {w : World} {last : Reply × World}
    (led : inner.Leads progress (reply, w))
    (rest : outer.Leads ((onward (.done reply)).run w) last) :
    outer.Leads ((onward progress.1).run progress.2) last := by
  generalize ended : (reply, w) = inside at led
  induction led with
  | done reply w =>
    cases ended
    exact rest
  | @wait m v _ still _ ih =>
    have same : ∀ v, (outer.poll (wrap m)).run v =
        (onward ((inner.poll m).run v).1).run ((inner.poll m).run v).2 := by
      intro v
      rw [wraps.polls, Act.run_bind]
    rw [wraps.waits]
    refine .wait ?_ ?_
    · rw [same, still, wraps.waits]
      rfl
    · rw [same]
      exact ih ended

/-- A call that waits until its time has come on the clock of a scheduler, while the clocks run so many
milliseconds. -/
theorem Leads.sleep {m : W} {s : Scheduler} {due : Nanos} {next : Act (Progress W)}
    (polls : ∀ w, (call.poll m).run w = if due ≤ w.clock s then next.run w else (.waiting m, w))
    (n : Nat) {last : Reply × World} :
    ∀ {w : World}, w.clock s + Nanos.perMilli * n = due →
      call.Leads (next.run (w.pass (Nanos.perMilli * n))) last →
      call.Leads ((call.poll m).run w) last := by
  induction n with
  | zero =>
    intro w shown rest
    have late : due ≤ w.clock s := Nat.le_of_eq shown.symm
    rw [polls, if_pos late]
    exact rest
  | succ n ih =>
    intro w shown rest
    have early : ¬ due ≤ w.clock s := by
      rw [← shown, Nat.mul_succ]
      exact Nat.not_le_of_lt (Nat.lt_add_of_pos_right (Nat.add_pos_right _ (by decide)))
    have still : (call.poll m).run w = (.waiting m, w) := by rw [polls, if_neg early]
    have apart : Nanos.perMilli + Nanos.perMilli * n = Nanos.perMilli * (n + 1) := by
      rw [Nat.mul_succ, Nat.add_comm]
    rw [still]
    refine .wait still (ih ?_ ?_)
    · rw [World.clock_pass, Nat.add_assoc, apart]
      exact shown
    · rw [World.pass_pass, apart]
      exact rest

end Deferred

end CallGuard
