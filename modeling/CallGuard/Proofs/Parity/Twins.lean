import CallGuard.Chain.Call
import CallGuard.Proofs.Services

/-!
# Twin worlds

Two worlds are twins when they differ in nothing but the delays that were asked for, of which only
deferred calls ask. What guards, mappers, handlers and services do agrees in twin worlds: it has the
same result in both and leaves twins.
-/

namespace CallGuard

/-- Whether the entry is a request for a delay. -/
def Entry.isDelay : Entry → Bool
  | .delayAsked _ => true
  | _ => false

namespace World

/-- The world as it would be if nobody had asked for a delay. -/
def withoutDelays (w : World) : World :=
  { w with journal := w.journal.filter fun e => !e.isDelay }

theorem withoutDelays_append (w : World) (entries : List Entry) :
    (w.append entries).withoutDelays =
      w.withoutDelays.append (entries.filter fun e => !e.isDelay) := by
  simp [withoutDelays, append, Array.filter_append]

theorem withoutDelays_delayAsked (w : World) (d : Nanos) :
    (w.append [.delayAsked d]).withoutDelays = w.withoutDelays := by
  rw [withoutDelays_append]
  exact append_nil _

theorem withoutDelays_reported (w : World) (guard : String) (listeners : List Listener)
    (h : Happening) :
    (w.append (w.reported guard listeners h)).withoutDelays =
      w.withoutDelays.append (w.withoutDelays.reported guard listeners h) := by
  rw [withoutDelays_append]
  refine congrArg _ (List.filter_eq_self.mpr fun e mem => ?_)
  rcases List.mem_cons.mp mem with rfl | heard
  · rfl
  · obtain ⟨label, -, rfl⟩ := List.mem_map.mp heard
    rfl

theorem withoutDelays_reach (w : World) (number : Nat) (operation : String) (args : Args) :
    (w.reach number operation args).withoutDelays =
      w.withoutDelays.reach number operation args := by
  simp [reach, withoutDelays, append, service, Entry.isDelay, Array.filter_append]

end World

/-- A call of a service ends with a value or a fault after whole milliseconds. -/
structure Plan.IsPlain (p : Plan) : Prop where
  ends : ∀ text, p.ending ≠ .crash text
  whole : Nanos.perMilli ∣ p.sleep
  ungated : p.gate = none
  finite : p.hangs = false
  silent : p.reentry = none

namespace Service

/-- All calls of the service are plain. -/
def IsPlain (s : Service) : Prop := ∀ p ∈ s.script, p.IsPlain

theorem plan_isPlain {s : Service} (h : s.IsPlain) : s.plan.IsPlain := by
  have echo : (Plan.ofEnding .echo).IsPlain :=
    ⟨fun _ => Ending.noConfusion, Nat.dvd_zero _, rfl, rfl, rfl⟩
  unfold plan planAt
  cases planned : s.script[s.taken]? with
  | some p => exact h p (List.mem_of_getElem? planned)
  | none =>
    cases last : s.script.getLast? with
    | some p => exact h p (List.mem_of_getLast? last)
    | none => exact echo

theorem advance_isPlain {s : Service} (h : s.IsPlain) : s.advance.IsPlain := h

end Service

theorem World.service_reach (w : World) (number : Nat) (operation : String) (args : Args) (n : Nat) :
    (w.reach number operation args).service n = w.service n ∨
      (w.reach number operation args).service n = (w.service n).advance := by
  unfold service reach
  rw [Array.getElem?_setIfInBounds]
  by_cases own : number = n
  · subst own
    by_cases inside : number < w.services.size
    · right
      simp [inside, service]
    · left
      simp [inside]
  · left
    simp [own]

/-- What calls have to do with: the services that they reach, and the scheduler on which they wait. -/
structure Scope where
  reaches : Nat → Prop
  scheduler : Scheduler

/-- The worlds differ at most in the delays that were asked for. The clock by which calls wait shows
whole milliseconds, and the services that they reach are plain; those made later are among them. -/
structure Twins (S : Scope) (w v : World) : Prop where
  same : v.withoutDelays = w.withoutDelays
  whole : Nanos.perMilli ∣ w.clock S.scheduler
  plain : ∀ n, S.reaches n → (w.service n).IsPlain
  fresh : ∀ n, w.services.size ≤ n → S.reaches n

namespace Twins

variable {S : Scope} {w v : World}

/-- Twins agree in everything that does not show delays. -/
theorem agree (h : Twins S w v) {A : Type} (f : World → A) (apart : ∀ w, f w.withoutDelays = f w) :
    f v = f w := by
  rw [← apart v, h.same, apart w]

theorem clock (h : Twins S w v) : v.clock = w.clock := h.agree World.clock fun _ => rfl

/-- The same change that has nothing to do with delays, clocks or services. -/
theorem change (h : Twins S w v) {f : World → World}
    (apart : ∀ w, (f w).withoutDelays = f w.withoutDelays) (clock : (f w).clock = w.clock)
    (services : (f w).services = w.services) : Twins S (f w) (f v) where
  same := by rw [apart, apart, h.same]
  whole := by rw [clock]; exact h.whole
  plain n reached := by
    rw [World.service, services]
    exact h.plain n reached
  fresh n beyond := h.fresh n (by rwa [services] at beyond)

theorem delayAsked (h : Twins S w v) (d : Nanos) : Twins S w (v.append [.delayAsked d]) where
  same := (v.withoutDelays_delayAsked d).trans h.same
  whole := h.whole
  plain := h.plain
  fresh := h.fresh

theorem pass (h : Twins S w v) {d : Nanos} (whole : Nanos.perMilli ∣ d) :
    Twins S (w.pass d) (v.pass d) where
  same := congrArg (·.pass d) h.same
  whole := by
    rw [World.clock_pass]
    exact Nat.dvd_add h.whole whole
  plain := h.plain
  fresh := h.fresh

theorem reach (h : Twins S w v) (number : Nat) (operation : String) (args : Args) :
    Twins S (w.reach number operation args) (v.reach number operation args) where
  same := by rw [World.withoutDelays_reach, World.withoutDelays_reach, h.same]
  whole := h.whole
  plain n reached := by
    rcases w.service_reach number operation args n with same | moved
    · rw [same]
      exact h.plain n reached
    · rw [moved]
      exact Service.advance_isPlain (h.plain n reached)
  fresh n beyond := h.fresh n (by simpa [World.reach] using beyond)

theorem enroll (h : Twins S w v) {s : Service} (plain : s.IsPlain) :
    Twins S { w with services := w.services.push s } { v with services := v.services.push s } where
  same := congrArg (fun w : World => { w with services := w.services.push s }) h.same
  whole := h.whole
  plain n reached := by
    unfold World.service
    rw [Array.getElem?_push]
    split
    · exact plain
    · exact h.plain n reached
  fresh n beyond := h.fresh n (by simp only [Array.size_push] at beyond; omega)

end Twins

namespace Act

variable {A B : Type} {S : Scope} {act : Act A} {next : A → Act B} {goal : A → Prop}
  {result : B → Prop}

/-- In twin worlds the act has the same result, which is as it should be, and leaves twins. -/
def Agrees (act : Act A) (S : Scope) (goal : A → Prop) : Prop :=
  ∀ w v, Twins S w v →
    (act.run v).1 = (act.run w).1 ∧ goal (act.run w).1 ∧ Twins S (act.run w).2 (act.run v).2

namespace Agrees

theorem pure {a : A} (reached : goal a) : (pure a : Act A).Agrees S goal :=
  fun _ _ twins => ⟨rfl, reached, twins⟩

theorem bind (first : act.Agrees S goal) (rest : ∀ a, goal a → (next a).Agrees S result) :
    (act >>= next).Agrees S result := by
  intro w v twins
  obtain ⟨same, reached, between⟩ := first w v twins
  rw [run_bind, run_bind, same]
  exact rest _ reached _ _ between

theorem imp {weaker : A → Prop} (h : act.Agrees S goal) (implies : ∀ a, goal a → weaker a) :
    act.Agrees S weaker := by
  intro w v twins
  obtain ⟨same, reached, after⟩ := h w v twins
  exact ⟨same, implies _ reached, after⟩

/-- What follows may depend on the world as it is without the requests for delays. -/
theorem get_bind {next : World → Act B} (apart : ∀ w, next w.withoutDelays = next w)
    (rest : ∀ w, (next w).Agrees S result) : ((get : Act World) >>= next).Agrees S result := by
  intro w v twins
  rw [run_get_bind, run_get_bind, twins.agree next apart]
  exact rest w w v twins

theorem change {f : World → World} (apart : ∀ w, (f w).withoutDelays = f w.withoutDelays)
    (clock : ∀ w, (f w).clock = w.clock) (services : ∀ w, (f w).services = w.services) :
    (modify f : Act Unit).Agrees S fun _ => True :=
  fun w _ twins => ⟨rfl, trivial, twins.change apart (clock w) (services w)⟩

end Agrees

theorem agrees_write {e : Entry} (other : e.isDelay = false) :
    (write e).Agrees S fun _ => True := by
  intro w v twins
  rw [run_write, run_write]
  refine ⟨rfl, trivial, twins.change (f := fun w => w.append [e]) (fun w => ?_) rfl rfl⟩
  rw [World.withoutDelays_append]
  simp [other]

theorem agrees_raise (metric : String) (labels : List (String × String)) :
    (raise metric labels).Agrees S fun _ => True :=
  .change (fun _ => rfl) (fun _ => rfl) (fun _ => rfl)

theorem agrees_emit (guard : String) (listeners : List Listener) (h : Happening) :
    (emit guard listeners h).Agrees S fun _ => True := by
  intro w v twins
  rw [run_emit, run_emit]
  exact ⟨rfl, trivial, twins.change (f := fun w => w.append (w.reported guard listeners h))
    (fun w => w.withoutDelays_reported guard listeners h) rfl rfl⟩

end Act

variable {S : Scope}

namespace Breaker

variable (b : Breaker)

theorem agrees_update (c : Circuit) (happened : List Happening) :
    (b.update c happened).Agrees S fun _ => True := by
  refine .bind (.change (fun _ => rfl) (fun _ => rfl) (fun _ => rfl)) fun _ _ => ?_
  induction happened with
  | nil => exact .pure trivial
  | cons h rest ih =>
    have reported : (b.report h).Agrees S fun _ => True := by
      cases h with
      | transitioned source target =>
        exact .bind (Act.agrees_raise _ _) fun _ _ => Act.agrees_emit _ _ _
      | _ => exact Act.agrees_emit _ _ _
    exact .bind reported fun _ _ => ih

theorem agrees_acquire : b.acquire.Agrees S fun _ => True := by
  refine .get_bind (fun _ => rfl) fun w => ?_
  obtain ⟨state | permit, c, happened⟩ := (b.circuit w).acquire b.config w.now
  · refine .bind (b.agrees_update c happened) fun _ _ => ?_
    refine .bind (Act.agrees_write rfl) fun _ _ => ?_
    refine .bind (Act.agrees_raise _ _) fun _ _ => ?_
    exact .bind (Act.agrees_emit _ _ _) fun _ _ => .pure trivial
  · refine .bind (b.agrees_update c happened) fun _ _ => ?_
    exact .bind (Act.agrees_write rfl) fun _ _ => .pure trivial

theorem agrees_record (o : Outcome) : (b.record o).Agrees S fun _ => True :=
  .get_bind (fun _ => rfl) fun _ => b.agrees_update _ _

end Breaker

theorem Balance.reserve_granted {b : Balance} {now timeout wait : Nanos} {after : Balance}
    (h : b.reserve now timeout = (.granted wait, after)) : wait ≤ timeout := by
  unfold reserve at h
  dsimp only at h
  split at h
  · cases h
  next bounded =>
    cases h
    exact Nat.le_of_not_lt bounded

theorem Limiter.agrees_reserve (l : Limiter) (timeout : Nanos) :
    (l.reserve timeout).Agrees S fun answer => ∀ wait, answer = .ok wait → wait ≤ timeout := by
  refine .get_bind (fun _ => rfl) fun w => ?_
  rcases answered : (l.balance w).reserve w.now timeout with ⟨wait | needed, balance⟩
  · refine .bind (.change (fun _ => rfl) (fun _ => rfl) (fun _ => rfl)) fun _ _ => ?_
    refine .bind (Act.agrees_emit _ _ _) fun _ _ => .pure fun _ granted => ?_
    cases granted
    exact Balance.reserve_granted answered
  · refine .bind (.change (fun _ => rfl) (fun _ => rfl) (fun _ => rfl)) fun _ _ => ?_
    refine .bind (Act.agrees_raise _ _) fun _ _ => ?_
    exact .bind (Act.agrees_emit _ _ _) fun _ _ => .pure fun _ granted => nomatch granted

namespace Bulkhead

variable (b : Bulkhead)

theorem agrees_update (s : Slots) : (b.update s).Agrees S fun _ => True :=
  .change (fun _ => rfl) (fun _ => rfl) (fun _ => rfl)

theorem agrees_take : b.take.Agrees S fun _ => True := by
  refine .get_bind (fun _ => rfl) fun w => ?_
  cases (b.slots w).take? with
  | none => exact .pure trivial
  | some s => exact .bind (b.agrees_update s) fun _ _ => .pure trivial

theorem agrees_permit : b.permit.Agrees S fun _ => True := by
  refine .bind (Act.agrees_raise _ _) fun _ _ => ?_
  exact .get_bind (fun _ => rfl) fun _ => Act.agrees_emit _ _ _

theorem agrees_finish : b.finish.Agrees S fun _ => True := by
  refine .bind (Act.agrees_emit _ _ _) fun _ _ => ?_
  exact .get_bind (fun _ => rfl) fun _ => b.agrees_update _

/-- A call that is turned away ends with the fault that says so. -/
theorem agrees_reject : b.reject.Agrees S fun reply =>
    reply = .refusal (.bulkheadFull b.name b.config.capacity) := by
  refine .bind (Act.agrees_raise _ _) fun _ _ => ?_
  exact .bind (Act.agrees_emit _ _ _) fun _ _ => .pure rfl

end Bulkhead

namespace Retry

variable (r : Retry)

theorem agrees_again (attempts : Nat) :
    (r.again attempts).Agrees S fun wait => wait = r.config.interval.wait attempts := by
  refine .bind (Act.agrees_raise _ _) fun _ _ => ?_
  exact .bind (Act.agrees_emit _ _ _) fun _ _ => .pure rfl

theorem agrees_accept (attempts : Nat) (o : Outcome) :
    (r.accept attempts o).Agrees S fun _ => True := by
  cases o with
  | value v =>
    refine .bind (Act.agrees_raise _ _) fun _ _ => ?_
    exact .bind (Act.agrees_emit _ _ _) fun _ _ => .pure trivial
  | fault e => exact .bind (Act.agrees_emit _ _ _) fun _ _ => .pure trivial

theorem agrees_exhaust (attempts : Nat) (o : Outcome) :
    (r.exhaust attempts o).Agrees S fun _ => True := by
  cases o with
  | value v => exact .bind (Act.agrees_emit _ _ _) fun _ _ => .pure trivial
  | fault e =>
    refine .bind (Act.agrees_raise _ _) fun _ _ => ?_
    exact .bind (Act.agrees_emit _ _ _) fun _ _ => .pure trivial

end Retry

namespace Mapper

theorem agrees_replaceFirst (e : Fault) (mappers : List Mapper) :
    (replaceFirst e mappers).Agrees S fun _ => True := by
  induction mappers with
  | nil => exact .pure trivial
  | cons m rest ih =>
    refine .bind (Act.agrees_write rfl) fun _ _ => ?_
    cases m.replace? e with
    | some replacement => exact .pure trivial
    | none => exact ih

/-- What ends, ends with an outcome after mapping as well. -/
theorem agrees_remap (mappers : List Mapper) (o : Outcome) :
    (remap mappers (.ended o)).Agrees S fun reply => ∃ o', reply = .ended o' := by
  cases o with
  | value v => exact .pure ⟨_, rfl⟩
  | fault e => exact .bind (agrees_replaceFirst e mappers) fun _ _ => .pure ⟨_, rfl⟩

end Mapper

theorem Service.agrees_take {number : Nat} (reached : S.reaches number) (operation : String) (args : Args) :
    (take number operation args).Agrees S Plan.IsPlain := by
  intro w v twins
  have same : v.service number = w.service number :=
    twins.agree (·.service number) fun _ => rfl
  rw [run_take, run_take, same]
  exact ⟨rfl, plan_isPlain (twins.plain number reached), twins.reach number operation args⟩

/-- The stage leads to services that are reached, or has plain ones made. -/
def Substitute.Within (S : Scope) : Substitute → Prop
  | .service number => S.reaches number
  | .made make => ∀ e, (make e).IsPlain

namespace BoundFallback

theorem agrees_provide {s : Substitute} (within : s.Within S) (e : Option Fault) :
    (s.provide e).Agrees S S.reaches := by
  cases s with
  | service number => exact .pure within
  | made make =>
    refine .bind (Act.agrees_write rfl) fun _ _ w v twins => ?_
    have size : v.services.size = w.services.size :=
      twins.agree (·.services.size) fun _ => rfl
    exact ⟨size, twins.fresh _ (Nat.le_refl _), twins.enroll (within e)⟩

theorem agrees_select (m : Method) (o : Outcome) {stages : List BoundFallback}
    (within : ∀ stage ∈ stages, stage.substitute.Within S) :
    (select m o stages).Agrees S fun found => ∀ service ∈ found, S.reaches service := by
  induction stages with
  | nil => exact .pure (by simp)
  | cons stage rest ih =>
    have asked : (stage.handler.ask m o).Agrees S fun _ => True :=
      .bind (Act.agrees_write rfl) fun _ _ => .pure trivial
    refine .bind asked fun accepted _ => ?_
    cases accepted with
    | true =>
      have provided := agrees_provide (within stage List.mem_cons_self) o.fault?
      refine .bind provided fun service reached => .pure fun found eq => ?_
      cases eq
      exact reached
    | false => exact ih fun stage later => within stage (List.mem_cons_of_mem _ later)

end BoundFallback

end CallGuard
