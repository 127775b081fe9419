import CallGuard.Proofs.Bulkhead.Occupancy
import CallGuard.Proofs.Services
import Mathlib.Logic.Relation

/-!
# Calls through a bulkhead run by steps

A call through a bulkhead runs by steps in a house. Its own ones, and what happens elsewhere in the
world, leave the other calls where they are; and as long as it has a slot, the code that it guards
takes steps as well, which may be anybody's. What these may be is said by a relation `R` that the
callable brings along, and nothing else is done to the house. A callable is known to run only when it
is invoked for a call that has been admitted, so a call that invoked it without a slot, or twice, could
not be shown to run at all.

Since the other calls stay where they are, what is known of several calls holds of all of them, in
whatever order they take their turns: `Rounds.seats`. `slots_account` puts this together with the
account of the slots.
-/

namespace CallGuard

namespace House

theorem stay?_put {s : House} {n : Nat} {old : Guest} (here : s.guests[n]? = some old) (g : Guest)
    (w : World) : (s.put n g w).stay? n = some g.stay := by
  obtain ⟨inside, -⟩ := List.getElem?_eq_some_iff.mp here
  rw [stay?, put, List.getElem?_set_self inside, Option.map_some]

theorem exists_of_stay? {s : House} {n : Nat} {stay : Stay} (here : s.stay? n = some stay) :
    ∃ k, s.guests[n]? = some ⟨stay, k⟩ := by
  obtain ⟨⟨_, k⟩, guest, rfl⟩ := Option.map_eq_some_iff.mp here
  exact ⟨k, guest⟩

/-- The records of all calls but that one are kept. -/
def KeepsOthers (n : Nat) (s t : House) : Prop := ∀ m, m ≠ n → t.guests[m]? = s.guests[m]?

namespace KeepsOthers

variable {s t u : House} {n : Nat}

theorem refl (s : House) : KeepsOthers n s s := fun _ _ => rfl

theorem trans (first : KeepsOthers n s t) (second : KeepsOthers n t u) : KeepsOthers n s u :=
  fun m other => (second m other).trans (first m other)

theorem put {g : Guest} {w : World} : KeepsOthers n s (s.put n g w) :=
  fun _ other => List.getElem?_set_ne other.symm

/-- The call that comes is after the last one. -/
theorem arrive (s : House) (w : World) (g : Guest) :
    KeepsOthers s.guests.length s ⟨w, s.guests ++ [g]⟩ :=
  fun _ other => getElem?_concat_of_ne other

end KeepsOthers

end House

namespace Bulkhead

variable {b : Bulkhead} {s t : House} {n : Nat} {stay : Stay}

/-- Any number of steps. -/
def Path (b : Bulkhead) : House → House → Prop := Relation.ReflTransGen b.Step

theorem Reachable.path (h : b.Reachable s) (path : b.Path s t) : b.Reachable t := by
  induction path with
  | refl => exact h
  | tail _ step ih => exact .next ih step

/-- A step in the course of a call: one of its own, or one that happens elsewhere; or one of those that
the code takes which the call guards, while the call has a slot and stays where it is. -/
inductive StepOf (b : Bulkhead) (R : House → House → Prop) (n : Nat) (s t : House) : Prop where
  | own (step : b.Step s t) (others : House.KeepsOthers n s t)
  | guarded {stay : Stay} (step : b.Step s t) (may : R s t) (here : s.stay? n = some stay)
      (holds : stay.holds = true) (there : t.stay? n = some stay)

/-- Any number of them. -/
def PathOf (b : Bulkhead) (R : House → House → Prop) (n : Nat) : House → House → Prop :=
  Relation.ReflTransGen (b.StepOf R n)

/-- The code that is guarded does nothing to the house. -/
def Undisturbed : House → House → Prop := fun _ _ => False

theorem StepOf.step {R : House → House → Prop} (step : b.StepOf R n s t) : b.Step s t := by
  cases step with
  | own step => exact step
  | guarded step => exact step

theorem PathOf.path {R : House → House → Prop} (path : b.PathOf R n s t) : b.Path s t := by
  induction path with
  | refl => exact .refl
  | tail _ step ih => exact ih.tail step.step

/-- Where the guarded code leaves the other calls alone, the whole course of a call does so. -/
theorem PathOf.keepsOthers {R : House → House → Prop} (path : b.PathOf R n s t)
    (apart : ∀ u v, R u v → House.KeepsOthers n u v) : House.KeepsOthers n s t := by
  induction path with
  | refl => exact .refl s
  | tail _ step ih =>
    cases step with
    | own _ others => exact ih.trans others
    | guarded _ may => exact ih.trans (apart _ _ may)

/-- From the house the act runs by steps of the call, and in the end the stay of the call goes with
what the act returns. -/
def Carries {A : Type} (b : Bulkhead) (R : House → House → Prop) (s : House) (n : Nat) (act : Act A)
    (goal : A → Stay → Prop) : Prop :=
  ∃ t stay, b.PathOf R n s t ∧ (act.run s.world).2 = t.world ∧ t.stay? n = some stay ∧
    goal (act.run s.world).1 stay

variable {R : House → House → Prop}

namespace Carries

variable {A B : Type} {act : Act A} {next : A → Act B} {goal : A → Stay → Prop}
  {result : B → Stay → Prop}

theorem pure {a : A} (here : s.stay? n = some stay) (reached : goal a stay) :
    b.Carries R s n (pure a) goal := ⟨s, stay, .refl, rfl, here, reached⟩

theorem bind (first : b.Carries R s n act goal)
    (rest : ∀ {t a stay}, t.stay? n = some stay → goal a stay → b.Carries R t n (next a) result) :
    b.Carries R s n (act >>= next) result := by
  obtain ⟨t, stay, path, left, here, reached⟩ := first
  obtain ⟨u, final, more, ended, there, done⟩ := rest here reached
  rw [← left] at ended done
  exact ⟨u, final, path.trans more, ended, there, done⟩

theorem step (step : b.Step s t) (others : House.KeepsOthers n s t)
    (left : (act.run s.world).2 = t.world) (here : t.stay? n = some stay)
    (reached : goal (act.run s.world).1 stay) : b.Carries R s n act goal :=
  ⟨t, stay, .single (.own step others), left, here, reached⟩

/-- The call may take a step before the act runs. -/
theorem after (step : b.Step s t) (others : House.KeepsOthers n s t) (same : t.world = s.world)
    (rest : b.Carries R t n act goal) : b.Carries R s n act goal := by
  obtain ⟨u, final, path, ended, there, done⟩ := rest
  rw [same] at ended done
  exact ⟨u, final, .head (.own step others) path, ended, there, done⟩

/-- An act that leaves the slots alone. -/
theorem elsewhere (here : s.stay? n = some stay)
    (kept : (act.run s.world).2.slots[b.cell]? = s.world.slots[b.cell]?)
    (reached : goal (act.run s.world).1 stay) : b.Carries R s n act goal :=
  .step (.elsewhere kept) (.refl s) rfl here reached

end Carries

section Operations

theorem carries_take (here : s.stay? n = some .outside) :
    b.Carries R s n b.take fun taken stay => stay = if taken then .admitted else .outside := by
  obtain ⟨k, guest⟩ := House.exists_of_stay? here
  cases found : (b.slots s.world).take? with
  | some rest =>
    have taken : b.take.run s.world = (true, ((b.update rest).run s.world).2) := by
      simp only [take, Act.run_bind, Act.run_get, found, Act.run_pure]
    refine .step (.take guest taken) .put ?_ (House.stay?_put guest _ _) ?_
    · rw [taken]
      rfl
    · rw [taken]
      rfl
  | none =>
    have full : b.take.run s.world = (false, s.world) := by
      simp only [take, Act.run_bind, Act.run_get, found, Act.run_pure]
    refine .elsewhere here ?_ ?_ <;> rw [full]
    rfl

theorem carries_claim {ticket : Nat} (here : s.stay? n = some (.queued ticket)) :
    b.Carries R s n (b.claim ticket) fun claimed stay =>
      stay = if claimed then .admitted else .queued ticket := by
  obtain ⟨k, guest⟩ := House.exists_of_stay? here
  cases found : (b.slots s.world).claim? ticket with
  | some rest =>
    have claimed : (b.claim ticket).run s.world = (true, ((b.update rest).run s.world).2) := by
      simp only [claim, Act.run_bind, Act.run_get, found, Act.run_pure]
    refine .step (.claim guest claimed) .put ?_ (House.stay?_put guest _ _) ?_
    · rw [claimed]
      rfl
    · rw [claimed]
      rfl
  | none =>
    have unassigned : (b.claim ticket).run s.world = (false, s.world) := by
      simp only [claim, Act.run_bind, Act.run_get, found, Act.run_pure]
    refine .elsewhere here ?_ ?_ <;> rw [unassigned]
    rfl

theorem carries_enqueue (here : s.stay? n = some .outside) :
    b.Carries R s n b.enqueue fun ticket stay => stay = .queued ticket := by
  obtain ⟨k, guest⟩ := House.exists_of_stay? here
  exact .step (.enqueue guest rfl) .put rfl (House.stay?_put guest _ _) rfl

theorem carries_withdraw {ticket : Nat} (here : s.stay? n = some (.queued ticket))
    (refused : Bool) :
    b.Carries R s n (b.withdraw ticket) fun _ stay => stay = .left refused := by
  obtain ⟨k, guest⟩ := House.exists_of_stay? here
  exact .step (.withdraw guest refused rfl) .put rfl (House.stay?_put guest _ _) rfl

theorem carries_finish (here : s.stay? n = some .running) :
    b.Carries R s n b.finish fun _ stay => stay = .ended := by
  obtain ⟨k, guest⟩ := House.exists_of_stay? here
  exact .step (.finish guest rfl) .put rfl (House.stay?_put guest _ _) rfl

/-- An announcement leaves the slots as they are. -/
theorem slots_permit (b : Bulkhead) (w : World) : (b.permit.run w).2.slots = w.slots := by
  simp only [permit, emit, Act.run_bind, Act.run_raise, Act.run_get, Act.run_emit]
  rfl

theorem carries_permit (here : s.stay? n = some stay) :
    b.Carries R s n b.permit fun _ after => after = stay := by
  refine .elsewhere here ?_ rfl
  rw [slots_permit]

theorem carries_isOver (here : s.stay? n = some stay) (timer : Timer) :
    b.Carries R s n (Act.isOver timer) fun _ after => after = stay :=
  .elsewhere here rfl rfl

theorem carries_delay (here : s.stay? n = some stay) (scheduler : Scheduler) (length : Nanos) :
    b.Carries R s n (Act.delay scheduler length) fun _ after => after = stay := by
  refine .elsewhere here ?_ rfl
  rw [Act.run_delay]
  rfl

theorem carries_outwait (here : s.stay? n = some stay) (timer : Timer) :
    b.Carries R s n (Act.outwait timer) fun _ after => after = stay := by
  refine .elsewhere here ?_ rfl
  rw [Act.run_outwait, World.slots_outwait]

/-- A call is over at the bulkhead, with a slot that it has given back or without one. -/
def Settled (b : Bulkhead) (reply : Reply) (stay : Stay) : Prop :=
  stay = .ended ∨
    stay = .left true ∧ reply = .refusal (.bulkheadFull b.name b.config.capacity)

theorem carries_reject (here : s.stay? n = some (.left true)) :
    b.Carries R s n b.reject b.Settled := by
  refine .elsewhere here ?_ (.inr ⟨rfl, rfl⟩)
  simp only [reject, emit, Act.run_bind, Act.run_raise, Act.run_emit, Act.run_pure]
  rfl

/-- A call that has found no slot may be turned away. -/
theorem carries_turnAway (here : s.stay? n = some .outside) :
    b.Carries R s n b.reject b.Settled := by
  obtain ⟨k, guest⟩ := House.exists_of_stay? here
  exact .after (.leave guest true) .put rfl (carries_reject (House.stay?_put guest _ _))

end Operations

/-- When it is invoked for the call, which has been admitted, it runs by such steps and leaves the
call's slot alone. Nothing is said of it otherwise. -/
def Invokes {A : Type} (b : Bulkhead) (R : House → House → Prop) (n : Nat) (call : Args → Act A) :
    Prop :=
  ∀ {s : House} (args : Args), s.stay? n = some .admitted →
    b.Carries R s n (call args) fun _ stay => stay = .running

/-- A deferred call that the bulkhead guards for the call. -/
structure Hosts {W : Type} (b : Bulkhead) (R : House → House → Prop) (n : Nat) (call : Deferred W) :
    Prop where
  start : b.Invokes R n call.start
  poll : ∀ {s : House} (memory : W), s.stay? n = some .running →
    b.Carries R s n (call.poll memory) fun _ stay => stay = .running
  drop : ∀ {s : House} (memory : W), s.stay? n = some .running →
    b.Carries R s n (call.drop memory) fun _ stay => stay = .running

theorem hosts_onThread {call : Direct} (invokes : b.Invokes R n call) :
    b.Hosts R n (.onThread call) where
  start args here := (invokes args here).bind fun here running => .pure here running
  poll _ here := .pure here rfl
  drop _ here := .pure here rfl

theorem carries_direct {call : Direct} (invokes : b.Invokes R n call) (scheduler : Option Scheduler)
    (args : Args) (here : s.stay? n = some .outside) :
    b.Carries R s n (b.direct scheduler call args) b.Settled := by
  refine (carries_take here).bind fun {t taken stay} here eq => ?_
  subst eq
  cases taken with
  | true =>
    refine (carries_permit here).bind fun here same => ?_
    subst same
    refine (invokes args here).bind fun here running => ?_
    subst running
    refine (carries_finish here).bind fun here ended => ?_
    subst ended
    exact .pure here (.inl rfl)
  | false =>
    cases b.waitsOn scheduler with
    | none => exact carries_turnAway here
    | some s =>
      refine (carries_delay here s b.config.maxWait).bind fun {t timer stay} here same => ?_
      subst same
      refine (carries_outwait here timer).bind fun here same => ?_
      subst same
      exact carries_turnAway here

end Bulkhead

/-- The stay of a call that remembers this much. -/
def Housed.stay {W : Type} : Housed W → Stay
  | .fresh _ => .outside
  | .queued _ ticket _ => .queued ticket
  | .running _ => .running

namespace Bulkhead

variable {b : Bulkhead} {R : House → House → Prop} {s t : House} {n : Nat} {W : Type}
  {call : Deferred W}

/-- A call that waits is where it remembers to be, and one that is done is over at the bulkhead. -/
def Follows (b : Bulkhead) : Progress (Housed W) → Stay → Prop
  | .waiting memory, stay => stay = memory.stay
  | .done reply, stay => b.Settled reply stay

theorem carries_watch (hosts : b.Hosts R n call) (memory : W) (here : s.stay? n = some .running) :
    b.Carries R s n (b.watch call memory) b.Follows := by
  refine (hosts.poll memory here).bind fun {t progress stay} here running => ?_
  subst running
  cases progress with
  | waiting memory => exact .pure here rfl
  | done reply =>
    refine (carries_finish here).bind fun here ended => ?_
    subst ended
    exact .pure here (.inl rfl)

theorem carries_enter (hosts : b.Hosts R n call) (args : Args)
    (here : s.stay? n = some .admitted) : b.Carries R s n (b.enter call args) b.Follows := by
  refine (carries_permit here).bind fun here same => ?_
  subst same
  refine (hosts.start args here).bind fun {t started stay} here running => ?_
  subst running
  cases started with
  | ok memory => exact carries_watch hosts memory here
  | error text =>
    refine (carries_finish here).bind fun here ended => ?_
    subst ended
    exact .pure here (.inl rfl)

theorem carries_queue (hosts : b.Hosts R n call) (args : Args) {ticket : Nat} (timer : Timer)
    (here : s.stay? n = some (.queued ticket)) :
    b.Carries R s n (b.queue call args ticket timer) b.Follows := by
  -- The slot is looked for before the timer: one that has been assigned in time is taken late.
  refine (carries_claim here).bind fun {t claimed stay} here eq => ?_
  subst eq
  cases claimed with
  | true => exact carries_enter hosts args here
  | false =>
    refine (carries_isOver here timer).bind fun {u rung stay} here same => ?_
    subst same
    cases rung with
    | true =>
      refine (carries_withdraw here true).bind fun here left => ?_
      subst left
      exact (carries_reject here).bind fun here settled => .pure here settled
    | false => exact .pure here rfl

theorem carries_poll (hosts : b.Hosts R n call) (scheduler : Option Scheduler) {memory : Housed W}
    (here : s.stay? n = some memory.stay) :
    b.Carries R s n ((b.deferred scheduler call).poll memory) b.Follows := by
  cases memory with
  | queued args ticket timer => exact carries_queue hosts args timer here
  | running memory => exact carries_watch hosts memory here
  | fresh args =>
    refine (carries_take here).bind fun {t taken stay} here eq => ?_
    subst eq
    cases taken with
    | true => exact carries_enter hosts args here
    | false =>
      cases b.waitsOn scheduler with
      | none => exact (carries_turnAway here).bind fun here settled => .pure here settled
      | some s =>
        refine (carries_enqueue here).bind fun {u ticket stay} here queued => ?_
        subst queued
        refine (carries_delay here s b.config.maxWait).bind fun {v timer stay} here same => ?_
        subst same
        exact carries_queue hosts args timer here

theorem carries_drop (hosts : b.Hosts R n call) (scheduler : Option Scheduler) {memory : Housed W}
    (here : s.stay? n = some memory.stay) :
    b.Carries R s n ((b.deferred scheduler call).drop memory) fun _ stay =>
      stay = .ended ∨ stay = .left false := by
  cases memory with
  | fresh args =>
    obtain ⟨k, guest⟩ := House.exists_of_stay? here
    exact .after (.leave guest false) .put rfl (.pure (House.stay?_put guest _ _) (.inr rfl))
  | queued args ticket timer =>
    refine (carries_withdraw here false).bind fun here left => ?_
    subst left
    exact .pure here (.inr rfl)
  | running memory =>
    refine (hosts.drop memory here).bind fun here running => ?_
    subst running
    refine (carries_finish here).bind fun here ended => ?_
    subst ended
    exact .pure here (.inl rfl)

/-! ### Calls that take turns -/

section Rounds

variable {ι : Type} {W : ι → Type}

/-- What the calls remember that have come to the bulkhead, in order, as long as they live. Which
callable a call guards is said by `ι`. -/
abbrev Memories (W : ι → Type) := List (Option ((i : ι) × Housed (W i)))

/-- The call is where its memory says, or is over if it has none. -/
inductive Seated : Guest → Option ((i : ι) × Housed (W i)) → Prop where
  | lives {g : Guest} {i : ι} {memory : Housed (W i)} (here : g.stay = memory.stay) :
      Seated g (some ⟨i, memory⟩)
  | gone {g : Guest} (ended : g.stay.isLive = false) : Seated g none

/-- All calls that have come are where their memories say. -/
def Seats (s : House) (ms : Memories W) : Prop := ∀ n : Nat, Option.Rel Seated s.guests[n]? ms[n]?

/-- One of the calls is started, polled or dropped, or a direct call is made from its beginning to its
end; or anything else happens that leaves the slots alone. -/
inductive Round (b : Bulkhead) (scheduler : Option Scheduler) (call : Direct)
    (calls : (i : ι) → Deferred (W i)) : World × Memories W → World × Memories W → Prop where
  | start {w v : World} {ms : Memories W} {i : ι} {memory : Housed (W i)} (args : Args)
      (started : ((b.deferred scheduler (calls i)).start args).run w = (.ok memory, v)) :
      Round b scheduler call calls (w, ms) (v, ms ++ [some ⟨i, memory⟩])
  | poll {w v : World} {ms : Memories W} {n : Nat} {i : ι} {memory next : Housed (W i)}
      (lives : ms[n]? = some (some ⟨i, memory⟩))
      (polled : ((b.deferred scheduler (calls i)).poll memory).run w = (.waiting next, v)) :
      Round b scheduler call calls (w, ms) (v, ms.set n (some ⟨i, next⟩))
  | finish {w v : World} {ms : Memories W} {n : Nat} {i : ι} {memory : Housed (W i)} {reply : Reply}
      (lives : ms[n]? = some (some ⟨i, memory⟩))
      (polled : ((b.deferred scheduler (calls i)).poll memory).run w = (.done reply, v)) :
      Round b scheduler call calls (w, ms) (v, ms.set n none)
  | drop {w v : World} {ms : Memories W} {n : Nat} {i : ι} {memory : Housed (W i)}
      (lives : ms[n]? = some (some ⟨i, memory⟩))
      (dropped : ((b.deferred scheduler (calls i)).drop memory).run w = ((), v)) :
      Round b scheduler call calls (w, ms) (v, ms.set n none)
  | direct {w v : World} {ms : Memories W} {reply : Reply} (args : Args)
      (ran : (b.direct scheduler call args).run w = (reply, v)) :
      Round b scheduler call calls (w, ms) (v, ms ++ [none])
  | elsewhere {w v : World} {ms : Memories W} (kept : v.slots[b.cell]? = w.slots[b.cell]?) :
      Round b scheduler call calls (w, ms) (v, ms)

/-- Any number of them. -/
def Rounds (b : Bulkhead) (scheduler : Option Scheduler) (call : Direct)
    (calls : (i : ι) → Deferred (W i)) : World × Memories W → World × Memories W → Prop :=
  Relation.ReflTransGen (b.Round scheduler call calls)

variable {ms : Memories W} {m : Option ((i : ι) × Housed (W i))} {g : Guest}

namespace Seats

theorem length_eq (seats : Seats s ms) : s.guests.length = ms.length := by
  refine Nat.le_antisymm (Nat.le_of_not_lt fun more => ?_) (Nat.le_of_not_lt fun fewer => ?_)
  · have related := seats ms.length
    rw [List.getElem?_eq_none (Nat.le_refl _), List.getElem?_eq_getElem more] at related
    cases related
  · have related := seats s.guests.length
    rw [List.getElem?_eq_none (Nat.le_refl _), List.getElem?_eq_getElem fewer] at related
    cases related

/-- Where a call is that lives. -/
theorem stay?_eq (seats : Seats s ms) {i : ι} {memory : Housed (W i)}
    (lives : ms[n]? = some (some ⟨i, memory⟩)) : s.stay? n = some memory.stay := by
  have related := seats n
  rw [lives] at related
  generalize found : s.guests[n]? = guest at related
  obtain ⟨⟨here⟩⟩ := related
  rw [House.stay?, found, Option.map_some, here]

/-- One call moves on. -/
theorem set (seats : Seats s ms) (others : House.KeepsOthers n s t) (inside : n < ms.length)
    (there : t.guests[n]? = some g) (seated : Seated g m) : Seats t (ms.set n m) := by
  intro k
  by_cases own : k = n
  · rw [own, there, List.getElem?_set_self inside]
    exact .some seated
  · rw [others k own, List.getElem?_set_ne (Ne.symm own)]
    exact seats k

/-- One call more has come. -/
theorem append (seats : Seats s ms) (others : House.KeepsOthers s.guests.length s t)
    (there : t.guests[s.guests.length]? = some g) (seated : Seated g m) :
    Seats t (ms ++ [m]) := by
  intro k
  by_cases own : k = s.guests.length
  · rw [own, there, seats.length_eq, List.getElem?_concat_length]
    exact .some seated
  · rw [others k own, getElem?_concat_of_ne (seats.length_eq ▸ own)]
    exact seats k

end Seats

/-- Where nothing disturbs the house, an act of one call leaves all others where they are. -/
theorem Carries.exists_house {A : Type} {act : Act A} {goal : A → Stay → Prop} {a : A} {v : World}
    (carries : b.Carries Undisturbed s n act goal) (ran : act.run s.world = (a, v)) :
    ∃ t g, b.Path s t ∧ t.world = v ∧ House.KeepsOthers n s t ∧ t.guests[n]? = some g ∧
      goal a g.stay := by
  obtain ⟨t, stay, path, left, here, reached⟩ := carries
  obtain ⟨k, there⟩ := House.exists_of_stay? here
  rw [ran] at left reached
  exact ⟨t, _, path.path, left.symm, path.keepsOthers fun _ _ => False.elim, there, reached⟩

theorem Settled.not_isLive {reply : Reply} {stay : Stay} (settled : b.Settled reply stay) :
    stay.isLive = false := by
  rcases settled with rfl | ⟨rfl, -⟩ <;> rfl

variable {scheduler : Option Scheduler} {call : Direct} {calls : (i : ι) → Deferred (W i)}
  {x y : World × Memories W}

/-- Whoever has a turn, all calls are where their memories say afterwards. -/
theorem Round.seats (round : b.Round scheduler call calls x y)
    (invokes : ∀ n, b.Invokes Undisturbed n call) (hosts : ∀ n i, b.Hosts Undisturbed n (calls i))
    (same : s.world = x.1) (seats : Seats s x.2) :
    ∃ t, b.Path s t ∧ t.world = y.1 ∧ Seats t y.2 := by
  obtain ⟨u, guests⟩ := s
  subst same
  cases round with
  | start args started =>
    cases started
    exact ⟨_, .single .arrive, rfl,
      seats.append (.arrive _ _ _) List.getElem?_concat_length (.lives rfl)⟩
  | @poll _ _ _ n i memory next lives polled =>
    have carries := carries_poll (hosts n i) scheduler (seats.stay?_eq lives)
    obtain ⟨t, g, path, left, others, there, here⟩ := carries.exists_house polled
    have inside := (List.getElem?_eq_some_iff.mp lives).1
    exact ⟨t, path, left, seats.set others inside there (.lives here)⟩
  | @finish _ _ _ n i memory reply lives polled =>
    have carries := carries_poll (hosts n i) scheduler (seats.stay?_eq lives)
    obtain ⟨t, g, path, left, others, there, settled⟩ := carries.exists_house polled
    have inside := (List.getElem?_eq_some_iff.mp lives).1
    exact ⟨t, path, left, seats.set others inside there (.gone settled.not_isLive)⟩
  | @drop _ _ _ n i memory lives dropped =>
    have carries := carries_drop (hosts n i) scheduler (seats.stay?_eq lives)
    obtain ⟨t, g, path, left, others, there, gone⟩ := carries.exists_house dropped
    have inside := (List.getElem?_eq_some_iff.mp lives).1
    have ended : g.stay.isLive = false := by rcases gone with eq | eq <;> rw [eq] <;> rfl
    exact ⟨t, path, left, seats.set others inside there (.gone ended)⟩
  | direct args ran =>
    rename_i w v ms reply
    let come : House := ⟨w, guests ++ [⟨.outside, 0⟩]⟩
    have here : come.stay? guests.length = some .outside := by
      rw [House.stay?, List.getElem?_concat_length]
      rfl
    have carries := carries_direct (invokes guests.length) scheduler args here
    obtain ⟨t, g, path, left, others, there, settled⟩ := carries.exists_house ran
    have come : House.KeepsOthers guests.length ⟨w, guests⟩ come := .arrive ⟨w, guests⟩ w _
    have apart := come.trans others
    exact ⟨t, .head .arrive path, left, seats.append apart there (.gone settled.not_isLive)⟩
  | elsewhere kept => exact ⟨_, .single (.elsewhere kept), rfl, seats⟩

/-- **Whatever turns the calls take**, one after the other, they lead from house to house by steps, and
each call is where its memory says. -/
theorem Rounds.seats (rounds : b.Rounds scheduler call calls x y)
    (invokes : ∀ n, b.Invokes Undisturbed n call) (hosts : ∀ n i, b.Hosts Undisturbed n (calls i))
    (same : s.world = x.1) (seats : Seats s x.2) :
    ∃ t, b.Path s t ∧ t.world = y.1 ∧ Seats t y.2 := by
  induction rounds with
  | refl => exact ⟨s, .refl, same, seats⟩
  | tail _ round ih =>
    obtain ⟨t, path, same, seats⟩ := ih
    obtain ⟨u, more, left, seated⟩ := round.seats invokes hosts same seats
    exact ⟨u, path.trans more, left, seated⟩

end Rounds

/-- A bulkhead for one call. -/
def narrow : Bulkhead := ⟨"narrow", .ofSettings [.capacity 1, .maxWait (Nanos.ofMillis 100)], 0⟩

/-- One call has ended, and its slot is assigned to another that has been waiting for it. -/
def handedOver : House :=
  let new : House := ⟨{ World.empty with slots := #[.ofCapacity 1] }, [⟨.outside, 0⟩]⟩
  let taken := new.put 0 ⟨.admitted, 0⟩ (narrow.take.run new.world).2
  let running := taken.put 0 ⟨.running, 1⟩ taken.world
  let both : House := ⟨running.world, running.guests ++ [⟨.outside, 0⟩]⟩
  let waiting := both.put 1 ⟨.queued 0, 0⟩ (narrow.enqueue.run both.world).2
  waiting.put 0 ⟨.ended, 1⟩ (narrow.finish.run waiting.world).2

end Bulkhead

end CallGuard
