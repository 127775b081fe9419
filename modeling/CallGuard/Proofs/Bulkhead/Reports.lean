import CallGuard.Proofs.Bulkhead.Deadlines
import Mathlib.Data.List.Nodup

/-!
# What a bulkhead announces

A call that has been given a slot announces itself, and with it a number of concurrent calls. That
number is read off the free slots, so that it counts every slot that is not free, be it in a call's
hands or on its way to a call that waits. A `Roster` is a house with a record of the calls that have
announced themselves. Main statement: `announcement_counts_slots`.
-/

namespace CallGuard

/-- The number of calls that a bulkhead of that name announces in the entry. -/
def Entry.announced? (guard : String) : Entry → Option Nat
  | .emitted ⟨name, _, .callPermitted concurrent⟩ => if name = guard then some concurrent else none
  | _ => none

theorem countP_add_countP {A : Type} {xs : List A} {p q r : A → Bool}
    (split : ∀ x ∈ xs, (p x).toNat + (q x).toNat = (r x).toNat) :
    xs.countP p + xs.countP q = xs.countP r := by
  induction xs with
  | nil => rfl
  | cons x rest ih =>
    obtain ⟨own, others⟩ := List.forall_mem_cons.mp split
    have before := ih others
    have counted (f : A → Bool) : (x :: rest).countP f = rest.countP f + (f x).toNat := by
      rw [List.countP_cons]
      cases f x <;> rfl
    rw [counted, counted, counted]
    omega

/-- Calls in a house, with a record of those that have announced themselves. -/
structure Roster where
  house : House
  announced : Nat → Bool

namespace Roster

/-- How many calls have announced themselves and are not over. -/
def inFlight (r : Roster) : Nat :=
  r.house.guests.zipIdx.countP fun guest => r.announced guest.2 && guest.1.stay.isLive

/-- How many calls have a slot and have not announced themselves yet. -/
def pending (r : Roster) : Nat :=
  r.house.guests.zipIdx.countP fun guest =>
    !r.announced guest.2 && decide (guest.1.stay = .admitted)

end Roster

namespace Bulkhead

/-- The call announces itself. -/
def announce (b : Bulkhead) (r : Roster) (n : Nat) : Roster where
  house := ⟨(b.permit.run r.house.world).2, r.house.guests⟩
  announced m := decide (m = n) || r.announced m

/-- The numbers that the bulkhead announces from one world to the other. -/
def announcements (b : Bulkhead) (w v : World) : List Nat :=
  (v.since w.written).filterMap (Entry.announced? b.name)

/-- A call that has just been given a slot announces itself, or anything else happens in the house.
What a call guards is invoked only after that. -/
inductive Turn (b : Bulkhead) : Roster → Roster → Prop where
  | announce {r : Roster} {n : Nat} (here : r.house.stay? n = some .admitted)
      (fresh : r.announced n = false) : Turn b r (b.announce r n)
  | other {r : Roster} {t : House} (step : b.Step r.house t)
      (told : ∀ guest ∈ t.guests.zipIdx, guest.1.runs = true → r.announced guest.2 = true) :
      Turn b r ⟨t, r.announced⟩

/-- What comes about from a new bulkhead, in whatever order the turns interleave. -/
inductive Enrolled (b : Bulkhead) : Roster → Prop where
  | start {w : World} (made : w.slots[b.cell]? = some (.ofCapacity b.config.capacity)) :
      Enrolled b ⟨⟨w, []⟩, fun _ => false⟩
  | next {r q : Roster} : Enrolled b r → Turn b r q → Enrolled b q

end Bulkhead

/-- Whether the call has had a slot. -/
def Stay.wasAdmitted : Stay → Bool
  | .admitted | .running | .ended => true
  | .outside | .queued _ | .left _ => false

/-- A call with a slot has announced itself and is not over, or has yet to announce itself. -/
theorem Stay.holds_split {told : Bool} (stay : Stay) (admitted : told = true → stay.wasAdmitted)
    (running : stay = .running → told = true) :
    (told && stay.isLive).toNat + (!told && decide (stay = .admitted)).toNat =
      stay.holds.toNat := by
  cases told with
  | true =>
    have seated := admitted rfl
    cases stay with
    | admitted | running | ended => rfl
    | outside | queued _ | left _ => cases seated
  | false =>
    cases stay with
    | running => cases running rfl
    | outside | queued _ | admitted | ended | left _ => rfl

namespace Bulkhead

variable {b : Bulkhead} {r : Roster} {s t : House} {n : Nat}

theorem announcements_permit (b : Bulkhead) (w : World) :
    b.announcements w (b.permit.run w).2 = [b.config.capacity - (b.slots w).free] := by
  let raised := w.raise ⟨"bulkhead_calls_permitted_total", [("bulkhead", b.name)]⟩
  let happened := Happening.callPermitted (b.config.capacity - (b.slots w).free)
  have told : (b.permit.run w).2 =
      raised.append (raised.reported b.name b.config.listeners happened) := by
    simp only [permit, emit, Act.run_bind, Act.run_raise, Act.run_get, Act.run_emit]
    rfl
  have history : (b.permit.run w).2.history =
      w.history ++ raised.reported b.name b.config.listeners happened := by
    rw [told]
    exact raised.history_append _
  rw [announcements, World.since_written history, World.filterMap_reported (fun _ _ => rfl),
    Entry.announced?, if_pos rfl]
  rfl

/-- A call that has had a slot never is without one again before it is over. -/
theorem Step.wasAdmitted (step : b.Step s t) (h : b.Reachable s)
    (here : (s.stay? n).any Stay.wasAdmitted) : (t.stay? n).any Stay.wasAdmitted := by
  obtain ⟨slots, made, -⟩ := occupancy_of_reachable h
  rcases step.deals made with ⟨same, -⟩ | ⟨m, new, dealt, deal, -, changed, others⟩
  · rwa [same]
  · by_cases own : n = m
    · subst own
      rw [changed]
      generalize was : s.stay? n = old at deal here
      cases deal with
      | take | claim | invoke | finish => rfl
      | arrive | enqueue | leave | withdraw => cases here
    · rwa [others n own]

theorem Enrolled.reachable (h : b.Enrolled r) : b.Reachable r.house := by
  induction h with
  | start made => exact .start made
  | next _ turn ih =>
    cases turn with
    | announce here fresh =>
      apply ih.next
      apply Step.elsewhere
      rw [slots_permit]
    | other step told => exact ih.next step

/-- A call that has announced itself has had a slot, and one whose callable runs has announced
itself. -/
theorem Enrolled.announced (h : b.Enrolled r) :
    (∀ n, r.announced n = true → (r.house.stay? n).any Stay.wasAdmitted) ∧
      ∀ guest ∈ r.house.guests.zipIdx, guest.1.runs = true → r.announced guest.2 = true := by
  induction h with
  | start made =>
    constructor
    · intro n said
      cases said
    · intro guest mem
      cases mem
  | @next r q before turn ih =>
    obtain ⟨seated, told⟩ := ih
    cases turn with
    | @announce n here fresh =>
      constructor
      · intro m said
        by_cases own : m = n
        · subst own
          change (r.house.stay? m).any Stay.wasAdmitted
          rw [here]
          rfl
        · apply seated m
          simpa [Bulkhead.announce, own] using said
      · intro guest mem runs
        simp [Bulkhead.announce, told guest mem runs]
    | other step invoked =>
      exact ⟨fun m said => step.wasAdmitted before.reachable (seated m said), invoked⟩

theorem Enrolled.holds_eq (h : b.Enrolled r) :
    r.inFlight + r.pending = r.house.guests.countP Guest.holds := by
  obtain ⟨seated, told⟩ := h.announced
  have indexed : r.house.guests.countP Guest.holds =
      r.house.guests.zipIdx.countP fun guest => guest.1.holds := by
    have guests : r.house.guests.zipIdx.map Prod.fst = r.house.guests := List.zipIdx_map_fst _ _
    conv_lhs => rw [← guests, List.countP_map]
    rfl
  rw [indexed]
  apply countP_add_countP
  rintro ⟨⟨stay, invocations⟩, n⟩ mem
  have here : r.house.stay? n = some stay := by
    rw [House.stay?, List.mem_zipIdx_iff_getElem?.mp mem]
    rfl
  have admitted := seated n
  rw [here] at admitted
  exact stay.holds_split admitted fun runs => told _ mem (decide_eq_true runs)

/-- A call that announces itself is one more in flight. -/
theorem inFlight_announce (b : Bulkhead) (here : r.house.stay? n = some .admitted)
    (fresh : r.announced n = false) : (b.announce r n).inFlight = r.inFlight + 1 := by
  obtain ⟨k, guest⟩ := House.exists_of_stay? here
  have once : r.house.guests.zipIdx.countP (fun guest => decide (guest.2 = n)) = 1 := by
    have indices : r.house.guests.zipIdx.map Prod.snd = List.range r.house.guests.length := by
      rw [List.zipIdx_map_snd, List.range_eq_range']
    have inside := (List.getElem?_eq_some_iff.mp guest).1
    have counted := List.count_eq_one_of_mem List.nodup_range (List.mem_range.mpr inside)
    rw [← indices, List.count, List.countP_map] at counted
    exact counted
  rw [← once]
  symm
  apply countP_add_countP
  rintro ⟨g, m⟩ mem
  by_cases own : m = n
  · subst own
    have same : g = ⟨.admitted, k⟩ :=
      Option.some.inj ((List.mem_zipIdx_iff_getElem?.mp mem).symm.trans guest)
    simp [Bulkhead.announce, fresh, same, Stay.isLive]
  · simp [Bulkhead.announce, own]

theorem Enrolled.announce (h : b.Enrolled r) (here : r.house.stay? n = some .admitted)
    (fresh : r.announced n = false) : b.Enrolled (b.announce r n) := h.next (.announce here fresh)

/-- The number that is announced is that of all slots that are not free. -/
theorem Enrolled.announcements_eq (h : b.Enrolled r) (here : r.house.stay? n = some .admitted)
    (fresh : r.announced n = false) :
    b.announcements r.house.world (b.announce r n).house.world =
      [(b.announce r n).inFlight + (b.announce r n).pending +
        (b.slots (b.announce r n).house.world).assigned.length] := by
  have after := h.announce here fresh
  obtain ⟨slots, made, occupancy⟩ := occupancy_of_reachable after.reachable
  have account := occupancy.account
  rw [occupancy.countP_isAssigned, ← after.holds_eq] at account
  have same : b.slots r.house.world = slots := by
    rw [← slots_of made, Bulkhead.slots, Bulkhead.slots]
    exact congrArg (fun cells => (cells[b.cell]?).getD _) (slots_permit b r.house.world).symm
  rw [slots_of made]
  change b.announcements r.house.world (b.permit.run r.house.world).2 = _
  rw [announcements_permit, same]
  congr 1
  omega

/-- A call that comes to a slot has not announced itself. -/
theorem Enrolled.fresh {stay : Stay} (h : b.Enrolled r) (here : r.house.stay? n = some stay)
    (before : stay.wasAdmitted = false) : r.announced n = false := by
  rw [Bool.eq_false_iff]
  intro said
  have admitted := h.announced.1 n said
  rw [here, Option.any_some, before] at admitted
  cases admitted

/-- A call that gets a slot may announce itself next. -/
theorem Enrolled.seat {stay : Stay} {k : Nat} {v : World} (h : b.Enrolled r)
    (here : r.house.guests[n]? = some ⟨stay, k⟩) (before : stay.wasAdmitted = false)
    (step : b.Step r.house (r.house.put n ⟨.admitted, k⟩ v)) :
    b.Enrolled (b.announce ⟨r.house.put n ⟨.admitted, k⟩ v, r.announced⟩ n) := by
  have there : r.house.stay? n = some stay := by
    rw [House.stay?, here]
    rfl
  have seated : b.Enrolled ⟨r.house.put n ⟨.admitted, k⟩ v, r.announced⟩ := by
    apply h.next
    apply Turn.other step
    rintro ⟨g, m⟩ mem runs
    have guest := List.mem_zipIdx_iff_getElem?.mp mem
    by_cases own : m = n
    · subst own
      obtain ⟨inside, -⟩ := List.getElem?_eq_some_iff.mp here
      rw [House.put, List.getElem?_set_self inside] at guest
      cases guest
      cases runs
    · rw [House.put, List.getElem?_set_ne (Ne.symm own)] at guest
      exact h.announced.2 ⟨g, m⟩ (List.mem_zipIdx_iff_getElem?.mpr guest) runs
  exact seated.announce (House.stay?_put here _ _) (h.fresh there before)

/-- What a deferred call does once it has announced itself. -/
def proceed {W : Type} (b : Bulkhead) (call : Deferred W) (args : Args) :
    Act (Progress (Housed W)) := do
  match ← call.start args with
  | .error text =>
    b.finish
    return .done (.crashed text)
  | .ok w => b.watch call w

theorem run_direct_taken {w v : World} (taken : b.take.run w = (true, v))
    (scheduler : Option Scheduler) (call : Direct) (args : Args) :
    (b.direct scheduler call args).run w =
      (do
        let reply ← call args
        b.finish
        return reply : Act Reply).run (b.permit.run v).2 :=
  (Act.run_bind_of taken).trans rfl

/-- **What is announced are the slots that are not free.** However the calls in a bulkhead overlap: a
call that announces itself becomes one more in flight, and the number that goes with it is that of the
calls in flight, of the calls that have just been given a slot and not yet announced it, and of the
slots assigned to calls that have not looked since. So it is the number of the calls in flight exactly
if nobody else is on the way in. A call that takes a free slot, or the one assigned to it, announces
itself right after that and then goes on to what the bulkhead guards, in either shape. -/
theorem announcement_counts_slots (h : b.Enrolled r) (here : r.house.stay? n = some .admitted)
    (fresh : r.announced n = false) :
    let after := b.announce r n
    let assigned := (b.slots after.house.world).assigned.length
    b.Enrolled after ∧ after.inFlight = r.inFlight + 1 ∧
    b.announcements r.house.world after.house.world =
      [after.inFlight + after.pending + assigned] ∧
    (b.announcements r.house.world after.house.world = [after.inFlight] ↔
      after.pending = 0 ∧ assigned = 0) ∧
    ∀ (q : Roster) (m k : Nat) (v : World), b.Enrolled q →
      let next := b.announce ⟨q.house.put m ⟨.admitted, k⟩ v, q.announced⟩ m
      (q.house.guests[m]? = some ⟨.outside, k⟩ → b.take.run q.house.world = (true, v) →
        b.Enrolled next ∧ ∀ (scheduler : Option Scheduler) (args : Args),
          (∀ call : Direct, (b.direct scheduler call args).run q.house.world =
            (do
              let reply ← call args
              b.finish
              return reply : Act Reply).run next.house.world) ∧
          ∀ {W : Type} (call : Deferred W),
            ((b.deferred scheduler call).poll (.fresh args)).run q.house.world =
              (b.proceed call args).run next.house.world) ∧
      ∀ ticket, q.house.guests[m]? = some ⟨.queued ticket, k⟩ →
        (b.claim ticket).run q.house.world = (true, v) →
        b.Enrolled next ∧ ∀ (scheduler : Option Scheduler) (args : Args) (timer : Timer) {W : Type}
          (call : Deferred W),
          ((b.deferred scheduler call).poll (.queued args ticket timer)).run q.house.world =
            (b.proceed call args).run next.house.world := by
  intro after assigned
  have counted := h.announcements_eq here fresh
  refine ⟨h.announce here fresh, inFlight_announce b here fresh, counted, ?_, ?_⟩
  · rw [counted, List.cons.injEq]
    simp only [and_true, after, assigned]
    omega
  · intro q m k v enrolled next
    constructor
    · intro guest taken
      refine ⟨enrolled.seat guest rfl (.take guest taken), fun scheduler args => ⟨?_, ?_⟩⟩
      · intro call
        exact run_direct_taken taken scheduler call args
      · intro W call
        exact (Act.run_bind_of taken).trans rfl
    · intro ticket guest claimed
      refine ⟨enrolled.seat guest rfl (.claim guest claimed), ?_⟩
      intro scheduler args timer W call
      exact (Act.run_bind_of claimed).trans rfl

/-- A bulkhead for two calls, which wait for a slot. -/
def wide : Bulkhead := ⟨"wide", .ofSettings [.capacity 2, .maxWait (Nanos.ofMillis 100)], 0⟩

/-- Two calls have ended while two others waited for their slots, and the first of these has just
taken its slot up. -/
theorem exists_relieved : ∃ r, wide.Enrolled r ∧ r.house.stay? 2 = some .admitted ∧
    r.announced 2 = false ∧ (wide.announce r 2).inFlight = 1 ∧ (wide.announce r 2).pending = 0 ∧
    (wide.slots (wide.announce r 2).house.world).assigned = [1] ∧
    wide.announcements r.house.world (wide.announce r 2).house.world = [2] := by
  have new : wide.Enrolled ⟨⟨{ World.empty with slots := #[.ofCapacity 2] }, []⟩, fun _ => false⟩ :=
    .start rfl
  have came := new.next (.other .arrive (by decide))
  have taken := came.next (.other (.take (n := 0) (k := 0) rfl rfl) (by decide))
  have told := taken.next (.announce (n := 0) rfl rfl)
  have runs := told.next (.other (.invoke (n := 0) (k := 0) rfl) (by decide))
  have came' := runs.next (.other .arrive (by decide))
  have taken' := came'.next (.other (.take (n := 1) (k := 0) rfl rfl) (by decide))
  have told' := taken'.next (.announce (n := 1) rfl rfl)
  have run' := told'.next (.other (.invoke (n := 1) (k := 0) rfl) (by decide))
  have third := run'.next (.other .arrive (by decide))
  have waits := third.next (.other (.enqueue (n := 2) (k := 0) rfl rfl) (by decide))
  have fourth := waits.next (.other .arrive (by decide))
  have waits' := fourth.next (.other (.enqueue (n := 3) (k := 0) rfl rfl) (by decide))
  have ends := waits'.next (.other (.finish (n := 0) (k := 1) rfl rfl) (by decide))
  have ends' := ends.next (.other (.finish (n := 1) (k := 1) rfl rfl) (by decide))
  have seated := ends'.next (.other (.claim (n := 2) (k := 0) rfl rfl) (by decide))
  exact ⟨_, seated, rfl, rfl, by decide +kernel, by decide +kernel, by decide +kernel,
    by decide +kernel⟩

/-- The number is that of one call in flight and one slot on its way to the other call that waits. -/
theorem announcement_counts_slots_relieved : ∃ r, wide.Enrolled (wide.announce r 2) ∧
    (wide.announce r 2).inFlight = r.inFlight + 1 ∧
    wide.announcements r.house.world (wide.announce r 2).house.world = [1 + 0 + 1] ∧
    wide.announcements r.house.world (wide.announce r 2).house.world ≠
      [(wide.announce r 2).inFlight] := by
  obtain ⟨r, enrolled, here, fresh, flying, pending, assigned, -⟩ := exists_relieved
  obtain ⟨after, more, counted, right, -⟩ := announcement_counts_slots enrolled here fresh
  rw [flying, pending, assigned] at counted
  refine ⟨r, after, more, counted, fun same => ?_⟩
  have none := (right.mp same).2
  rw [assigned] at none
  cases none

/-- A call announces itself as the second one in flight, and it is the only one. -/
theorem announces_more_than_in_flight : ∃ r, wide.Enrolled r ∧
    r.house.stay? 2 = some .admitted ∧ r.announced 2 = false ∧ (wide.announce r 2).inFlight = 1 ∧
    wide.announcements r.house.world (wide.announce r 2).house.world = [2] := by
  obtain ⟨r, enrolled, here, fresh, flying, -, -, announced⟩ := exists_relieved
  exact ⟨r, enrolled, here, fresh, flying, announced⟩

end Bulkhead

end CallGuard
