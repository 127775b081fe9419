import CallGuard.Bulkhead.Call
import CallGuard.Proofs.Acts
import CallGuard.Proofs.Records

/-!
# Calls in one bulkhead

Any number of calls come to a bulkhead at once, on one thread or on many. Each of them takes a free
slot or queues, is turned away, gives up or is dropped, and gives its slot back when it is over; in
between the rest of the world does as it likes. A `House` is such a world with a record of every call
that has come, and a `Step` is one operation on the slots, done whole as under their lock.

Main statements: `occupancy_of_reachable` says that the slots agree with the record at all times.
-/

namespace CallGuard

/-- How far a call has come at a bulkhead. -/
inductive Stay where
  /-- It has neither a slot nor a ticket. -/
  | outside
  | queued (ticket : Nat)
  /-- It has a slot, and what it guards has not been invoked. -/
  | admitted
  /-- It has a slot, and what it guards has been invoked. -/
  | running
  /-- What it guards has returned, crashed or been dropped, and the slot is given back. -/
  | ended
  /-- It never had a slot: it was refused one, or was dropped before. -/
  | left (refused : Bool)
  deriving DecidableEq, Repr

namespace Stay

/-- Whether the call has a slot that it has not given back. -/
def holds : Stay → Bool
  | admitted | running => true
  | outside | queued _ | ended | left _ => false

def ticket? : Stay → Option Nat
  | queued ticket => some ticket
  | outside | admitted | running | ended | left _ => none

def isLive : Stay → Bool
  | outside | queued _ | admitted | running => true
  | ended | left _ => false

/-- How often what the call guards is invoked up to there. -/
def invocations : Stay → Nat
  | running | ended => 1
  | outside | queued _ | admitted | left _ => 0

end Stay

/-- A call that has come to a bulkhead. -/
structure Guest where
  stay : Stay
  /-- How often what it guards has been invoked. -/
  invocations : Nat
  deriving DecidableEq, Repr

namespace Guest

def holds (g : Guest) : Bool := g.stay.holds

def runs (g : Guest) : Bool := g.stay = .running

def ticket? (g : Guest) : Option Nat := g.stay.ticket?

/-- Whether a slot has been assigned to the call that it has not taken up. -/
def isAssigned (s : Slots) (g : Guest) : Bool := g.ticket?.any (· ∈ s.assigned)

end Guest

/-- A world with calls in a bulkhead. -/
structure House where
  world : World
  /-- All calls that have come, in order. -/
  guests : List Guest

namespace House

def put (s : House) (n : Nat) (g : Guest) (w : World) : House := ⟨w, s.guests.set n g⟩

def stay? (s : House) (n : Nat) : Option Stay := s.guests[n]?.map Guest.stay

end House

namespace Bulkhead

/-- One operation on the slots, a call that comes, leaves or invokes what it guards, or any change of
the world that leaves the slots alone. -/
inductive Step (b : Bulkhead) : House → House → Prop where
  | arrive {s : House} : Step b s ⟨s.world, s.guests ++ [⟨.outside, 0⟩]⟩
  | take {s : House} {n k : Nat} (here : s.guests[n]? = some ⟨.outside, k⟩) {w : World}
      (taken : b.take.run s.world = (true, w)) : Step b s (s.put n ⟨.admitted, k⟩ w)
  | enqueue {s : House} {n k : Nat} (here : s.guests[n]? = some ⟨.outside, k⟩) {w : World}
      {ticket : Nat} (drawn : b.enqueue.run s.world = (ticket, w)) :
      Step b s (s.put n ⟨.queued ticket, k⟩ w)
  | claim {s : House} {n k ticket : Nat} (here : s.guests[n]? = some ⟨.queued ticket, k⟩)
      {w : World} (claimed : (b.claim ticket).run s.world = (true, w)) :
      Step b s (s.put n ⟨.admitted, k⟩ w)
  | invoke {s : House} {n k : Nat} (here : s.guests[n]? = some ⟨.admitted, k⟩) :
      Step b s (s.put n ⟨.running, k + 1⟩ s.world)
  | finish {s : House} {n k : Nat} (here : s.guests[n]? = some ⟨.running, k⟩) {w : World}
      (finished : b.finish.run s.world = ((), w)) : Step b s (s.put n ⟨.ended, k⟩ w)
  | leave {s : House} {n k : Nat} (here : s.guests[n]? = some ⟨.outside, k⟩) (refused : Bool) :
      Step b s (s.put n ⟨.left refused, k⟩ s.world)
  | withdraw {s : House} {n k ticket : Nat} (here : s.guests[n]? = some ⟨.queued ticket, k⟩)
      (refused : Bool) {w : World} (withdrawn : (b.withdraw ticket).run s.world = ((), w)) :
      Step b s (s.put n ⟨.left refused, k⟩ w)
  | elsewhere {s : House} {w : World} (kept : w.slots[b.cell]? = s.world.slots[b.cell]?) :
      Step b s ⟨w, s.guests⟩

/-- What comes about from a new bulkhead, in whatever order the steps interleave. -/
inductive Reachable (b : Bulkhead) : House → Prop where
  | start {w : World} (made : w.slots[b.cell]? = some (.ofCapacity b.config.capacity)) :
      Reachable b ⟨w, []⟩
  | next {s t : House} : Reachable b s → Step b s t → Reachable b t

end Bulkhead

namespace Slots

/-- All tickets that are out. -/
def tickets (s : Slots) : List Nat := s.queue ++ s.assigned

/-- Every ticket was drawn, and no two calls have the same one. -/
structure Orderly (s : Slots) : Prop where
  distinct : s.tickets.Nodup
  drawn : ∀ ticket ∈ s.tickets, ticket < s.nextTicket

variable {s t : Slots} {ticket : Nat}

theorem tickets_of_take? (h : s.take? = some t) :
    t.tickets = s.tickets ∧ t.nextTicket = s.nextTicket := by
  unfold take? at h
  split at h <;> cases h
  exact ⟨rfl, rfl⟩

theorem tickets_enqueue (s : Slots) : s.enqueue.2.tickets.Perm (s.enqueue.1 :: s.tickets) := by
  simp only [enqueue, tickets]
  split
  · rw [← List.append_assoc]
    exact List.perm_append_singleton _ _
  · rw [List.append_assoc, List.singleton_append]
    exact List.perm_middle

theorem nextTicket_enqueue (s : Slots) : s.enqueue.2.nextTicket = s.enqueue.1 + 1 := by
  simp only [enqueue]
  split <;> rfl

theorem tickets_of_claim? (h : s.claim? ticket = some t) :
    s.tickets.Perm (ticket :: t.tickets) ∧ t.nextTicket = s.nextTicket := by
  unfold claim? at h
  split at h
  next found =>
    cases h
    refine ⟨?_, rfl⟩
    exact ((List.perm_cons_erase found).append_left s.queue).trans List.perm_middle
  next => cases h

theorem tickets_release (s : Slots) :
    s.release.tickets.Perm s.tickets ∧ s.release.nextTicket = s.nextTicket := by
  unfold release
  split
  next => exact ⟨.refl _, rfl⟩
  next first rest waiting =>
    refine ⟨?_, rfl⟩
    simp only [tickets, waiting, List.cons_append, ← List.append_assoc]
    exact List.perm_append_singleton first _

theorem tickets_withdraw (out : ticket ∈ s.tickets) :
    s.tickets.Perm (ticket :: (s.withdraw ticket).tickets) ∧
      (s.withdraw ticket).nextTicket = s.nextTicket := by
  unfold withdraw
  cases claimed : s.claim? ticket with
  | some t =>
    obtain ⟨before, same⟩ := tickets_of_claim? claimed
    obtain ⟨after, kept⟩ := tickets_release t
    exact ⟨before.trans (after.symm.cons ticket), kept.trans same⟩
  | none =>
    have unassigned : ticket ∉ s.assigned := by
      intro found
      rw [claim?, if_pos found] at claimed
      cases claimed
    have waiting : ticket ∈ s.queue := (List.mem_append.mp out).resolve_right unassigned
    exact ⟨(List.perm_cons_erase waiting).append_right s.assigned, rfl⟩

theorem Orderly.kept (h : s.Orderly) (tickets : s.tickets.Perm t.tickets)
    (same : t.nextTicket = s.nextTicket) : t.Orderly where
  distinct := tickets.nodup h.distinct
  drawn ticket out := same ▸ h.drawn ticket (tickets.mem_iff.mpr out)

theorem Orderly.fewer (h : s.Orderly) (tickets : s.tickets.Perm (ticket :: t.tickets))
    (same : t.nextTicket = s.nextTicket) : t.Orderly where
  distinct := (List.nodup_cons.mp (tickets.nodup h.distinct)).2
  drawn other out := same ▸ h.drawn other (tickets.mem_iff.mpr (List.mem_cons_of_mem ticket out))

theorem Orderly.enqueue (h : s.Orderly) : s.enqueue.2.Orderly where
  distinct := by
    refine (tickets_enqueue s).nodup_iff.mpr (List.nodup_cons.mpr ⟨fun out => ?_, h.distinct⟩)
    exact absurd (h.drawn _ out) (Nat.lt_irrefl _)
  drawn ticket out := by
    rw [nextTicket_enqueue]
    rcases List.mem_cons.mp ((tickets_enqueue s).mem_iff.mp out) with rfl | earlier
    · exact Nat.lt_succ_self _
    · exact Nat.lt_succ_of_lt (h.drawn ticket earlier)

end Slots

/-- The slots agree with the record of the calls. -/
structure Occupancy (capacity : Nat) (slots : Slots) (guests : List Guest) : Prop where
  full : slots.spare + guests.countP Guest.holds = capacity
  tickets : slots.tickets.Perm (guests.filterMap Guest.ticket?)
  orderly : slots.Orderly
  invoked : ∀ g ∈ guests, g.invocations = g.stay.invocations

namespace Occupancy

variable {capacity n k : Nat} {slots : Slots} {guests : List Guest} {ticket : Nat}

/-- One call moves on, and the slots change to match. -/
theorem move (h : Occupancy capacity slots guests) {old new : Guest} {t : Slots}
    (here : guests[n]? = some old)
    (balanced : t.spare + new.holds.toNat = slots.spare + old.holds.toNat)
    (traded : (old.ticket?.toList ++ t.tickets).Perm (new.ticket?.toList ++ slots.tickets))
    (orderly : t.Orderly) (invoked : new.invocations = new.stay.invocations) :
    Occupancy capacity t (guests.set n new) where
  full := by
    have held := countP_set_add here Guest.holds new
    have before := h.full
    omega
  tickets := by
    have out := filterMap_set_perm here Guest.ticket? new
    have same := traded.trans ((h.tickets.append_left _).trans out.symm)
    exact (List.perm_append_left_iff _).mp same
  orderly := orderly
  invoked g mem := by
    rcases List.mem_or_eq_of_mem_set mem with before | rfl
    · exact h.invoked g before
    · exact invoked

theorem arrive (h : Occupancy capacity slots guests) :
    Occupancy capacity slots (guests ++ [⟨.outside, 0⟩]) where
  full := by
    rw [List.countP_append]
    exact h.full
  tickets := by
    rw [List.filterMap_append]
    exact h.tickets.trans (List.append_nil _ ▸ .refl _)
  orderly := h.orderly
  invoked := List.forall_mem_append.mpr ⟨h.invoked, List.forall_mem_singleton.mpr rfl⟩

theorem take {t : Slots} (h : Occupancy capacity slots guests)
    (here : guests[n]? = some ⟨.outside, k⟩) (taken : slots.take? = some t) :
    Occupancy capacity t (guests.set n ⟨.admitted, k⟩) := by
  obtain ⟨tickets, same⟩ := Slots.tickets_of_take? taken
  have before := h.invoked _ (List.mem_of_getElem? here)
  have unchanged : slots.tickets.Perm t.tickets := .of_eq tickets.symm
  exact h.move here (Slots.spare_of_take? taken) unchanged.symm (h.orderly.kept unchanged same) before

theorem enqueue (h : Occupancy capacity slots guests)
    (here : guests[n]? = some ⟨.outside, k⟩) :
    Occupancy capacity slots.enqueue.2 (guests.set n ⟨.queued slots.enqueue.1, k⟩) := by
  have before := h.invoked _ (List.mem_of_getElem? here)
  have balanced := Slots.spare_enqueue slots
  exact h.move here balanced (Slots.tickets_enqueue slots) h.orderly.enqueue before

theorem claim {t : Slots} (h : Occupancy capacity slots guests)
    (here : guests[n]? = some ⟨.queued ticket, k⟩) (claimed : slots.claim? ticket = some t) :
    Occupancy capacity t (guests.set n ⟨.admitted, k⟩) := by
  obtain ⟨tickets, same⟩ := Slots.tickets_of_claim? claimed
  have before := h.invoked _ (List.mem_of_getElem? here)
  exact h.move here (Slots.spare_of_claim? claimed) tickets.symm (h.orderly.fewer tickets same) before

theorem invoke (h : Occupancy capacity slots guests)
    (here : guests[n]? = some ⟨.admitted, k⟩) :
    Occupancy capacity slots (guests.set n ⟨.running, k + 1⟩) := by
  have before : k = 0 := h.invoked _ (List.mem_of_getElem? here)
  exact h.move here rfl (.refl _) h.orderly (congrArg (· + 1) before)

theorem finish (h : Occupancy capacity slots guests)
    (here : guests[n]? = some ⟨.running, k⟩) :
    Occupancy capacity slots.release (guests.set n ⟨.ended, k⟩) := by
  obtain ⟨tickets, same⟩ := Slots.tickets_release slots
  have before := h.invoked _ (List.mem_of_getElem? here)
  exact h.move here (Slots.spare_release slots) tickets (h.orderly.kept tickets.symm same) before

theorem leave (h : Occupancy capacity slots guests)
    (here : guests[n]? = some ⟨.outside, k⟩) (refused : Bool) :
    Occupancy capacity slots (guests.set n ⟨.left refused, k⟩) := by
  have before := h.invoked _ (List.mem_of_getElem? here)
  exact h.move here rfl (.refl _) h.orderly before

/-- A slot that was assigned to a call that leaves the queue is not lost. -/
theorem withdraw (h : Occupancy capacity slots guests)
    (here : guests[n]? = some ⟨.queued ticket, k⟩) (refused : Bool) :
    Occupancy capacity (slots.withdraw ticket) (guests.set n ⟨.left refused, k⟩) := by
  have mem := List.mem_of_getElem? here
  have out : ticket ∈ slots.tickets :=
    h.tickets.mem_iff.mpr (List.mem_filterMap.mpr ⟨_, mem, rfl⟩)
  obtain ⟨tickets, same⟩ := Slots.tickets_withdraw out
  have before := h.invoked _ mem
  exact h.move here (Slots.spare_withdraw slots ticket) tickets.symm (h.orderly.fewer tickets same)
    before

/-- The assigned slots are those of the calls that have not taken them up. -/
theorem countP_isAssigned (h : Occupancy capacity slots guests) :
    guests.countP (Guest.isAssigned slots) = slots.assigned.length := by
  have counted : guests.countP (Guest.isAssigned slots) =
      (guests.filterMap Guest.ticket?).countP (· ∈ slots.assigned) := by
    rw [List.countP_filterMap]
    refine List.countP_congr fun g _ => ?_
    cases ticket : g.ticket? <;> simp [Guest.isAssigned, ticket]
  have apart := (List.nodup_append.mp h.orderly.distinct).2.2
  have waiting : slots.queue.countP (· ∈ slots.assigned) = 0 :=
    List.countP_eq_zero.mpr fun ticket queued assigned =>
      apart ticket queued ticket (of_decide_eq_true assigned) rfl
  have assigned : slots.assigned.countP (· ∈ slots.assigned) = slots.assigned.length :=
    List.countP_eq_length.mpr fun ticket mem => decide_eq_true mem
  rw [counted, ← h.tickets.countP_eq, Slots.tickets, List.countP_append, waiting, assigned,
    Nat.zero_add]

theorem account (h : Occupancy capacity slots guests) :
    slots.free + guests.countP Guest.holds + guests.countP (Guest.isAssigned slots) = capacity := by
  have full := h.full
  rw [Slots.spare, ← h.countP_isAssigned] at full
  omega

end Occupancy

namespace Bulkhead

variable {b : Bulkhead} {s t : House} {w : World} {slots : Slots}

theorem slots_of (made : w.slots[b.cell]? = some slots) : b.slots w = slots := by
  rw [Bulkhead.slots, made, Option.getD_some]

theorem slots_update (made : w.slots[b.cell]? = some slots) (new : Slots) :
    ((b.update new).run w).2.slots[b.cell]? = some new := by
  obtain ⟨inside, -⟩ := Array.getElem?_eq_some_iff.mp made
  simp only [update, Act.run_modify, Array.getElem?_setIfInBounds_self, if_pos inside]

/-- The world has slots for the bulkhead, and they agree with the record of the calls. -/
def Occupied (b : Bulkhead) (s : House) : Prop :=
  ∃ slots, s.world.slots[b.cell]? = some slots ∧ Occupancy b.config.capacity slots s.guests

theorem slots_of_take (made : w.slots[b.cell]? = some slots) {v : World}
    (taken : b.take.run w = (true, v)) :
    ∃ t, slots.take? = some t ∧ v.slots[b.cell]? = some t := by
  simp only [take, Act.run_bind, Act.run_get, slots_of made] at taken
  cases found : slots.take? with
  | none =>
    rw [found] at taken
    cases taken
  | some t =>
    rw [found] at taken
    cases taken
    exact ⟨t, rfl, slots_update made t⟩

theorem slots_of_claim (made : w.slots[b.cell]? = some slots) {ticket : Nat} {v : World}
    (claimed : (b.claim ticket).run w = (true, v)) :
    ∃ t, slots.claim? ticket = some t ∧ v.slots[b.cell]? = some t := by
  simp only [claim, Act.run_bind, Act.run_get, slots_of made] at claimed
  cases found : slots.claim? ticket with
  | none =>
    rw [found] at claimed
    cases claimed
  | some t =>
    rw [found] at claimed
    cases claimed
    exact ⟨t, rfl, slots_update made t⟩

theorem run_enqueue (made : w.slots[b.cell]? = some slots) :
    b.enqueue.run w = (slots.enqueue.1, ((b.update slots.enqueue.2).run w).2) := by
  simp only [enqueue, Act.run_bind, Act.run_get, Act.run_pure, slots_of made]

theorem run_withdraw (made : w.slots[b.cell]? = some slots) (ticket : Nat) :
    (b.withdraw ticket).run w = (b.update (slots.withdraw ticket)).run w := by
  simp only [withdraw, Act.run_bind, Act.run_get, slots_of made]

theorem slots_finish (made : w.slots[b.cell]? = some slots) :
    (b.finish.run w).2.slots[b.cell]? = some slots.release := by
  have told : (w.append (w.reported b.name b.config.listeners .callFinished)).slots[b.cell]? =
      some slots := made
  simp only [finish, emit, Act.run_bind, Act.run_emit, Act.run_get, slots_of told]
  exact slots_update told slots.release

theorem Step.occupied (step : b.Step s t) (h : b.Occupied s) : b.Occupied t := by
  obtain ⟨slots, made, occupancy⟩ := h
  cases step with
  | arrive => exact ⟨slots, made, occupancy.arrive⟩
  | take here taken =>
    obtain ⟨rest, found, left⟩ := slots_of_take made taken
    exact ⟨rest, left, occupancy.take here found⟩
  | enqueue here drawn =>
    rw [run_enqueue made] at drawn
    cases drawn
    exact ⟨_, slots_update made _, occupancy.enqueue here⟩
  | claim here claimed =>
    obtain ⟨rest, found, left⟩ := slots_of_claim made claimed
    exact ⟨rest, left, occupancy.claim here found⟩
  | invoke here => exact ⟨slots, made, occupancy.invoke here⟩
  | finish here finished =>
    have left := slots_finish made
    rw [finished] at left
    exact ⟨_, left, occupancy.finish here⟩
  | leave here refused => exact ⟨slots, made, occupancy.leave here refused⟩
  | @withdraw n k ticket here refused w withdrawn =>
    have left := slots_update made (slots.withdraw ticket)
    rw [← run_withdraw made, withdrawn] at left
    exact ⟨_, left, occupancy.withdraw here refused⟩
  | elsewhere kept => exact ⟨slots, kept.trans made, occupancy⟩

theorem occupancy_of_reachable (h : b.Reachable s) : b.Occupied s := by
  induction h with
  | start made =>
    refine ⟨_, made, rfl, .refl _, ⟨List.nodup_nil, ?_⟩, ?_⟩
    · intro ticket out
      cases out
    · intro g mem
      cases mem
  | next _ step ih => exact step.occupied ih

end Bulkhead

end CallGuard
