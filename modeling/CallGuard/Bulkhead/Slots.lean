/-!
# The slots of a bulkhead

A call takes a free slot, or draws a ticket and queues. A slot that comes back is assigned to the
first ticket in the queue and is free only when nobody queues. The call behind an assigned ticket
takes the slot up when it next looks; until then the slot is neither free nor held. Main statements:
`spare_of_take?`, `spare_enqueue`, `spare_of_claim?`, `spare_release` and `spare_withdraw` say how many
slots each operation leaves in nobody's hands.
-/

namespace CallGuard

structure Slots where
  free : Nat
  /-- Tickets without a slot, first come first. -/
  queue : List Nat
  /-- Tickets with a slot that has not been taken up. -/
  assigned : List Nat
  nextTicket : Nat
  deriving DecidableEq, Repr

namespace Slots

/-- The most slots that can be kept. -/
def limit : Nat := (1 <<< 61) - 1

def ofCapacity (n : Nat) : Slots := ⟨n, [], [], 0⟩

/-- Takes a free slot. -/
def take? (s : Slots) : Option Slots :=
  if 0 < s.free then some { s with free := s.free - 1 } else none

/-- Draws a ticket. It goes to the end of the queue, unless a slot is free after all: that is assigned
to it at once. -/
def enqueue (s : Slots) : Nat × Slots :=
  let drawn := { s with nextTicket := s.nextTicket + 1 }
  (s.nextTicket,
    if 0 < s.free then
      { drawn with free := s.free - 1, assigned := s.assigned ++ [s.nextTicket] }
    else { drawn with queue := s.queue ++ [s.nextTicket] })

/-- Takes up the slot assigned to the ticket. -/
def claim? (s : Slots) (ticket : Nat) : Option Slots :=
  if ticket ∈ s.assigned then some { s with assigned := s.assigned.erase ticket } else none

/-- Gives a slot back. -/
def release (s : Slots) : Slots :=
  match s.queue with
  | [] => { s with free := s.free + 1 }
  | ticket :: rest => { s with queue := rest, assigned := s.assigned ++ [ticket] }

/-- Leaves the queue; a slot assigned meanwhile is given back. -/
def withdraw (s : Slots) (ticket : Nat) : Slots :=
  match s.claim? ticket with
  | some s => s.release
  | none => { s with queue := s.queue.erase ticket }

/-- The slots that no call holds. -/
def spare (s : Slots) : Nat := s.free + s.assigned.length

theorem spare_of_take? {s t : Slots} (h : s.take? = some t) : t.spare + 1 = s.spare := by
  unfold take? at h
  split at h
  · cases h
    simp only [spare]
    omega
  · cases h

/-- A ticket that is drawn takes no slot. -/
theorem spare_enqueue (s : Slots) : s.enqueue.2.spare = s.spare := by
  simp only [enqueue]
  split
  · simp only [spare, List.length_append, List.length_singleton]
    omega
  · rfl

theorem spare_of_claim? {s t : Slots} {ticket : Nat} (h : s.claim? ticket = some t) :
    t.spare + 1 = s.spare := by
  unfold claim? at h
  split at h
  next found =>
    cases h
    have shorter := List.length_erase_of_mem found
    have := List.length_pos_of_mem found
    simp only [spare]
    omega
  next => cases h

theorem spare_release (s : Slots) : s.release.spare = s.spare + 1 := by
  unfold release
  split <;> simp only [spare, List.length_append, List.length_singleton] <;> omega

/-- Leaving the queue neither takes a slot nor adds one. -/
theorem spare_withdraw (s : Slots) (ticket : Nat) : (s.withdraw ticket).spare = s.spare := by
  unfold withdraw
  cases h : s.claim? ticket with
  | none => rfl
  | some t =>
    have := spare_of_claim? h
    simp only [spare_release]
    omega

end Slots

end CallGuard
