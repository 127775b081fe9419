import CallGuard.Proofs.Bulkhead.Interleaving

/-!
# First come, first served

Calls that find no slot queue for one. Tickets are drawn in rising order, so the queue holds those who
wait in the order in which they began to; a slot that comes back goes to the first of them, and while
anybody waits none is free for a newcomer. A `Deal` is what one step does to the slots, with the
stay of the one call that takes it.

Main statement: `served_in_order`.
-/

namespace CallGuard

namespace Slots

/-- Those who queue stand in the order of their tickets, and nobody queues while a slot is free. -/
structure InLine (s : Slots) : Prop where
  sorted : s.queue.Pairwise (· < ·)
  calm : 0 < s.free → s.queue = []

variable {s t : Slots} {ticket other : Nat}

theorem release_cases (s : Slots) :
    (s.queue = [] ∧ s.release = { s with free := s.free + 1 }) ∨
      ∃ first rest, s.queue = first :: rest ∧
        s.release = { s with queue := rest, assigned := s.assigned ++ [first] } := by
  unfold release
  cases queue : s.queue with
  | nil => exact .inl ⟨rfl, rfl⟩
  | cons first rest => exact .inr ⟨first, rest, rfl, rfl⟩

theorem withdraw_cases (s : Slots) (ticket : Nat) :
    (ticket ∈ s.assigned ∧
      s.withdraw ticket = { s with assigned := s.assigned.erase ticket }.release) ∨
      ticket ∉ s.assigned ∧ s.withdraw ticket = { s with queue := s.queue.erase ticket } := by
  unfold withdraw claim?
  by_cases assigned : ticket ∈ s.assigned
  · rw [if_pos assigned]
    exact .inl ⟨assigned, rfl⟩
  · rw [if_neg assigned]
    exact .inr ⟨assigned, rfl⟩

theorem enqueue_cases (s : Slots) :
    (0 < s.free ∧ s.enqueue.2 = { s with
      free := s.free - 1
      assigned := s.assigned ++ [s.nextTicket]
      nextTicket := s.nextTicket + 1 }) ∨
      s.free = 0 ∧ s.enqueue.2 = { s with
        queue := s.queue ++ [s.nextTicket]
        nextTicket := s.nextTicket + 1 } := by
  unfold enqueue
  by_cases free : 0 < s.free
  · exact .inl ⟨free, if_pos free⟩
  · exact .inr ⟨by omega, if_neg free⟩

theorem eq_of_claim? (claimed : s.claim? ticket = some t) :
    ticket ∈ s.assigned ∧ t = { s with assigned := s.assigned.erase ticket } := by
  unfold claim? at claimed
  split at claimed
  next assigned =>
    cases claimed
    exact ⟨assigned, rfl⟩
  next => cases claimed

theorem eq_of_take? (taken : s.take? = some t) :
    0 < s.free ∧ t = { s with free := s.free - 1 } := by
  unfold take? at taken
  split at taken
  next free =>
    cases taken
    exact ⟨free, rfl⟩
  next => cases taken

/-- A ticket in the queue has no slot assigned to it. -/
theorem Orderly.not_assigned (h : s.Orderly) (queued : ticket ∈ s.queue) : ticket ∉ s.assigned := by
  intro assigned
  exact (List.nodup_append.mp h.distinct).2.2 ticket queued ticket assigned rfl

theorem Orderly.lt_nextTicket (h : s.Orderly) (queued : ticket ∈ s.queue) :
    ticket < s.nextTicket :=
  h.drawn ticket (List.mem_append_left _ queued)

namespace InLine

theorem release (h : s.InLine) : s.release.InLine := by
  rcases s.release_cases with ⟨empty, eq⟩ | ⟨first, rest, queue, eq⟩
  · rw [eq]
    exact ⟨h.sorted, fun _ => empty⟩
  · rw [eq]
    constructor
    · have sorted := h.sorted
      rw [queue] at sorted
      exact sorted.of_cons
    · intro free
      have empty := h.calm free
      rw [queue] at empty
      cases empty

theorem enqueue (h : s.InLine) (orderly : s.Orderly) : s.enqueue.2.InLine := by
  rcases s.enqueue_cases with ⟨free, eq⟩ | ⟨none, eq⟩
  · have empty := h.calm free
    rw [eq]
    exact ⟨h.sorted, fun _ => empty⟩
  · rw [eq]
    constructor
    · apply List.pairwise_append.mpr
      refine ⟨h.sorted, List.pairwise_singleton _ _, ?_⟩
      intro earlier queued last mem
      rw [List.mem_singleton.mp mem]
      exact orderly.lt_nextTicket queued
    · intro free
      change 0 < s.free at free
      omega

theorem withdraw (h : s.InLine) (ticket : Nat) : (s.withdraw ticket).InLine := by
  rcases s.withdraw_cases ticket with ⟨-, eq⟩ | ⟨-, eq⟩
  · rw [eq]
    apply InLine.release
    exact ⟨h.sorted, h.calm⟩
  · rw [eq]
    constructor
    · exact h.sorted.sublist List.erase_sublist
    · intro free
      have empty := h.calm free
      change s.queue.erase ticket = []
      rw [empty]
      rfl

/-- Whoever waits behind a call that still waits when a slot has come back waits as well. -/
theorem mem_release (h : s.InLine) (still : ticket ∈ s.release.queue) (behind : ticket < other)
    (queued : other ∈ s.queue) : other ∈ s.release.queue := by
  rcases s.release_cases with ⟨-, eq⟩ | ⟨first, rest, queue, eq⟩
  · rw [eq]
    exact queued
  · rw [eq] at still ⊢
    have sorted := h.sorted
    rw [queue] at sorted queued
    have before := List.rel_of_pairwise_cons sorted still
    rcases List.mem_cons.mp queued with same | later
    · omega
    · exact later

theorem mem_withdraw (h : s.InLine) {gone : Nat} (still : ticket ∈ (s.withdraw gone).queue)
    (behind : ticket < other) (queued : other ∈ s.queue) (stays : other ≠ gone) :
    other ∈ (s.withdraw gone).queue := by
  rcases s.withdraw_cases gone with ⟨-, eq⟩ | ⟨-, eq⟩
  · rw [eq] at still ⊢
    exact mem_release ⟨h.sorted, h.calm⟩ still behind queued
  · rw [eq]
    exact (List.mem_erase_of_ne stays).mpr queued

end InLine

/-- A slot that comes back is assigned to the first in the queue and to nobody else. -/
theorem mem_assigned_release (assigned : ticket ∈ s.release.assigned) :
    ticket ∈ s.assigned ∨ s.queue = ticket :: s.release.queue := by
  rcases s.release_cases with ⟨-, eq⟩ | ⟨first, rest, queue, eq⟩
  · rw [eq] at assigned
    exact .inl assigned
  · rw [eq] at assigned ⊢
    rcases List.mem_append.mp assigned with before | now
    · exact .inl before
    · rw [List.mem_singleton.mp now]
      exact .inr queue

theorem mem_assigned_withdraw {gone : Nat} (assigned : ticket ∈ (s.withdraw gone).assigned) :
    ticket ∈ s.assigned ∨ s.queue = ticket :: (s.withdraw gone).queue := by
  rcases s.withdraw_cases gone with ⟨-, eq⟩ | ⟨-, eq⟩
  · rw [eq] at assigned ⊢
    rcases mem_assigned_release assigned with before | first
    · exact .inl (List.mem_of_mem_erase before)
    · exact .inr first
  · rw [eq] at assigned
    exact .inl assigned

/-- What becomes of the slots as one call goes from where it was to where it is. -/
inductive Deal (s : Slots) : Option Stay → Stay → Slots → Prop where
  | arrive : Deal s none .outside s
  | take {t : Slots} (taken : s.take? = some t) : Deal s (some .outside) .admitted t
  | enqueue : Deal s (some .outside) (.queued s.enqueue.1) s.enqueue.2
  | claim {t : Slots} {ticket : Nat} (claimed : s.claim? ticket = some t) :
      Deal s (some (.queued ticket)) .admitted t
  | invoke : Deal s (some .admitted) .running s
  | finish : Deal s (some .running) .ended s.release
  | leave (refused : Bool) : Deal s (some .outside) (.left refused) s
  | withdraw (ticket : Nat) (refused : Bool) :
      Deal s (some (.queued ticket)) (.left refused) (s.withdraw ticket)

theorem Deal.inLine {old : Option Stay} {new : Stay} (deal : s.Deal old new t) (h : s.InLine)
    (orderly : s.Orderly) : t.InLine := by
  cases deal with
  | arrive | invoke | leave => exact h
  | take taken =>
    obtain ⟨free, rfl⟩ := eq_of_take? taken
    have empty := h.calm free
    exact ⟨h.sorted, fun _ => empty⟩
  | enqueue => exact h.enqueue orderly
  | claim claimed =>
    obtain ⟨-, rfl⟩ := eq_of_claim? claimed
    exact ⟨h.sorted, h.calm⟩
  | finish => exact h.release
  | withdraw ticket => exact h.withdraw ticket

section

variable (s : Slots) (stays : Nat → Option Stay)

/-- The call of that number waits, and no slot has been given to it. -/
def Waits (n ticket : Nat) : Prop := stays n = some (.queued ticket) ∧ ticket ∈ s.queue

/-- A slot has been given to the call: it holds one, or one is assigned to it. -/
def Given (n : Nat) : Prop :=
  ∃ stay, stays n = some stay ∧
    (stay.holds = true ∨ ∃ ticket, stay = .queued ticket ∧ ticket ∈ s.assigned)

/-- The call has not come, has not found a slot, waits behind the ticket without one, or has left
without one. -/
def Behind (ticket n : Nat) : Prop :=
  ∀ stay, stays n = some stay → stay = .outside ∨ (∃ refused, stay = .left refused) ∨
    ∃ other, stay = .queued other ∧ other ∈ s.queue ∧ ticket < other

/-- The slots and the calls agree on who waits, and those who wait stand in line. -/
structure Lined : Prop where
  inLine : s.InLine
  orderly : s.Orderly
  out : ∀ n ticket, stays n = some (.queued ticket) → ticket ∈ s.tickets
  apart : ∀ n m ticket, stays n = some (.queued ticket) → stays m = some (.queued ticket) → n = m

end

variable {stays after : Nat → Option Stay} {n m : Nat} {new : Stay}

/-- A call behind somebody who waits has not been given a slot. -/
theorem Behind.not_given (h : s.Behind stays ticket m) (orderly : s.Orderly) :
    ¬ s.Given stays m := by
  rintro ⟨stay, here, holds | ⟨own, rfl, assigned⟩⟩
  · rcases h stay here with rfl | ⟨refused, rfl⟩ | ⟨other, rfl, -⟩ <;> cases holds
  · rcases h _ here with eq | ⟨refused, eq⟩ | ⟨other, eq, queued, -⟩
    · cases eq
    · cases eq
    · cases eq
      exact orderly.not_assigned queued assigned

/-- When a call stays where it is and has now been given a slot, its ticket has been assigned one. -/
theorem Given.newly (given : t.Given after m) (same : after m = stays m)
    (before : ¬ s.Given stays m) :
    ∃ ticket, stays m = some (.queued ticket) ∧ ticket ∈ t.assigned ∧ ticket ∉ s.assigned := by
  obtain ⟨stay, here, holds | ⟨ticket, rfl, assigned⟩⟩ := given
  · rw [same] at here
    exact absurd ⟨stay, here, .inl holds⟩ before
  · rw [same] at here
    refine ⟨ticket, here, assigned, fun already => before ?_⟩
    exact ⟨_, here, .inr ⟨ticket, rfl, already⟩⟩

namespace Deal

/-- A slot is given to the first who waits, or nobody waits. -/
theorem given (deal : s.Deal (stays n) new t) (h : s.Lined stays) (changed : after n = some new)
    (same : ∀ m, m ≠ n → after m = stays m) (before : ¬ s.Given stays m)
    (given : t.Given after m) :
    s.queue = [] ∧ t.queue = [] ∨
      ∃ ticket, s.Waits stays m ticket ∧ s.queue = ticket :: t.queue := by
  by_cases own : m = n
  · subst own
    obtain ⟨stay, here, has⟩ := given
    rw [changed] at here
    cases here
    generalize was : stays m = old at deal
    cases deal with
    | arrive | finish | leave | withdraw =>
      rcases has with holds | ⟨ticket, eq, -⟩
      · cases holds
      · cases eq
    | take taken =>
      obtain ⟨free, rfl⟩ := eq_of_take? taken
      have empty := h.inLine.calm free
      exact .inl ⟨empty, empty⟩
    | enqueue =>
      rcases s.enqueue_cases with ⟨free, eq⟩ | ⟨none, eq⟩
      · have empty := h.inLine.calm free
        rw [eq]
        exact .inl ⟨empty, empty⟩
      · rcases has with holds | ⟨ticket, drawn, assigned⟩
        · cases holds
        · cases drawn
          rw [eq] at assigned
          have earlier := h.orderly.drawn _ (List.mem_append_right _ assigned)
          exact absurd earlier (Nat.lt_irrefl _)
    | claim claimed =>
      obtain ⟨assigned, -⟩ := eq_of_claim? claimed
      exact absurd ⟨_, was, .inr ⟨_, rfl, assigned⟩⟩ before
    | invoke => exact absurd ⟨_, was, .inl rfl⟩ before
  · obtain ⟨ticket, here, assigned, unassigned⟩ := given.newly (same m own) before
    have out := h.out m ticket here
    have queued : ticket ∈ s.queue := (List.mem_append.mp out).resolve_right unassigned
    generalize stays n = old at deal
    cases deal with
    | arrive | invoke | leave => exact absurd assigned unassigned
    | take taken =>
      obtain ⟨-, rfl⟩ := eq_of_take? taken
      exact absurd assigned unassigned
    | claim claimed =>
      obtain ⟨-, rfl⟩ := eq_of_claim? claimed
      exact absurd (List.mem_of_mem_erase assigned) unassigned
    | enqueue =>
      rcases s.enqueue_cases with ⟨-, eq⟩ | ⟨-, eq⟩
      · rw [eq] at assigned
        rcases List.mem_append.mp assigned with already | drawn
        · exact absurd already unassigned
        · have earlier := h.orderly.drawn ticket out
          rw [List.mem_singleton.mp drawn] at earlier
          exact absurd earlier (Nat.lt_irrefl _)
      · rw [eq] at assigned
        exact absurd assigned unassigned
    | finish =>
      rcases mem_assigned_release assigned with already | first
      · exact absurd already unassigned
      · exact .inr ⟨ticket, ⟨here, queued⟩, first⟩
    | withdraw gone =>
      rcases mem_assigned_withdraw assigned with already | first
      · exact absurd already unassigned
      · exact .inr ⟨ticket, ⟨here, queued⟩, first⟩

/-- A call that begins to wait goes to the end of the queue, with a ticket later than all others. -/
theorem joins (deal : s.Deal (stays n) new t) (h : s.Lined stays) (changed : after n = some new)
    (same : ∀ m, m ≠ n → after m = stays m) (before : ∀ other, stays m ≠ some (.queued other))
    (waits : t.Waits after m ticket) :
    t.queue = s.queue ++ [ticket] ∧ ∀ other ∈ s.tickets, other < ticket := by
  obtain ⟨here, queued⟩ := waits
  by_cases own : m = n
  · subst own
    rw [changed] at here
    cases here
    generalize stays m = old at deal
    cases deal with
    | enqueue =>
      refine ⟨?_, h.orderly.drawn⟩
      rcases s.enqueue_cases with ⟨-, eq⟩ | ⟨-, eq⟩
      · rw [eq] at queued
        have earlier := h.orderly.lt_nextTicket queued
        exact absurd earlier (Nat.lt_irrefl _)
      · rw [eq]
        rfl
  · rw [same m own] at here
    exact absurd here (before ticket)

/-- A call that gives up leaves the others in their order, and a slot that it has been given goes to
the first of them. -/
theorem leaves (deal : s.Deal (stays n) new t) (h : s.Lined stays) (changed : after n = some new)
    (same : ∀ m, m ≠ n → after m = stays m) (waited : stays m = some (.queued ticket))
    {refused : Bool} (left : after m = some (.left refused)) :
    (ticket ∈ s.queue →
      t.queue = s.queue.erase ticket ∧ t.assigned = s.assigned ∧ t.free = s.free) ∧
    (ticket ∈ s.assigned → s.queue = [] ∧ t.queue = [] ∧ t.free = s.free + 1 ∨
      ∃ next, s.queue = next :: t.queue ∧ next ∈ t.assigned) := by
  have own : m = n := by
    by_contra other
    rw [same m other, waited] at left
    cases left
  subst own
  rw [changed] at left
  cases left
  rw [waited] at deal
  cases deal
  rcases s.withdraw_cases ticket with ⟨assigned, eq⟩ | ⟨unassigned, eq⟩
  · refine ⟨fun queued => absurd assigned (h.orderly.not_assigned queued), fun _ => ?_⟩
    rw [eq]
    rcases release_cases { s with assigned := s.assigned.erase ticket } with
      ⟨empty, eq⟩ | ⟨first, rest, queue, eq⟩
    · rw [eq]
      exact .inl ⟨empty, empty, rfl⟩
    · rw [eq]
      exact .inr ⟨first, queue, List.mem_append_right _ List.mem_cons_self⟩
  · refine ⟨fun _ => ?_, fun assigned => absurd assigned unassigned⟩
    rw [eq]
    exact ⟨rfl, rfl, rfl⟩

/-- While somebody waits, nobody behind gets a slot. -/
theorem behind (deal : s.Deal (stays n) new t) (h : s.Lined stays) (changed : after n = some new)
    (same : ∀ m, m ≠ n → after m = stays m) {first : Nat} (waits : s.Waits stays first ticket)
    (still : ticket ∈ t.queue) (behind : s.Behind stays ticket m) : t.Behind after ticket m := by
  have full : ¬ 0 < s.free := by
    intro free
    have queued := waits.2
    rw [h.inLine.calm free] at queued
    cases queued
  intro stay here
  by_cases own : m = n
  · subst own
    rw [changed] at here
    cases here
    generalize was : stays m = old at deal
    cases deal with
    | arrive => exact .inl rfl
    | leave refused => exact .inr (.inl ⟨refused, rfl⟩)
    | withdraw gone refused => exact .inr (.inl ⟨refused, rfl⟩)
    | take taken => exact absurd (eq_of_take? taken).1 full
    | enqueue =>
      rcases s.enqueue_cases with ⟨free, -⟩ | ⟨-, eq⟩
      · exact absurd free full
      · refine .inr (.inr ⟨_, rfl, ?_, h.orderly.lt_nextTicket waits.2⟩)
        rw [eq]
        exact List.mem_append_right _ List.mem_cons_self
    | claim claimed =>
      have given : s.Given stays m := ⟨_, was, .inr ⟨_, rfl, (eq_of_claim? claimed).1⟩⟩
      exact absurd given (behind.not_given h.orderly)
    | invoke => exact absurd ⟨_, was, .inl rfl⟩ (behind.not_given h.orderly)
    | finish => exact absurd ⟨_, was, .inl rfl⟩ (behind.not_given h.orderly)
  · rw [same m own] at here
    rcases behind stay here with out | left | ⟨other, rfl, queued, later⟩
    · exact .inl out
    · exact .inr (.inl left)
    · refine .inr (.inr ⟨other, rfl, ?_, later⟩)
      generalize was : stays n = old at deal
      cases deal with
      | arrive | invoke | leave => exact queued
      | take taken => exact absurd (eq_of_take? taken).1 full
      | enqueue =>
        rcases s.enqueue_cases with ⟨free, -⟩ | ⟨-, eq⟩
        · exact absurd free full
        · rw [eq]
          exact List.mem_append_left _ queued
      | claim claimed =>
        obtain ⟨-, rfl⟩ := eq_of_claim? claimed
        exact queued
      | finish => exact h.inLine.mem_release still later queued
      | withdraw gone =>
        refine h.inLine.mem_withdraw still later queued ?_
        rintro rfl
        exact own (h.apart m n other here was)

end Deal

end Slots

namespace Occupancy

variable {capacity : Nat} {slots : Slots} {s : House}

theorem out (h : Occupancy capacity slots s.guests) {n ticket : Nat}
    (waits : s.stay? n = some (.queued ticket)) : ticket ∈ slots.tickets := by
  obtain ⟨k, guest⟩ := House.exists_of_stay? waits
  apply h.tickets.mem_iff.mpr
  exact List.mem_filterMap.mpr ⟨_, List.mem_of_getElem? guest, rfl⟩

/-- Two calls never have the same ticket. -/
theorem apart (h : Occupancy capacity slots s.guests) {n m ticket : Nat}
    (first : s.stay? n = some (.queued ticket)) (second : s.stay? m = some (.queued ticket)) :
    n = m := by
  have distinct := h.tickets.nodup h.orderly.distinct
  have pairs := List.pairwise_iff_getElem.mp (List.pairwise_filterMap.mp distinct)
  obtain ⟨k, here⟩ := House.exists_of_stay? first
  obtain ⟨l, there⟩ := House.exists_of_stay? second
  obtain ⟨inside, got⟩ := List.getElem?_eq_some_iff.mp here
  obtain ⟨within, found⟩ := List.getElem?_eq_some_iff.mp there
  rcases Nat.lt_trichotomy n m with before | same | after
  · exact absurd rfl (pairs n m inside within before ticket (by rw [got]; rfl) ticket
      (by rw [found]; rfl))
  · exact same
  · exact absurd rfl (pairs m n within inside after ticket (by rw [found]; rfl) ticket
      (by rw [got]; rfl))

end Occupancy

namespace House

theorem stay?_put_of_ne (s : House) {n m : Nat} (other : m ≠ n) (g : Guest) (w : World) :
    (s.put n g w).stay? m = s.stay? m := by
  rw [stay?, put, List.getElem?_set_ne (Ne.symm other), stay?]

end House

namespace Bulkhead

variable {b : Bulkhead} {s t : House} {slots : Slots}

/-- From one house to the other, one call has gone to another stay with a deal of the slots. -/
def Dealt (b : Bulkhead) (slots : Slots) (s t : House) : Prop :=
  ∃ n new dealt, slots.Deal (s.stay? n) new dealt ∧ t.world.slots[b.cell]? = some dealt ∧
    t.stay? n = some new ∧ ∀ m, m ≠ n → t.stay? m = s.stay? m

theorem dealt_put {n k l : Nat} {old new : Stay} {w : World} {dealt : Slots}
    (here : s.guests[n]? = some ⟨old, k⟩) (deal : slots.Deal (some old) new dealt)
    (left : w.slots[b.cell]? = some dealt) : b.Dealt slots s (s.put n ⟨new, l⟩ w) := by
  have stayed : s.stay? n = some old := by
    rw [House.stay?, here]
    rfl
  refine ⟨n, new, dealt, ?_, left, House.stay?_put here _ _, fun m other => ?_⟩
  · rw [stayed]
    exact deal
  · exact s.stay?_put_of_ne other _ _

theorem dealt_arrive (made : s.world.slots[b.cell]? = some slots) :
    b.Dealt slots s ⟨s.world, s.guests ++ [⟨.outside, 0⟩]⟩ := by
  have absent : s.stay? s.guests.length = none := by
    rw [House.stay?, List.getElem?_eq_none (Nat.le_refl _)]
    rfl
  refine ⟨s.guests.length, .outside, slots, ?_, made, ?_, fun m other => ?_⟩
  · rw [absent]
    exact .arrive
  · simp [House.stay?]
  · rcases Nat.lt_or_ge m s.guests.length with inside | beyond
    · simp only [House.stay?, List.getElem?_append_left inside]
    · have past : s.guests.length < m := by omega
      have none : (s.guests ++ [(⟨.outside, 0⟩ : Guest)])[m]? = none := by
        apply List.getElem?_eq_none
        rw [List.length_append, List.length_singleton]
        exact past
      simp only [House.stay?, none, List.getElem?_eq_none beyond]

/-- A step is a deal of one call, or leaves calls and slots as they are. -/
theorem Step.deals (step : b.Step s t) (made : s.world.slots[b.cell]? = some slots) :
    (t.stay? = s.stay? ∧ t.world.slots[b.cell]? = some slots) ∨ b.Dealt slots s t := by
  cases step with
  | arrive => exact .inr (dealt_arrive made)
  | take here taken =>
    obtain ⟨rest, found, left⟩ := slots_of_take made taken
    exact .inr (dealt_put here (.take found) left)
  | enqueue here drawn =>
    rw [run_enqueue made] at drawn
    cases drawn
    exact .inr (dealt_put here .enqueue (slots_update made _))
  | claim here claimed =>
    obtain ⟨rest, found, left⟩ := slots_of_claim made claimed
    exact .inr (dealt_put here (.claim found) left)
  | invoke here => exact .inr (dealt_put here .invoke made)
  | finish here finished =>
    have left := slots_finish made
    rw [finished] at left
    exact .inr (dealt_put here .finish left)
  | leave here refused => exact .inr (dealt_put here (.leave refused) made)
  | @withdraw n k ticket here refused w withdrawn =>
    have left := slots_update made (slots.withdraw ticket)
    rw [← run_withdraw made, withdrawn] at left
    exact .inr (dealt_put here (.withdraw ticket refused) left)
  | elsewhere kept => exact .inl ⟨rfl, kept.trans made⟩

/-- The slots of the bulkhead agree with the calls on who waits. -/
def Queued (b : Bulkhead) (s : House) : Prop :=
  s.world.slots[b.cell]? = some (b.slots s.world) ∧ (b.slots s.world).Lined s.stay?

theorem lined_of_occupancy {capacity : Nat} (h : Occupancy capacity slots s.guests)
    (inLine : slots.InLine) : slots.Lined s.stay? where
  inLine := inLine
  orderly := h.orderly
  out _ _ waits := h.out waits
  apart _ _ _ first second := h.apart first second

theorem queued_of_reachable (h : b.Reachable s) : b.Queued s := by
  suffices inLine : (b.slots s.world).InLine by
    obtain ⟨slots, made, occupancy⟩ := occupancy_of_reachable h
    rw [slots_of made] at inLine
    rw [Queued, slots_of made]
    exact ⟨made, lined_of_occupancy occupancy inLine⟩
  induction h with
  | start made =>
    rw [slots_of made]
    exact ⟨.nil, fun _ => rfl⟩
  | @next s t reached step ih =>
    obtain ⟨slots, made, occupancy⟩ := occupancy_of_reachable reached
    rw [slots_of made] at ih
    rcases step.deals made with ⟨-, kept⟩ | ⟨n, new, dealt, deal, left, -⟩
    · rw [slots_of kept]
      exact ih
    · rw [slots_of left]
      exact deal.inLine ih occupancy.orderly

/-- Any number of steps through which the call waits and no slot is given to it. -/
def WaitsThrough (b : Bulkhead) (n ticket : Nat) : House → House → Prop :=
  Relation.ReflTransGen fun s t => b.Step s t ∧ (b.slots t.world).Waits t.stay? n ticket

theorem Step.behind (step : b.Step s t) (queued : b.Queued s) {n m ticket : Nat}
    (waits : (b.slots s.world).Waits s.stay? n ticket)
    (still : (b.slots t.world).Waits t.stay? n ticket)
    (behind : (b.slots s.world).Behind s.stay? ticket m) :
    (b.slots t.world).Behind t.stay? ticket m := by
  obtain ⟨made, lined⟩ := queued
  rcases step.deals made with ⟨same, kept⟩ | ⟨k, new, dealt, deal, left, changed, same⟩
  · rw [slots_of kept, same]
    exact behind
  · rw [slots_of left] at still ⊢
    exact deal.behind lined changed same waits still.2 behind

theorem Reachable.waitsThrough (h : b.Reachable s) {n ticket : Nat}
    (through : b.WaitsThrough n ticket s t) : b.Reachable t := by
  induction through with
  | refl => exact h
  | tail _ step ih => exact .next ih step.1

/-- However long a call waits, nobody behind gets a slot before it. -/
theorem WaitsThrough.behind {n m ticket : Nat} (through : b.WaitsThrough n ticket s t)
    (h : b.Reachable s) (waits : (b.slots s.world).Waits s.stay? n ticket)
    (behind : (b.slots s.world).Behind s.stay? ticket m) :
    (b.slots t.world).Behind t.stay? ticket m := by
  suffices (b.slots t.world).Waits t.stay? n ticket ∧ (b.slots t.world).Behind t.stay? ticket m from
    this.2
  induction through with
  | refl => exact ⟨waits, behind⟩
  | @tail u v before step ih =>
    have queued := queued_of_reachable (h.waitsThrough before)
    exact ⟨step.2, step.1.behind queued ih.1 step.2 ih.2⟩

/-- **Calls that wait get slots in the order in which they began to wait.** The queue is in the order
of the tickets, each of which one call has drawn, and while anybody queues no slot is free. A step that
gives a call a slot gives it to the first in the queue, or nobody queues; a call that begins to wait
goes to the end of the queue, and one that gives up leaves the others in their order and hands on the
slot that it may have been given. So as long as a call waits, nobody who began to wait later or came
later is given a slot. Calls through the bulkhead run by steps of this kind, their own and those of the
code that they guard. -/
theorem served_in_order (h : b.Reachable s) :
    let q := b.slots s.world
    (q.queue.Pairwise (· < ·) ∧ (0 < q.free → q.queue = []) ∧
      ∀ n m ticket, s.stay? n = some (.queued ticket) → s.stay? m = some (.queued ticket) → n = m) ∧
    (∀ t, b.Step s t → let r := b.slots t.world
      (∀ m, ¬ q.Given s.stay? m → r.Given t.stay? m → q.queue = [] ∧ r.queue = [] ∨
        ∃ ticket, q.Waits s.stay? m ticket ∧ q.queue = ticket :: r.queue) ∧
      (∀ m ticket, (∀ other, s.stay? m ≠ some (.queued other)) → r.Waits t.stay? m ticket →
        r.queue = q.queue ++ [ticket] ∧ ∀ other ∈ q.tickets, other < ticket) ∧
      ∀ m ticket refused, s.stay? m = some (.queued ticket) → t.stay? m = some (.left refused) →
        (ticket ∈ q.queue →
          r.queue = q.queue.erase ticket ∧ r.assigned = q.assigned ∧ r.free = q.free) ∧
        (ticket ∈ q.assigned → q.queue = [] ∧ r.queue = [] ∧ r.free = q.free + 1 ∨
          ∃ next, q.queue = next :: r.queue ∧ next ∈ r.assigned)) ∧
    (∀ n ticket, q.Waits s.stay? n ticket → ∀ t, b.WaitsThrough n ticket s t →
      ∀ m, q.Behind s.stay? ticket m →
        (b.slots t.world).Behind t.stay? ticket m ∧ ¬ (b.slots t.world).Given t.stay? m) ∧
    ∀ (R : House → House → Prop) (n : Nat) (scheduler : Option Scheduler),
      (∀ call : Direct, b.Invokes R n call → b.Hosts R n (.onThread call) ∧
        ∀ args, s.stay? n = some .outside →
          b.Carries R s n (b.direct scheduler call args) b.Settled) ∧
      ∀ {W : Type} (call : Deferred W), b.Hosts R n call →
        ∀ memory : Housed W, s.stay? n = some memory.stay →
          b.Carries R s n ((b.deferred scheduler call).poll memory) b.Follows ∧
          b.Carries R s n ((b.deferred scheduler call).drop memory) fun _ stay =>
            stay = .ended ∨ stay = .left false := by
  intro q
  obtain ⟨made, lined⟩ := queued_of_reachable h
  refine ⟨⟨lined.inLine.sorted, lined.inLine.calm, lined.apart⟩, fun t step => ?_,
    fun n ticket waits t through m behind => ?_, fun R n scheduler => ⟨?_, ?_⟩⟩
  · rcases step.deals made with ⟨same, kept⟩ | ⟨k, new, dealt, deal, left, changed, same⟩
    · simp only [slots_of kept, same]
      refine ⟨fun m before given => absurd given before, fun m ticket before waits => ?_,
        fun m ticket refused waited left => ?_⟩
      · exact absurd waits.1 (before ticket)
      · rw [waited] at left
        cases left
    · simp only [slots_of left]
      refine ⟨fun m before given => ?_, fun m ticket before waits => ?_,
        fun m ticket refused waited left => ?_⟩
      · exact deal.given lined changed same before given
      · exact deal.joins lined changed same before waits
      · exact deal.leaves lined changed same waited left
  · have later := through.behind h waits behind
    obtain ⟨-, lined⟩ := queued_of_reachable (h.waitsThrough through)
    exact ⟨later, later.not_given lined.orderly⟩
  · intro call invokes
    exact ⟨hosts_onThread invokes, fun args here => carries_direct invokes scheduler args here⟩
  · intro W call hosts memory here
    exact ⟨carries_poll hosts scheduler here, carries_drop hosts scheduler here⟩

/-- One call runs, and two wait for its slot. -/
def sought : House :=
  let new : House := ⟨{ World.empty with slots := #[.ofCapacity 1] }, [⟨.outside, 0⟩]⟩
  let taken := new.put 0 ⟨.admitted, 0⟩ (narrow.take.run new.world).2
  let running := taken.put 0 ⟨.running, 1⟩ taken.world
  let both : House := ⟨running.world, running.guests ++ [⟨.outside, 0⟩]⟩
  let waiting := both.put 1 ⟨.queued 0, 0⟩ (narrow.enqueue.run both.world).2
  let three : House := ⟨waiting.world, waiting.guests ++ [⟨.outside, 0⟩]⟩
  three.put 2 ⟨.queued 1, 0⟩ (narrow.enqueue.run three.world).2

theorem reachable_sought : narrow.Reachable sought := by
  have new : narrow.Reachable ⟨{ World.empty with slots := #[.ofCapacity 1] }, []⟩ := .start rfl
  have taken := (new.next .arrive).next (.take (n := 0) (k := 0) rfl rfl)
  have both := (taken.next (.invoke (n := 0) (k := 0) rfl)).next .arrive
  have waiting := both.next (.enqueue (n := 1) (k := 0) rfl rfl)
  exact (waiting.next .arrive).next (.enqueue (n := 2) (k := 0) rfl rfl)

/-- The slot goes to the call that came second; the third waits on, also while a fourth comes. When the
second call gives up before it has got the slot, the third is the first in the queue. -/
theorem served_in_order_sought :
    (narrow.slots sought.world).queue = [0, 1] ∧
      ¬ (narrow.slots sought.world).Given sought.stay? 2 ∧
      (∀ t, narrow.Step sought t → (narrow.slots t.world).Waits t.stay? 1 0 →
        ¬ (narrow.slots t.world).Given t.stay? 2 ∧ ¬ (narrow.slots t.world).Given t.stay? 3) ∧
      (∀ t, narrow.Step sought t → ¬ (narrow.slots t.world).Given t.stay? 2) ∧
      ∀ t, narrow.Step sought t → t.stay? 1 = some (.left true) →
        (narrow.slots t.world).queue = [1] := by
  obtain ⟨-, steps, behind, -⟩ := served_in_order reachable_sought
  have queue : (narrow.slots sought.world).queue = [0, 1] := by decide
  have first : (narrow.slots sought.world).Waits sought.stay? 1 0 := ⟨rfl, by decide⟩
  have third : (narrow.slots sought.world).Behind sought.stay? 0 2 := by
    intro stay here
    cases here
    exact .inr (.inr ⟨1, rfl, by decide, by decide⟩)
  have fourth : (narrow.slots sought.world).Behind sought.stay? 0 3 := by
    intro stay here
    cases here
  have without := (behind 1 0 first sought .refl 2 third).2
  refine ⟨queue, without, fun t step waits => ?_, fun t step given => ?_, fun t step left => ?_⟩
  · have through : narrow.WaitsThrough 1 0 sought t := .single ⟨step, waits⟩
    exact ⟨(behind 1 0 first t through 2 third).2, (behind 1 0 first t through 3 fourth).2⟩
  · rcases (steps t step).1 2 without given with ⟨empty, -⟩ | ⟨ticket, ⟨waits, -⟩, head⟩
    · rw [queue] at empty
      cases empty
    · cases waits
      rw [queue] at head
      cases head
  · have kept := (((steps t step).2.2 1 0 true rfl left).1 first.2).1
    rw [kept, queue]
    rfl

end Bulkhead

end CallGuard
