import CallGuard.Proofs.Bulkhead.Queueing

/-!
# Slots and deadlines

A call that finds the bulkhead full queues and starts a timer. At each poll it looks for its slot
first and at its timer second, and the other calls do as they like before, after and in between.
A `Vigil` says where the call is between two of its operations; a poll is a run of these operations
that nothing breaks into (`unbroken_fresh`, `unbroken_queue`), and a `Course` is any run of them in
which the others get their turns. `Past` is what a course has behind it.

Main statement: `refused_only_when_over`.
-/

namespace CallGuard

namespace Slots

variable {s t : Slots} {stays : Nat → Option Stay} {old : Option Stay} {new : Stay}
  {n m ticket : Nat}

/-- A ticket that is out was out before, unless it has just been drawn. -/
theorem Deal.tickets (deal : s.Deal old new t) :
    s.nextTicket ≤ t.nextTicket ∧
      ∀ ticket ∈ t.tickets, ticket ∈ s.tickets ∨ s.nextTicket ≤ ticket := by
  cases deal with
  | arrive | invoke | leave => exact ⟨Nat.le_refl _, fun _ => .inl⟩
  | take taken =>
    obtain ⟨same, kept⟩ := tickets_of_take? taken
    rw [same, kept]
    exact ⟨Nat.le_refl _, fun _ => .inl⟩
  | enqueue =>
    constructor
    · rw [nextTicket_enqueue]
      exact Nat.le_succ _
    · intro ticket out
      rcases List.mem_cons.mp ((tickets_enqueue s).mem_iff.mp out) with rfl | before
      · exact .inr (Nat.le_refl _)
      · exact .inl before
  | claim claimed =>
    obtain ⟨before, kept⟩ := tickets_of_claim? claimed
    rw [kept]
    exact ⟨Nat.le_refl _, fun _ out => .inl (before.mem_iff.mpr (List.mem_cons_of_mem _ out))⟩
  | finish =>
    obtain ⟨same, kept⟩ := tickets_release s
    rw [kept]
    exact ⟨Nat.le_refl _, fun _ out => .inl (same.mem_iff.mp out)⟩
  | withdraw gone =>
    by_cases out : gone ∈ s.tickets
    · obtain ⟨before, kept⟩ := tickets_withdraw out
      rw [kept]
      exact ⟨Nat.le_refl _, fun _ out => .inl (before.mem_iff.mpr (List.mem_cons_of_mem _ out))⟩
    · rw [tickets, List.mem_append, not_or] at out
      rcases s.withdraw_cases gone with ⟨assigned, -⟩ | ⟨-, eq⟩
      · exact absurd assigned out.2
      · rw [eq, List.erase_of_not_mem out.1]
        exact ⟨Nat.le_refl _, fun _ => .inl⟩

theorem assigned_subset_release (s : Slots) : s.assigned ⊆ s.release.assigned := by
  rcases s.release_cases with ⟨-, eq⟩ | ⟨first, rest, -, eq⟩
  · rw [eq]
    exact List.Subset.refl _
  · rw [eq]
    exact List.subset_append_left _ _

/-- Nobody else takes away a slot that has been assigned to a call. -/
theorem Deal.still_assigned (deal : s.Deal (stays m) new t) (h : s.Lined stays)
    (waits : stays n = some (.queued ticket)) (other : m ≠ n) (assigned : ticket ∈ s.assigned) :
    ticket ∈ t.assigned := by
  have apart : ∀ own, stays m = some (.queued own) → ticket ≠ own := by
    rintro own there rfl
    exact other (h.apart m n ticket there waits)
  generalize was : stays m = old at deal
  cases deal with
  | arrive | invoke | leave => exact assigned
  | take taken =>
    obtain ⟨-, rfl⟩ := eq_of_take? taken
    exact assigned
  | enqueue =>
    rcases s.enqueue_cases with ⟨-, eq⟩ | ⟨-, eq⟩
    · rw [eq]
      exact List.mem_append_left _ assigned
    · rw [eq]
      exact assigned
  | claim claimed =>
    obtain ⟨-, rfl⟩ := eq_of_claim? claimed
    exact (List.mem_erase_of_ne (apart _ was)).mpr assigned
  | finish => exact s.assigned_subset_release assigned
  | withdraw gone =>
    rcases s.withdraw_cases gone with ⟨-, eq⟩ | ⟨-, eq⟩
    · rw [eq]
      apply assigned_subset_release
      exact (List.mem_erase_of_ne (apart _ was)).mpr assigned
    · rw [eq]
      exact assigned

end Slots

/-- What a call without a slot does next, or what it has come to. -/
inductive Vigil where
  /-- It looks for a free slot. -/
  | arriving
  /-- It found none. It queues, or leaves if it may not wait. -/
  | late
  /-- It starts its timer. -/
  | drawn (scheduler : Scheduler) (ticket : Nat)
  /-- It looks for a slot that has been assigned to it. -/
  | looking (ticket : Nat) (timer : Timer)
  /-- It found none. It looks at its timer. -/
  | doubting (ticket : Nat) (timer : Timer)
  /-- Its timer was over. It leaves the queue. -/
  | leaving (ticket : Nat) (timer : Timer)
  /-- It announces that it is turned away. -/
  | turned
  /-- It waits for its next poll. -/
  | resting (ticket : Nat) (timer : Timer)
  | seated
  | refused (reply : Reply)

namespace Vigil

/-- Where the call is at the bulkhead. -/
def stay : Vigil → Stay
  | arriving | late => .outside
  | drawn _ ticket | looking ticket _ | doubting ticket _ | leaving ticket _ | resting ticket _ =>
    .queued ticket
  | turned | refused _ => .left true
  | seated => .admitted

/-- The next operation, if there is one at this poll. -/
def act (b : Bulkhead) (scheduler : Option Scheduler) : Vigil → Act Vigil
  | arriving => return if ← b.take then seated else late
  | late =>
    match b.waitsOn scheduler with
    | some s => return drawn s (← b.enqueue)
    | none => return turned
  | drawn s ticket => return looking ticket (← Act.delay s b.config.maxWait)
  | looking ticket timer => return if ← b.claim ticket then seated else doubting ticket timer
  | doubting ticket timer =>
    return if ← Act.isOver timer then leaving ticket timer else resting ticket timer
  | leaving ticket _ => do
    b.withdraw ticket
    return turned
  | turned => return refused (← b.reject)
  | resting ticket timer => return resting ticket timer
  | seated => return seated
  | refused reply => return refused reply

end Vigil

namespace Bulkhead

/-- Operations of one call that nothing breaks into. -/
def Unbroken (b : Bulkhead) (scheduler : Option Scheduler) :
    Vigil × World → Vigil × World → Prop :=
  Relation.ReflTransGen fun before after => (before.1.act b scheduler).run before.2 = after

/-- What a poll comes to when the call has come to this without it: it starts what it guards, or
returns. -/
def Concludes {W : Type} (b : Bulkhead) (call : Deferred W) (args : Args) :
    Vigil × World → Progress (Housed W) × World → Prop
  | (.seated, w), polled => polled = (b.enter call args).run w
  | (.resting ticket timer, w), polled => polled = (.waiting (.queued args ticket timer), w)
  | (.refused reply, w), polled => polled = (.done reply, w)
  | _, _ => False

/-- Any number of steps of the others. -/
def Meanwhile (b : Bulkhead) (n : Nat) : House → House → Prop :=
  Relation.ReflTransGen fun s t => b.Step s t ∧ t.stay? n = s.stay? n

/-- The call does its next operation, is polled again, or somebody else does something. -/
inductive Move (b : Bulkhead) (scheduler : Option Scheduler) (n : Nat) :
    House × Vigil → House × Vigil → Prop where
  | own {s : House} {p q : Vigil} {k : Nat} (here : s.guests[n]? = some ⟨p.stay, k⟩) {w : World}
      (acted : (p.act b scheduler).run s.world = (q, w)) :
      Move b scheduler n (s, p) (s.put n ⟨q.stay, k⟩ w, q)
  | wake {s : House} {ticket : Nat} {timer : Timer} :
      Move b scheduler n (s, .resting ticket timer) (s, .looking ticket timer)
  | others {s t : House} {p : Vigil} (step : b.Step s t) (same : t.stay? n = s.stay? n) :
      Move b scheduler n (s, p) (t, p)

/-- The call on its way, with whatever happens before, after and between its operations. -/
def Course (b : Bulkhead) (scheduler : Option Scheduler) (n : Nat) :
    House × Vigil → House × Vigil → Prop := Relation.ReflTransGen (b.Move scheduler n)

section

variable (b : Bulkhead) (scheduler : Option Scheduler) (n : Nat) (s : House)

/-- On its way from the house, the call found no free slot. -/
def Full : Prop :=
  ∃ v, b.Course scheduler n (s, .arriving) (v, .arriving) ∧ (b.slots v.world).free = 0

/-- On its way from the house, the call started the timer after it had drawn the ticket. -/
def Timed (ticket : Nat) (timer : Timer) : Prop :=
  ∃ sch z, b.waitsOn scheduler = some sch ∧
    b.Course scheduler n (s, .arriving) (z, .drawn sch ticket) ∧
    timer = .start sch (z.world.clock sch) b.config.maxWait

/-- On its way from the house, the call looked for its slot in vain, and no more than others' steps
have been taken since. -/
def InVain (ticket : Nat) (timer : Timer) (t : House) : Prop :=
  ∃ v, b.Course scheduler n (s, .arriving) (v, .looking ticket timer) ∧
    ticket ∉ (b.slots v.world).assigned ∧ b.Meanwhile n v t

/-- At one poll the call looked for its slot in vain, and then its timer was over. -/
def Lapsed (ticket : Nat) (timer : Timer) : Prop :=
  ∃ t, b.InVain scheduler n s ticket timer t ∧ timer.isOver t.world.clock = true

/-- The ticket has been drawn, and is neither in the queue nor has it a slot. -/
def Gone (ticket : Nat) (t : House) : Prop :=
  ticket < (b.slots t.world).nextTicket ∧ ticket ∉ (b.slots t.world).tickets

/-- The call was not to wait at all, or waited until its timer was over and is out of the queue. -/
def TurnedAway (t : House) : Prop :=
  b.waitsOn scheduler = none ∧ b.Full scheduler n s ∨
    ∃ ticket timer, b.Timed scheduler n s ticket timer ∧ b.Lapsed scheduler n s ticket timer ∧
      b.Gone ticket t

/-- What a call has behind it that came to the house. -/
def Past (t : House) : Vigil → Prop
  | .arriving => True
  | .late => b.Full scheduler n s
  | .drawn sch _ => b.waitsOn scheduler = some sch
  | .looking ticket timer | .resting ticket timer => b.Timed scheduler n s ticket timer
  | .doubting ticket timer =>
    b.Timed scheduler n s ticket timer ∧ b.InVain scheduler n s ticket timer t
  | .leaving ticket timer => b.Timed scheduler n s ticket timer ∧ b.Lapsed scheduler n s ticket timer
  | .turned => b.TurnedAway scheduler n s t
  | .refused reply =>
    reply = .refusal (.bulkheadFull b.name b.config.capacity) ∧ b.TurnedAway scheduler n s t
  | .seated =>
    (∃ v, b.Course scheduler n (s, .arriving) (v, .arriving) ∧ 0 < (b.slots v.world).free) ∨
      ∃ v ticket timer, b.Course scheduler n (s, .arriving) (v, .looking ticket timer) ∧
        ticket ∈ (b.slots v.world).assigned

end

/-! ### What an operation comes to -/

variable {b : Bulkhead} {scheduler : Option Scheduler} {n : Nat} {s t u : House} {w : World}
  {p q : Vigil} {ticket : Nat} {timer : Timer}

theorem run_take (b : Bulkhead) (w : World) :
    b.take.run w = if 0 < (b.slots w).free then
      (true, ((b.update { b.slots w with free := (b.slots w).free - 1 }).run w).2)
    else (false, w) := by
  by_cases free : 0 < (b.slots w).free
  · have found : (b.slots w).take? = some { b.slots w with free := (b.slots w).free - 1 } :=
      if_pos free
    simp only [take, Act.run_bind, Act.run_get, found, if_pos free, Act.run_pure]
  · have found : (b.slots w).take? = none := if_neg free
    simp only [take, Act.run_bind, Act.run_get, found, if_neg free, Act.run_pure]

theorem run_claim (b : Bulkhead) (ticket : Nat) (w : World) :
    (b.claim ticket).run w = if ticket ∈ (b.slots w).assigned then
      (true, ((b.update { b.slots w with assigned := (b.slots w).assigned.erase ticket }).run w).2)
    else (false, w) := by
  by_cases assigned : ticket ∈ (b.slots w).assigned
  · have found : (b.slots w).claim? ticket =
        some { b.slots w with assigned := (b.slots w).assigned.erase ticket } := if_pos assigned
    simp only [claim, Act.run_bind, Act.run_get, found, if_pos assigned, Act.run_pure]
  · have found : (b.slots w).claim? ticket = none := if_neg assigned
    simp only [claim, Act.run_bind, Act.run_get, found, if_neg assigned, Act.run_pure]

theorem run_arriving (b : Bulkhead) (scheduler : Option Scheduler) (w : World) :
    (Vigil.arriving.act b scheduler).run w =
      (if 0 < (b.slots w).free then .seated else .late, (b.take.run w).2) := by
  rw [Vigil.act, Act.run_bind, Act.run_pure, run_take]
  by_cases free : 0 < (b.slots w).free
  · rw [if_pos free, if_pos free]
    rfl
  · rw [if_neg free, if_neg free]
    rfl

/-- Whether the timer is over does not matter to a call that has a slot. -/
theorem run_looking (b : Bulkhead) (scheduler : Option Scheduler) (ticket : Nat) (timer : Timer)
    (w : World) :
    ((Vigil.looking ticket timer).act b scheduler).run w =
      (if ticket ∈ (b.slots w).assigned then .seated else .doubting ticket timer,
        ((b.claim ticket).run w).2) := by
  rw [Vigil.act, Act.run_bind, Act.run_pure, run_claim]
  by_cases assigned : ticket ∈ (b.slots w).assigned
  · rw [if_pos assigned, if_pos assigned]
    rfl
  · rw [if_neg assigned, if_neg assigned]
    rfl

theorem run_doubting (b : Bulkhead) (scheduler : Option Scheduler) (ticket : Nat) (timer : Timer)
    (w : World) :
    ((Vigil.doubting ticket timer).act b scheduler).run w =
      (if timer.isOver w.clock then .leaving ticket timer else .resting ticket timer, w) := by
  rw [Vigil.act, Act.run_bind, Act.run_pure, Act.run_isOver]

theorem run_reject (b : Bulkhead) (w : World) :
    ∃ v, b.reject.run w = (.refusal (.bulkheadFull b.name b.config.capacity), v) ∧
      v.slots = w.slots := by
  simp only [reject, emit, Act.run_bind, Act.run_raise, Act.run_emit, Act.run_pure]
  exact ⟨_, rfl, rfl⟩

/-- What the next operation of a call comes to. -/
inductive Acts (b : Bulkhead) (scheduler : Option Scheduler) (u : World) : Vigil → Vigil → World → Prop
  where
  | takes (free : 0 < (b.slots u).free) : Acts b scheduler u .arriving .seated (b.take.run u).2
  | misses (full : (b.slots u).free = 0) : Acts b scheduler u .arriving .late u
  | queues {sch : Scheduler} (waits : b.waitsOn scheduler = some sch) :
      Acts b scheduler u .late (.drawn sch (b.enqueue.run u).1) (b.enqueue.run u).2
  | declines (never : b.waitsOn scheduler = none) : Acts b scheduler u .late .turned u
  | starts (sch : Scheduler) (ticket : Nat) :
      Acts b scheduler u (.drawn sch ticket)
        (.looking ticket (.start sch (u.clock sch) b.config.maxWait))
        (u.append [.delayAsked b.config.maxWait])
  | claims {ticket : Nat} {timer : Timer} (assigned : ticket ∈ (b.slots u).assigned) :
      Acts b scheduler u (.looking ticket timer) .seated ((b.claim ticket).run u).2
  | doubts {ticket : Nat} {timer : Timer} (unassigned : ticket ∉ (b.slots u).assigned) :
      Acts b scheduler u (.looking ticket timer) (.doubting ticket timer) u
  | lapses {ticket : Nat} {timer : Timer} (rung : timer.isOver u.clock = true) :
      Acts b scheduler u (.doubting ticket timer) (.leaving ticket timer) u
  | rests (ticket : Nat) (timer : Timer) :
      Acts b scheduler u (.doubting ticket timer) (.resting ticket timer) u
  | withdraws (ticket : Nat) (timer : Timer) :
      Acts b scheduler u (.leaving ticket timer) .turned ((b.withdraw ticket).run u).2
  | refuses {w : World} (kept : w.slots = u.slots) :
      Acts b scheduler u .turned (.refused (.refusal (.bulkheadFull b.name b.config.capacity))) w
  | stays (p : Vigil) : Acts b scheduler u p p u

theorem acts_of_act {u : World} (acted : (p.act b scheduler).run u = (q, w)) :
    Acts b scheduler u p q w := by
  cases p with
  | arriving =>
    rw [run_arriving] at acted
    by_cases free : 0 < (b.slots u).free
    · rw [if_pos free] at acted
      cases acted
      exact .takes free
    · rw [if_neg free, run_take, if_neg free] at acted
      cases acted
      exact .misses (by omega)
  | late =>
    rw [Vigil.act] at acted
    split at acted
    next waits =>
      cases acted
      exact .queues waits
    next never =>
      cases acted
      exact .declines never
  | drawn sch ticket =>
    rw [Vigil.act, Act.run_bind, Act.run_delay] at acted
    cases acted
    exact .starts sch ticket
  | looking ticket timer =>
    rw [run_looking] at acted
    by_cases assigned : ticket ∈ (b.slots u).assigned
    · rw [if_pos assigned] at acted
      cases acted
      exact .claims assigned
    · rw [if_neg assigned, run_claim, if_neg assigned] at acted
      cases acted
      exact .doubts assigned
  | doubting ticket timer =>
    rw [run_doubting] at acted
    by_cases rung : timer.isOver u.clock
    · rw [if_pos rung] at acted
      cases acted
      exact .lapses rung
    · rw [if_neg rung] at acted
      cases acted
      exact .rests ticket timer
  | leaving ticket timer =>
    cases acted
    exact .withdraws ticket timer
  | turned =>
    obtain ⟨v, ran, kept⟩ := run_reject b u
    rw [Vigil.act, Act.run_bind, ran] at acted
    cases acted
    exact .refuses kept
  | resting | seated | refused =>
    cases acted
    exact .stays _

/-! ### Operations are steps -/

theorem put_eq {g : Guest} (here : s.guests[n]? = some g) (w : World) :
    s.put n g w = ⟨w, s.guests⟩ := by
  obtain ⟨inside, rfl⟩ := List.getElem?_eq_some_iff.mp here
  rw [House.put, List.set_getElem_self]

theorem path_put {g : Guest} (here : s.guests[n]? = some g)
    (kept : w.slots[b.cell]? = s.world.slots[b.cell]?) : b.Path s (s.put n g w) := by
  rw [put_eq here]
  exact .single (.elsewhere kept)

theorem path_act {k : Nat} (here : s.guests[n]? = some ⟨p.stay, k⟩)
    (acts : Acts b scheduler s.world p q w) : b.Path s (s.put n ⟨q.stay, k⟩ w) := by
  cases acts with
  | takes free => exact .single (.take here (by rw [run_take, if_pos free]))
  | queues => exact .single (.enqueue here rfl)
  | declines => exact .single (.leave here true)
  | claims assigned => exact .single (.claim here (by rw [run_claim, if_pos assigned]))
  | withdraws => exact .single (.withdraw here true rfl)
  | refuses kept => exact path_put here (by rw [kept])
  | misses | starts | doubts | lapses | rests | stays => exact path_put here rfl

/-- However the call gets on, the house is one that calls come about in, and the call is where its
course has brought it. -/
theorem Move.reachable (move : b.Move scheduler n (s, p) (t, q)) (h : b.Reachable s)
    (here : s.stay? n = some p.stay) : b.Reachable t ∧ t.stay? n = some q.stay := by
  cases move with
  | own guest acted => exact ⟨h.path (path_act guest (acts_of_act acted)), House.stay?_put guest _ _⟩
  | wake => exact ⟨h, here⟩
  | others step same => exact ⟨.next h step, same.trans here⟩

/-! ### What a course has behind it -/

theorem Step.gone (step : b.Step s t) (h : b.Reachable s) (gone : b.Gone ticket s) :
    b.Gone ticket t := by
  obtain ⟨slots, made, -⟩ := occupancy_of_reachable h
  obtain ⟨drawn, absent⟩ := gone
  rw [slots_of made] at drawn absent
  rcases step.deals made with ⟨-, kept⟩ | ⟨m, new, dealt, deal, left, -⟩
  · rw [Gone, slots_of kept]
    exact ⟨drawn, absent⟩
  · rw [Gone, slots_of left]
    obtain ⟨more, before⟩ := deal.tickets
    constructor
    · omega
    · intro out
      rcases before ticket out with old | later
      · exact absent old
      · omega

theorem Step.still_assigned (step : b.Step s t) (h : b.Reachable s)
    (here : s.stay? n = some (.queued ticket)) (same : t.stay? n = s.stay? n)
    (assigned : ticket ∈ (b.slots s.world).assigned) : ticket ∈ (b.slots t.world).assigned := by
  obtain ⟨made, lined⟩ := queued_of_reachable h
  rcases step.deals made with ⟨-, kept⟩ | ⟨m, new, dealt, deal, left, changed, -⟩
  · rwa [slots_of kept]
  · rw [slots_of left]
    refine deal.still_assigned lined here ?_ assigned
    rintro rfl
    -- No deal leaves a call that queues where it is.
    rw [same, here] at changed
    cases changed
    rw [here] at deal
    cases deal

/-- A slot that has been assigned to a call waits for it. -/
theorem Meanwhile.still_assigned (others : b.Meanwhile n s t) (h : b.Reachable s)
    (here : s.stay? n = some (.queued ticket)) (assigned : ticket ∈ (b.slots s.world).assigned) :
    b.Reachable t ∧ t.stay? n = some (.queued ticket) ∧
      ticket ∈ (b.slots t.world).assigned := by
  induction others with
  | refl => exact ⟨h, here, assigned⟩
  | tail _ step ih =>
    obtain ⟨reachable, there, assigned⟩ := ih
    obtain ⟨step, same⟩ := step
    exact ⟨.next reachable step, same.trans there, step.still_assigned reachable there same assigned⟩

/-- Whoever leaves the queue is out of it, and has no slot either. -/
theorem gone_withdraw (h : b.Reachable s) (here : s.stay? n = some (.queued ticket)) (g : Guest) :
    b.Gone ticket (s.put n g ((b.withdraw ticket).run s.world).2) := by
  obtain ⟨made, lined⟩ := queued_of_reachable h
  have out := lined.out n ticket here
  obtain ⟨before, kept⟩ := Slots.tickets_withdraw out
  have left : (b.slots ((b.withdraw ticket).run s.world).2) =
      (b.slots s.world).withdraw ticket := by
    rw [run_withdraw made]
    exact slots_of (slots_update made _)
  rw [Gone, House.put, left, kept]
  constructor
  · exact lined.orderly.drawn ticket out
  · exact (List.nodup_cons.mp (before.nodup lined.orderly.distinct)).1

theorem Gone.of_slots (h : b.Gone ticket s) (kept : b.slots t.world = b.slots s.world) :
    b.Gone ticket t := by
  rwa [Gone, kept]

variable {s₀ : House}

theorem TurnedAway.imp (h : b.TurnedAway scheduler n s₀ s)
    (gone : ∀ ticket, b.Gone ticket s → b.Gone ticket t) : b.TurnedAway scheduler n s₀ t := by
  rcases h with ⟨never, full⟩ | ⟨ticket, timer, timed, lapsed, left⟩
  · exact .inl ⟨never, full⟩
  · exact .inr ⟨ticket, timer, timed, lapsed, gone ticket left⟩

theorem Past.others (past : b.Past scheduler n s₀ s p) (h : b.Reachable s) (step : b.Step s t)
    (same : t.stay? n = s.stay? n) : b.Past scheduler n s₀ t p := by
  cases p with
  | arriving | late | drawn | looking | resting | leaving | seated => exact past
  | doubting ticket timer =>
    obtain ⟨timed, v, looked, unassigned, others⟩ := past
    exact ⟨timed, v, looked, unassigned, others.tail ⟨step, same⟩⟩
  | turned => exact TurnedAway.imp past fun _ => step.gone h
  | refused => exact ⟨past.1, past.2.imp fun _ => step.gone h⟩

theorem Past.act {k : Nat} (past : b.Past scheduler n s₀ s p) (h : b.Reachable s)
    (here : s.guests[n]? = some ⟨p.stay, k⟩)
    (reached : b.Course scheduler n (s₀, .arriving) (s, p))
    (acts : Acts b scheduler s.world p q w) :
    b.Past scheduler n s₀ (s.put n ⟨q.stay, k⟩ w) q := by
  cases acts with
  | takes free => exact .inl ⟨s, reached, free⟩
  | misses full => exact ⟨s, reached, full⟩
  | queues waits => exact waits
  | declines never => exact .inl ⟨never, past⟩
  | starts sch ticket => exact ⟨sch, s, past, reached, rfl⟩
  | claims assigned => exact .inr ⟨s, _, _, reached, assigned⟩
  | @doubts ticket timer unassigned =>
    -- The call still queues, so that it is the same house.
    have unmoved : s.put n ⟨.queued ticket, k⟩ s.world = s := put_eq here _
    change b.Past scheduler n s₀ (s.put n ⟨.queued ticket, k⟩ s.world) (.doubting ticket timer)
    rw [unmoved]
    exact ⟨past, s, reached, unassigned, .refl⟩
  | lapses rung => exact ⟨past.1, s, past.2, rung⟩
  | rests => exact past.1
  | @withdraws ticket timer =>
    have stayed : s.stay? n = some (.queued ticket) := by
      rw [House.stay?, here]
      rfl
    exact .inr ⟨ticket, timer, past.1, past.2, gone_withdraw h stayed _⟩
  | refuses kept =>
    have same : b.slots w = b.slots s.world := by rw [Bulkhead.slots, kept, ← Bulkhead.slots]
    exact ⟨rfl, TurnedAway.imp past fun _ gone => gone.of_slots same⟩
  | stays =>
    rw [show s.put n _ s.world = s from put_eq here _]
    exact past

/-- However the others get their turns: a call is where its course has brought it, with what belongs
there behind it. -/
theorem Course.past (course : b.Course scheduler n (s, .arriving) (t, p)) (h : b.Reachable s)
    (here : s.stay? n = some .outside) :
    b.Reachable t ∧ t.stay? n = some p.stay ∧ b.Past scheduler n s t p := by
  suffices ∀ state, b.Course scheduler n (s, .arriving) state →
      b.Reachable state.1 ∧ state.1.stay? n = some state.2.stay ∧
        b.Past scheduler n s state.1 state.2 from this (t, p) course
  intro state course
  induction course with
  | refl => exact ⟨h, here, trivial⟩
  | @tail before after reached move ih =>
    obtain ⟨reachable, there, past⟩ := ih
    obtain ⟨next, stay⟩ := Move.reachable move reachable there
    refine ⟨next, stay, ?_⟩
    cases move with
    | own guest acted => exact past.act reachable guest reached (acts_of_act acted)
    | wake => exact past
    | others step same => exact past.others reachable step same

/-! ### Polls -/

theorem Unbroken.act {v : World} {state : Vigil × World}
    (acted : (p.act b scheduler).run w = (q, v)) (rest : b.Unbroken scheduler (q, v) state) :
    b.Unbroken scheduler (p, w) state := Relation.ReflTransGen.head acted rest

/-- A call that is turned away takes or gives no slot. -/
theorem unbroken_turned (b : Bulkhead) (scheduler : Option Scheduler) (w : World) :
    ∃ v, b.reject.run w = (.refusal (.bulkheadFull b.name b.config.capacity), v) ∧
      v.slots = w.slots ∧ b.Unbroken scheduler (.turned, w)
        (.refused (.refusal (.bulkheadFull b.name b.config.capacity)), v) := by
  obtain ⟨v, rejected, kept⟩ := run_reject b w
  refine ⟨v, rejected, kept, .act ?_ .refl⟩
  rw [Vigil.act, Act.run_bind, rejected, Act.run_pure]

section

variable {W : Type} (call : Deferred W) (args : Args)

/-- The slot first, the timer second. -/
theorem run_queue (b : Bulkhead) (ticket : Nat) (timer : Timer) (w : World) :
    (b.queue call args ticket timer).run w =
      if ticket ∈ (b.slots w).assigned then (b.enter call args).run ((b.claim ticket).run w).2
      else if timer.isOver w.clock then
        (.done (b.reject.run ((b.withdraw ticket).run w).2).1,
          (b.reject.run ((b.withdraw ticket).run w).2).2)
      else (.waiting (.queued args ticket timer), w) := by
  rw [queue, Act.run_bind, run_claim]
  by_cases assigned : ticket ∈ (b.slots w).assigned
  · rw [if_pos assigned, if_pos assigned]
    rfl
  · rw [if_neg assigned, if_neg assigned]
    change (if timer.isOver w.clock then (do b.withdraw ticket; return .done (← b.reject))
      else return .waiting (.queued args ticket timer) : Act (Progress (Housed W))).run w = _
    by_cases rung : timer.isOver w.clock
    · rw [if_pos rung, if_pos rung]
      rfl
    · rw [if_neg rung, if_neg rung]
      rfl

theorem unbroken_queue (b : Bulkhead) (scheduler : Option Scheduler) (call : Deferred W) (args : Args)
    (ticket : Nat) (timer : Timer) (w : World) :
    ∃ state, b.Unbroken scheduler (.looking ticket timer, w) state ∧
      b.Concludes call args state ((b.queue call args ticket timer).run w) ∧
      ∀ own kept, state.1 = .resting own kept → own = ticket ∧ kept = timer := by
  have looked := run_looking b scheduler ticket timer w
  have checked := run_doubting b scheduler ticket timer w
  rw [run_queue]
  by_cases assigned : ticket ∈ (b.slots w).assigned
  · rw [if_pos assigned] at looked ⊢
    exact ⟨_, .act looked .refl, rfl, fun _ _ rests => nomatch rests⟩
  · rw [if_neg assigned, run_claim, if_neg assigned] at looked
    rw [if_neg assigned]
    by_cases rung : timer.isOver w.clock
    · rw [if_pos rung] at checked ⊢
      have left : ((Vigil.leaving ticket timer).act b scheduler).run w =
          (.turned, ((b.withdraw ticket).run w).2) := rfl
      obtain ⟨v, rejected, -, announced⟩ :=
        b.unbroken_turned scheduler ((b.withdraw ticket).run w).2
      rw [rejected]
      exact ⟨_, .act looked (.act checked (.act left announced)), rfl,
        fun _ _ rests => nomatch rests⟩
    · rw [if_neg rung] at checked ⊢
      refine ⟨_, .act looked (.act checked .refl), rfl, fun own kept rests => ?_⟩
      cases rests
      exact ⟨rfl, rfl⟩

/-- The first poll. When the call has to wait, its timer starts with the poll. -/
theorem unbroken_fresh (w : World) :
    ∃ state, b.Unbroken scheduler (.arriving, w) state ∧
      b.Concludes call args state (((b.deferred scheduler call).poll (.fresh args)).run w) ∧
      ∀ ticket timer, state.1 = .resting ticket timer → ∃ sch, b.waitsOn scheduler = some sch ∧
        timer = .start sch (w.clock sch) b.config.maxWait := by
  have arrived := run_arriving b scheduler w
  simp only [deferred]
  rw [Act.run_bind]
  by_cases free : 0 < (b.slots w).free
  · rw [if_pos free] at arrived
    refine ⟨_, .act arrived .refl, ?_, fun _ _ rests => nomatch rests⟩
    rw [run_take, if_pos free]
    rfl
  · rw [if_neg free, run_take, if_neg free] at arrived
    rw [run_take, if_neg free]
    simp only [Bool.false_eq_true, if_false]
    cases waits : b.waitsOn scheduler with
    | none =>
      have late : (Vigil.late.act b scheduler).run w = (.turned, w) := by
        rw [Vigil.act, waits]
        rfl
      obtain ⟨v, rejected, -, announced⟩ := b.unbroken_turned scheduler w
      refine ⟨_, .act arrived (.act late announced), ?_, fun _ _ rests => nomatch rests⟩
      rw [Act.run_bind, rejected]
      rfl
    | some sch =>
      have late : (Vigil.late.act b scheduler).run w =
          (.drawn sch (b.enqueue.run w).1, (b.enqueue.run w).2) := by
        rw [Vigil.act, waits]
        rfl
      have drawn := Act.run_delay sch b.config.maxWait (b.enqueue.run w).2
      have shown : (b.enqueue.run w).2.clock = w.clock := World.clock_eq rfl rfl
      rw [shown] at drawn
      have timed : ((Vigil.drawn sch (b.enqueue.run w).1).act b scheduler).run
          (b.enqueue.run w).2 =
            (.looking (b.enqueue.run w).1 (.start sch (w.clock sch) b.config.maxWait),
            (b.enqueue.run w).2.append [.delayAsked b.config.maxWait]) := by
        rw [Vigil.act, Act.run_bind, drawn]
        rfl
      obtain ⟨state, looked, concludes, kept⟩ := b.unbroken_queue scheduler
        call args (b.enqueue.run w).1 (.start sch (w.clock sch) b.config.maxWait)
        ((b.enqueue.run w).2.append [.delayAsked b.config.maxWait])
      refine ⟨state, .act arrived (.act late (.act timed looked)), ?_, fun ticket timer rests => ?_⟩
      · simp only [Act.run_bind, drawn]
        exact concludes
      · exact ⟨sch, rfl, (kept ticket timer rests).2⟩

/-- Where no call waits, one that finds no free slot is turned away at its first poll. -/
theorem poll_fresh_of_full (never : b.waitsOn scheduler = none) (full : (b.slots w).free = 0) :
    ∃ v, ((b.deferred scheduler call).poll (.fresh args)).run w =
      (.done (.refusal (.bulkheadFull b.name b.config.capacity)), v) ∧ v.slots = w.slots := by
  have none : ¬ 0 < (b.slots w).free := by omega
  obtain ⟨v, rejected, kept⟩ := run_reject b w
  refine ⟨v, ?_, kept⟩
  simp only [deferred]
  rw [Act.run_bind, run_take, if_neg none, never]
  simp only [Bool.false_eq_true, if_false]
  rw [Act.run_bind, rejected]
  rfl

end

theorem direct_of_full (call : Direct) (args : Args) (full : (b.slots w).free = 0) :
    ∃ v, (b.direct scheduler call args).run w =
      (.refusal (.bulkheadFull b.name b.config.capacity), v) ∧ v.slots = w.slots := by
  have none : ¬ 0 < (b.slots w).free := by omega
  rw [direct, Act.run_bind, run_take, if_neg none]
  simp only [Bool.false_eq_true, if_false]
  cases b.waitsOn scheduler with
  | none => exact run_reject b w
  | some sch =>
    let timer := Timer.start sch (w.clock sch) b.config.maxWait
    obtain ⟨v, rejected, kept⟩ :=
      run_reject b ((w.append [.delayAsked b.config.maxWait]).outwait timer)
    simp only [Act.run_bind, Act.run_delay, Act.run_outwait]
    exact ⟨v, rejected, kept.trans (World.slots_outwait _ _)⟩

/-- What nothing breaks into is a course, too. -/
theorem course_of_unbroken {state : Vigil × World}
    (run : b.Unbroken scheduler (p, s.world) state) (here : s.stay? n = some p.stay) :
    ∃ t, b.Course scheduler n (s, p) (t, state.1) ∧ t.world = state.2 ∧
      t.stay? n = some state.1.stay := by
  induction run with
  | refl => exact ⟨s, .refl, rfl, here⟩
  | @tail before after _ acted ih =>
    obtain ⟨t, course, same, stay⟩ := ih
    obtain ⟨k, guest⟩ := House.exists_of_stay? stay
    rw [← same] at acted
    exact ⟨_, course.tail (.own guest acted), rfl, House.stay?_put guest _ _⟩

theorem waitsOn_some {sch : Scheduler} (patient : 0 < b.config.maxWait) :
    b.waitsOn (some sch) = some sch := if_neg (Nat.ne_of_gt patient)

theorem waitsOn_eq_none (never : b.config.maxWait = 0 ∨ scheduler = none) :
    b.waitsOn scheduler = none := by
  rcases never with zero | rfl
  · exact if_pos zero
  · exact ite_self _

/-- **A slot in hand beats the deadline, and only the deadline beats a call that waits.** However the
others get their turns between the operations of a call that finds the bulkhead full: it is refused only
after it has looked for its slot in vain and its timer, started at its first poll, was over at that same
look; then it is left without a slot and without a place in the queue. Once a slot has been assigned to
it nobody takes the slot away, and at the next look it is admitted, whatever its timer says. Polls are
runs of these operations. Where the longest wait is zero or no scheduler is there, the first poll turns
the call away, as does a direct call on a thread that nobody else runs on. -/
theorem refused_only_when_over (h : b.Reachable s) (here : s.stay? n = some .outside)
    (scheduler : Option Scheduler) :
    (∀ t p, b.Course scheduler n (s, .arriving) (t, p) →
      b.Reachable t ∧ t.stay? n = some p.stay ∧
      (∀ reply sch, p = .refused reply → 0 < b.config.maxWait → scheduler = some sch →
        reply = .refusal (.bulkheadFull b.name b.config.capacity) ∧
        ∃ ticket timer, b.Timed scheduler n s ticket timer ∧ b.Lapsed scheduler n s ticket timer ∧
          b.Gone ticket t) ∧
      (p = .seated →
        (∃ v, b.Course scheduler n (s, .arriving) (v, .arriving) ∧ 0 < (b.slots v.world).free) ∨
        ∃ v ticket timer, b.Course scheduler n (s, .arriving) (v, .looking ticket timer) ∧
          ticket ∈ (b.slots v.world).assigned) ∧
      ∀ ticket timer, p = .looking ticket timer ∨ p = .resting ticket timer →
        ticket ∈ (b.slots t.world).assigned → ∀ u, b.Meanwhile n t u →
          ticket ∈ (b.slots u.world).assigned ∧
            (((Vigil.looking ticket timer).act b scheduler).run u.world).1 = .seated) ∧
    (∀ {W : Type} (call : Deferred W) (args : Args) (w : World),
      (∃ state, b.Unbroken scheduler (.arriving, w) state ∧
        b.Concludes call args state (((b.deferred scheduler call).poll (.fresh args)).run w) ∧
        ∀ ticket timer, state.1 = .resting ticket timer → ∃ sch, b.waitsOn scheduler = some sch ∧
          timer = .start sch (w.clock sch) b.config.maxWait) ∧
      ∀ ticket timer, ∃ state, b.Unbroken scheduler (.looking ticket timer, w) state ∧
        b.Concludes call args state
          (((b.deferred scheduler call).poll (.queued args ticket timer)).run w)) ∧
    (∀ t p state, t.stay? n = some p.stay → b.Unbroken scheduler (p, t.world) state →
      ∃ u, b.Course scheduler n (t, p) (u, state.1) ∧ u.world = state.2) ∧
    (b.config.maxWait = 0 ∨ scheduler = none →
      (∀ t ticket timer, ¬ b.Course scheduler n (s, .arriving) (t, .resting ticket timer)) ∧
      ∀ {W : Type} (call : Deferred W) (args : Args) (w : World), (b.slots w).free = 0 →
        ∃ v, ((b.deferred scheduler call).poll (.fresh args)).run w =
          (.done (.refusal (.bulkheadFull b.name b.config.capacity)), v) ∧ v.slots = w.slots) ∧
    ∀ (call : Direct) (args : Args) (w : World), (b.slots w).free = 0 →
      ∃ v, (b.direct scheduler call args).run w =
        (.refusal (.bulkheadFull b.name b.config.capacity), v) ∧ v.slots = w.slots := by
  refine ⟨?_, ?_, ?_, ?_, fun call args w full => direct_of_full call args full⟩
  · intro t p course
    obtain ⟨reachable, there, past⟩ := course.past h here
    refine ⟨reachable, there, ?_, ?_, ?_⟩
    · rintro reply sch rfl patient rfl
      obtain ⟨rejected, ⟨never, -⟩ | waited⟩ := past
      · rw [waitsOn_some patient] at never
        cases never
      · exact ⟨rejected, waited⟩
    · rintro rfl
      exact past
    · intro ticket timer looks assigned u others
      have queued : t.stay? n = some (.queued ticket) := by
        rcases looks with rfl | rfl <;> exact there
      obtain ⟨-, -, still⟩ := others.still_assigned reachable queued assigned
      refine ⟨still, ?_⟩
      rw [run_looking, if_pos still]
  · intro W call args w
    refine ⟨unbroken_fresh call args w, fun ticket timer => ?_⟩
    obtain ⟨state, run, concludes, -⟩ := b.unbroken_queue scheduler call args ticket timer w
    exact ⟨state, run, concludes⟩
  · intro t p state there run
    obtain ⟨u, course, same, -⟩ := course_of_unbroken run there
    exact ⟨u, course, same⟩
  · intro never
    have none := waitsOn_eq_none never
    refine ⟨fun t ticket timer course => ?_, fun call args w full => ?_⟩
    · obtain ⟨-, -, sch, z, waits, -⟩ := course.past h here
      rw [none] at waits
      cases waits
    · exact poll_fresh_of_full call args none full

/-- One call runs, and a second has just come. -/
def crowded : House :=
  let new : House := ⟨{ World.empty with slots := #[.ofCapacity 1] }, [⟨.outside, 0⟩]⟩
  let taken := new.put 0 ⟨.admitted, 0⟩ (narrow.take.run new.world).2
  let running := taken.put 0 ⟨.running, 1⟩ taken.world
  ⟨running.world, running.guests ++ [⟨.outside, 0⟩]⟩

theorem reachable_crowded : narrow.Reachable crowded := by
  have new : narrow.Reachable ⟨{ World.empty with slots := #[.ofCapacity 1] }, []⟩ := .start rfl
  have taken := (new.next .arrive).next (.take (n := 0) (k := 0) rfl rfl)
  exact (taken.next (.invoke (n := 0) (k := 0) rfl)).next .arrive

/-- The second call has begun to wait. -/
def waiting : House :=
  crowded.put 1 ⟨.queued 0, 0⟩
    ((narrow.enqueue.run crowded.world).2.append [.delayAsked (Nanos.ofMillis 100)])

theorem course_waiting :
    narrow.Course (some .shared) 1 (crowded, .arriving) (waiting, .resting 0 (.set .shared 100)) := by
  have late : narrow.Move (some .shared) 1 (crowded, .arriving) (crowded, .late) :=
    .own (k := 0) rfl rfl
  have drawn : narrow.Move (some .shared) 1 (crowded, .late)
      (crowded.put 1 ⟨.queued 0, 0⟩ (narrow.enqueue.run crowded.world).2, .drawn .shared 0) :=
    .own (k := 0) rfl rfl
  have looking : narrow.Move (some .shared) 1
      (crowded.put 1 ⟨.queued 0, 0⟩ (narrow.enqueue.run crowded.world).2, .drawn .shared 0)
      (waiting, .looking 0 (.set .shared 100)) := .own (k := 0) rfl rfl
  have doubting : narrow.Move (some .shared) 1 (waiting, .looking 0 (.set .shared 100))
      (waiting, .doubting 0 (.set .shared 100)) := .own (k := 0) rfl rfl
  have resting : narrow.Move (some .shared) 1 (waiting, .doubting 0 (.set .shared 100))
      (waiting, .resting 0 (.set .shared 100)) := .own (k := 0) rfl rfl
  exact ((((Relation.ReflTransGen.single late).tail drawn).tail looking).tail doubting).tail resting

/-- Nobody is refused before the longest wait is over. The second call is refused when nobody gives a
slot back in a tenth of a second; when the first call ends just then, the second is admitted although
its timer is over. -/
theorem refused_only_when_over_crowded :
    (∀ t reply, narrow.Course (some .shared) 1 (crowded, .arriving) (t, .refused reply) →
      t.stay? 1 = some (.left true) ∧ ∃ (ticket : Nat) (z u : House),
        narrow.Course (some .shared) 1 (crowded, .arriving) (z, .drawn .shared ticket) ∧
          z.world.now + Nanos.ofMillis 100 ≤ u.world.now ∧ narrow.Gone ticket t) ∧
    (∃ t reply, narrow.Course (some .shared) 1 (crowded, .arriving) (t, .refused reply)) ∧
    ∃ t, narrow.Course (some .shared) 1 (crowded, .arriving) (t, .looking 0 (.set .shared 100)) ∧
      Timer.isOver (.set .shared 100) t.world.clock = true ∧
      (((Vigil.looking 0 (.set .shared 100)).act narrow (some .shared)).run t.world).1 = .seated := by
  obtain ⟨courses, -, unbroken, -⟩ :=
    refused_only_when_over (n := 1) reachable_crowded rfl (some .shared)
  let overdue : House := ⟨waiting.world.pass (Nanos.ofMillis 100), waiting.guests⟩
  have rung : Timer.isOver (.set .shared 100) overdue.world.clock = true := by decide
  have passes : narrow.Course (some .shared) 1 (crowded, .arriving)
      (overdue, .resting 0 (.set .shared 100)) :=
    course_waiting.tail (.others (.elsewhere rfl) rfl)
  refine ⟨fun t reply course => ?_, ?_, ?_⟩
  · obtain ⟨-, left, refused, -⟩ := courses t _ course
    obtain ⟨-, ticket, timer, timed, lapsed, gone⟩ := refused reply .shared rfl (by decide) rfl
    obtain ⟨sch, z, waits, drawn, rfl⟩ := timed
    obtain ⟨u, -, rung⟩ := lapsed
    cases waits
    exact ⟨left, ticket, z, u, drawn, Timer.le_of_isOver (by decide) rung, gone⟩
  · obtain ⟨v, -, -, announced⟩ :=
      narrow.unbroken_turned (some .shared) ((narrow.withdraw 0).run overdue.world).2
    have leaves : narrow.Unbroken (some .shared) (.leaving 0 (.set .shared 100), overdue.world) _ :=
      .act rfl announced
    have checked := run_doubting narrow (some .shared) 0 (.set .shared 100) overdue.world
    rw [if_pos rung] at checked
    have doubts : narrow.Unbroken (some .shared) (.doubting 0 (.set .shared 100), overdue.world) _ :=
      .act checked leaves
    have looks : narrow.Unbroken (some .shared) (.looking 0 (.set .shared 100), overdue.world) _ :=
      .act (q := .doubting 0 (.set .shared 100)) (v := overdue.world) rfl doubts
    obtain ⟨u, course, -⟩ := unbroken overdue _ _ rfl looks
    exact ⟨u, _, (passes.tail .wake).trans course⟩
  · let ended : House := overdue.put 0 ⟨.ended, 1⟩ (narrow.finish.run overdue.world).2
    have arrives : narrow.Course (some .shared) 1 (crowded, .arriving)
        (ended, .resting 0 (.set .shared 100)) :=
      passes.tail (.others (.finish (n := 0) (k := 1) rfl rfl) rfl)
    obtain ⟨-, -, -, -, admitted⟩ := courses ended _ arrives
    have assigned : 0 ∈ (narrow.slots ended.world).assigned := by decide
    exact ⟨ended, arrives.tail .wake, rung, (admitted 0 _ (.inr rfl) assigned ended .refl).2⟩

end Bulkhead

end CallGuard
