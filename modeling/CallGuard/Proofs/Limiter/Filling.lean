import CallGuard.Proofs.Limiter.Ledger
import Mathlib.Algebra.Order.Ring.Int
import Mathlib.Tactic.Ring

/-!
# A balance stands for a ledger

A balance remembers no cycles. It does not have to: grants fill the cycles from its own on one after
the other, so that the number of permissions that are gone says how many each of these cycles has
given. `Fills` is this relation; a new cycle keeps it (`Fills.refresh`), a grant keeps it
(`Fills.take`), and under it the wait is that of the ledger (`Fills.wait_eq`). Main statement:
`answers_eq_ledger`.
-/

namespace CallGuard

namespace Balance

/-- The answers to requests made one after the other. -/
def answers (b : Balance) : List Request → List Reservation
  | [] => []
  | r :: rest =>
    (b.reserve r.time r.timeout).1 :: (b.reserve r.time r.timeout).2.answers rest

/-- That many permissions of the balance's cycle and of later ones are gone, and they fill these
cycles in the ledger one after the other. -/
structure Fills (b : Balance) (l : Ledger) (used : Nat) : Prop where
  limit : b.limit = l.limit
  bounded : b.limit ≤ balanceMax
  span : b.span = l.span
  origin : b.origin = l.origin
  permissions : b.permissions = b.limit - used
  filled : ∀ ahead, l.taken.count (b.cycle + ahead) = min l.limit (used - ahead * l.limit)

theorem fills_ofLimit (limit : Nat) (period origin : Nanos) (pos : 0 < limit) :
    Fills (.ofLimit limit period origin) (.ofLimit limit period origin pos) 0 where
  limit := by simp only [ofLimit, Ledger.ofLimit, balanceMax]; omega
  bounded := Int.min_le_right _ _
  span := rfl
  origin := rfl
  permissions := by simp [ofLimit]
  filled := by simp [Ledger.ofLimit]

/-- Saturation loses nothing: a refill too large for 64 bits fills the balance anyway. -/
theorem refill_eq {limit used skipped : Nat} (pos : 0 < limit)
    (bounded : (limit : Int) ≤ balanceMax) (few : (used : Int) ≤ balanceMax) (moved : 0 < skipped) :
    min (saturate (limit - used + saturate (min (skipped : Int) balanceMax * limit))) limit =
      (limit : Int) - (used - skipped * limit : Nat) := by
  have grows : skipped ≤ skipped * limit := Nat.le_mul_of_pos_right skipped pos
  have least : limit ≤ skipped * limit := Nat.le_mul_of_pos_left limit moved
  by_cases exact : ((skipped * limit : Nat) : Int) ≤ balanceMax
  · have whole : min (skipped : Int) balanceMax * limit = (skipped * limit : Nat) := by
      rw [Int.min_eq_left (by omega), Int.natCast_mul]
    rw [whole]
    unfold saturate balanceMax balanceMin at *
    omega
  · have large : balanceMax ≤ min (skipped : Int) balanceMax * limit := by
      by_cases few : (skipped : Int) ≤ balanceMax
      · rw [Int.min_eq_left few, ← Int.natCast_mul]
        omega
      · rw [Int.min_eq_right (by omega)]
        exact le_mul_of_one_le_right (by decide) (by omega)
    generalize min (skipped : Int) balanceMax * limit = refill at large
    unfold saturate balanceMax balanceMin at *
    omega

/-- The cycles that go by take the permissions with them that were taken of them. -/
theorem Fills.refresh {b : Balance} {l : Ledger} {used : Nat} (h : Fills b l used)
    (few : (used : Int) ≤ balanceMax) (now : Nanos) :
    Fills (b.refresh now) l (used - (b.cycleAt now - b.cycle) * l.limit) := by
  unfold Balance.refresh
  split
  · rename_i moved
    have refilled := refill_eq l.limit_pos (h.limit ▸ h.bounded) few (Nat.sub_pos_of_lt moved)
    refine ⟨h.limit, h.bounded, h.span, h.origin, ?_, ?_⟩
    · simpa only [h.permissions, h.limit] using refilled
    · intro ahead
      have sum : b.cycleAt now + ahead = b.cycle + (b.cycleAt now - b.cycle + ahead) := by omega
      rw [sum, h.filled, Nat.add_mul, Nat.sub_sub]
  · rename_i still
    have none : b.cycleAt now - b.cycle = 0 := by omega
    rwa [none, Nat.zero_mul, Nat.sub_zero]

theorem cycle_refresh {b : Balance} {now : Nanos} (h : b.cycle ≤ b.cycleAt now) :
    (b.refresh now).cycle = b.cycleAt now := by
  unfold refresh
  split
  · rfl
  · show b.cycle = _
    omega

@[simp] theorem cycleAt_refresh (b : Balance) (now later : Nanos) :
    (b.refresh now).cycleAt later = b.cycleAt later := by
  unfold refresh
  split <;> rfl

theorem Fills.cycleAt_eq {b : Balance} {l : Ledger} {used : Nat} (h : Fills b l used)
    (now : Nanos) : b.cycleAt now = l.cycleAt now := by
  simp only [Balance.cycleAt, Ledger.cycleAt, elapsed, h.span, h.origin]

/-- The first cycle with a slot left is as many cycles ahead as the permissions gone fill. -/
theorem Fills.slot_eq {b : Balance} {l : Ledger} {used : Nat} (h : Fills b l used) :
    l.slot b.cycle = b.cycle + used / l.limit := by
  have pos := l.limit_pos
  rw [Ledger.slot_eq_iff]
  refine ⟨⟨Nat.le_add_right _ _, ?_⟩, ?_⟩
  · have rest := Nat.mod_lt used pos
    have split := Nat.div_add_mod' used l.limit
    rw [h.filled]
    omega
  · rintro j earlier ⟨here, free⟩
    obtain ⟨ahead, rfl⟩ := Nat.exists_eq_add_of_le here
    have full := Nat.mul_le_of_le_div l.limit (ahead + 1) used (by omega)
    rw [h.filled] at free
    rw [Nat.succ_mul] at full
    omega

/-- The wait read off the deficit is the wait for the first cycle with a slot left. -/
theorem Fills.wait_eq {b : Balance} {l : Ledger} {used : Nat} (h : Fills b l used) {now : Nanos}
    (here : b.cycle = b.cycleAt now) : b.wait now = l.wait now := by
  have pos := l.limit_pos
  have cycle : l.cycleAt now = b.cycle := by rw [← h.cycleAt_eq, here]
  unfold Balance.wait Ledger.wait
  simp only [cycle, h.slot_eq]
  by_cases free : used < l.limit
  · have same : used / l.limit = 0 := Nat.div_eq_of_lt free
    rw [if_pos (by rw [h.permissions, h.limit]; omega), same, if_pos (Nat.add_zero _)]
  · have ahead : 0 < used / l.limit := Nat.div_pos (by omega) pos
    have cycles : ((1 - b.permissions + b.limit - 1) / b.limit).toNat = used / l.limit := by
      have deficit : 1 - b.permissions + b.limit - 1 = (used : Int) := by
        rw [h.permissions]
        omega
      rw [deficit, h.limit, ← Int.natCast_ediv, Int.toNat_natCast]
    -- The instant lies before the end of the balance's cycle.
    have within : b.elapsed now < b.span * (b.cycle + 1) := by
      rw [here]
      exact Nat.lt_mul_div_succ _ (by unfold Balance.span; omega)
    have needed : b.span * (b.cycle + 1) - b.elapsed now + (used / l.limit - 1) * b.span =
        (b.cycle + used / l.limit) * l.span - (now - l.origin) := by
      obtain ⟨n, some⟩ := Nat.exists_eq_add_of_lt ahead
      have whole : (b.cycle + (0 + n + 1)) * b.span = b.span * (b.cycle + 1) + n * b.span := by
        ring
      have elapsed : now - b.origin = b.elapsed now := rfl
      rw [some, ← h.span, ← h.origin, whole, elapsed, Nat.zero_add, Nat.add_sub_cancel]
      exact (Nat.sub_add_comm (Nat.le_of_lt within)).symm
    have deficient : ¬ 0 < b.permissions := by
      rw [h.permissions, h.limit]
      omega
    have positive : ¬ b.limit ≤ 0 := by
      rw [h.limit]
      omega
    have later : ¬ b.cycle + used / l.limit = b.cycle :=
      Nat.ne_of_gt (Nat.lt_add_of_pos_right ahead)
    rw [if_neg deficient, if_neg positive, if_neg later, cycles, needed,
      Nat.one_shiftLeft]

theorem Fills.take {b : Balance} {l : Ledger} {used : Nat} (h : Fills b l used) :
    Fills { b with permissions := b.permissions - 1 }
      { l with taken := l.slot b.cycle :: l.taken } (used + 1) := by
  refine ⟨h.limit, h.bounded, h.span, h.origin, ?_, ?_⟩
  · change b.permissions - 1 = b.limit - (used + 1 : Nat)
    rw [h.permissions]
    omega
  · intro ahead
    change (l.slot b.cycle :: l.taken).count (b.cycle + ahead) =
      min l.limit (used + 1 - ahead * l.limit)
    have pos := l.limit_pos
    have rest := Nat.mod_lt used pos
    have split := Nat.div_add_mod' used l.limit
    rw [h.slot_eq, List.count_cons, h.filled]
    rcases Nat.lt_trichotomy (used / l.limit) ahead with later | here | earlier
    · have unreached : (used / l.limit + 1) * l.limit ≤ ahead * l.limit :=
        Nat.mul_le_mul_right _ later
      rw [if_neg (by simp; omega)]
      rw [Nat.succ_mul] at unreached
      omega
    · subst here
      rw [if_pos (by simp)]
      omega
    · have full : (ahead + 1) * l.limit ≤ used / l.limit * l.limit :=
        Nat.mul_le_mul_right _ earlier
      rw [if_neg (by simp; omega)]
      rw [Nat.succ_mul] at full
      omega

/-- One request is answered as by the ledger, and afterwards the balance stands for the ledger
again, in the cycle of the request. -/
theorem Fills.reserve {b : Balance} {l : Ledger} {used : Nat} (h : Fills b l used)
    (few : (used : Int) ≤ balanceMax) (r : Request) (later : b.cycle ≤ b.cycleAt r.time) :
    (b.reserve r.time r.timeout).1 = (l.reserve r).1 ∧
      (b.reserve r.time r.timeout).2.cycle = l.cycleAt r.time ∧
      ∃ used' ≤ used + 1, Fills (b.reserve r.time r.timeout).2 (l.reserve r).2 used' := by
  have kept := h.refresh few r.time
  have here : (b.refresh r.time).cycle = (b.refresh r.time).cycleAt r.time := by
    rw [cycle_refresh later, cycleAt_refresh]
  have cycle : (b.refresh r.time).cycle = l.cycleAt r.time := by rw [here, kept.cycleAt_eq]
  have wait := kept.wait_eq here
  unfold Balance.reserve Ledger.reserve
  simp only [wait]
  by_cases patient : l.wait r.time ≤ r.timeout
  · rw [if_neg (Nat.not_lt_of_le patient), if_pos patient, ← cycle]
    exact ⟨rfl, rfl, _, Nat.add_le_add_right (Nat.sub_le _ _) 1, kept.take⟩
  · rw [if_pos (Nat.lt_of_not_le patient), if_neg patient]
    exact ⟨rfl, cycle, _, Nat.le_succ_of_le (Nat.sub_le _ _), kept⟩

theorem Fills.answers_eq {b : Balance} {l : Ledger} {used : Nat} (h : Fills b l used)
    (requests : List Request) (few : ((used + requests.length : Nat) : Int) ≤ balanceMax)
    (later : ∀ r ∈ requests, b.cycle ≤ b.cycleAt r.time)
    (ordered : requests.Pairwise fun r s => r.time ≤ s.time) :
    b.answers requests = l.answers requests := by
  induction requests generalizing b l used with
  | nil => rfl
  | cons r rest ih =>
    rw [List.length_cons] at few
    obtain ⟨first, ordered⟩ := List.pairwise_cons.mp ordered
    obtain ⟨answer, cycle, used', more, kept⟩ :=
      h.reserve (by omega) r (later r List.mem_cons_self)
    have onward : ∀ s ∈ rest, (b.reserve r.time r.timeout).2.cycle ≤
        (b.reserve r.time r.timeout).2.cycleAt s.time := by
      intro s hs
      rw [cycle, kept.cycleAt_eq, Ledger.cycleAt_reserve]
      exact l.cycleAt_mono (first s hs)
    simp only [Balance.answers, Ledger.answers]
    rw [answer, ih kept (by omega) onward ordered]

/-- **A limiter is a greedy slot ledger.** Whatever idle gaps, bursts and reservations ahead there
were, each request waits for the earliest cycle from its own on that has a slot left, and is granted
exactly when that wait is within its timeout; a refused one changes no later answer. So no cycle is
ever assigned more grants than the limit. -/
theorem answers_eq_ledger (limit : Nat) (period origin : Nanos) (pos : 0 < limit)
    (requests : List Request) (few : requests.length < 2 ^ 33)
    (ordered : requests.Pairwise fun r s => r.time ≤ s.time) :
    (ofLimit limit period origin).answers requests =
        (Ledger.ofLimit limit period origin pos).answers requests ∧
      (∀ cycle, ((Ledger.ofLimit limit period origin pos).after requests).taken.count cycle ≤
        min limit (2 ^ 63 - 1)) ∧
      ∀ i needed, ((ofLimit limit period origin).answers requests)[i]? = some (.refused needed) →
        ((ofLimit limit period origin).answers requests).eraseIdx i =
          (ofLimit limit period origin).answers (requests.eraseIdx i) := by
  have fills := fills_ofLimit limit period origin pos
  have same : ∀ rs : List Request, rs.length < 2 ^ 33 →
      (rs.Pairwise fun r s => r.time ≤ s.time) →
      (ofLimit limit period origin).answers rs =
        (Ledger.ofLimit limit period origin pos).answers rs := by
    intro rs few ordered
    refine fills.answers_eq rs ?_ (fun _ _ => Nat.zero_le _) ordered
    rw [balanceMax]
    omega
  refine ⟨same requests few ordered, Ledger.count_after_le requests (fun _ => Nat.zero_le _), ?_⟩
  · intro i needed refused
    have fewer : (requests.eraseIdx i).length < 2 ^ 33 :=
      Nat.lt_of_le_of_lt (List.length_eraseIdx_le requests i) few
    rw [same requests few ordered] at refused ⊢
    rw [same _ fewer (ordered.sublist (List.eraseIdx_sublist requests i))]
    exact Ledger.answers_eraseIdx refused

/-- A burst of three with one permission in each period: the second waits for the next cycle, and
the third would have to wait for too long, so that its cycle is free for the fourth. -/
theorem answers_eq_ledger_burst :
    let requests : List Request := [⟨30, 0⟩, ⟨30, 100⟩, ⟨30, 100⟩, ⟨230, 0⟩]
    (ofLimit 1 100 0).answers requests =
        (Ledger.ofLimit 1 100 0 Nat.one_pos).answers requests ∧
      (ofLimit 1 100 0).answers requests =
        [.granted 0, .granted 70, .refused 170, .granted 0] :=
  ⟨(answers_eq_ledger 1 100 0 Nat.one_pos _ (by decide) (by decide)).1, by decide⟩

end Balance

end CallGuard
