import CallGuard.Guard
import CallGuard.Proofs.Acts
import CallGuard.Proofs.Limiter.Words

/-!
# What a limiter shows

A limiter shows its balance as the last request has left it, while a request brings the balance up to
the cycle of its own instant first. So the number that is shown may be one of a cycle long over.
`left` is what the present cycle has left, and by `answers_replicate_iff` so many requests are granted
at once. Main statement: `reading_right_iff`, which says when the number shown is that one.
-/

namespace CallGuard

theorem Ledger.limit_after (l : Ledger) (requests : List Request) :
    (l.after requests).limit = l.limit := by
  induction requests generalizing l with
  | nil => rfl
  | cons r rest ih => exact (ih (l.reserve r).2).trans (l.limit_reserve r)

namespace Balance

/-- How many permissions the cycle of the instant has left. -/
def left (b : Balance) (now : Nanos) : Nat := (b.refresh now).permissions.toNat

/-- The limit is positive and has a place in 64 bits, and the balance does not exceed it. -/
structure Sound (b : Balance) : Prop where
  limit_pos : 0 < b.limit
  bounded : b.limit ≤ balanceMax
  most : b.permissions ≤ b.limit

variable {b : Balance} {now : Nanos} {requests : List Request}

theorem sound_ofLimit {limit : Nat} (period origin : Nanos) (pos : 0 < limit) :
    Sound (ofLimit limit period origin) := by
  constructor <;> simp only [ofLimit, balanceMax] <;> omega

/-- A refill takes nothing away, although it saturates twice. -/
theorem le_refill {permissions limit gain : Int} (bounded : limit ≤ balanceMax)
    (most : permissions ≤ limit) (gained : 0 ≤ gain) :
    permissions ≤ min (saturate (permissions + saturate gain)) limit := by
  unfold saturate balanceMax balanceMin at *
  omega

theorem lt_refill {permissions limit gain : Int} (bounded : limit ≤ balanceMax)
    (less : permissions < limit) (gained : 0 < gain) :
    permissions < min (saturate (permissions + saturate gain)) limit := by
  unfold saturate balanceMax balanceMin at *
  omega

/-- A balance that is not full grows with every new cycle. -/
theorem Sound.lt_refresh (h : Sound b) (moved : b.cycle < b.cycleAt now)
    (less : b.permissions < b.limit) : b.permissions < (b.refresh now).permissions := by
  rw [refresh, if_pos moved]
  apply lt_refill h.bounded less
  apply Int.mul_pos
  · unfold balanceMax
    omega
  · exact h.limit_pos

theorem Sound.le_refresh (h : Sound b) : b.permissions ≤ (b.refresh now).permissions := by
  by_cases moved : b.cycle < b.cycleAt now
  · rw [refresh, if_pos moved]
    apply le_refill h.bounded h.most
    apply Int.mul_nonneg
    · unfold balanceMax
      omega
    · exact Int.le_of_lt h.limit_pos
  · rw [refresh, if_neg moved]

theorem permissions_refresh_le (h : Sound b) : (b.refresh now).permissions ≤ b.limit := by
  unfold refresh
  split
  · exact Int.min_le_right _ _
  · exact h.most

theorem Sound.refresh (h : Sound b) (now : Nanos) : Sound (b.refresh now) := by
  constructor
  · rw [limit_refresh]
    exact h.limit_pos
  · rw [limit_refresh]
    exact h.bounded
  · rw [limit_refresh]
    exact permissions_refresh_le h

theorem Sound.reserve (h : Sound b) (now timeout : Nanos) : Sound (b.reserve now timeout).2 := by
  obtain ⟨pos, bounded, most⟩ := h.refresh now
  obtain kept | taken := reserve_cases b now timeout
  · rw [kept]
    exact ⟨pos, bounded, most⟩
  · rw [taken]
    exact ⟨pos, bounded, by simp only; omega⟩

theorem Sound.after (h : Sound b) (requests : List Request) : Sound (b.after requests) := by
  induction requests generalizing b with
  | nil => exact h
  | cons r rest ih => exact ih (h.reserve r.time r.timeout)

/-! ### Requests that do not wait -/

/-- In its own cycle a balance without permissions makes every request wait. -/
theorem Sound.wait_pos (h : Sound b) (here : b.cycle = b.cycleAt now) (spent : b.permissions ≤ 0) :
    0 < b.wait now := by
  have ahead : b.elapsed now < b.span * (b.cycle + 1) := by
    rw [here]
    exact Nat.lt_mul_div_succ _ b.span_pos
  have never : ¬ b.limit ≤ 0 := Int.not_le_of_gt h.limit_pos
  have longest : 0 < Nanos.longest := by decide
  have needed : 0 < b.span * (b.cycle + 1) - b.elapsed now +
      (((1 - b.permissions + b.limit - 1) / b.limit).toNat - 1) * b.span :=
    Nat.add_pos_left (Nat.sub_pos_of_lt ahead) _
  rw [wait, if_neg (Int.not_lt_of_ge spent), if_neg never]
  simp only
  split
  · exact needed
  · exact longest

theorem reserve_left (free : 0 < b.left now) : b.reserve now 0 =
    (.granted 0, { b.refresh now with permissions := (b.refresh now).permissions - 1 }) := by
  have some : 0 < (b.refresh now).permissions := by
    unfold left at free
    omega
  have none : (b.refresh now).wait now = 0 := by rw [wait, if_pos some]
  simp only [reserve, none, Nat.lt_irrefl, if_false]

theorem Sound.reserve_none (h : Sound b) (reached : b.cycle ≤ b.cycleAt now)
    (none : b.left now = 0) (wait : Nanos) : (b.reserve now 0).1 ≠ .granted wait := by
  have here : (b.refresh now).cycle = (b.refresh now).cycleAt now := by
    rw [cycle_refresh reached, cycleAt_refresh]
  have spent : (b.refresh now).permissions ≤ 0 := by
    unfold left at none
    omega
  have late := (h.refresh now).wait_pos here spent
  simp [Balance.reserve, late]

/-- One request that does not wait is granted exactly if something is left. -/
theorem Sound.granted_iff (h : Sound b) (reached : b.cycle ≤ b.cycleAt now) :
    (∃ wait, (b.reserve now 0).1 = .granted wait) ↔ 0 < b.left now := by
  constructor
  · rintro ⟨wait, granted⟩
    rcases Nat.eq_zero_or_pos (b.left now) with none | some
    · exact absurd granted (h.reserve_none reached none wait)
    · exact some
  · intro free
    exact ⟨0, by rw [reserve_left free]⟩

/-- A grant leaves one permission less. -/
theorem left_reserve (reached : b.cycle ≤ b.cycleAt now) (free : 0 < b.left now) :
    (b.reserve now 0).2.left now = b.left now - 1 := by
  have here : ((b.reserve now 0).2).cycle = b.cycleAt now := cycle_reserve reached
  have still : ¬ (b.reserve now 0).2.cycle < (b.reserve now 0).2.cycleAt now := by
    rw [here, cycleAt_reserve]
    exact Nat.lt_irrefl _
  rw [left, Balance.refresh, if_neg still, reserve_left free, left]
  simp only
  omega

/-- At one instant as many requests that do not wait are granted, one after the other, as there are
permissions left. -/
theorem Sound.answers_replicate_iff (h : Sound b) (reached : b.cycle ≤ b.cycleAt now) (n : Nat) :
    b.answers (.replicate n ⟨now, 0⟩) = .replicate n (.granted 0) ↔ n ≤ b.left now := by
  induction n generalizing b with
  | zero => simp [answers]
  | succ n ih =>
    rw [List.replicate_succ, List.replicate_succ, answers, List.cons.injEq]
    by_cases free : 0 < b.left now
    · have next := ih (h.reserve now 0) (by rw [cycle_reserve reached, cycleAt_reserve])
      rw [left_reserve reached free] at next
      rw [next, reserve_left free]
      simp only [true_and]
      omega
    · have none : b.left now = 0 := by omega
      constructor
      · intro granted
        exact absurd granted.1 (h.reserve_none reached none 0)
      · intro enough
        omega

/-! ### What the ledger has left -/

/-- A run of requests leaves a balance that stands for the ledger. -/
theorem Fills.after {l : Ledger} {used : Nat} (h : Fills b l used)
    (few : ((used + requests.length : Nat) : Int) ≤ balanceMax)
    (later : ∀ r ∈ requests, b.cycle ≤ b.cycleAt r.time)
    (ordered : requests.Pairwise fun r s => r.time ≤ s.time) :
    ∃ used' : Nat, (used' : Int) ≤ balanceMax ∧ Fills (b.after requests) (l.after requests) used' := by
  induction requests generalizing b l used with
  | nil => exact ⟨used, by simpa using few, h⟩
  | cons r rest ih =>
    rw [List.length_cons] at few
    obtain ⟨first, ordered⟩ := List.pairwise_cons.mp ordered
    have reached := later r List.mem_cons_self
    obtain ⟨-, -, used', more, kept⟩ := h.reserve (by omega) r reached
    apply ih kept (by omega)
    · intro s hs
      rw [cycle_reserve reached, cycleAt_reserve]
      exact b.cycleAt_mono (first s hs)
    · exact ordered

/-- What is left are the permissions that the cycle has not given. -/
theorem Fills.left_eq {l : Ledger} {used : Nat} (h : Fills b l used)
    (few : (used : Int) ≤ balanceMax) (reached : b.cycle ≤ b.cycleAt now) :
    b.left now = l.limit - l.taken.count (l.cycleAt now) := by
  have kept := h.refresh few now
  have given := kept.filled 0
  have cycle : (b.refresh now).cycle = l.cycleAt now := by rw [cycle_refresh reached, h.cycleAt_eq]
  rw [cycle, Nat.add_zero] at given
  rw [given, left, kept.permissions, kept.limit]
  omega

@[simp] theorem cycleAt_after (b : Balance) (requests : List Request) (later : Nanos) :
    (b.after requests).cycleAt later = b.cycleAt later := by
  rw [cycleAt, elapsed_after, span_after, ← cycleAt]

/-- The balance is in the cycle of the last request. -/
theorem cycle_after (reached : ∀ r ∈ requests, b.cycle ≤ b.cycleAt r.time)
    (ordered : requests.Pairwise fun r s => r.time ≤ s.time) :
    (b.after requests).cycle = requests.getLast?.elim b.cycle fun r => b.cycleAt r.time := by
  induction requests generalizing b with
  | nil => rfl
  | cons r rest ih =>
    obtain ⟨first, ordered⟩ := List.pairwise_cons.mp ordered
    have here : (b.reserve r.time r.timeout).2.cycle = b.cycleAt r.time :=
      cycle_reserve (reached r List.mem_cons_self)
    have onward : ∀ s ∈ rest, (b.reserve r.time r.timeout).2.cycle ≤
        (b.reserve r.time r.timeout).2.cycleAt s.time := by
      intro s hs
      rw [here, cycleAt_reserve]
      exact b.cycleAt_mono (first s hs)
    rw [after_cons, ih onward ordered, here]
    cases rest with
    | nil => rfl
    | cons s others =>
      obtain ⟨last, same⟩ : ∃ last, (s :: others).getLast? = some last :=
        ⟨_, List.getLast?_eq_some_getLast (List.cons_ne_nil s others)⟩
      rw [List.getLast?_cons_cons, same, Option.elim_some, Option.elim_some, cycleAt_reserve]

/-- The number shown is right: it is positive exactly if a request that does not wait is granted, and
then so many are. -/
def ShowsRight (b : Balance) (now : Nanos) : Prop :=
  (0 < b.permissions ↔ ∃ wait, (b.reserve now 0).1 = .granted wait) ∧
    (0 < b.permissions → b.permissions = b.left now)

theorem Sound.showsRight_iff (h : Sound b) (reached : b.cycle ≤ b.cycleAt now) :
    b.ShowsRight now ↔ b.cycle = b.cycleAt now ∨ b.permissions = b.limit ∨ b.left now = 0 := by
  have grows : b.permissions ≤ (b.refresh now).permissions := h.le_refresh
  have most : (b.refresh now).permissions ≤ b.limit := permissions_refresh_le h
  rw [ShowsRight, h.granted_iff reached]
  constructor
  · rintro ⟨positive, same⟩
    rcases Nat.lt_or_eq_of_le reached with moved | still
    · right
      rcases Int.lt_or_eq_of_le h.most with less | full
      · right
        have more := h.lt_refresh moved less
        unfold left at *
        omega
      · exact .inl full
    · exact .inl still
  · intro fresh
    have unchanged : (b.refresh now).permissions = b.permissions ∨ b.left now = 0 := by
      rcases fresh with still | full | none
      · left
        rw [Balance.refresh, if_neg (by omega)]
      · left
        omega
      · exact .inr none
    unfold left at *
    constructor
    · omega
    · omega

end Balance

namespace Limiter

theorem answer_reserve (l : Limiter) (timeout : Nanos) (w : World) :
    (∃ wait, ((l.reserve timeout).run w).1 = .ok wait) ↔
      ∃ wait, ((l.balance w).reserve w.now timeout).1 = .granted wait := by
  simp only [reserve, Act.run_bind, Act.run_get, Act.run_modify]
  cases ((l.balance w).reserve w.now timeout).1 with
  | granted wait => exact iff_of_true ⟨wait, rfl⟩ ⟨wait, rfl⟩
  | refused needed => exact iff_of_false (by rintro ⟨wait, ⟨⟩⟩) (by rintro ⟨wait, ⟨⟩⟩)

end Limiter

namespace Balance

/-- **What a limiter shows is right until a new cycle begins**, or as long as the balance is full. Take
a limiter with a positive limit, requests made one after the other, and any later instant. There, as
many requests that do not wait are granted in a row as the cycle of the instant has left, and that is
the limit less what the ledger has given of this cycle. The number that is shown never promises more.
It is right exactly if the last request was made in the same cycle, or no permission is missing, or
none is left. -/
theorem reading_right_iff (limit : Nat) (period origin : Nanos) (pos : 0 < limit)
    (requests : List Request) (t : Nanos) (ordered : requests.Pairwise fun r s => r.time ≤ s.time)
    (later : ∀ r ∈ requests, r.time ≤ t) :
    let b := (ofLimit limit period origin).after requests
    let l := (Ledger.ofLimit limit period origin pos).after requests
    (∀ n, b.answers (.replicate n ⟨t, 0⟩) = .replicate n (.granted 0) ↔ n ≤ b.left t) ∧
    ((requests.length : Int) ≤ balanceMax →
      b.left t = min limit (2 ^ 63 - 1) - l.taken.count (l.cycleAt t)) ∧
    b.permissions ≤ b.left t ∧
    (b.ShowsRight t ↔ b.cycle = b.cycleAt t ∨ b.permissions = b.limit ∨ b.left t = 0) ∧
    (b.cycle = requests.getLast?.elim 0 fun r => b.cycleAt r.time) ∧
    ∀ (limiter : Limiter) (w : World), limiter.balance w = b → w.now = t →
      (Guard.limiter limiter).showing w = .available b.permissions ∧
      ((∃ wait, ((limiter.reserve 0).run w).1 = .ok wait) ↔ 0 < b.left t) := by
  intro b l
  have sound : Sound b := (sound_ofLimit period origin pos).after requests
  have started : ∀ r ∈ requests, (ofLimit limit period origin).cycle ≤
      (ofLimit limit period origin).cycleAt r.time := fun _ _ => Nat.zero_le _
  have reached : b.cycle ≤ b.cycleAt t := by
    apply cycle_after_le (r := ⟨t, 0⟩) (Nat.zero_le _) _ started
    apply List.pairwise_append.mpr
    refine ⟨ordered, List.pairwise_singleton _ _, fun r mem s last => ?_⟩
    rw [List.mem_singleton.mp last]
    exact later r mem
  refine ⟨sound.answers_replicate_iff reached, ?_, ?_, sound.showsRight_iff reached, ?_, ?_⟩
  · intro few
    obtain ⟨used, fits, kept⟩ := (fills_ofLimit limit period origin pos).after (by omega) started
      ordered
    have given := kept.left_eq fits reached
    rwa [Ledger.limit_after] at given
  · have grows : b.permissions ≤ (b.refresh t).permissions := sound.le_refresh
    unfold left
    omega
  · rw [cycle_after started ordered]
    simp only [b, cycleAt_after]
    rfl
  · rintro limiter w same rfl
    constructor
    · rw [Guard.showing, same]
    · rw [limiter.answer_reserve, same, sound.granted_iff reached]

/-- Of two permissions one is gone, and the next cycle begins. -/
theorem reading_right_iff_idle :
    let b := (ofLimit 2 100 0).after [⟨0, 0⟩]
    b.answers [⟨150, 0⟩, ⟨150, 0⟩] = [.granted 0, .granted 0] ∧ b.ShowsRight 50 ∧
      ¬ b.ShowsRight 150 := by
  intro b
  obtain ⟨answers, -, -, late, -⟩ :=
    reading_right_iff 2 100 0 (by decide) [⟨0, 0⟩] 150 (by decide) (by decide)
  obtain ⟨-, -, -, early, -⟩ :=
    reading_right_iff 2 100 0 (by decide) [⟨0, 0⟩] 50 (by decide) (by decide)
  refine ⟨(answers 2).mpr (by decide), early.mpr (by decide), fun right => ?_⟩
  exact absurd (late.mp right) (by decide)

/-- The one permission of the first cycle is gone. When the next cycle has begun none is shown, and a
request that does not wait is granted. -/
theorem reading_goes_stale :
    let b := (ofLimit 1 100 0).after [⟨0, 0⟩]
    b.permissions = 0 ∧ (b.reserve 100 0).1 = .granted 0 ∧ b.left 100 = 1 ∧ ¬ b.ShowsRight 100 := by
  intro b
  refine ⟨by decide, by decide, by decide, fun right => ?_⟩
  exact absurd (right.1.mpr ⟨0, by decide⟩) (by decide)

end Balance

end CallGuard
