import CallGuard.Proofs.Limiter.Filling

/-!
# A limiter in machine words

Permissions are kept in 64 bits with a sign, and instants and waits are reckoned in 128 bits without
one. `Balance.reserveInWords` takes every step in such words and gives up at the first result that has
no place there. It never does: permissions that are gone were granted one by one, so that few requests
cannot take the balance far below its limit, and the refill brings it no higher (`Spent`). Main
statement: `words_suffice`.
-/

namespace CallGuard

/-- The result as a word of 64 bits with a sign, if it fits. -/
def narrow? (n : Int) : Option Int := if balanceMin ≤ n ∧ n ≤ balanceMax then some n else none

/-- The result as a word of 128 bits without a sign, if it fits. -/
def wide? (n : Int) : Option Nat := if 0 ≤ n ∧ n < 2 ^ 128 then some n.toNat else none

theorem narrow?_eq {n : Int} (least : balanceMin ≤ n) (most : n ≤ balanceMax) :
    narrow? n = some n := if_pos ⟨least, most⟩

theorem wide?_eq {n : Int} {m : Nat} (same : n = m) (most : m < 2 ^ 128) : wide? n = some m := by
  rw [wide?, if_pos (by omega), same, Int.toNat_natCast]

/-- No duration comes near the end of 128 bits. -/
theorem lt_of_le_longest {n : Nat} (h : n ≤ Nanos.longest) : n < 2 ^ 94 :=
  Nat.lt_of_le_of_lt h (by decide)

namespace Balance

/-- `refresh`, step by step. Adding and multiplying saturate there. -/
def refreshInWords (b : Balance) (now : Nanos) : Option Balance := do
  if b.cycle < b.cycleAt now then
    let gone ← wide? (b.cycleAt now - b.cycle)
    let refilled := saturate (b.permissions + saturate (min (gone : Int) balanceMax * b.limit))
    return { b with permissions := min refilled b.limit, cycle := b.cycleAt now }
  else return b

/-- `wait`, step by step. -/
def waitInWords (b : Balance) (now : Nanos) : Option Nanos := do
  if 0 < b.permissions then return 0
  else if b.limit ≤ 0 then return Nanos.longest
  else
    let stop ← wide? (b.span * (← wide? (b.cycle + 1)))
    let untilNext ← wide? (stop - b.elapsed now)
    let deficit ← narrow? (1 - b.permissions)
    let raised ← narrow? ((← narrow? (deficit + b.limit)) - 1)
    let cycles ← narrow? (raised / b.limit)
    let later ← wide? ((← wide? (cycles - 1)) * b.span)
    let needed ← wide? (untilNext + later)
    return if needed < 1 <<< 64 then needed else Nanos.longest

/-- `reserve`, step by step. -/
def reserveInWords (b : Balance) (now timeout : Nanos) : Option (Reservation × Balance) := do
  let b ← b.refreshInWords now
  let needed ← b.waitInWords now
  if timeout < needed then return (.refused needed, b)
  else return (.granted needed, { b with permissions := ← narrow? (b.permissions - 1) })

/-- The answers to requests made one after the other, if every step on the way fits. -/
def answersInWords (b : Balance) : List Request → Option (List Reservation)
  | [] => return []
  | r :: rest => do
    let (answer, b) ← b.reserveInWords r.time r.timeout
    return answer :: (← b.answersInWords rest)

/-- The balance once the requests have been answered. -/
def after (b : Balance) (requests : List Request) : Balance :=
  requests.foldl (fun b r => (b.reserve r.time r.timeout).2) b

/-- The end of the balance's cycle, counted from the origin. -/
def stop (b : Balance) : Nat := b.span * (b.cycle + 1)

/-- How many permissions have to come before one is left. -/
def deficit (b : Balance) : Int := 1 - b.permissions

/-- How many cycles have to begin before a permission is left. -/
def cyclesAhead (b : Balance) : Int := (b.deficit + b.limit - 1) / b.limit

/-- The steps that lead to a wait of a balance without permissions, as far as they can go wrong. -/
structure WaitFits (b : Balance) (now : Nanos) : Prop where
  deficit : 1 ≤ b.deficit ∧ b.deficit ≤ balanceMax
  raised : 1 ≤ b.deficit + b.limit - 1 ∧ b.deficit + b.limit ≤ balanceMax
  cycles : 1 ≤ b.cyclesAhead ∧ b.cyclesAhead ≤ balanceMax
  stop : b.stop < 2 ^ 128
  untilNext : 1 ≤ b.stop - b.elapsed now
  later : (b.cyclesAhead.toNat - 1) * b.span < 2 ^ 128
  needed : b.stop - b.elapsed now + (b.cyclesAhead.toNat - 1) * b.span < 2 ^ 128

/-- The steps of a request at the instant, as far as they can go wrong. -/
structure Fits (b : Balance) (now : Nanos) : Prop where
  gone : b.cycleAt now - b.cycle < 2 ^ 128
  refill : b.cycle < b.cycleAt now → (b.refresh now).permissions =
    min (b.permissions + (b.cycleAt now - b.cycle : Nat) * b.limit) b.limit
  permissions : balanceMin ≤ (b.refresh now).permissions ∧ (b.refresh now).permissions ≤ balanceMax
  taken : balanceMin ≤ (b.refresh now).permissions - 1
  waits : (b.refresh now).permissions ≤ 0 → 0 < b.limit → (b.refresh now).WaitFits now

variable {b : Balance} {grants : Nat} {now : Nanos} {requests : List Request}

theorem span_pos (b : Balance) : 0 < b.span := by
  unfold span
  omega

@[simp] theorem limit_refresh (b : Balance) (now : Nanos) : (b.refresh now).limit = b.limit := by
  unfold refresh
  split <;> rfl

@[simp] theorem span_refresh (b : Balance) (now : Nanos) : (b.refresh now).span = b.span := by
  unfold refresh
  split <;> rfl

@[simp] theorem elapsed_refresh (b : Balance) (now later : Nanos) :
    (b.refresh now).elapsed later = b.elapsed later := by
  unfold refresh
  split <;> rfl

/-- A request leaves the refreshed balance as it is or takes one permission of it. -/
theorem reserve_cases (b : Balance) (now timeout : Nanos) :
    (b.reserve now timeout).2 = b.refresh now ∨
      (b.reserve now timeout).2 =
        { b.refresh now with permissions := (b.refresh now).permissions - 1 } := by
  unfold reserve
  simp only
  split
  · exact .inl rfl
  · exact .inr rfl

/-! ### Steps that fit -/

theorem WaitFits.waitInWords_eq (h : b.WaitFits now) (spent : ¬ 0 < b.permissions)
    (limit : ¬ b.limit ≤ 0) : b.waitInWords now = some (b.wait now) := by
  have least : balanceMin ≤ 0 := by decide
  obtain ⟨deficit, raised, cycles, stop, untilNext, later, needed⟩ := h
  have onward : wide? (b.cycle + 1) = some (b.cycle + 1) := by
    apply wide?_eq (by omega)
    exact Nat.lt_of_le_of_lt (Nat.le_mul_of_pos_left _ b.span_pos) stop
  have ends : wide? (b.span * (b.cycle + 1 : Nat)) = some b.stop :=
    wide?_eq (by rw [Balance.stop, Int.natCast_mul]) stop
  have remains : wide? (b.stop - b.elapsed now) = some (b.stop - b.elapsed now) := by
    apply wide?_eq <;> omega
  have owed : narrow? (1 - b.permissions) = some b.deficit :=
    narrow?_eq (by unfold Balance.deficit at deficit; omega) deficit.2
  have added : narrow? (b.deficit + b.limit) = some (b.deficit + b.limit) :=
    narrow?_eq (by omega) raised.2
  have lessened : narrow? (b.deficit + b.limit - 1) = some (b.deficit + b.limit - 1) :=
    narrow?_eq (by omega) (by omega)
  have divided : narrow? ((b.deficit + b.limit - 1) / b.limit) = some b.cyclesAhead :=
    narrow?_eq (Int.le_trans (by omega) cycles.1) cycles.2
  have others : wide? (b.cyclesAhead - 1) = some (b.cyclesAhead.toNat - 1) := by
    apply wide?_eq
    · omega
    · have most := cycles.2
      unfold balanceMax at most
      omega
  have waited : wide? ((b.cyclesAhead.toNat - 1 : Nat) * b.span) =
      some ((b.cyclesAhead.toNat - 1) * b.span) :=
    wide?_eq (Int.natCast_mul _ _).symm later
  have summed : wide? ((b.stop - b.elapsed now : Nat) + ((b.cyclesAhead.toNat - 1) * b.span : Nat)) =
      some (b.stop - b.elapsed now + (b.cyclesAhead.toNat - 1) * b.span) :=
    wide?_eq (Int.natCast_add _ _).symm needed
  rw [waitInWords, if_neg spent, if_neg limit, wait, if_neg spent, if_neg limit]
  -- With steps by definition the kernel would compare the words themselves.
  simp -implicitDefEqProofs only [onward, ends, remains, owed, added, lessened, divided, others,
    waited, summed, Option.bind_eq_bind, Option.bind_some]
  rfl

theorem Fits.reserveInWords_eq (h : b.Fits now) (timeout : Nanos) :
    b.reserveInWords now timeout = some (b.reserve now timeout) := by
  have refreshed : b.refreshInWords now = some (b.refresh now) := by
    unfold refreshInWords refresh
    split
    next moved =>
      have gone : wide? (b.cycleAt now - b.cycle) = some (b.cycleAt now - b.cycle) :=
        wide?_eq (by omega) h.gone
      simp -implicitDefEqProofs only [gone, Option.bind_eq_bind, Option.bind_some]
      rfl
    next => rfl
  have waited : (b.refresh now).waitInWords now = some ((b.refresh now).wait now) := by
    by_cases left : 0 < (b.refresh now).permissions
    · rw [waitInWords, wait, if_pos left, if_pos left]
      rfl
    · by_cases never : (b.refresh now).limit ≤ 0
      · rw [waitInWords, wait, if_neg left, if_neg left, if_pos never, if_pos never]
        rfl
      · rw [limit_refresh] at never
        exact (h.waits (by omega) (by omega)).waitInWords_eq left (by rwa [limit_refresh])
  have taken : narrow? ((b.refresh now).permissions - 1) = some ((b.refresh now).permissions - 1) :=
    narrow?_eq h.taken (by have := h.permissions.2; omega)
  rw [reserveInWords, refreshed, reserve]
  simp -implicitDefEqProofs only [Option.bind_eq_bind, Option.bind_some, waited]
  split
  · rfl
  · rw [taken]
    rfl

/-- A run whose every request fits is answered in words as it is answered exactly. -/
theorem answersInWords_eq
    (fits : ∀ before r rest, requests = before ++ r :: rest → (b.after before).Fits r.time) :
    b.answersInWords requests = some (b.answers requests) := by
  induction requests generalizing b with
  | nil => rfl
  | cons r rest ih =>
    have first : b.reserveInWords r.time r.timeout = some (b.reserve r.time r.timeout) :=
      (fits [] r rest rfl).reserveInWords_eq r.timeout
    have onward := ih (b := (b.reserve r.time r.timeout).2) fun before s later same =>
      fits (r :: before) s later (congrArg (r :: ·) same)
    simp -implicitDefEqProofs only [answersInWords, first, onward, Option.bind_eq_bind,
      Option.bind_some]
    rfl

/-! ### How far a balance falls -/

/-- The permissions that are gone were granted, at most so many. -/
structure Spent (b : Balance) (grants : Nat) : Prop where
  signed : 0 ≤ b.limit
  bounded : b.limit ≤ balanceMax
  least : b.limit - grants ≤ b.permissions
  most : b.permissions ≤ b.limit

theorem spent_ofLimit (limit : Nat) (period origin : Nanos) :
    Spent (ofLimit limit period origin) 0 := by
  constructor <;> simp only [ofLimit, balanceMax] <;> omega

/-- The refill is exact although it saturates twice. -/
theorem Spent.refill_eq (h : Spent b grants) (few : grants < 2 ^ 33)
    (moved : b.cycle < b.cycleAt now) : (b.refresh now).permissions =
      min (b.permissions + (b.cycleAt now - b.cycle : Nat) * b.limit) b.limit := by
  obtain ⟨signed, bounded, least, most⟩ := h
  rw [refresh, if_pos moved]
  simp only
  by_cases none : b.limit = 0
  · rw [none, Int.mul_zero, Int.mul_zero]
    unfold saturate balanceMax balanceMin
    omega
  · obtain ⟨limit, same⟩ := Int.eq_ofNat_of_zero_le signed
    obtain ⟨used, gone⟩ := Int.eq_ofNat_of_zero_le (Int.sub_nonneg_of_le most)
    have refilled := @Balance.refill_eq limit used (b.cycleAt now - b.cycle) (by omega) (by omega)
      (by unfold balanceMax; omega) (by omega)
    have permissions : b.permissions = limit - used := by omega
    rw [permissions, same, refilled, ← Int.natCast_mul]
    omega

theorem Spent.refresh (h : Spent b grants) (few : grants < 2 ^ 33) (now : Nanos) :
    Spent (b.refresh now) grants := by
  by_cases moved : b.cycle < b.cycleAt now
  · have refilled := h.refill_eq few moved
    have gained : 0 ≤ (b.cycleAt now - b.cycle : Nat) * b.limit :=
      Int.mul_nonneg (Int.natCast_nonneg _) h.signed
    obtain ⟨signed, bounded, least, most⟩ := h
    constructor
    · rwa [limit_refresh]
    · rwa [limit_refresh]
    · rw [limit_refresh, refilled]
      omega
    · rw [limit_refresh, refilled]
      omega
  · rwa [Balance.refresh, if_neg moved]

theorem Spent.reserve (h : Spent b grants) (few : grants < 2 ^ 33) (now timeout : Nanos) :
    Spent (b.reserve now timeout).2 (grants + 1) := by
  obtain ⟨signed, bounded, least, most⟩ := h.refresh few now
  obtain kept | taken := reserve_cases b now timeout
  · rw [kept]
    exact ⟨signed, bounded, by omega, most⟩
  · rw [taken]
    exact ⟨signed, bounded, by simp only; omega, by simp only; omega⟩

/-- A balance in the cycle of the instant: its end is ahead, and so few permissions are gone that
nothing on the way to the wait is large. -/
theorem Spent.waitFits (h : Spent b grants) (few : grants < 2 ^ 33) (here : b.cycle = b.cycleAt now)
    (spent : b.permissions ≤ 0) (limit : 0 < b.limit) (span : b.span ≤ Nanos.longest)
    (elapsed : b.elapsed now ≤ Nanos.longest) : b.WaitFits now := by
  obtain ⟨-, -, least, -⟩ := h
  have brief := lt_of_le_longest span
  have recent := lt_of_le_longest elapsed
  have owed : b.deficit + b.limit - 1 = b.limit - b.permissions := by
    unfold deficit
    omega
  have one : 1 ≤ b.cyclesAhead := by
    rw [cyclesAhead, owed]
    apply Int.le_ediv_of_mul_le limit
    omega
  have ahead : b.cyclesAhead ≤ grants := by
    rw [cyclesAhead, owed]
    apply Int.le_trans (Int.ediv_le_self _ (by omega))
    omega
  have behind : b.span * b.cycle ≤ b.elapsed now := by
    rw [here]
    exact Nat.mul_div_le _ _
  have within : b.stop > b.elapsed now := by
    rw [stop, here]
    exact Nat.lt_mul_div_succ _ b.span_pos
  have stop : b.stop = b.span * b.cycle + b.span := rfl
  have later : (b.cyclesAhead.toNat - 1) * b.span ≤ 2 ^ 33 * 2 ^ 94 :=
    Nat.mul_le_mul (by omega) (by omega)
  have deficit : b.deficit = 1 - b.permissions := rfl
  constructor
  case deficit => unfold balanceMax; omega
  case raised => unfold balanceMax; omega
  case cycles => unfold balanceMax; omega
  all_goals omega

theorem Spent.fits (h : Spent b grants) (few : grants < 2 ^ 33) (later : b.cycle ≤ b.cycleAt now)
    (span : b.span ≤ Nanos.longest) (elapsed : b.elapsed now ≤ Nanos.longest) : b.Fits now := by
  have kept := h.refresh few now
  have bounded := kept.bounded
  have least := kept.least
  have most := kept.most
  have signed := kept.signed
  constructor
  case gone =>
    have recent := lt_of_le_longest elapsed
    have cycle : b.cycleAt now ≤ b.elapsed now := Nat.div_le_self _ _
    omega
  case refill => exact fun moved => h.refill_eq few moved
  case permissions => unfold balanceMin; omega
  case taken => unfold balanceMin; omega
  case waits =>
    intro spent limit
    apply kept.waitFits few
    · rw [cycle_refresh later, cycleAt_refresh]
    · exact spent
    · rwa [limit_refresh]
    · rwa [span_refresh]
    · rwa [elapsed_refresh]

/-! ### A run of requests -/

@[simp] theorem after_cons (b : Balance) (r : Request) (rest : List Request) :
    b.after (r :: rest) = (b.reserve r.time r.timeout).2.after rest := rfl

@[simp] theorem span_reserve (b : Balance) (now timeout : Nanos) :
    (b.reserve now timeout).2.span = b.span := by
  obtain kept | taken := reserve_cases b now timeout
  · rw [kept, span_refresh]
  · rw [taken]
    exact span_refresh b now

@[simp] theorem elapsed_reserve (b : Balance) (now timeout later : Nanos) :
    (b.reserve now timeout).2.elapsed later = b.elapsed later := by
  obtain kept | taken := reserve_cases b now timeout
  · rw [kept, elapsed_refresh]
  · rw [taken]
    exact elapsed_refresh b now later

theorem cycleAt_reserve (b : Balance) (now timeout later : Nanos) :
    (b.reserve now timeout).2.cycleAt later = b.cycleAt later := by
  rw [cycleAt, elapsed_reserve, span_reserve, ← cycleAt]

theorem cycle_reserve {timeout : Nanos} (h : b.cycle ≤ b.cycleAt now) :
    (b.reserve now timeout).2.cycle = b.cycleAt now := by
  obtain kept | taken := reserve_cases b now timeout
  · rw [kept, cycle_refresh h]
  · rw [taken]
    exact cycle_refresh h

theorem cycleAt_mono (b : Balance) {now later : Nanos} (h : now ≤ later) :
    b.cycleAt now ≤ b.cycleAt later :=
  Nat.div_le_div_right (Nat.sub_le_sub_right h _)

@[simp] theorem span_after (b : Balance) (requests : List Request) :
    (b.after requests).span = b.span := by
  induction requests generalizing b with
  | nil => rfl
  | cons r rest ih => rw [after_cons, ih, span_reserve]

@[simp] theorem elapsed_after (b : Balance) (requests : List Request) (later : Nanos) :
    (b.after requests).elapsed later = b.elapsed later := by
  induction requests generalizing b with
  | nil => rfl
  | cons r rest ih => rw [after_cons, ih, elapsed_reserve]

/-- Requests made one after the other leave the balance in a cycle that the next has reached. -/
theorem cycle_after_le {r : Request} (here : b.cycle ≤ b.cycleAt r.time)
    (ordered : (requests ++ [r]).Pairwise fun r s => r.time ≤ s.time)
    (reached : ∀ s ∈ requests, b.cycle ≤ b.cycleAt s.time) :
    (b.after requests).cycle ≤ (b.after requests).cycleAt r.time := by
  induction requests generalizing b with
  | nil => exact here
  | cons s rest ih =>
    obtain ⟨first, ordered⟩ := List.pairwise_cons.mp ordered
    have moved : (b.reserve s.time s.timeout).2.cycle = b.cycleAt s.time :=
      cycle_reserve (reached s List.mem_cons_self)
    have onward : ∀ t ∈ rest ++ [r], (b.reserve s.time s.timeout).2.cycle ≤
        (b.reserve s.time s.timeout).2.cycleAt t.time := by
      intro t ht
      rw [moved, cycleAt_reserve]
      exact b.cycleAt_mono (first t ht)
    apply ih
    · exact onward r (by simp)
    · exact ordered
    · intro t ht
      exact onward t (List.mem_append_left _ ht)

theorem Spent.after (h : Spent b grants) (few : grants + requests.length ≤ 2 ^ 33) :
    Spent (b.after requests) (grants + requests.length) := by
  induction requests generalizing b grants with
  | nil => exact h
  | cons r rest ih =>
    rw [List.length_cons] at few ⊢
    have next := ih (h.reserve (by omega) r.time r.timeout) (by omega)
    rwa [after_cons, Nat.add_comm rest.length 1, ← Nat.add_assoc]

/-- **No step of a limiter leaves its words.** Whatever the limit, the period and the timeouts are,
fewer than `2 ^ 33` requests one after the other are answered step by step in words of 64 and 128
bits as they are answered exactly. Before each of them the bounds hold that this rests on: the end of
the cycle lies ahead, a cycle at least has to be waited for, and the refill is exact. -/
theorem words_suffice (limit : Nat) (period origin : Nanos) (requests : List Request)
    (few : requests.length < 2 ^ 33) (ordered : requests.Pairwise fun r s => r.time ≤ s.time)
    (lasting : period ≤ Nanos.longest)
    (within : ∀ r ∈ requests, r.time - origin ≤ Nanos.longest) :
    (ofLimit limit period origin).answersInWords requests =
        some ((ofLimit limit period origin).answers requests) ∧
      ∀ before r rest, requests = before ++ r :: rest →
        ((ofLimit limit period origin).after before).Fits r.time := by
  have fits : ∀ before r rest, requests = before ++ r :: rest →
      ((ofLimit limit period origin).after before).Fits r.time := by
    rintro before r rest rfl
    rw [List.length_append, List.length_cons] at few
    have spent : Spent ((ofLimit limit period origin).after before) (0 + before.length) :=
      (spent_ofLimit limit period origin).after (by omega)
    have ordered : (before ++ [r]).Pairwise fun r s => r.time ≤ s.time :=
      ordered.sublist (by simp)
    apply spent.fits
    · omega
    · exact cycle_after_le (Nat.zero_le _) ordered fun _ _ => Nat.zero_le _
    · rw [span_after]
      exact Nat.max_le.mpr ⟨lasting, by decide⟩
    · rw [elapsed_after]
      exact within r (by simp)
  exact ⟨answersInWords_eq fits, fits⟩

/-- One permission in each of the longest periods, and the largest limit there is in a period of no
length: both answer in words. -/
theorem words_suffice_extremes :
    let requests : List Request := [⟨0, 0⟩, ⟨0, Nanos.longest⟩, ⟨Nanos.longest, 0⟩]
    (ofLimit 1 Nanos.longest 0).answersInWords requests =
        some [.granted 0, .granted Nanos.longest, .refused Nanos.longest] ∧
      (ofLimit (2 ^ 64 - 1) 0 0).answersInWords requests =
        some [.granted 0, .granted 0, .granted 0] := by
  intro requests
  constructor
  · refine (words_suffice 1 Nanos.longest 0 requests (by decide) (by decide) ?_ ?_).1.trans ?_
    · decide
    · decide
    · decide
  · refine (words_suffice (2 ^ 64 - 1) 0 0 requests (by decide) (by decide) ?_ ?_).1.trans ?_
    · decide
    · decide
    · decide

end Balance

end CallGuard
