import CallGuard.Limiter.Balance
import Mathlib.Algebra.Group.Nat.Defs
import Mathlib.Data.Nat.Find
import Mathlib.Data.Set.Finite.Basic
import Mathlib.Order.Interval.Set.Infinite
import Mathlib.Order.Nat

/-!
# Slot ledgers

What a rate limiter promises, without a balance: every granted request is assigned to a cycle, the
earliest one from its own on that has a slot left, and waits until that cycle begins. Main
statements: `slot_eq_iff` says which cycle that is, and `count_after_le` that no cycle is ever
assigned more grants than its limit.
-/

namespace CallGuard

/-- A request for one permission: when it is made and how long it is willing to wait. -/
structure Request where
  time : Nanos
  timeout : Nanos
  deriving DecidableEq, Repr

structure Ledger where
  limit : Nat
  /-- How long a cycle lasts. -/
  span : Nat
  origin : Nanos
  /-- The cycles that granted requests were assigned to, the latest grant first. -/
  taken : List Nat
  limit_pos : 0 < limit

namespace Ledger

/-- A ledger without grants. -/
def ofLimit (limit : Nat) (period origin : Nanos) (pos : 0 < limit) : Ledger where
  limit := min limit (2 ^ 63 - 1)
  span := max period 1
  origin := origin
  taken := []
  limit_pos := by omega

def cycleAt (l : Ledger) (now : Nanos) : Nat := (now - l.origin) / l.span

/-- Only finitely many cycles have grants at all. -/
theorem exists_free (l : Ledger) (cycle : Nat) :
    ∃ k, cycle ≤ k ∧ l.taken.count k < l.limit := by
  obtain ⟨k, later, absent⟩ := (Set.Ici_infinite cycle).exists_notMem_finset l.taken.toFinset
  have none : l.taken.count k = 0 := List.count_eq_zero_of_not_mem (by simpa using absent)
  exact ⟨k, later, none ▸ l.limit_pos⟩

/-- The least cycle from the given one on that was assigned fewer grants than the limit. -/
def slot (l : Ledger) (cycle : Nat) : Nat := Nat.find (l.exists_free cycle)

/-- How long a request waits for the beginning of its cycle, as far as 64 bits of nanoseconds can
say. -/
def wait (l : Ledger) (now : Nanos) : Nanos :=
  let slot := l.slot (l.cycleAt now)
  if slot = l.cycleAt now then 0
  else
    let needed := slot * l.span - (now - l.origin)
    if needed < 2 ^ 64 then needed else Nanos.longest

/-- Grants a request whose wait is within its timeout, and writes its cycle down. -/
def reserve (l : Ledger) (r : Request) : Reservation × Ledger :=
  if l.wait r.time ≤ r.timeout then
    (.granted (l.wait r.time), { l with taken := l.slot (l.cycleAt r.time) :: l.taken })
  else (.refused (l.wait r.time), l)

/-- The answers to requests made one after the other. -/
def answers (l : Ledger) : List Request → List Reservation
  | [] => []
  | r :: rest => (l.reserve r).1 :: (l.reserve r).2.answers rest

/-- The ledger once the requests have been answered. -/
def after (l : Ledger) (requests : List Request) : Ledger :=
  requests.foldl (fun l r => (l.reserve r).2) l

theorem slot_eq_iff (l : Ledger) (cycle k : Nat) :
    l.slot cycle = k ↔ (cycle ≤ k ∧ l.taken.count k < l.limit) ∧
      ∀ j < k, ¬ (cycle ≤ j ∧ l.taken.count j < l.limit) :=
  Nat.find_eq_iff (l.exists_free cycle)

theorem slot_free (l : Ledger) (cycle : Nat) : l.taken.count (l.slot cycle) < l.limit :=
  (Nat.find_spec (l.exists_free cycle)).2

theorem reserve_refused {l : Ledger} {r : Request} {needed : Nanos}
    (h : (l.reserve r).1 = .refused needed) : (l.reserve r).2 = l := by
  unfold reserve at h ⊢
  split at h
  · cases h
  · rename_i late
    rw [if_neg late]

@[simp] theorem limit_reserve (l : Ledger) (r : Request) : (l.reserve r).2.limit = l.limit := by
  unfold reserve
  split <;> rfl

@[simp] theorem cycleAt_reserve (l : Ledger) (r : Request) (now : Nanos) :
    (l.reserve r).2.cycleAt now = l.cycleAt now := by
  unfold reserve
  split <;> rfl

theorem cycleAt_mono (l : Ledger) {now later : Nanos} (h : now ≤ later) :
    l.cycleAt now ≤ l.cycleAt later :=
  Nat.div_le_div_right (Nat.sub_le_sub_right h l.origin)

theorem count_reserve_le {l : Ledger} (r : Request) (h : ∀ k, l.taken.count k ≤ l.limit)
    (k : Nat) : (l.reserve r).2.taken.count k ≤ l.limit := by
  unfold reserve
  split
  · have free := l.slot_free (l.cycleAt r.time)
    rw [List.count_cons]
    by_cases same : l.slot (l.cycleAt r.time) = k
    · subst same
      simp only [beq_self_eq_true, if_true]
      exact free
    · simpa [same] using h k
  · exact h k

theorem count_after_le {l : Ledger} (requests : List Request)
    (h : ∀ k, l.taken.count k ≤ l.limit) (k : Nat) :
    (l.after requests).taken.count k ≤ l.limit := by
  induction requests generalizing l with
  | nil => exact h k
  | cons r rest ih =>
    have next := ih (l := (l.reserve r).2) fun j => by simpa using count_reserve_le r h j
    simpa [after] using next

/-- A refused request may as well not have been made. -/
theorem answers_eraseIdx {l : Ledger} {requests : List Request} {i : Nat} {needed : Nanos}
    (h : (l.answers requests)[i]? = some (.refused needed)) :
    (l.answers requests).eraseIdx i = l.answers (requests.eraseIdx i) := by
  induction requests generalizing l i with
  | nil => simp [answers] at h
  | cons r rest ih =>
    cases i with
    | zero =>
      have refused : (l.reserve r).1 = .refused needed := by simpa [answers] using h
      simp only [answers, List.eraseIdx_cons_zero, reserve_refused refused]
    | succ i =>
      simp only [answers, List.eraseIdx_cons_succ]
      rw [ih (by simpa [answers] using h)]

end Ledger

end CallGuard
