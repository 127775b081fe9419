/-!
# Counters
-/

namespace CallGuard

/-- A counter is a metric together with the labels it is counted under. -/
structure Counter where
  metric : String
  labels : List (String × String)
  deriving DecidableEq, Repr

namespace Counter

def text (c : Counter) : String :=
  c.metric ++ "\x7b" ++ ",".intercalate (c.labels.map fun l => l.1 ++ "=" ++ l.2) ++ "\x7d"

end Counter

/-- The counters that were ever raised, in the order in which they first were. -/
abbrev Tally := List (Counter × Nat)

namespace Tally

/-- How often the counter was raised. -/
def count : Tally → Counter → Nat
  | [], _ => 0
  | (d, n) :: rest, c => if d = c then n else count rest c

def raise : Tally → Counter → Tally
  | [], c => [(c, 1)]
  | (d, n) :: rest, c => if d = c then (d, n + 1) :: rest else (d, n) :: raise rest c

theorem count_raise (t : Tally) (c d : Counter) :
    count (raise t c) d = if c = d then count t d + 1 else count t d := by
  induction t with
  | nil => by_cases h : c = d <;> simp [raise, count, h]
  | cons head rest ih =>
    obtain ⟨k, n⟩ := head
    by_cases hk : k = c
    · subst hk
      by_cases hd : k = d <;> simp [raise, count, hd]
    · by_cases hd : k = d
      · subst hd
        have : ¬ c = k := fun h => hk h.symm
        simp [raise, count, hk, this]
      · simp [raise, count, hk, hd, ih]

end Tally

end CallGuard
