import CallGuard.Breaker.Circuit
import CallGuard.Bulkhead.Slots
import CallGuard.Journal
import CallGuard.Limiter.Balance
import CallGuard.Proxy.Basic
import CallGuard.Tally

/-!
# The world that calls act in

The clocks, the journal and the counters, everything that services and guards remember between calls,
and the contexts and proxies that calls go through. Guards and services are kept in numbered cells,
so that all who hold the number act on the same state. An `Act` is a step of a program in this world.
-/

namespace CallGuard

structure World where
  now : Nanos
  /-- How far the clock of dedicated schedulers is ahead: it runs on while the other stands still. -/
  ahead : Nanos
  /-- The entries of the journal, in the order in which they were written. -/
  journal : Array Entry
  tally : Tally
  /-- The gates that have been opened. -/
  gates : List String
  services : Array Service
  circuits : Array Circuit
  balances : Array Balance
  slots : Array Slots
  tables : Array PolicyTable
  contexts : Array Context
  proxies : Array Proxy
  /-- Whether looking up a policy is shown in the journal. -/
  announcesPolicies : Bool
  /-- How many texts were made to be shared. -/
  texts : Nat
  /-- How often a sample was made under a key, or was tried to. -/
  makings : Registry (String × Sample) Nat

namespace World

/-- Nothing has happened and nothing exists. -/
def empty : World where
  now := 0
  ahead := 0
  journal := #[]
  tally := []
  gates := []
  services := #[]
  circuits := #[]
  balances := #[]
  slots := #[]
  tables := #[]
  contexts := #[]
  proxies := #[]
  announcesPolicies := false
  texts := 0
  makings := .empty

instance : Inhabited World := ⟨empty⟩

def write (w : World) (e : Entry) : World := { w with journal := w.journal.push e }

/-- How many entries were written. -/
def written (w : World) : Nat := w.journal.size

/-- The journal in the order in which it was written. -/
def history (w : World) : List Entry := w.journal.toList

/-- What was written after the first so many entries, in order. -/
def since (w : World) (entries : Nat) : List Entry :=
  (w.journal.extract entries w.written).toList

@[simp] theorem history_write (w : World) (e : Entry) :
    (w.write e).history = w.history ++ [e] := by
  simp [history, write]

theorem since_eq_drop (w : World) (entries : Nat) : w.since entries = w.history.drop entries := by
  simp only [since, history, written, Array.toList_extract, List.extract_eq_take_drop]
  exact List.take_of_length_le (by simp)

theorem since_written {w v : World} {entries : List Entry}
    (grown : v.history = w.history ++ entries) : v.since w.written = entries := by
  have written : w.history.length = w.written := rfl
  rw [since_eq_drop, grown, ← written, List.drop_left]

def raise (w : World) (c : Counter) : World := { w with tally := w.tally.raise c }

/-- What the clock of the scheduler shows. -/
def clock (w : World) : Scheduler → Nanos
  | .shared => w.now
  | .dedicated => w.now + w.ahead

/-- Lets all clocks run for a while. -/
def pass (w : World) (d : Nanos) : World := { w with now := w.now + d }

/-- Lets the clock of the scheduler run for a while, and the session's only if it is that one. -/
def passOn (w : World) (s : Scheduler) (d : Nanos) : World :=
  match s with
  | .shared => w.pass d
  | .dedicated => { w with ahead := w.ahead + d }

/-- Lets the clock of its scheduler run until the timer rings. -/
def outwait (w : World) : Timer → World
  | .passed => w
  | .set s due => w.passOn s (due * Nanos.perMilli - w.clock s)

theorem clock_eq {w v : World} (now : v.now = w.now) (ahead : v.ahead = w.ahead) :
    v.clock = w.clock := by
  funext s
  cases s <;> simp only [clock, now, ahead]

theorem clock_pass (w : World) (d : Nanos) (s : Scheduler) :
    (w.pass d).clock s = w.clock s + d := by
  cases s with
  | shared => rfl
  | dedicated => exact Nat.add_right_comm ..

theorem clock_passOn (w : World) (s : Scheduler) (d : Nanos) :
    (w.passOn s d).clock s = w.clock s + d := by
  cases s with
  | shared => rfl
  | dedicated => exact (Nat.add_assoc ..).symm

/-- To wait for a timer moves nothing but clocks. -/
theorem exists_outwait (w : World) (t : Timer) :
    ∃ now ahead, w.outwait t = { w with now := now, ahead := ahead } := by
  rcases t with _ | ⟨_ | _, due⟩ <;> exact ⟨_, _, rfl⟩

theorem now_le_passOn (w : World) (s : Scheduler) (d : Nanos) : w.now ≤ (w.passOn s d).now := by
  cases s with
  | shared => exact Nat.le_add_right ..
  | dedicated => exact Nat.le_refl _

theorem now_le_outwait (w : World) (t : Timer) : w.now ≤ (w.outwait t).now := by
  cases t with
  | passed => exact Nat.le_refl _
  | set s due => exact w.now_le_passOn s _

@[simp] theorem history_outwait (w : World) (t : Timer) : (w.outwait t).history = w.history := by
  obtain ⟨now, ahead, waited⟩ := w.exists_outwait t
  rw [waited]
  rfl

@[simp] theorem slots_outwait (w : World) (t : Timer) : (w.outwait t).slots = w.slots := by
  obtain ⟨now, ahead, waited⟩ := w.exists_outwait t
  rw [waited]

/-- Whoever has waited for a timer finds it over. -/
theorem isOver_outwait (w : World) (t : Timer) : t.isOver (w.outwait t).clock := by
  cases t with
  | passed => rfl
  | set s due =>
    have reached : due * Nanos.perMilli ≤ (w.outwait (.set s due)).clock s := by
      rw [outwait, clock_passOn]
      exact Nat.sub_le_iff_le_add'.mp (Nat.le_refl _)
    exact decide_eq_true (Nanos.le_tick reached)

/-- Reports an event at a guard to its listeners. -/
def emit (w : World) (guard : String) (listeners : List Listener) (h : Happening) : World :=
  let e : Event := ⟨guard, w.now, h⟩
  (Listener.hearAll listeners h.topic).foldl (fun w label => w.write (.heard label e))
    (w.write (.emitted e))

end World

/-- A step of a program in the world. -/
abbrev Act := StateM World

namespace Act

def write (e : Entry) : Act Unit := modify (·.write e)

def raise (metric : String) (labels : List (String × String)) : Act Unit :=
  modify (·.raise ⟨metric, labels⟩)

def sleep (d : Nanos) : Act Unit := modify (·.pass d)

def outwait (t : Timer) : Act Unit := modify (·.outwait t)

def emit (guard : String) (listeners : List Listener) (h : Happening) : Act Unit :=
  modify (·.emit guard listeners h)

/-- Starts a timer on the scheduler. -/
def delay (s : Scheduler) (d : Nanos) : Act Timer := do
  write (.delayAsked d)
  return Timer.start s ((← get).clock s) d

def isOver (t : Timer) : Act Bool := return t.isOver (← get).clock

end Act

end CallGuard
