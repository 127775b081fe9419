import CallGuard.Registry.Cells

/-!
# Races for values

Several threads may want the values of a registry at the same time. Who wants the value of a key comes
to the cell of the key and looks: takes the value that is there, waits while somebody is making one,
and otherwise makes one. A value that was made is kept; a failure, or a crash, is the business of
whoever ran into it, and leaves the cell empty for the next who looks. What makes a value may itself
want the values of other keys; if it wants the key that it is made for, it waits for ever.

Threads may be stepped in any order.
-/

namespace CallGuard

/-- What runs to a value or an error. On the way it acts on a state, and it fetches the values of keys,
each with a program that makes the value where none is kept. -/
inductive Program (σ κ ε α : Type) where
  | ends (r : Except ε α)
  /-- Changes the state, and goes on as the state was before. -/
  | act (change : σ → σ) (next : σ → Program σ κ ε α)
  | fetch (key : κ) (make : Program σ κ ε α) (next : Except ε α → Program σ κ ε α)

namespace Program

variable {σ κ ε α : Type}

/-- Says something else of the error that the program ends with. -/
def mapError (f : ε → ε) : Program σ κ ε α → Program σ κ ε α
  | ends r => .ends (r.mapError f)
  | act change next => .act change fun s => (next s).mapError f
  | fetch key make next => .fetch key make fun r => (next r).mapError f

end Program

/-- A fetch whose value is being made. -/
structure Making (σ κ ε α : Type) where
  key : κ
  next : Except ε α → Program σ κ ε α

/-- Where a thread stands. -/
inductive Point (σ κ ε α : Type) where
  | running (p : Program σ κ ε α)
  /-- It has come to the cell of the key. -/
  | looking (key : κ) (make : Program σ κ ε α) (next : Except ε α → Program σ κ ε α)

structure Thread (σ κ ε α : Type) where
  point : Point σ κ ε α
  /-- The values that the thread is making, the innermost first. -/
  makings : List (Making σ κ ε α)

namespace Thread

variable {σ κ ε α : Type}

def ofProgram (p : Program σ κ ε α) : Thread σ κ ε α := ⟨.running p, []⟩

/-- What the thread has come to. -/
def result? (t : Thread σ κ ε α) : Option (Except ε α) :=
  match t.point, t.makings with
  | .running (.ends r), [] => some r
  | _, _ => none

end Thread

/-- Threads that go for the values of one registry. -/
structure Race (σ κ ε α : Type) where
  state : σ
  cells : Cells κ α
  threads : List (Thread σ κ ε α)

namespace Race

variable {σ κ ε α : Type} [DecidableEq κ]

/-- How often a value for the key is being made. -/
def makers (r : Race σ κ ε α) (key : κ) : Nat :=
  (r.threads.flatMap Thread.makings).countP fun m => m.key = key

/-- Puts the thread of that number where it is then. -/
def put (r : Race σ κ ε α) (i : Nat) (t : Thread σ κ ε α) : Race σ κ ε α :=
  { r with threads := r.threads.set i t }

/-- The cells after an attempt to make the value of a key. -/
def settle (cells : Cells κ α) (key : κ) : Except ε α → Cells κ α
  | .ok a => cells.fill key a
  | .error _ => cells

/-- One step of the thread of that number. -/
def step (r : Race σ κ ε α) (i : Nat) : Race σ κ ε α :=
  match r.threads[i]? with
  | none => r
  | some ⟨.running (.act change next), makings⟩ =>
    { r with state := change r.state }.put i ⟨.running (next r.state), makings⟩
  | some ⟨.running (.fetch key make next), makings⟩ =>
    { r with cells := r.cells.obtain key }.put i ⟨.looking key make next, makings⟩
  | some ⟨.looking key make next, makings⟩ =>
    match r.cells.find? key with
    | some a => r.put i ⟨.running (next (.ok a)), makings⟩
    | none =>
      if 0 < r.makers key then r else r.put i ⟨.running make, ⟨key, next⟩ :: makings⟩
  | some ⟨.running (.ends made), m :: makings⟩ =>
    { r with cells := settle r.cells m.key made }.put i ⟨.running (m.next made), makings⟩
  | some ⟨.running (.ends _), []⟩ => r

/-- Steps the threads in the order of the schedule. -/
def run (r : Race σ κ ε α) (schedule : List Nat) : Race σ κ ε α := schedule.foldl step r

/-- Steps so many threads in turn, in so many rounds. -/
def inTurns (threads rounds : Nat) : List Nat :=
  (List.replicate rounds (List.range threads)).flatten

/-- What the threads have come to. -/
def results (r : Race σ κ ε α) : List (Except ε α) := r.threads.filterMap Thread.result?

end Race

end CallGuard
