import CallGuard.Proofs.Records
import CallGuard.Registry.Race

/-!
# One value for a key, whoever comes for it

However the steps of the threads in a race fall, a key is made by one of them at a time, and only while
its cell is empty. So the first value that is made for it is the only one, and everybody who gets one
gets that. `Turn` lists what a step can be, `Exclusive` is what every step keeps.

Main statement: `one_value_each`.
-/

namespace CallGuard

namespace Race

/-- What the step of a thread comes to. -/
inductive Event (κ ε α : Type) where
  /-- There is no such thread, or it is done. -/
  | rests
  | acts
  | comes (key : κ)
  | takes (key : κ) (a : α)
  | waits (key : κ)
  | begins (key : κ)
  | ends (key : κ) (made : Except ε α)

namespace Event

variable {κ ε α : Type}

/-- The key that the step is about. -/
def key? : Event κ ε α → Option κ
  | rests | acts => none
  | comes key | takes key _ | waits key | begins key | ends key _ => some key

/-- Whether a value has been made. -/
def isSuccess : Event κ ε α → Bool
  | ends _ (.ok _) => true
  | rests | acts | comes _ | takes _ _ | waits _ | begins _ | ends _ (.error _) => false

section

variable [DecidableEq κ] (key : κ)

/-- The value that has been made for the key. -/
def made? : Event κ ε α → Option α
  | ends k (.ok a) => if k = key then some a else none
  | rests | acts | comes _ | takes _ _ | waits _ | begins _ | ends _ (.error _) => none

def begun : Event κ ε α → Nat
  | begins k => if k = key then 1 else 0
  | rests | acts | comes _ | takes _ _ | waits _ | ends _ _ => 0

def ended : Event κ ε α → Nat
  | ends k _ => if k = key then 1 else 0
  | rests | acts | comes _ | takes _ _ | waits _ | begins _ => 0

end

/-- What a fetch returns, and its key. -/
def returned? : Event κ ε α → Option (κ × Except ε α)
  | takes key a => some (key, .ok a)
  | ends key made => some (key, made)
  | rests | acts | comes _ | waits _ | begins _ => none

end Event

variable {σ κ ε α : Type} [DecidableEq κ]

def event (r : Race σ κ ε α) (i : Nat) : Event κ ε α :=
  match r.threads[i]? with
  | none | some ⟨.running (.ends _), []⟩ => .rests
  | some ⟨.running (.act _ _), _⟩ => .acts
  | some ⟨.running (.fetch key _ _), _⟩ => .comes key
  | some ⟨.looking key _ _, _⟩ =>
    match r.cells.find? key with
    | some a => .takes key a
    | none => if 0 < r.makers key then .waits key else .begins key
  | some ⟨.running (.ends made), m :: _⟩ => .ends m.key made

/-- What the threads do in the order of the schedule, each step with its thread. -/
def history (r : Race σ κ ε α) : List Nat → List (Nat × Event κ ε α)
  | [] => []
  | i :: rest => (i, r.event i) :: (r.step i).history rest

/-- The values that have been made for the key. -/
def successes (key : κ) (past : List (Nat × Event κ ε α)) : List α :=
  past.filterMap fun e => e.2.made? key

theorem successes_cons (key : κ) (e : Nat × Event κ ε α) (past : List (Nat × Event κ ε α)) :
    successes key (e :: past) = (e.2.made? key).toList ++ successes key past := by
  rw [successes, List.filterMap_cons]
  cases e.2.made? key <;> rfl

variable {r s : Race σ κ ε α} {i : Nat} {key : κ} {a : α} {e : Event κ ε α}

/-- Everything that a step of a thread can be. -/
inductive Turn (r : Race σ κ ε α) (i : Nat) : Event κ ε α → Race σ κ ε α → Prop where
  | rest : Turn r i .rests r
  | act {change : σ → σ} {next : σ → Program σ κ ε α} {makings : List (Making σ κ ε α)}
      (here : r.threads[i]? = some ⟨.running (.act change next), makings⟩) :
      Turn r i .acts ({ r with state := change r.state }.put i ⟨.running (next r.state), makings⟩)
  | come {key : κ} {make : Program σ κ ε α} {next : Except ε α → Program σ κ ε α}
      {makings : List (Making σ κ ε α)}
      (here : r.threads[i]? = some ⟨.running (.fetch key make next), makings⟩) :
      Turn r i (.comes key)
        ({ r with cells := r.cells.obtain key }.put i ⟨.looking key make next, makings⟩)
  | take {key : κ} {make : Program σ κ ε α} {next : Except ε α → Program σ κ ε α}
      {makings : List (Making σ κ ε α)} {a : α}
      (here : r.threads[i]? = some ⟨.looking key make next, makings⟩)
      (found : r.cells.find? key = some a) :
      Turn r i (.takes key a) (r.put i ⟨.running (next (.ok a)), makings⟩)
  | wait {key : κ} {make : Program σ κ ε α} {next : Except ε α → Program σ κ ε α}
      {makings : List (Making σ κ ε α)}
      (here : r.threads[i]? = some ⟨.looking key make next, makings⟩)
      (absent : r.cells.find? key = none) (busy : 0 < r.makers key) : Turn r i (.waits key) r
  | begin {key : κ} {make : Program σ κ ε α} {next : Except ε α → Program σ κ ε α}
      {makings : List (Making σ κ ε α)}
      (here : r.threads[i]? = some ⟨.looking key make next, makings⟩)
      (absent : r.cells.find? key = none) (idle : r.makers key = 0) :
      Turn r i (.begins key) (r.put i ⟨.running make, ⟨key, next⟩ :: makings⟩)
  | finish {key : κ} {made : Except ε α} {next : Except ε α → Program σ κ ε α}
      {makings : List (Making σ κ ε α)}
      (here : r.threads[i]? = some ⟨.running (.ends made), ⟨key, next⟩ :: makings⟩) :
      Turn r i (.ends key made)
        ({ r with cells := settle r.cells key made }.put i ⟨.running (next made), makings⟩)

theorem turn_step (r : Race σ κ ε α) (i : Nat) : r.Turn i (r.event i) (r.step i) := by
  unfold event step
  match here : r.threads[i]? with
  | none => exact .rest
  | some ⟨.running (.ends _), []⟩ => exact .rest
  | some ⟨.running (.act change next), makings⟩ => exact .act here
  | some ⟨.running (.fetch key make next), makings⟩ => exact .come here
  | some ⟨.running (.ends made), ⟨key, next⟩ :: makings⟩ => exact .finish here
  | some ⟨.looking key make next, makings⟩ =>
    simp only
    cases found : r.cells.find? key with
    | some a => exact .take here found
    | none =>
      by_cases busy : 0 < r.makers key
      · simp only [if_pos busy]
        exact .wait here found busy
      · simp only [if_neg busy]
        exact .begin here found (by omega)

section

variable {t : Thread σ κ ε α}

/-- Only what the thread itself makes changes when it is put somewhere else. -/
theorem makers_put (here : r.threads[i]? = some t) (u : Thread σ κ ε α) (key : κ) :
    (r.put i u).makers key + t.makings.countP (fun m => m.key = key) =
      r.makers key + u.makings.countP fun m => m.key = key := by
  obtain ⟨rest, before, after⟩ := exists_rest_of_getElem? here
  have old := (before.flatMap_right Thread.makings).countP_eq fun m => m.key = key
  have new := ((after u).flatMap_right Thread.makings).countP_eq fun m => m.key = key
  rw [List.flatMap_cons, List.countP_append] at old new
  simp only [makers, put]
  omega

omit [DecidableEq κ] in
theorem threads_put (here : r.threads[i]? = some t) (u : Thread σ κ ε α) :
    (r.put i u).threads[i]? = some u := by
  obtain ⟨inside, -⟩ := List.getElem?_eq_some_iff.mp here
  exact List.getElem?_set_self inside

end

namespace Turn

/-- A maker of a key comes by a step that begins to make it, and goes by one that ends that. -/
theorem makers_add (turn : r.Turn i e s) (key : κ) :
    s.makers key + e.ended key = r.makers key + e.begun key := by
  cases turn with
  | rest | wait => rfl
  | act here | come here | take here => exact Nat.add_right_cancel (makers_put here _ key)
  | @begin k make next makings here =>
    have moved := makers_put here ⟨.running make, ⟨k, next⟩ :: makings⟩ key
    simp only [List.countP_cons, decide_eq_true_eq] at moved
    simp only [Event.ended, Event.begun]
    omega
  | @finish k made next makings here =>
    have moved := makers_put here ⟨.running (next made), makings⟩ key
    simp only [List.countP_cons, decide_eq_true_eq] at moved
    simp only [Event.ended, Event.begun]
    change (r.put i _).makers key + _ = _
    omega

/-- A value is kept for a key by a step that ends the making of it, and by no other. -/
theorem find?_eq (turn : r.Turn i e s) (key : κ) :
    s.cells.find? key = (e.made? key).or (r.cells.find? key) := by
  cases turn with
  | rest | act | take | wait | begin => rfl
  | come => exact r.cells.find?_obtain _ key
  | @finish k made next makings here =>
    cases made with
    | error _ => rfl
    | ok a =>
      simp only [put, settle, Cells.find?_fill, Event.made?]
      split <;> rfl

theorem of_begins (turn : r.Turn i (.begins key) s) :
    r.cells.find? key = none ∧ r.makers key = 0 := by
  cases turn with
  | begin here absent idle => exact ⟨absent, idle⟩

/-- Only what is being made can come to its end. -/
theorem of_ends {made : Except ε α} (turn : r.Turn i (.ends key made) s) :
    s.makers key + 1 = r.makers key := by
  have moved := turn.makers_add key
  simp only [Event.ended, Event.begun, if_pos] at moved
  exact moved

end Turn

/-- A key is made by one thread at a time, and while its cell is empty. -/
structure Exclusive (r : Race σ κ ε α) : Prop where
  single : ∀ key, r.makers key ≤ 1
  empty : ∀ key, 0 < r.makers key → r.cells.find? key = none

theorem exclusive_of_fresh (fresh : ∀ t ∈ r.threads, t.makings = []) : r.Exclusive := by
  have none : ∀ key, r.makers key = 0 := by
    intro key
    have nothing : r.threads.flatMap Thread.makings = [] := List.flatMap_eq_nil_iff.mpr fresh
    rw [makers, nothing]
    rfl
  constructor
  · intro key
    rw [none key]
    exact Nat.zero_le 1
  · intro key busy
    rw [none key] at busy
    cases busy

namespace Exclusive

theorem turn (h : r.Exclusive) (turn : r.Turn i e s) : s.Exclusive := by
  have kept : ∀ key, e.begun key = 0 → e.ended key = 0 → e.made? key = none →
      s.makers key ≤ 1 ∧ (0 < s.makers key → s.cells.find? key = none) := by
    intro key begun ended made
    have moved := turn.makers_add key
    rw [begun, ended] at moved
    rw [turn.find?_eq key, made, Nat.add_right_cancel moved]
    exact ⟨h.single key, h.empty key⟩
  suffices ∀ key, s.makers key ≤ 1 ∧ (0 < s.makers key → s.cells.find? key = none) from
    ⟨fun key => (this key).1, fun key => (this key).2⟩
  intro key
  cases e with
  | rests | acts | comes | takes | waits => exact kept key rfl rfl rfl
  | begins k =>
    by_cases same : k = key
    · subst same
      obtain ⟨absent, idle⟩ := turn.of_begins
      have moved := turn.makers_add k
      simp only [Event.ended, Event.begun, if_pos, idle] at moved
      rw [turn.find?_eq k]
      exact ⟨by omega, fun _ => absent⟩
    · exact kept key (if_neg same) rfl rfl
  | ends k made =>
    by_cases same : k = key
    · subst same
      have last := turn.of_ends
      have single := h.single k
      exact ⟨by omega, fun busy => by omega⟩
    · refine kept key rfl (if_neg same) ?_
      cases made with
      | error _ => rfl
      | ok a => exact if_neg same

theorem step (h : r.Exclusive) (i : Nat) : (r.step i).Exclusive := h.turn (r.turn_step i)

theorem run (h : r.Exclusive) (schedule : List Nat) : (r.run schedule).Exclusive := by
  induction schedule generalizing r with
  | nil => exact h
  | cons i rest ih => exact ih (h.step i)

/-- A value is made only for a key without one. -/
theorem absent_of_ends (h : r.Exclusive) {made : Except ε α}
    (turn : r.Turn i (.ends key made) s) : r.cells.find? key = none := by
  have making := turn.of_ends
  exact h.empty key (by omega)

theorem absent_of_made (h : r.Exclusive) (turn : r.Turn i e s) (made : e.made? key = some a) :
    r.cells.find? key = none := by
  cases e with
  | rests | acts | comes | takes | waits | begins => cases made
  | ends k result =>
    cases result with
    | error _ => cases made
    | ok b =>
      have same : k = key := (Option.ite_none_right_eq_some.mp made).1
      subst same
      exact h.absent_of_ends turn

theorem kept_step (h : r.Exclusive) (i : Nat) (found : r.cells.find? key = some a) :
    (r.step i).cells.find? key = some a := by
  have turn := r.turn_step i
  rw [turn.find?_eq key, found]
  cases made : (r.event i).made? key with
  | none => rfl
  | some b =>
    rw [h.absent_of_made turn made] at found
    cases found

/-- A value that is kept stays. -/
theorem kept (h : r.Exclusive) (schedule : List Nat) (found : r.cells.find? key = some a) :
    (r.run schedule).cells.find? key = some a := by
  induction schedule generalizing r with
  | nil => exact found
  | cons i rest ih => exact ih (h.step i) (h.kept_step i found)

/-- The value that was made is the one that is kept, and there is no other. -/
theorem successes_eq (h : r.Exclusive) (schedule : List Nat) (key : κ) :
    successes key (r.history schedule) =
      if (r.cells.find? key).isSome then [] else ((r.run schedule).cells.find? key).toList := by
  induction schedule generalizing r with
  | nil =>
    change [] = if (r.cells.find? key).isSome then [] else (r.cells.find? key).toList
    cases r.cells.find? key <;> rfl
  | cons i rest ih =>
    have turn := r.turn_step i
    have later := ih (h.step i)
    have after := turn.find?_eq key
    rw [history, successes_cons, later]
    change _ = if _ then [] else (((r.step i).run rest).cells.find? key).toList
    cases made : (r.event i).made? key with
    | none =>
      rw [made, Option.none_or] at after
      rw [after]
      rfl
    | some a =>
      rw [made, Option.some_or] at after
      rw [h.absent_of_made turn made, (h.step i).kept rest after, after]
      rfl

/-- Whoever gets a value gets the one that is kept. -/
theorem returned (h : r.Exclusive) (schedule : List Nat) {n : Nat}
    (mem : (n, e) ∈ r.history schedule) (got : e.returned? = some (key, .ok a)) :
    (r.run schedule).cells.find? key = some a := by
  induction schedule generalizing r with
  | nil => cases mem
  | cons i rest ih =>
    rcases List.mem_cons.mp mem with first | later
    · cases first
      have turn := r.turn_step n
      apply (h.step n).kept rest
      generalize r.event n = e at turn got
      generalize r.step n = s at turn
      cases turn with
      | rest | act | come | wait | begin => cases got
      | take here found =>
        cases got
        exact found
      | finish here =>
        cases got
        simp only [put, settle, Cells.find?_fill, if_pos]
    · exact ih (h.step i) later

theorem size_step (h : r.Exclusive) (i : Nat) :
    (r.step i).cells.size = r.cells.size + if (r.event i).isSuccess then 1 else 0 := by
  have turn := r.turn_step i
  generalize r.event i = e at turn
  generalize r.step i = s at turn
  cases turn with
  | rest | act | take | wait | begin => rfl
  | come => exact r.cells.size_obtain _
  | @finish k made next makings here =>
    cases made with
    | error _ => rfl
    | ok a => exact r.cells.size_fill a (h.absent_of_ends (.finish here))

/-- As many keys have got a value as values were made. -/
theorem size_run (h : r.Exclusive) (schedule : List Nat) :
    (r.run schedule).cells.size =
      r.cells.size + (r.history schedule).countP fun e => e.2.isSuccess := by
  induction schedule generalizing r with
  | nil => rfl
  | cons i rest ih =>
    have first := h.size_step i
    have later := ih (h.step i)
    change ((r.step i).run rest).cells.size = _
    simp only [history, List.countP_cons]
    omega

end Exclusive

/-- In both races the key has the same value, if any, and is being made as often. -/
def Alike (q r : Race σ κ ε α) (key : κ) : Prop :=
  q.cells.find? key = r.cells.find? key ∧ q.makers key = r.makers key

section

variable {q : Race σ κ ε α}

theorem Alike.turn {t : Race σ κ ε α} (alike : q.Alike r key) (left : q.Turn i e s)
    (right : r.Turn i e t) : s.Alike t key := by
  constructor
  · rw [left.find?_eq key, right.find?_eq key, alike.1]
  · have one := left.makers_add key
    have other := right.makers_add key
    rw [alike.2] at one
    exact Nat.add_right_cancel (one.trans other.symm)

/-- A step leaves the other keys alone. -/
theorem Turn.alike_of_ne (turn : r.Turn i e s) (other : e.key? ≠ some key) : s.Alike r key := by
  have ne {k : κ} (own : e.key? = some k) : k ≠ key := by
    rintro rfl
    exact other own
  have value := turn.find?_eq key
  have moved := turn.makers_add key
  cases e with
  | rests | acts | comes | takes | waits => exact ⟨value, moved⟩
  | begins k =>
    simp only [Event.ended, Event.begun, if_neg (ne rfl)] at moved
    exact ⟨value, moved⟩
  | ends k made =>
    simp only [Event.ended, Event.begun, if_neg (ne rfl)] at moved
    refine ⟨?_, moved⟩
    cases made with
    | error _ => exact value
    | ok a =>
      simp only [Event.made?, if_neg (ne rfl)] at value
      exact value

theorem key?_event {make : Program σ κ ε α} {next : Except ε α → Program σ κ ε α}
    {makings : List (Making σ κ ε α)}
    (here : r.threads[i]? = some ⟨.looking key make next, makings⟩) :
    (r.event i).key? = some key := by
  simp only [event, here]
  cases r.cells.find? key with
  | some a => rfl
  | none => by_cases busy : 0 < r.makers key <;> simp only [busy, if_true, if_false] <;> rfl

/-- A step goes by the thread, the state and the one key that it is about. -/
theorem step_local (thread : q.threads[i]? = r.threads[i]?) (state : q.state = r.state)
    (alike : ∀ key, (r.event i).key? = some key → q.Alike r key) :
    q.event i = r.event i ∧ (q.step i).threads[i]? = (r.step i).threads[i]? ∧
      (q.step i).state = (r.step i).state := by
  have puts {t : Thread σ κ ε α} (here : r.threads[i]? = some t) (u : Thread σ κ ε α) :
      (q.put i u).threads[i]? = (r.put i u).threads[i]? := by
    rw [threads_put here, threads_put (thread.trans here)]
  unfold event step
  rw [thread]
  match here : r.threads[i]? with
  | none | some ⟨.running (.ends _), []⟩ => exact ⟨rfl, thread, state⟩
  | some ⟨.running (.act change next), makings⟩ =>
    simp only [state]
    exact ⟨trivial, puts here _, rfl⟩
  | some ⟨.running (.fetch key make next), makings⟩ => exact ⟨rfl, puts here _, state⟩
  | some ⟨.running (.ends made), ⟨key, next⟩ :: makings⟩ => exact ⟨rfl, puts here _, state⟩
  | some ⟨.looking key make next, makings⟩ =>
    obtain ⟨value, makers⟩ := alike key (key?_event here)
    simp only [value, makers]
    cases r.cells.find? key with
    | some a => exact ⟨trivial, puts here _, state⟩
    | none =>
      by_cases busy : 0 < r.makers key
      · simp only [if_pos busy]
        exact ⟨trivial, thread, state⟩
      · simp only [if_neg busy]
        exact ⟨trivial, puts here _, state⟩

end

/-- The thread wants the value of the key: it looks for it, or has just tried to make it. -/
def Awaits (r : Race σ κ ε α) (i : Nat) (key : κ) (next : Except ε α → Program σ κ ε α)
    (makings : List (Making σ κ ε α)) : Prop :=
  (∃ make, r.threads[i]? = some ⟨.looking key make next, makings⟩) ∨
    ∃ made, r.threads[i]? = some ⟨.running (.ends made), ⟨key, next⟩ :: makings⟩

theorem Turn.awaits {made : Except ε α} (turn : r.Turn i e s)
    (got : e.returned? = some (key, made)) :
    ∃ next makings, r.Awaits i key next makings ∧
      s.threads[i]? = some ⟨.running (next made), makings⟩ := by
  cases turn with
  | rest | act | come | wait | begin => cases got
  | take here =>
    cases got
    exact ⟨_, _, .inl ⟨_, here⟩, threads_put here _⟩
  | finish here =>
    cases got
    exact ⟨_, _, .inr ⟨_, here⟩, threads_put here _⟩

theorem Turn.failed {x : ε} (turn : r.Turn i e s) (got : e.returned? = some (key, .error x)) :
    e = .ends key (.error x) ∧ s.cells = r.cells := by
  cases turn with
  | rest | act | come | wait | begin | take => cases got
  | finish here =>
    cases got
    exact ⟨rfl, rfl⟩

theorem threads_step_of_idle {make : Program σ κ ε α} {next : Except ε α → Program σ κ ε α}
    {makings : List (Making σ κ ε α)}
    (here : r.threads[i]? = some ⟨.looking key make next, makings⟩)
    (absent : r.cells.find? key = none) (idle : r.makers key = 0) :
    (r.step i).threads[i]? = some ⟨.running make, ⟨key, next⟩ :: makings⟩ := by
  simp only [step, here, absent, idle, Nat.lt_irrefl, if_false]
  exact threads_put here _

/-- **A key gets one value, whoever comes for it.** However many threads fetch whatever keys, and
however their steps fall: for each key one attempt to make it succeeds at most, and none if it had a
value before; it is never being made twice at the same time; and whoever gets a value for it gets the
one that is kept. As many keys have got a value as attempts have succeeded. Everybody gets what they
have made themselves or what is kept; whoever gets an error has made it, and leaves the key without a
value, and the next who looks makes one. A step about one key leaves the other keys alone, and does
not go by them. -/
theorem one_value_each {start : Race σ κ ε α} (fresh : ∀ t ∈ start.threads, t.makings = [])
    (schedule : List Nat) :
    let r := start.run schedule
    let past := start.history schedule
    (∀ key,
      successes key past =
        (if (start.cells.find? key).isSome then [] else (r.cells.find? key).toList) ∧
      r.makers key ≤ 1 ∧
      ∀ i e a, (i, e) ∈ past → e.returned? = some (key, .ok a) → r.cells.find? key = some a) ∧
    r.cells.size = start.cells.size + past.countP (fun e => e.2.isSuccess) ∧
    (∀ i key made, (r.event i).returned? = some (key, made) →
      ∃ next makings, r.Awaits i key next makings ∧
        (r.step i).threads[i]? = some ⟨.running (next made), makings⟩) ∧
    (∀ i key x, (r.event i).returned? = some (key, .error x) →
      r.event i = .ends key (.error x) ∧ (r.step i).cells = r.cells ∧
        (r.step i).cells.find? key = none ∧ (r.step i).makers key = 0) ∧
    (∀ i key make next makings, r.threads[i]? = some ⟨.looking key make next, makings⟩ →
      r.cells.find? key = none → r.makers key = 0 →
        (r.step i).threads[i]? = some ⟨.running make, ⟨key, next⟩ :: makings⟩) ∧
    ∀ i,
      (∀ key, (r.event i).key? ≠ some key → (r.step i).Alike r key) ∧
      ∀ q : Race σ κ ε α, q.threads[i]? = r.threads[i]? → q.state = r.state →
        (∀ key, (r.event i).key? = some key → q.Alike r key) →
          q.event i = r.event i ∧ (q.step i).threads[i]? = (r.step i).threads[i]? ∧
            (q.step i).state = (r.step i).state ∧
            ∀ key, q.Alike r key → (q.step i).Alike (r.step i) key := by
  intro r past
  have first := exclusive_of_fresh fresh
  have now : r.Exclusive := first.run schedule
  refine ⟨fun key => ⟨first.successes_eq schedule key, now.single key, ?_⟩,
    first.size_run schedule, fun i key made got => (r.turn_step i).awaits got, ?_,
    fun i key make next makings here absent idle => threads_step_of_idle here absent idle,
    fun i => ⟨fun key other => (r.turn_step i).alike_of_ne other, ?_⟩⟩
  · intro i e a mem got
    exact first.returned schedule mem got
  · intro i key x got
    have turn := r.turn_step i
    obtain ⟨event, cells⟩ := turn.failed got
    rw [event] at turn
    have absent := now.absent_of_ends turn
    have last := turn.of_ends
    have single := now.single key
    refine ⟨event, cells, ?_, by omega⟩
    rw [cells]
    exact absent
  · intro q thread state alike
    obtain ⟨event, after, left⟩ := step_local thread state alike
    refine ⟨event, after, left, fun key same => ?_⟩
    have turn := q.turn_step i
    rw [event] at turn
    exact same.turn turn (r.turn_step i)

/-- One thread fails to make the first key. Another waits for that, and then makes the key from the
second one, which a third thread is making at the time. -/
def contested : Race Unit Nat String Nat where
  state := ()
  cells := .ofRegistry .empty
  threads := [
    .ofProgram (.fetch 1 (.ends (.error "no")) .ends),
    .ofProgram (.fetch 1 (.fetch 2 (.ends (.ok 7)) fun r => .ends (r.map (· + 1))) .ends),
    .ofProgram (.fetch 2 (.ends (.ok 5)) .ends)]

theorem one_value_each_contested :
    successes 1 (contested.history [0, 0, 1, 1, 0, 1, 2, 2, 1, 1, 2, 1, 1]) = [6] ∧
      (contested.run [0, 0, 1, 1, 0, 1, 2, 2, 1, 1, 2, 1, 1]).cells.size = 2 ∧
      ((contested.run [0, 0, 1, 1]).step 0).makers 1 = 0 := by
  have fresh : ∀ t ∈ contested.threads, t.makings = [] := by decide
  obtain ⟨each, size, -⟩ := one_value_each fresh [0, 0, 1, 1, 0, 1, 2, 2, 1, 1, 2, 1, 1]
  obtain ⟨-, -, -, failed, -⟩ := one_value_each fresh [0, 0, 1, 1]
  refine ⟨(each 1).1, size, ?_⟩
  exact (failed 0 1 "no" rfl).2.2.2

end Race

end CallGuard
