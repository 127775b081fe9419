import CallGuard.Proofs.Breaker.Effects
import CallGuard.Proofs.Records

/-!
# Calls in flight through one breaker

Any number of calls are on their way through a breaker at once. Each is let through at one time and
settles at another, or never; in between other calls come and go, the circuit is moved by hand, and
the rest of the world does as it likes. A `Traffic` is such a world with a record of every call that
was let through, and a `Step` is one operation of the breaker, done whole as under its lock.

Main statements: `kept_of_reachable` says that the circuit agrees with the record at all times.
-/

namespace CallGuard

/-- What has become of a call that was let through. -/
inductive Fate where
  | underway
  /-- It has ended in that period, as a failure or not. -/
  | ended (failed : Bool) (period : Nat)
  /-- It crashed or was dropped. -/
  | lost
  deriving DecidableEq, Repr

/-- The outcome of a call that has ended. -/
def Fate.outcome? : Fate → Option Bool
  | .ended failed _ => some failed
  | .underway | .lost => none

/-- A call that was let through. A period lasts from one transition of the circuit to the next, and
periods are counted from the first. -/
structure Passage where
  permit : Option Nat
  /-- The period in which the call was let through. -/
  period : Nat
  fate : Fate
  /-- What the breaker wrote in the journal for this call. -/
  reports : List Entry
  deriving DecidableEq, Repr

namespace Passage

/-- Whether the call was let through in the period and is still on its way. -/
def runsOf (period : Nat) (call : Passage) : Bool :=
  call.period = period && call.fate = .underway

/-- Whether the call was let through in the period and has ended. -/
def servedOf (period : Nat) (call : Passage) : Bool :=
  call.period = period && call.fate.outcome?.isSome

/-- The outcome of a call that ended in the period, whenever it was let through. -/
def outcomeIn (period : Nat) (call : Passage) : Option Bool :=
  match call.fate with
  | .ended failed ending => if ending = period then some failed else none
  | .underway | .lost => none

/-- The call when it is over; the entries are written for it in the end. -/
def settle (call : Passage) (fate : Fate) (entries : List Entry) : Passage :=
  { call with fate := fate, reports := call.reports ++ entries }

end Passage

/-- A world with calls on their way through a breaker. -/
structure Traffic where
  world : World
  /-- How many transitions of the circuit there were. -/
  period : Nat
  /-- All calls that were let through, in order. -/
  calls : List Passage

/-- The period that begins or goes on when one circuit becomes the other. -/
def Circuit.periodAfter (period : Nat) (c d : Circuit) : Nat :=
  if d.state = c.state then period else period + 1

theorem Circuit.periodAfter_same {period : Nat} {c d : Circuit} (h : d.state = c.state) :
    periodAfter period c d = period := if_pos h

theorem Circuit.periodAfter_of_ne {period : Nat} {c d : Circuit} (h : d.state ≠ c.state) :
    periodAfter period c d = period + 1 := if_neg h

namespace Breaker

/-- The period after a step into the world. -/
def periodAfter (b : Breaker) (s : Traffic) (w : World) : Nat :=
  (b.circuit s.world).periodAfter s.period (b.circuit w)

def next (b : Breaker) (s : Traffic) (w : World) (calls : List Passage) : Traffic :=
  ⟨w, b.periodAfter s w, calls⟩

def admitted (b : Breaker) (s : Traffic) (permit : Option Nat) (w : World) : Passage :=
  ⟨permit, b.periodAfter s w, .underway, w.since s.world.written⟩

/-- A call is let through. -/
def letThrough (b : Breaker) (s : Traffic) (permit : Option Nat) (w : World) : Traffic :=
  b.next s w (s.calls ++ [b.admitted s permit w])

/-- One operation of the breaker, or any change of the world that leaves its circuit alone. -/
inductive Step (b : Breaker) : Traffic → Traffic → Prop where
  | grant {s : Traffic} {permit : Option Nat} {w : World}
      (granted : b.acquire.run s.world = (.ok permit, w)) :
      Step b s (b.letThrough s permit w)
  | refuse {s : Traffic} {e : Fault} {w : World}
      (refused : b.acquire.run s.world = (.error e, w)) :
      Step b s (b.next s w s.calls)
  | finish {s : Traffic} {n : Nat} {call : Passage} (here : s.calls[n]? = some call)
      (running : call.fate = .underway) (o : Outcome) {w : World}
      (concluded : (b.conclude call.permit (.ended o)).run s.world = ((), w)) :
      Step b s (b.next s w (s.calls.set n
        (call.settle (.ended (b.fails o) s.period) (w.since s.world.written))))
  | lose {s : Traffic} {n : Nat} {call : Passage} (here : s.calls[n]? = some call)
      (running : call.fate = .underway) {w : World}
      (abandoned : (b.abandon call.permit).run s.world = ((), w)) :
      Step b s (b.next s w (s.calls.set n (call.settle .lost (w.since s.world.written))))
  | force {s : Traffic} (target : CircuitState) (byHand : target ≠ .halfOpen) {w : World}
      (forced : (b.force target).run s.world = ((), w)) :
      Step b s (b.next s w s.calls)
  | elsewhere {s : Traffic} {w : World}
      (kept : w.circuits[b.cell]? = s.world.circuits[b.cell]?) :
      Step b s (b.next s w s.calls)

/-- What comes about from a new breaker, in whatever order the operations interleave. -/
inductive Reachable (b : Breaker) : Traffic → Prop where
  | start {w : World} (made : w.circuits[b.cell]? = some .fresh) : Reachable b ⟨w, 0, []⟩
  | next {s t : Traffic} : Reachable b s → Step b s t → Reachable b t

end Breaker

/-- What is true of any call that was let through, up to the period. -/
structure Passage.Sound (call : Passage) (period : Nat) : Prop where
  begun : call.period ≤ period
  stamp : ∀ epoch, call.permit = some epoch → epoch = call.period % Circuit.epochs
  ended : ∀ failed ending, call.fate = .ended failed ending →
    call.period ≤ ending ∧ ending ≤ period
  recorded : call.reports.filterMap Entry.recorded? = call.fate.outcome?.toList

/-- A half-open circuit agrees with the record of the calls: everyone let through since holds a
permit, the outcomes are those of the calls that ended since, and the permits that are out are those
of the calls on their way and of the calls that have ended. -/
structure Trial (config : BreakerConfig) (c : Circuit) (period : Nat) (calls : List Passage) :
    Prop where
  held : ∀ call ∈ calls, call.period = period → call.permit = some c.epoch
  outcomes : c.trials.Perm (calls.filterMap (Passage.outcomeIn period))
  undecided : c.trials.length < config.trialCalls
  /-- Later on, a permit of long ago could pass for one of this period. -/
  permits : period < Circuit.epochs →
    c.permits = calls.countP (Passage.runsOf period) + calls.countP (Passage.servedOf period)
  within : c.permits ≤ config.trialCalls

/-- The circuit agrees with the record of the calls. -/
structure Books (config : BreakerConfig) (c : Circuit) (period : Nat) (calls : List Passage) :
    Prop where
  epoch : c.epoch = period % Circuit.epochs
  sound : ∀ call ∈ calls, call.Sound period
  calm : c.state = .closed → Circuit.opens config c.window = false
  trial : c.state = .halfOpen → Trial config c period calls

namespace Passage

variable {call : Passage} {period : Nat}

theorem Sound.mono {later : Nat} (h : call.Sound period) (le : period ≤ later) :
    call.Sound later where
  begun := Nat.le_trans h.begun le
  stamp := h.stamp
  ended failed ending fate := by
    obtain ⟨begun, ended⟩ := h.ended failed ending fate
    exact ⟨begun, Nat.le_trans ended le⟩
  recorded := h.recorded

/-- No call has ended in a period that is yet to come. -/
theorem Sound.outcomeIn_succ (h : call.Sound period) : call.outcomeIn (period + 1) = none := by
  unfold outcomeIn
  split
  next failed ending fate =>
    have before := (h.ended failed ending fate).2
    rw [if_neg (by omega)]
  all_goals rfl

theorem Sound.begin {permit : Option Nat} {entries : List Entry}
    (stamp : ∀ epoch, permit = some epoch → epoch = period % Circuit.epochs)
    (quiet : entries.filterMap Entry.recorded? = []) :
    (⟨permit, period, .underway, entries⟩ : Passage).Sound period where
  begun := Nat.le_refl period
  stamp := stamp
  ended _ _ eq := nomatch eq
  recorded := quiet

theorem Sound.settle {fate : Fate} {entries : List Entry} (h : call.Sound period)
    (running : call.fate = .underway)
    (now : ∀ failed ending, fate = .ended failed ending → ending = period)
    (recorded : entries.filterMap Entry.recorded? = fate.outcome?.toList) :
    (call.settle fate entries).Sound period where
  begun := h.begun
  stamp := h.stamp
  ended failed ending eq := by
    rw [now failed ending eq]
    exact ⟨h.begun, Nat.le_refl _⟩
  recorded := by
    have before := h.recorded
    rw [running] at before
    rw [Passage.settle, List.filterMap_append, before, recorded]
    rfl

end Passage

namespace Books

variable {config : BreakerConfig} {c : Circuit} {period : Nat} {calls : List Passage}

/-- With a transition everything is counted anew. -/
theorem moved (config : BreakerConfig) (sound : ∀ call ∈ calls, call.Sound period)
    (epoch : c.epoch = period % Circuit.epochs) (target : CircuitState) (now : Nanos) :
    Books config (c.moved target now) (period + 1) calls where
  epoch := by
    change (c.epoch + 1) % Circuit.epochs = (period + 1) % Circuit.epochs
    rw [epoch, Nat.mod_add_mod]
  sound call mem := (sound call mem).mono (Nat.le_succ period)
  calm _ := Circuit.opens_nil config
  trial _ := by
    have earlier : ∀ call ∈ calls, call.period ≠ period + 1 := by
      intro call mem same
      have begun := (sound call mem).begun
      omega
    have outcomes : calls.filterMap (Passage.outcomeIn (period + 1)) = [] :=
      List.filterMap_eq_nil_iff.mpr fun call mem => (sound call mem).outcomeIn_succ
    have runs : calls.countP (Passage.runsOf (period + 1)) = 0 :=
      List.countP_eq_zero.mpr fun call mem => by simp [Passage.runsOf, earlier call mem]
    have served : calls.countP (Passage.servedOf (period + 1)) = 0 :=
      List.countP_eq_zero.mpr fun call mem => by simp [Passage.servedOf, earlier call mem]
    refine ⟨?_, ?_, config.trialCalls_pos, ?_, Nat.zero_le _⟩
    · intro call mem same
      exact absurd same (earlier call mem)
    · rw [outcomes]
      exact .nil
    · intro _
      rw [runs, served]
      rfl

/-- A call that a closed circuit lets through. -/
theorem pass (h : Books config c period calls) (notTrial : c.state ≠ .halfOpen) {call : Passage}
    (sound : call.Sound period) : Books config c period (calls ++ [call]) where
  epoch := h.epoch
  sound := List.forall_mem_append.mpr ⟨h.sound, List.forall_mem_singleton.mpr sound⟩
  calm := h.calm
  trial half := absurd half notTrial

/-- A trial call. -/
theorem passTrial (h : Books config c period calls) (half : c.state = .halfOpen)
    (free : c.permits < config.trialCalls) {call : Passage} (sound : call.Sound period)
    (now : call.period = period) (running : call.fate = .underway)
    (permit : call.permit = some c.epoch) :
    Books config { c with permits := c.permits + 1 } period (calls ++ [call]) where
  epoch := h.epoch
  sound := List.forall_mem_append.mpr ⟨h.sound, List.forall_mem_singleton.mpr sound⟩
  calm := h.calm
  trial _ := by
    have trial := h.trial half
    refine ⟨?_, ?_, trial.undecided, fun few => ?_, free⟩
    · exact List.forall_mem_append.mpr
        ⟨trial.held, List.forall_mem_singleton.mpr fun _ => permit⟩
    · have none : call.outcomeIn period = none := by rw [Passage.outcomeIn, running]
      simpa [none] using trial.outcomes
    · have runs : call.runsOf period = true := by simp [Passage.runsOf, now, running]
      have served : call.servedOf period = false := by
        simp [Passage.servedOf, running, Fate.outcome?]
      simp only [List.countP_append, List.countP_singleton, runs, served, trial.permits few]
      simp only [if_true, Bool.false_eq_true, if_false]
      omega

theorem sound_set (h : Books config c period calls) {call : Passage} (sound : call.Sound period)
    (n : Nat) : ∀ other ∈ calls.set n call, other.Sound period := by
  intro other mem
  rcases List.mem_or_eq_of_mem_set mem with old | rfl
  · exact h.sound other old
  · exact sound

theorem held_set {epoch n : Nat} {call : Passage} (here : calls[n]? = some call) (fate : Fate)
    (entries : List Entry)
    (held : ∀ call ∈ calls, call.period = period → call.permit = some epoch) :
    ∀ other ∈ calls.set n (call.settle fate entries),
      other.period = period → other.permit = some epoch := by
  intro other mem now
  rcases List.mem_or_eq_of_mem_set mem with old | rfl
  · exact held other old now
  · exact held call (List.mem_of_getElem? here) now

/-- What the end of a call does to the counts. -/
theorem counts_settle (period : Nat) {n : Nat} {call : Passage} (here : calls[n]? = some call)
    (running : call.fate = .underway) {fate : Fate} (settles : fate ≠ .underway)
    (entries : List Entry) :
    let new := call.settle fate entries
    calls.countP (Passage.runsOf period) =
        (calls.set n new).countP (Passage.runsOf period) + (if call.period = period then 1 else 0) ∧
      (calls.set n new).countP (Passage.servedOf period) =
        calls.countP (Passage.servedOf period) +
          (if call.period = period ∧ fate.outcome?.isSome then 1 else 0) ∧
      ((calls.set n new).filterMap (Passage.outcomeIn period)).Perm
        (calls.filterMap (Passage.outcomeIn period) ++ (new.outcomeIn period).toList) := by
  intro new
  obtain ⟨rest, before, after⟩ := exists_rest_of_getElem? here
  have runs : new.runsOf period = false := by simp [new, Passage.settle, Passage.runsOf, settles]
  have ran : call.runsOf period = decide (call.period = period) := by
    simp [Passage.runsOf, running]
  have unserved : call.servedOf period = false := by
    simp [Passage.servedOf, running, Fate.outcome?]
  have served : new.servedOf period = decide (call.period = period ∧ fate.outcome?.isSome) := by
    simp [new, Passage.settle, Passage.servedOf]
  have none : call.outcomeIn period = none := by rw [Passage.outcomeIn, running]
  refine ⟨?_, ?_, ?_⟩
  · rw [before.countP_eq, (after new).countP_eq]
    simp [List.countP_cons, runs, ran]
  · rw [before.countP_eq, (after new).countP_eq]
    simp [List.countP_cons, unserved, served]
  · have old := before.filterMap (Passage.outcomeIn period)
    rw [List.filterMap_cons_none none] at old
    refine ((after new).filterMap _).trans (.trans ?_ (old.symm.append_right _))
    cases outcome : new.outcomeIn period with
    | none => simp [outcome]
    | some failed =>
      rw [List.filterMap_cons_some outcome]
      exact (List.perm_append_singleton failed _).symm

/-- Before the epochs come round again, only the calls of a period hold its permits. -/
theorem permit_iff (h : Books config c period calls) (half : c.state = .halfOpen) {call : Passage}
    (mem : call ∈ calls) (few : period < Circuit.epochs) :
    call.permit = some c.epoch ↔ call.period = period := by
  constructor
  · intro permit
    have stamp := (h.sound call mem).stamp _ permit
    have begun := (h.sound call mem).begun
    rw [h.epoch, Nat.mod_eq_of_lt few, Nat.mod_eq_of_lt (by omega)] at stamp
    exact stamp.symm
  · intro now
    exact (h.trial half).held call mem now

/-- A call that crashes or is dropped gives back the permit that it has from this period, if any. -/
theorem lose (h : Books config c period calls) {n : Nat} {call : Passage}
    (here : calls[n]? = some call) (running : call.fate = .underway) {entries : List Entry}
    (sound : (call.settle .lost entries).Sound period) :
    Books config (call.permit.elim c c.release) period
      (calls.set n (call.settle .lost entries)) := by
  have all := h.sound_set sound n
  rw [Circuit.handBack_eq]
  by_cases half : c.state = .halfOpen
  · have trial := h.trial half
    obtain ⟨runs, served, outcomes⟩ :=
      counts_settle period here running (show Fate.lost ≠ .underway by decide) entries
    have none : (call.settle .lost entries).outcomeIn period = none := rfl
    rw [none, Option.toList_none, List.append_nil] at outcomes
    rw [if_neg (by simp [Fate.outcome?]), Nat.add_zero] at served
    have held := held_set here .lost entries trial.held
    have own := h.permit_iff half (List.mem_of_getElem? here)
    -- The circuit tells by the stamp what the record tells by the period.
    by_cases permit : call.permit = some c.epoch
    · rw [if_pos ⟨half, permit⟩]
      refine ⟨h.epoch, all, h.calm, fun _ => ⟨held, trial.outcomes.trans outcomes.symm,
        trial.undecided, fun few => ?_, Nat.le_trans (Nat.sub_le _ 1) trial.within⟩⟩
      have permits := trial.permits few
      rw [if_pos ((own few).mp permit)] at runs
      change c.permits - 1 = _
      omega
    · rw [if_neg fun ⟨_, eq⟩ => permit eq]
      refine ⟨h.epoch, all, h.calm, fun _ => ⟨held, trial.outcomes.trans outcomes.symm,
        trial.undecided, fun few => ?_, trial.within⟩⟩
      have permits := trial.permits few
      rw [if_neg fun now => permit ((own few).mpr now)] at runs
      omega
  · rw [if_neg fun ⟨eq, _⟩ => half eq]
    exact ⟨h.epoch, all, h.calm, fun eq => absurd eq half⟩

/-- A call ends in the period, and its outcome is recorded. -/
theorem finish (h : Books config c period calls) {n : Nat} {call : Passage} {failed : Bool}
    (here : calls[n]? = some call) (running : call.fate = .underway) {entries : List Entry}
    (sound : (call.settle (.ended failed period) entries).Sound period) (now : Nanos) :
    let d := (c.record config now failed).1
    Books config d (c.periodAfter period d)
      (calls.set n (call.settle (.ended failed period) entries)) := by
  have all := h.sound_set sound n
  intro d
  rcases Circuit.record_cases config now c failed with
    ⟨opened, eq⟩ | ⟨closed, calm, eq⟩ | ⟨half, few, eq⟩ | ⟨target, away, -, eq⟩
  · have here : d = c := by simp only [d, eq]
    rw [here, Circuit.periodAfter_same rfl]
    exact ⟨h.epoch, all, h.calm, fun half => absurd (opened.symm.trans half) (by decide)⟩
  · have same : d.state = c.state := by simp only [d, eq]
    rw [Circuit.periodAfter_same same]
    simp only [d, eq]
    exact ⟨h.epoch, all, fun _ => calm, fun half => absurd (closed.symm.trans half) (by decide)⟩
  · have same : d.state = c.state := by simp only [d, eq]
    rw [Circuit.periodAfter_same same]
    simp only [d, eq]
    have trial := h.trial half
    obtain ⟨runs, served, outcomes⟩ :=
      counts_settle period here running (show Fate.ended failed period ≠ .underway by simp) entries
    have outcome : (call.settle (.ended failed period) entries).outcomeIn period = some failed :=
      if_pos rfl
    rw [outcome, Option.toList_some] at outcomes
    simp only [Fate.outcome?, Option.isSome_some, and_true] at served
    refine ⟨h.epoch, all, fun closed => absurd (half.symm.trans closed) (by decide), fun _ =>
      ⟨held_set here _ entries trial.held, ?_, ?_, fun bound => ?_, trial.within⟩⟩
    · exact (trial.outcomes.append_right [failed]).trans outcomes.symm
    · rw [List.length_append]
      exact few
    · have permits := trial.permits bound
      change c.permits = _
      omega
  · simp only [d, eq]
    rw [Circuit.periodAfter_of_ne away]
    exact moved config all h.epoch target now

/-- A request is granted, and its call begins. -/
theorem grant (h : Books config c period calls) {now : Nanos} {permit : Option Nat}
    (granted : (c.acquire config now).1 = .ok permit) {entries : List Entry}
    (quiet : entries.filterMap Entry.recorded? = []) :
    let d := (c.acquire config now).2.1
    Books config d (c.periodAfter period d)
      (calls ++ [⟨permit, c.periodAfter period d, .underway, entries⟩]) := by
  intro d
  rcases Circuit.acquire_cases config now c with
    ⟨closed, eq⟩ | ⟨-, eq⟩ | ⟨opened, eq⟩ | ⟨half, free, eq⟩ | ⟨-, -, eq⟩ <;>
    simp only [d, eq] at granted ⊢ <;> cases granted
  · rw [Circuit.periodAfter_same rfl]
    exact h.pass (by simp [closed]) (.begin (by simp) quiet)
  · have away : CircuitState.halfOpen ≠ c.state := by simp [opened]
    have books := moved config h.sound h.epoch .halfOpen now
    have stamp : ∀ epoch, some (c.moved .halfOpen now).epoch = some epoch →
        epoch = (period + 1) % Circuit.epochs := by
      intro epoch eq
      rw [← Option.some.inj eq, books.epoch]
    rw [Circuit.periodAfter_of_ne away]
    exact books.passTrial rfl config.trialCalls_pos (.begin stamp quiet) rfl rfl rfl
  · have stamp : ∀ epoch, some c.epoch = some epoch → epoch = period % Circuit.epochs := by
      intro epoch eq
      rw [← Option.some.inj eq, h.epoch]
    have same : { c with permits := c.permits + 1 }.state = c.state := rfl
    rw [Circuit.periodAfter_same same]
    exact h.passTrial half free (.begin stamp quiet) rfl rfl rfl

/-- A request is refused. -/
theorem refuse (h : Books config c period calls) {now : Nanos} {state : CircuitState}
    (refused : (c.acquire config now).1 = .error state) :
    let d := (c.acquire config now).2.1
    Books config d (c.periodAfter period d) calls := by
  intro d
  rcases Circuit.acquire_cases config now c with
    ⟨-, eq⟩ | ⟨-, eq⟩ | ⟨-, eq⟩ | ⟨-, -, eq⟩ | ⟨-, -, eq⟩ <;>
    simp only [d, eq] at refused ⊢ <;> cases refused
  · rwa [Circuit.periodAfter_same rfl]
  · rwa [Circuit.periodAfter_same rfl]

theorem force (h : Books config c period calls) (target : CircuitState) (now : Nanos) :
    let d := (c.transition target now).1
    Books config d (c.periodAfter period d) calls := by
  intro d
  by_cases same : c.state = target
  · simp only [d, Circuit.transition_self same]
    rwa [Circuit.periodAfter_same rfl]
  · simp only [d, Circuit.transition_of_ne same]
    rw [Circuit.periodAfter_of_ne (Ne.symm same)]
    exact moved config h.sound h.epoch target now

end Books

namespace Breaker

variable {b : Breaker} {s t : Traffic}

/-- The world has a circuit for the breaker, and it agrees with the record of the calls. -/
def Kept (b : Breaker) (s : Traffic) : Prop :=
  ∃ c, s.world.circuits[b.cell]? = some c ∧ Books b.config c s.period s.calls

theorem periodAfter_eq {w : World} {c d : Circuit} (made : s.world.circuits[b.cell]? = some c)
    (left : w.circuits[b.cell]? = some d) : b.periodAfter s w = c.periodAfter s.period d := by
  rw [periodAfter, circuit_of made, circuit_of left]

theorem kept_next {w : World} {c d : Circuit} {calls : List Passage}
    (made : s.world.circuits[b.cell]? = some c) (left : w.circuits[b.cell]? = some d)
    (books : Books b.config d (c.periodAfter s.period d) calls) : b.Kept (b.next s w calls) := by
  refine ⟨d, left, ?_⟩
  rwa [next, periodAfter_eq made left]

theorem Step.kept (step : b.Step s t) (h : b.Kept s) : b.Kept t := by
  obtain ⟨c, made, books⟩ := h
  cases step with
  | @grant permit w granted =>
    obtain ⟨answer, left⟩ := leaves_acquire made
    rw [granted] at answer left
    have asked : (c.acquire b.config s.world.now).1 = .ok permit := by
      cases given : (c.acquire b.config s.world.now).1 <;> rw [given] at answer <;> cases answer
      rfl
    rw [letThrough]
    refine kept_next made left.circuit ?_
    rw [admitted, periodAfter_eq made left.circuit]
    exact books.grant asked left.recorded_since
  | @refuse e w refused =>
    obtain ⟨answer, left⟩ := leaves_acquire made
    rw [refused] at answer left
    obtain ⟨state, asked⟩ : ∃ state, (c.acquire b.config s.world.now).1 = .error state := by
      cases given : (c.acquire b.config s.world.now).1 <;> rw [given] at answer <;> cases answer
      exact ⟨_, rfl⟩
    exact kept_next made left.circuit (books.refuse asked)
  | @finish n call here running o w concluded =>
    have left : b.Leaves s.world w _ _ := concluded ▸ leaves_recordAs made (b.fails o)
    have sound : (call.settle (.ended (b.fails o) s.period) _).Sound s.period :=
      (books.sound call (List.mem_of_getElem? here)).settle running
        (fun _ _ eq => (Fate.ended.inj eq).2.symm) left.recorded_since
    exact kept_next made left.circuit (books.finish here running sound s.world.now)
  | @lose n call here running w abandoned =>
    have left : b.Leaves s.world w _ _ := abandoned ▸ leaves_abandon made call.permit
    have sound : (call.settle .lost _).Sound s.period :=
      (books.sound call (List.mem_of_getElem? here)).settle running
        (fun _ _ eq => nomatch eq) left.recorded_since
    have same : (call.permit.elim c c.release).state = c.state := by
      cases call.permit <;> simp
    refine kept_next made left.circuit ?_
    rw [Circuit.periodAfter_same same]
    exact books.lose here running sound
  | @force target byHand w forced =>
    have left : b.Leaves s.world w _ _ := forced ▸ leaves_force made target
    exact kept_next made left.circuit (books.force target s.world.now)
  | @elsewhere w kept =>
    exact kept_next made (kept.trans made) (by rwa [Circuit.periodAfter_same rfl])

theorem kept_of_reachable (h : b.Reachable s) : b.Kept s := by
  induction h with
  | start made =>
    refine ⟨_, made, rfl, by simp, fun _ => Circuit.opens_nil b.config, fun half => ?_⟩
    exact absurd half (by decide)
  | next _ step ih => exact step.kept ih

end Breaker

end CallGuard
