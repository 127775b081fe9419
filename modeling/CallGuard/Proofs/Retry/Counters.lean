import CallGuard.Proofs.Chain.Changes

/-!
# Counters and events of a retry

What retries of a name announce they also count, but for a call that runs out of attempts on a value:
its end is announced as an error and counted nowhere. Main statements: `Runs.ledger` says what any
run adds to counters and to events, `admits_goes` that whatever is called makes such a run, and
`counters_agree_iff` when the two agree.
-/

namespace CallGuard

/-- Whether the entry is an event of the topic that the guard has reported. -/
def Entry.reports (guard topic : String) : Entry → Bool
  | .emitted e => e.guard = guard && e.happening.topic = topic
  | _ => false

/-- Whether the outcome is a value. -/
def Outcome.isValue : Outcome → Bool
  | .value _ => true
  | .fault _ => false

namespace Retry

def attemptsCounter (name : String) : Counter := ⟨"retry_attempts_total", [("retry", name)]⟩

def callsCounter (name label : String) : Counter :=
  ⟨"retry_calls_total", [("retry", name), ("outcome", label)]⟩

/-- What retries of a name have counted, and how many events of each topic they have reported. -/
@[ext]
structure Ledger where
  attempts : Nat
  successes : Nat
  failures : Nat
  retried : Nat
  succeeded : Nat
  exhausted : Nat
  deriving DecidableEq, Repr

namespace Ledger

/-- Every counter says how many events there were. -/
structure Agrees (l : Ledger) : Prop where
  attempts : l.attempts = l.retried
  successes : l.successes = l.succeeded
  failures : l.failures = l.exhausted

/-- What another attempt adds. -/
def again (l : Ledger) : Ledger := { l with attempts := l.attempts + 1, retried := l.retried + 1 }

/-- What a call adds that ends with the outcome because it is not retried. -/
def accept (l : Ledger) : Outcome → Ledger
  | .value _ => { l with successes := l.successes + 1, succeeded := l.succeeded + 1 }
  | .fault _ => l

/-- What a call adds that runs out of attempts on the outcome. -/
def exhaust (l : Ledger) : Outcome → Ledger
  | .value _ => { l with exhausted := l.exhausted + 1 }
  | .fault _ => { l with failures := l.failures + 1, exhausted := l.exhausted + 1 }

end Ledger

end Retry

namespace World

/-- How many events of the topic the guard has reported. -/
def reports (w : World) (guard topic : String) : Nat := w.history.countP (Entry.reports guard topic)

def ledger (w : World) (name : String) : Retry.Ledger where
  attempts := w.tally.count (Retry.attemptsCounter name)
  successes := w.tally.count (Retry.callsCounter name "success")
  failures := w.tally.count (Retry.callsCounter name "failed")
  retried := w.reports name "retry"
  succeeded := w.reports name "success"
  exhausted := w.reports name "error"

variable {w v : World} {name topic : String}

@[simp] theorem tally_append (entries : List Entry) : (w.append entries).tally = w.tally := rfl

@[simp] theorem tally_raise (c : Counter) : (w.raise c).tally = w.tally.raise c := rfl

@[simp] theorem reports_raise (c : Counter) : (w.raise c).reports name topic = w.reports name topic :=
  rfl

@[simp] theorem reports_append (entries : List Entry) :
    (w.append entries).reports name topic =
      w.reports name topic + entries.countP (Entry.reports name topic) := by
  simp [reports]

@[simp] theorem countP_reported (guard : String) (listeners : List Listener) (h : Happening) :
    (w.reported guard listeners h).countP (Entry.reports name topic) =
      if guard = name ∧ h.topic = topic then 1 else 0 := by
  have heard : ∀ (labels : List String) (e : Event),
      (labels.map fun label => Entry.heard label e).countP (Entry.reports name topic) = 0 := by
    simp [Entry.reports]
  rw [reported, List.countP_cons, heard]
  simp [Entry.reports]

theorem ledger_of_same (tally : v.tally = w.tally) (history : v.history = w.history) :
    v.ledger name = w.ledger name := by
  simp only [ledger, reports, tally, history]

/-- An entry that is not an event is not reported. -/
theorem ledger_append_singleton {e : Entry} (other : ∀ topic, e.reports name topic = false) :
    (w.append [e]).ledger name = w.ledger name := by
  simp only [ledger, reports_append, List.countP_cons, List.countP_nil, other]
  rfl

/-- Retries have topics of their own. -/
theorem ledger_reported {h : Happening} (other : h.isOfRetry = false) (guard : String)
    (listeners : List Listener) :
    (w.append (w.reported guard listeners h)).ledger name = w.ledger name := by
  have apart : h.topic ≠ "retry" ∧ h.topic ≠ "success" ∧ h.topic ≠ "error" := by
    cases h <;> simp [Happening.isOfRetry, Happening.topic] at other ⊢
  obtain ⟨retry, success, error⟩ := apart
  simp [ledger, retry, success, error]

/-- Retries have counters of their own. -/
theorem ledger_raise {c : Counter} (other : c.isOfRetry = false) :
    (w.raise c).ledger name = w.ledger name := by
  have apart : c.metric ≠ "retry_attempts_total" ∧ c.metric ≠ "retry_calls_total" := by
    simpa [Counter.isOfRetry] using other
  have away (metric : String) (labels : List (String × String)) (own : c.metric ≠ metric) :
      (w.tally.raise c).count ⟨metric, labels⟩ = w.tally.count ⟨metric, labels⟩ := by
    rw [Tally.count_raise, if_neg]
    rintro rfl
    exact own rfl
  simp only [ledger, reports_raise, tally_raise, Retry.attemptsCounter, Retry.callsCounter,
    away _ _ apart.1, away _ _ apart.2]

end World

namespace Retry

variable {w v u : World} {name : String} {r : Retry} {attempts : Nat} {last o : Outcome}
  {label : Option String} {h : Happening} {os : List Outcome}

theorem ledger_announced (r : Retry) (attempts : Nat) (w : World) :
    (r.announced attempts w).ledger name =
      if r.name = name then (w.ledger name).again else w.ledger name := by
  by_cases own : r.name = name <;>
    simp [World.ledger, announced, Tally.count_raise, attemptsCounter, callsCounter,
      Happening.topic, Ledger.again, own]

theorem ledger_concluded (closes : r.Closes attempts last label h o) (w : World) :
    (r.concluded label h w).ledger name =
      if r.name = name then
        if r.config.Retried last then (w.ledger name).exhaust last else (w.ledger name).accept last
      else w.ledger name := by
  have counted := @Tally.count_raise w.tally
  by_cases own : r.name = name <;> cases closes with
  | succeeded outcome | ignored outcome | failed outcome | kept outcome | exceeded outcome =>
    simp [World.ledger, concluded, counted, attemptsCounter, callsCounter, Happening.topic,
      Ledger.accept, Ledger.exhaust, own, outcome]

/-- What retries of the name did on the way from one world to another, with the outcomes on which
calls ran out of attempts, in order. Whatever else happens leaves what they count and report. -/
inductive Runs (name : String) (w : World) : List Outcome → World → Prop where
  | start : Runs name w [] w
  | elsewhere {os : List Outcome} {v u : World} (run : Runs name w os v)
      (same : u.ledger name = v.ledger name) : Runs name w os u
  | again {os : List Outcome} {v : World} (run : Runs name w os v) {r : Retry} (own : r.name = name)
      (attempts : Nat) : Runs name w os (r.announced attempts v)
  | accepted {os : List Outcome} {v : World} (run : Runs name w os v) {r : Retry}
      (own : r.name = name) {attempts : Nat} {last o : Outcome} {label : Option String}
      {h : Happening} (closes : r.Closes attempts last label h o)
      (wanted : ¬ r.config.Retried last) : Runs name w os (r.concluded label h v)
  | exhausted {os : List Outcome} {v : World} (run : Runs name w os v) {r : Retry}
      (own : r.name = name) {attempts : Nat} {last o : Outcome} {label : Option String}
      {h : Happening} (closes : r.Closes attempts last label h o)
      (retried : r.config.Retried last) : Runs name w (os ++ [last]) (r.concluded label h v)

/-- Retries of the name made a run from one world to the other. -/
def Goes (name : String) (w v : World) : Prop := ∃ os, Runs name w os v

theorem Runs.trans {before after : List Outcome} (first : Runs name u before w)
    (second : Runs name w after v) : Runs name u (before ++ after) v := by
  induction second with
  | start => rwa [List.append_nil]
  | elsewhere _ same ih => exact ih.elsewhere same
  | again _ own attempts ih => exact ih.again own attempts
  | accepted _ own closes wanted ih => exact ih.accepted own closes wanted
  | exhausted _ own closes retried ih =>
    rw [← List.append_assoc]
    exact ih.exhausted own closes retried

/-- What a run adds to the counters it adds to the events, but for the calls that ran out of
attempts on a value. -/
theorem Runs.ledger (run : Runs name w os v) :
    (v.ledger name).attempts + (w.ledger name).retried =
        (w.ledger name).attempts + (v.ledger name).retried ∧
      (v.ledger name).successes + (w.ledger name).succeeded =
        (w.ledger name).successes + (v.ledger name).succeeded ∧
      (v.ledger name).failures + os.countP Outcome.isValue + (w.ledger name).exhausted =
        (w.ledger name).failures + (v.ledger name).exhausted := by
  induction run with
  | start => simp
  | elsewhere _ same ih => rwa [same]
  | again _ own attempts ih =>
    rw [ledger_announced, if_pos own]
    simp only [Ledger.again]
    omega
  | @accepted _ _ _ _ own _ last _ _ _ closes wanted ih =>
    rw [ledger_concluded closes, if_pos own, if_neg wanted]
    cases last <;> simp only [Ledger.accept] <;> omega
  | @exhausted _ _ _ _ own _ last _ _ _ closes retried ih =>
    rw [ledger_concluded closes, if_pos own, if_pos retried, List.countP_append,
      List.countP_singleton]
    cases last <;> simp [Ledger.exhaust, Outcome.isValue] <;> omega

/-- If counters and events agreed before, they differ by just these calls after it. -/
theorem Runs.of_agrees (run : Runs name w os v) (agrees : (w.ledger name).Agrees) :
    (v.ledger name).attempts = (v.ledger name).retried ∧
      (v.ledger name).successes = (v.ledger name).succeeded ∧
      (v.ledger name).failures + os.countP Outcome.isValue = (v.ledger name).exhausted := by
  obtain ⟨attempts, successes, failures⟩ := run.ledger
  rw [agrees.attempts] at attempts
  rw [agrees.successes] at successes
  rw [agrees.failures] at failures
  omega

theorem goes_of_same (same : v.ledger name = w.ledger name) : Goes name w v :=
  ⟨[], .elsewhere .start same⟩

/-- **Whatever is called** makes a run. -/
theorem admits_goes (name : String) : World.Admits (Goes name) where
  same tally history := goes_of_same (World.ledger_of_same tally history)
  trans := by
    rintro u v w ⟨before, first⟩ ⟨after, second⟩
    exact ⟨before ++ after, first.trans second⟩
  noted w e note := by
    refine goes_of_same (World.ledger_append_singleton fun topic => ?_)
    cases e <;> first | rfl | cases note
  reported w guard listeners h other := goes_of_same (World.ledger_reported other guard listeners)
  counted w c other := goes_of_same (World.ledger_raise other)
  announced r attempts w := by
    by_cases own : r.name = name
    · exact ⟨[], Runs.start.again own attempts⟩
    · exact goes_of_same (by rw [ledger_announced, if_neg own])
  concluded := by
    intro r attempts last label h o closes w
    by_cases own : r.name = name
    · by_cases retried : r.config.Retried last
      · exact ⟨[last], Runs.start.exhausted own closes retried⟩
      · exact ⟨[], Runs.start.accepted own closes retried⟩
    · exact goes_of_same (by rw [ledger_concluded closes, if_neg own])

theorem delays_goes (name : String) : World.Delays (Goes name) :=
  fun _ _ => goes_of_same (World.ledger_append_singleton fun _ => rfl)

/-- Whatever is called through proxies, at once or side by side, makes runs of retries. -/
theorem goes_calls (name : String) :
    (∀ number r args, (Proxy.call number r args).Leads (Goes name) ∧
      (Proxy.start number r args).Leads (Goes name)) ∧
    ∀ o : Ongoing, o.poll.Leads (Goes name) ∧ o.drop.Leads (Goes name) := by
  have admits := admits_goes name
  have delays := delays_goes name
  constructor
  · intro number r args
    exact ⟨Proxy.leads_call admits delays number r args,
      Proxy.leads_start admits delays number r args⟩
  · intro o
    exact ⟨o.leads_poll admits delays, o.leads_drop admits delays⟩

/-- **Counters and events.** Take any run of calls, direct or deferred, of any retries of the name,
around calls that may do whatever calls do. The counter of attempts and that of successes agree with
the events whenever they did before; the counter of failures lacks the calls that ran out of
attempts on a value. So all of them agree if and only if calls ran out on faults only. -/
theorem counters_agree_iff (name : String) :
    (∀ {w v : World} {os : List Outcome}, Runs name w os v → (w.ledger name).Agrees →
      let l := v.ledger name
      l.attempts = l.retried ∧ l.successes = l.succeeded ∧
        l.failures + os.countP Outcome.isValue = l.exhausted ∧
        (l.Agrees ↔ ∀ o ∈ os, o.isValue = false)) ∧
    (∀ (r : Retry) (call : Direct), call.LeadsOn (Goes name) →
      (r.direct call).LeadsOn (Goes name)) ∧
    ∀ (r : Retry) (scheduler : Option Scheduler) {W : Type} (call : Deferred W),
      call.LeadsOn (Goes name) → (r.deferred scheduler call).LeadsOn (Goes name) := by
  refine ⟨?_, ?_, ?_⟩
  · intro w v os run agrees
    obtain ⟨attempts, successes, failures⟩ := run.of_agrees agrees
    refine ⟨attempts, successes, failures, ?_⟩
    have none_iff : os.countP Outcome.isValue = 0 ↔ ∀ o ∈ os, o.isValue = false := by
      rw [List.countP_eq_zero]
      simp only [Bool.not_eq_true]
    rw [← none_iff]
    constructor
    · intro all
      have := all.failures
      omega
    · intro none
      exact ⟨attempts, successes, by omega⟩
  · exact fun r call h => r.leads_direct (admits_goes name) h
  · exact fun r scheduler W call h =>
      r.leads_deferred (admits_goes name) (fun _ => delays_goes name) h

/-- One attempt at a call that gives zero, which is not wanted. -/
def picky : Retry := ⟨"r", .ofSettings [.maxAttempts 1, .onValue (· = .int 0)]⟩

/-- A call that gives zero. -/
def zero : Direct := fun _ => return .ended (.value (.int 0))

def pickyCall : World := ((picky.direct zero ⟨"", 1⟩).run .empty).2

theorem counters_agree_iff_picky :
    ∃ os, Runs "r" .empty os pickyCall ∧
      (pickyCall.ledger "r").failures + os.countP Outcome.isValue =
        (pickyCall.ledger "r").exhausted ∧
      ¬ ∀ o ∈ os, o.isValue = false := by
  obtain ⟨agree, direct, -⟩ := counters_agree_iff "r"
  have still : zero.LeadsOn (Goes "r") := fun _ _ => goes_of_same rfl
  obtain ⟨os, run⟩ := direct picky zero still ⟨"", 1⟩ .empty
  have fresh : (World.empty.ledger "r").Agrees := ⟨rfl, rfl, rfl⟩
  obtain ⟨-, -, missing, iff⟩ := agree run fresh
  refine ⟨os, run, missing, fun faults => ?_⟩
  have failures := (iff.mpr faults).failures
  exact absurd failures (by decide +kernel)

/-- The call runs out of attempts on its value: there is an event of an error, and no counter of
one. -/
theorem error_is_not_counted :
    (pickyCall.ledger "r").exhausted = 1 ∧ (pickyCall.ledger "r").failures = 0 := by
  decide +kernel

end Retry

end CallGuard
