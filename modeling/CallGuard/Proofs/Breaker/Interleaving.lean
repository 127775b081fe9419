import CallGuard.Proofs.Breaker.Traffic
import Mathlib.Logic.Relation

/-!
# Guarded calls run by steps

A guarded call is its request, its own code and its settling. The request and the settling are one step
each, which leave the records of all other calls as they are. While its own code runs anything may
happen to the breaker: other calls come, go on and settle, and among them may be calls that this code
makes through the same breaker. Main statements: `passes_direct` and `passes_deferred` say so of the
two shapes of a call.
-/

namespace CallGuard

namespace Breaker

/-- Any number of steps. -/
def Path (b : Breaker) : Traffic → Traffic → Prop := Relation.ReflTransGen b.Step

/-- What becomes of a call with the reply, in the period. -/
def fateOf (b : Breaker) (period : Nat) : Reply → Fate
  | .ended o => .ended (b.fails o) period
  | .crashed _ => .lost

/-- One step, by which that becomes of the call and nothing becomes of any other. -/
structure Befalls (b : Breaker) (n : Nat) (fate : Fate) (s t : Traffic) : Prop where
  step : b.Step s t
  here : t.calls[n]?.map Passage.fate = some fate
  others : ∀ m, m ≠ n → t.calls[m]? = s.calls[m]?

/-- Inside the call the act runs by steps from the one traffic to the other, where it returns that,
and the record of the call is as it was. -/
structure Inside {A : Type} (b : Breaker) (n : Nat) (act : Act A) (s : Traffic) (a : A) (u : Traffic) :
    Prop where
  path : b.Path s u
  ran : act.run s.world = (a, u.world)
  kept : u.calls[n]? = s.calls[n]?

/-- How a call through the breaker goes, from the traffic. One whose request is refused is this step
and no more. One that is let through has a record from then on, its own code runs, and with its reply
it settles, in the period that has come by then. -/
structure Passes (b : Breaker) (s : Traffic) (call : Direct) (args : Args) : Prop where
  refused : ∀ {e : Fault} {w : World}, b.acquire.run s.world = (.error e, w) →
    b.Step s (b.next s w s.calls) ∧ (b.direct call args).run s.world = (.refusal e, w)
  granted : ∀ {permit : Option Nat} {w : World}, b.acquire.run s.world = (.ok permit, w) →
    b.Befalls s.calls.length .underway s (b.letThrough s permit w)
  settled : ∀ {permit : Option Nat} {w : World} {reply : Reply} {u : Traffic},
    b.acquire.run s.world = (.ok permit, w) →
    b.Inside s.calls.length (call args) (b.letThrough s permit w) reply u →
      ∃ t, b.Befalls s.calls.length (b.fateOf u.period reply) u t ∧
        (b.direct call args).run s.world = (reply, t.world)

/-- How a deferred call through the breaker goes: its start, and then its polls and its drop, between
which the traffic has gone on. One that is let through is lost if its start crashes. From then on it is
under way until it settles with its reply, or is dropped and lost. -/
structure PassesDeferred {W : Type} (b : Breaker) (s : Traffic) (call : Deferred W) : Prop where
  refused : ∀ {args : Args} {e : Fault} {w : World}, b.acquire.run s.world = (.error e, w) →
    b.Step s (b.next s w s.calls) ∧
      ((b.deferred call).start args).run s.world = (.ok (.refused e), w)
  afterRefusal : ∀ e,
    ((b.deferred call).poll (.refused e)).run s.world = (.done (.refusal e), s.world) ∧
    ((b.deferred call).drop (.refused e)).run s.world = ((), s.world)
  granted : ∀ {permit : Option Nat} {w : World}, b.acquire.run s.world = (.ok permit, w) →
    b.Befalls s.calls.length .underway s (b.letThrough s permit w)
  started : ∀ {args : Args} {permit : Option Nat} {w : World} {memory : W} {u : Traffic},
    b.acquire.run s.world = (.ok permit, w) →
    b.Inside s.calls.length (call.start args) (b.letThrough s permit w) (.ok memory) u →
      ((b.deferred call).start args).run s.world = (.ok (.running permit memory), u.world)
  crashed : ∀ {args : Args} {permit : Option Nat} {w : World} {text : String} {u : Traffic},
    b.acquire.run s.world = (.ok permit, w) →
    b.Inside s.calls.length (call.start args) (b.letThrough s permit w) (.error text) u →
      ∃ t, b.Befalls s.calls.length .lost u t ∧
        ((b.deferred call).start args).run s.world = (.error text, t.world)
  waited : ∀ {n : Nat} {passage : Passage} {memory later : W} {u : Traffic},
    s.calls[n]? = some passage → passage.fate = .underway →
    b.Inside n (call.poll memory) s (.waiting later) u →
      ((b.deferred call).poll (.running passage.permit memory)).run s.world =
        (.waiting (.running passage.permit later), u.world)
  settled : ∀ {n : Nat} {passage : Passage} {memory : W} {reply : Reply} {u : Traffic},
    s.calls[n]? = some passage → passage.fate = .underway →
    b.Inside n (call.poll memory) s (.done reply) u →
      ∃ t, b.Befalls n (b.fateOf u.period reply) u t ∧
        ((b.deferred call).poll (.running passage.permit memory)).run s.world =
          (.done reply, t.world)
  dropped : ∀ {n : Nat} {passage : Passage} {memory : W} {u : Traffic},
    s.calls[n]? = some passage → passage.fate = .underway →
    b.Inside n (call.drop memory) s () u →
      ∃ t, b.Befalls n .lost u t ∧
        ((b.deferred call).drop (.running passage.permit memory)).run s.world = ((), t.world)

variable {b : Breaker} {s t u : Traffic} {n : Nat} {passage : Passage} {permit : Option Nat}
  {w : World}

theorem Reachable.path (h : b.Reachable s) (path : b.Path s t) : b.Reachable t := by
  induction path with
  | refl => exact h
  | tail _ step ih => exact .next ih step

theorem befalls_grant (granted : b.acquire.run s.world = (.ok permit, w)) :
    b.Befalls s.calls.length .underway s (b.letThrough s permit w) where
  step := .grant granted
  here := by
    rw [letThrough, next, List.getElem?_concat_length]
    rfl
  others _ other := getElem?_concat_of_ne other

/-- A call under way settles with its reply. -/
theorem exists_befalls (here : s.calls[n]? = some passage) (running : passage.fate = .underway)
    (reply : Reply) :
    ∃ t, b.Befalls n (b.fateOf s.period reply) s t ∧
      (b.conclude passage.permit reply).run s.world = ((), t.world) := by
  obtain ⟨inside, -⟩ := List.getElem?_eq_some_iff.mp here
  cases reply with
  | ended o =>
    refine ⟨_, ⟨.finish here running o rfl, ?_, fun _ other => ?_⟩, rfl⟩
    · rw [next, List.getElem?_set_self inside]
      rfl
    · exact List.getElem?_set_ne other.symm
  | crashed text =>
    refine ⟨_, ⟨.lose here running rfl, ?_, fun _ other => ?_⟩, rfl⟩
    · rw [next, List.getElem?_set_self inside]
      rfl
    · exact List.getElem?_set_ne other.symm

/-- Code that leaves the circuit alone takes one step, elsewhere. -/
theorem Inside.elsewhere {A : Type} {act : Act A}
    (kept : (act.run s.world).2.circuits[b.cell]? = s.world.circuits[b.cell]?) (n : Nat) :
    b.Inside n act s (act.run s.world).1 (b.next s (act.run s.world).2 s.calls) :=
  ⟨.single (.elsewhere kept), rfl, rfl⟩

/-- A call that has been let through has its record while its own code runs. -/
theorem Inside.own {A : Type} {act : Act A} {a : A}
    (inside : b.Inside s.calls.length act (b.letThrough s permit w) a u) :
    u.calls[s.calls.length]? = some (b.admitted s permit w) :=
  inside.kept.trans List.getElem?_concat_length

theorem passes_direct (b : Breaker) (s : Traffic) (call : Direct) (args : Args) :
    b.Passes s call args where
  refused refused := by
    refine ⟨.refuse refused, ?_⟩
    simp only [direct, Act.run_bind_of refused]
    rfl
  granted := befalls_grant
  settled {permit w reply u} granted inside := by
    have ran : (call args).run w = (reply, u.world) := inside.ran
    obtain ⟨t, settled, concluded⟩ := exists_befalls (b := b) inside.own rfl reply
    refine ⟨t, settled, ?_⟩
    change (b.conclude permit reply).run u.world = ((), t.world) at concluded
    simp only [direct, Act.run_bind_of granted, Act.run_bind_of ran, Act.run_bind_of concluded]
    rfl

theorem passes_deferred {W : Type} (b : Breaker) (s : Traffic) (call : Deferred W) :
    b.PassesDeferred s call where
  refused refused := by
    refine ⟨.refuse refused, ?_⟩
    simp only [deferred, Act.run_bind_of refused]
    rfl
  afterRefusal _ := ⟨rfl, rfl⟩
  granted := befalls_grant
  started {args _ w memory u} granted inside := by
    have ran : (call.start args).run w = (.ok memory, u.world) := inside.ran
    simp only [deferred, Act.run_bind_of granted, Act.run_bind_of ran]
    rfl
  crashed {args permit w text u} granted inside := by
    have ran : (call.start args).run w = (.error text, u.world) := inside.ran
    obtain ⟨t, lost, concluded⟩ := exists_befalls (b := b) inside.own rfl (.crashed text)
    refine ⟨t, lost, ?_⟩
    change (b.abandon permit).run u.world = ((), t.world) at concluded
    simp only [deferred, Act.run_bind_of granted, Act.run_bind_of ran, Act.run_bind_of concluded]
    rfl
  waited _ _ inside := by
    simp only [deferred, Act.run_bind_of inside.ran]
    rfl
  settled {_ _ _ reply _} here running inside := by
    obtain ⟨t, settled, concluded⟩ := exists_befalls (b := b) (inside.kept.trans here) running reply
    refine ⟨t, settled, ?_⟩
    simp only [deferred, Act.run_bind_of inside.ran, Act.run_bind_of concluded]
    rfl
  dropped {_ _ _ u} here running inside := by
    obtain ⟨t, lost, concluded⟩ :=
      exists_befalls (b := b) (inside.kept.trans here) running (.crashed "")
    refine ⟨t, lost, ?_⟩
    simp only [deferred, Act.run_bind_of inside.ran]
    exact concluded

end Breaker

end CallGuard
