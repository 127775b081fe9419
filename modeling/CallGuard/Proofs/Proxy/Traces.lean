import CallGuard.Proofs.Chain.Law
import CallGuard.Proofs.Proxy.Caching

/-!
# What calls leave in the journal

The deeds of a call are read off the entries that it has written. A direct call shares its stretch of
the journal with the calls that come from within it; its own deeds are those outside of the calls of
services. Main statements: `Chain.account_of_does` and `Proxy.does_call`.
-/

namespace CallGuard

/-- The outcome of a call that has not crashed. -/
def Reply.outcome? : Reply → Option Outcome
  | .ended o => some o
  | .crashed _ => none

theorem Account.On.outcome {A : Account} {σ : List Deed} {reply : Reply} (went : A.On σ reply) :
    A σ reply.outcome? := by
  cases reply with
  | ended o => exact went
  | crashed text => exact went

namespace Deed

/-- In how many calls of services one is after the deed. -/
def deepen (depth : Nat) : Deed → Nat
  | .called _ => depth + 1
  | .replied .. => depth - 1
  | _ => depth

/-- The deeds outside of calls of services, with these calls and their replies; one starts that deep
in such calls. -/
def own (depth : Nat) : List Deed → List Deed
  | [] => []
  | d :: rest => (if min depth (d.deepen depth) = 0 then [d] else []) ++ own (d.deepen depth) rest

/-- The second deeds are what is left of the first when what is done within calls of services is left
out, all of which have their replies. -/
inductive Outlines : List Deed → List Deed → Prop where
  | nil : Outlines [] []
  | plain {d : Deed} {σ τ : List Deed} (plain : ∀ depth, d.deepen depth = depth)
      (rest : Outlines σ τ) : Outlines (d :: σ) (d :: τ)
  | call {service : Nat} {reply : Reply} {inside shown σ τ : List Deed}
      (within : Outlines inside shown) (rest : Outlines σ τ) :
      Outlines (.called service :: (inside ++ .replied service reply :: σ))
        (.called service :: .replied service reply :: τ)

theorem Outlines.append {σ σ' τ τ' : List Deed} (first : Outlines σ τ) (second : Outlines σ' τ') :
    Outlines (σ ++ σ') (τ ++ τ') := by
  induction first with
  | nil => exact second
  | plain plain _ ih => exact .plain plain ih
  | call within _ _ ih =>
    rw [List.cons_append, List.append_assoc]
    exact .call within ih

theorem Outlines.of_plain {σ : List Deed} (plain : ∀ d ∈ σ, ∀ depth, d.deepen depth = depth) :
    Outlines σ σ := by
  induction σ with
  | nil => exact .nil
  | cons d rest ih =>
    obtain ⟨first, others⟩ := List.forall_mem_cons.mp plain
    exact .plain first (ih others)

/-- What is outlined is what is done outside of calls, and ends where it has started. -/
theorem Outlines.own_append {σ τ : List Deed} (outlines : Outlines σ τ) (rest : List Deed) :
    own 0 (σ ++ rest) = τ ++ own 0 rest ∧
      ∀ depth, own (depth + 1) (σ ++ rest) = own (depth + 1) rest := by
  induction outlines generalizing rest with
  | nil => exact ⟨rfl, fun _ => rfl⟩
  | plain plain _ ih =>
    constructor
    · simp [own, plain, (ih rest).1]
    · intro depth
      simp [own, plain, (ih rest).2]
  | @call service reply inside shown σ τ _ _ inner ih =>
    have within := (inner (.replied service reply :: (σ ++ rest))).2
    constructor
    · simp [own, deepen, within, (ih rest).1]
    · intro depth
      simp [own, deepen, within, (ih rest).2]

theorem Outlines.own_eq {σ τ : List Deed} (outlines : Outlines σ τ) : own 0 σ = τ := by
  have all := (outlines.own_append []).1
  simpa [own] using all

/-- A direct call whose target calls back is seen from outside. -/
example : own 0 [.granted .limiter, .called 0, .granted .breaker, .called 1,
    .replied 1 (.crashed ""), .replied 0 (.crashed ""), .told .ignoredFault] =
      [.granted .limiter, .called 0, .replied 0 (.crashed ""), .told .ignoredFault] := by decide

end Deed

theorem Entry.IsPlain.deepen {e : Entry} (plain : e.IsPlain) {d : Deed} (deed : e.deed? = some d)
    (depth : Nat) : d.deepen depth = depth := by
  cases e with
  | called | replied => exact plain.elim
  | emitted e =>
    obtain ⟨guard, time, h⟩ := e
    cases h <;> cases deed <;> rfl
  | permissionAsked breaker granted => cases granted <;> cases deed <;> rfl
  | _ => cases deed <;> rfl

theorem Entry.IsBuilding.deed? {e : Entry} (building : e.IsBuilding) : e.deed? = none := by
  cases e <;> first | rfl | exact building.elim

namespace View

/-- Of what is written is seen what is not done within calls of services. -/
def outside : View where
  sees w v σ := ∃ entries, v.history = w.history ++ entries ∧
    Deed.Outlines (entries.filterMap Entry.deed?) σ
  trans := by
    rintro u w v _ _ ⟨before, begun, first⟩ ⟨after, ended, second⟩
    refine ⟨before ++ after, ?_, ?_⟩
    · rw [ended, begun, List.append_assoc]
    · rw [List.filterMap_append]
      exact first.append second
  plain entries _ wrote plain := by
    refine ⟨entries, wrote, .of_plain ?_⟩
    intro d mem depth
    obtain ⟨e, written, deed⟩ := List.mem_filterMap.mp mem
    exact (plain e written).deepen deed depth

theorem encloses_outside : outside.Encloses := by
  rintro w x y v σ e service reply called - begun ⟨entries, grown, within⟩ - ended
  refine ⟨e :: (entries ++ [.replied service reply]), ?_, ?_⟩
  · rw [ended, grown, begun]
    simp
  · have deeds : (e :: (entries ++ [.replied service reply])).filterMap Entry.deed? =
        .called service :: (entries.filterMap Entry.deed? ++ [.replied service reply]) := by
      rw [List.filterMap_cons_some called, List.filterMap_append]
      rfl
    rw [deeds]
    exact .call within .nil

theorem sees_outside {w v : World} {σ : List Deed} {entries : List Entry}
    (seen : outside.sees w v σ) (wrote : v.history = w.history ++ entries) :
    Deed.own 0 (entries.filterMap Entry.deed?) = σ := by
  obtain ⟨written, grown, outlines⟩ := seen
  cases List.append_cancel_left (wrote.symm.trans grown)
  exact outlines.own_eq

end View

/-- No deeds come of building a chain or of finding it. -/
theorem Proxy.tells_chain (n : Nat) (r : Route) :
    (chain n r).run.Tells View.outside fun _ _ => True := by
  intro w
  refine ⟨[], ?_, trivial⟩
  rw [run_chain rfl]
  split
  next => split <;> exact ⟨[], (List.append_nil _).symm, .nil⟩
  next =>
    obtain ⟨_, _, _, seeks, _⟩ := stops_of_build (Prod.eta ((Proxy.build _ r).run.run w)).symm
    obtain ⟨entries, grown, building, -⟩ := seeks.wrote
    have silent : entries.filterMap Entry.deed? = [] :=
      List.filterMap_eq_nil_iff.mpr fun e mem => (building e mem).deed?
    refine ⟨entries, ?_, by rw [silent]; exact .nil⟩
    rw [← grown]
    generalize (Proxy.build _ r).run.run w = built
    obtain ⟨_ | c, u⟩ := built <;> rfl

namespace Chain

/-- These are the deeds of a call through the chain that has come to the outcome, or that has none: it
has crashed, or is still on its way or was dropped there. -/
inductive Does (c : Chain) (args : Args) : List Deed → Option Outcome → Prop where
  | direct {w v : World} {entries : List Entry} {reply : Reply}
      (ran : (Proxy.run c args).run w = (reply, v)) (wrote : v.history = w.history ++ entries) :
      Does c args (Deed.own 0 (entries.filterMap Entry.deed?)) reply.outcome?
  | stillborn {w v : World} {entries : List Entry} {text : String}
      (started : (c.deferred.start args).run w = (.error text, v))
      (wrote : v.history = w.history ++ entries) :
      Does c args (entries.filterMap Entry.deed?) none
  | underway {entries : List Entry} {m : Memory c.layers}
      (reached : c.deferred.Reached args entries m) :
      Does c args (entries.filterMap Entry.deed?) none
  | deferred {w v : World} {m : Memory c.layers} {entries more : List Entry} {reply : Reply}
      (reached : c.deferred.Reached args entries m)
      (polled : (c.deferred.poll m).run w = (.done reply, v))
      (wrote : v.history = w.history ++ more) :
      Does c args ((entries ++ more).filterMap Entry.deed?) reply.outcome?

end Chain

/-- **What a call leaves in the journal is what its account says.** -/
theorem Chain.account_of_does {c : Chain} {args : Args} {σ : List Deed} {end? : Option Outcome}
    (does : c.Does args σ end?) : account c.route.method c.service c.layers σ end? := by
  obtain ⟨T, h⟩ := c.exists_obeys_whole args
  cases does with
  | @direct w v entries reply ran wrote =>
    obtain ⟨σ, seen, went⟩ := Proxy.tells_run View.encloses_outside Proxy.tells_chain c args w
    rw [ran] at seen went
    rw [View.sees_outside seen wrote]
    exact went.outcome
  | @stillborn w v entries text started wrote =>
    obtain ⟨σ, seen, begun⟩ := h.start w
    rw [started] at seen begun
    rw [View.sees_whole seen wrote]
    exact begun
  | underway reached => exact h.unended (h.reached reached)
  | deferred reached polled wrote => exact (h.replied reached polled wrote).outcome

/-- The deeds that a call of the shape has written in the entries. -/
def Shape.deeds (shape : Shape) (entries : List Entry) : List Deed :=
  match shape with
  | .direct => Deed.own 0 (entries.filterMap Entry.deed?)
  | .deferred => entries.filterMap Entry.deed?

/-- To wait for a deferred call is to poll it, and nothing is done between the polls. -/
theorem Chain.does_awaitWithin {c : Chain} {args : Args} {T : Track (Memory c.layers)}
    {A : Account} (h : c.deferred.Obeys args .whole A T) (n : Nat) {begun : List Entry}
    {m : Memory c.layers} (reached : c.deferred.Reached args begun m) (u : World) :
    ∃ entries, ((c.deferred.awaitWithin n m).run u).2.history = u.history ++ entries ∧
      c.Does args ((begun ++ entries).filterMap Entry.deed?)
        ((c.deferred.awaitWithin n m).run u).1.outcome? := by
  induction n generalizing begun m u with
  | zero => exact ⟨[], (List.append_nil _).symm, by rw [List.append_nil]; exact .underway reached⟩
  | succ n ih =>
    obtain ⟨_, ⟨more, grown, -⟩, -⟩ := h.poll (h.reached reached) u
    rw [Deferred.awaitWithin, Act.run_bind]
    cases polled : (c.deferred.poll m).run u with
    | mk progress v =>
      rw [polled] at grown
      cases progress with
      | done reply => exact ⟨more, grown, .deferred reached polled grown⟩
      | waiting next =>
        have further := reached.poll polled grown
        dsimp only
        cases c.deferred.timer next with
        | none => exact ⟨more, grown, .underway further⟩
        | some timer =>
          obtain ⟨rest, ended, does⟩ := ih further (v.outwait timer)
          refine ⟨more ++ rest, ?_, by rw [← List.append_assoc]; exact does⟩
          rw [← List.append_assoc, ← grown, ← v.history_outwait timer]
          exact ended

/-- To wait for a deferred call is to start it and to poll it. -/
theorem Chain.does_await (c : Chain) (args : Args) (u : World) :
    ∃ entries, ((c.deferred.await args).run u).2.history = u.history ++ entries ∧
      c.Does args (entries.filterMap Entry.deed?) ((c.deferred.await args).run u).1.outcome? := by
  obtain ⟨T, h⟩ := c.exists_obeys_whole args
  obtain ⟨_, ⟨begun, grown, -⟩, -⟩ := h.start u
  rw [Deferred.await, Act.run_bind]
  cases started : (c.deferred.start args).run u with
  | mk result x =>
    rw [started] at grown
    cases result with
    | error text => exact ⟨begun, grown, .stillborn started grown⟩
    | ok m =>
      obtain ⟨more, further, does⟩ :=
        does_awaitWithin h Deferred.waitLimit (.start started grown) x
      refine ⟨begun ++ more, ?_, does⟩
      rw [← List.append_assoc, ← grown]
      exact further

/-- What a proxy does for a call when it has found the chain is what such a call does. -/
theorem Proxy.does_call {n : Nat} {r : Route} {w u : World} {c : Chain}
    (found : (chain n r).run.run w = (.ok c, u)) (args : Args) :
    ∃ entries, ((call n r args).run w).2.history = u.history ++ entries ∧
      c.Does args (c.route.method.shape.deeds entries) ((call n r args).run w).1.outcome? := by
  have found : (chain n r).run.run w = (.ok c, u) := found
  rw [call, Act.run_bind, found]
  dsimp only
  cases c.route.method.shape with
  | direct =>
    obtain ⟨_, ⟨entries, grown, -⟩, -⟩ := tells_run View.encloses_outside tells_chain c args u
    exact ⟨entries, grown, .direct (Prod.eta ((run c args).run u)).symm grown⟩
  | deferred => exact c.does_await args u

end CallGuard
