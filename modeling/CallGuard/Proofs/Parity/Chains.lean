import CallGuard.Proofs.Parity.Layers

/-!
# Series of calls through chains

The same calls, made one at a time, go the same way through a chain whether its method is direct or
deferred, and however the deferred ones are waited for. Main statement: `Chain.series_agree`.
-/

namespace CallGuard

/-- The method in the deferred shape. -/
def Method.suspended (m : Method) : Method := { m with shape := .deferred }

/-- The route of the method in the deferred shape. -/
def Route.suspended (r : Route) : Route := { r with method := r.method.suspended }

/-- The stage of a deferred method. Only a retry waits on the scheduler in any case. -/
def Stage.suspended {F : Type} (s : Scheduler) : Stage F → Stage F
  | .retry r _ => .retry r (some s)
  | stage => stage

/-- The chain of the method in the deferred shape. -/
def Chain.suspended (c : Chain) (s : Scheduler) : Chain where
  route := c.route.suspended
  service := c.service
  layers := c.layers.map (Stage.suspended s)

/-- The handler does not look at the shape of a method. -/
def Handler.IgnoresShape (h : Handler) : Prop :=
  ∀ m o, h.accepts (Method.suspended m) o = h.accepts m o

/-- The services that are made for the stage are plain. -/
def Substitute.MakesPlain : Substitute → Prop
  | .service _ => True
  | .made make => ∀ e, (make e).IsPlain

/-- The layer does not tell the shapes apart: it waits whole milliseconds for another attempt and for
nothing else, its handlers do not look at the shape, and its factories make plain services. -/
def Layer.IsEven : Layer → Prop
  | .exceptions _ | .breaker _ => True
  | .retry r _ => r.Paced
  | .limiter l _ => l.config.timeout = 0
  | .bulkhead b _ => b.config.maxWait = 0
  | .fallback stages =>
    ∀ stage ∈ stages, stage.handler.IgnoresShape ∧ stage.substitute.MakesPlain

/-- Services that the layer has called, apart from those that are made for it. -/
def Layer.Knows (number : Nat) : Layer → Prop
  | .fallback stages => ∃ stage ∈ stages, stage.substitute = .service number
  | _ => False

/-- Services that the chain has called, apart from those that are made for it. -/
def Chain.Knows (c : Chain) (number : Nat) : Prop :=
  number = c.service ∨ ∃ l ∈ c.layers, l.Knows number

namespace BoundFallback

variable {stages : List BoundFallback}

theorem select_suspended (m : Method) (o : Outcome)
    (blind : ∀ stage ∈ stages, stage.handler.IgnoresShape) :
    select m.suspended o stages = select m o stages := by
  induction stages with
  | nil => rfl
  | cons stage rest ih =>
    have asked : stage.handler.ask m.suspended o = stage.handler.ask m o := by
      unfold Handler.ask
      rw [blind stage List.mem_cons_self m o]
      rfl
    rw [select, select, asked, ih fun stage later => blind stage (List.mem_cons_of_mem _ later)]

theorem deferred_suspended {W : Type} (r : Route) (future : Deferred W)
    (blind : ∀ stage ∈ stages, stage.handler.IgnoresShape) :
    deferred r.suspended stages future = deferred r stages future := by
  have same : ∀ o, select r.suspended.method o stages = select r.method o stages :=
    fun o => select_suspended r.method o blind
  unfold deferred
  simp only [same]
  rfl

end BoundFallback

variable {S : Scope} {args : Args}

theorem Layer.parallels {W : Type} {future : Deferred W} {call : Direct} {l : Layer}
    (even : l.IsEven) (known : ∀ n, l.Knows n → S.reaches n) (r : Route)
    (reenter : Reentry → Act Reply) (h : future.Parallels call S args) :
    (Layer.deferred r.suspended (l.suspended S.scheduler) future).Parallels
      (l.direct r reenter call) S args := by
  cases l with
  | exceptions mappers => exact Mapper.parallels mappers h
  | retry retry _ => exact Retry.parallels even h
  | limiter limiter scheduler => exact limiter.parallels even scheduler h
  | breaker breaker => exact breaker.parallels h
  | bulkhead bulkhead scheduler => exact bulkhead.parallels even scheduler scheduler h
  | fallback stages =>
    have within : ∀ stage ∈ stages, stage.substitute.Within S := by
      intro stage mem
      cases kind : stage.substitute with
      | service number => exact known number ⟨stage, mem, kind⟩
      | made make =>
        have made := (even stage mem).2
        rw [kind] at made
        exact made
    have same := BoundFallback.deferred_suspended r future fun stage mem => (even stage mem).1
    change (BoundFallback.deferred r.suspended stages future).Parallels _ S args
    rw [same]
    exact BoundFallback.parallels r stages within reenter h

namespace Chain

/-- **Parallel chains.** Through any layers that do not tell the shapes apart, a deferred call goes
the way of the direct one. -/
theorem parallels_through {layers : List Layer} {service : Nat} (even : ∀ l ∈ layers, l.IsEven)
    (reached : S.reaches service) (known : ∀ l ∈ layers, ∀ n, l.Knows n → S.reaches n) (r : Route)
    (reenter : Reentry → Act Reply) :
    (deferredThrough r.suspended service (layers.map (Stage.suspended S.scheduler))).Parallels
      (directThrough r reenter service layers) S args := by
  induction layers with
  | nil => exact r.parallels reached reenter args
  | cons l inner ih =>
    have within := ih (fun l mem => even l (List.mem_cons_of_mem _ mem))
      fun l mem => known l (List.mem_cons_of_mem _ mem)
    exact Layer.parallels (even l List.mem_cons_self) (known l List.mem_cons_self) r reenter within

end Chain

/-- Makes the calls one after the other, each after a pause. -/
def Direct.series (call : Direct) : List (Nanos × Args) → Act (List Reply)
  | [] => return []
  | (pause, args) :: rest => do
    Act.sleep pause
    let reply ← call args
    return reply :: (← series call rest)

/-- The calls are made one after the other, each after a pause, and each is waited for. -/
inductive Deferred.Series {W : Type} (call : Deferred W) :
    List (Nanos × Args) → World → List Reply → World → Prop where
  | nil (w : World) : Series call [] w [] w
  | cons {pause : Nanos} {args : Args} {rest : List (Nanos × Args)} {w v u : World} {reply : Reply}
      {replies : List Reply}
      (lasted : call.Lasts ((call.opening args).run (w.pass pause)) (reply, v))
      (later : Series call rest v replies u) :
      Series call ((pause, args) :: rest) w (reply :: replies) u

namespace Deferred

/-- Parallel calls stay parallel one after the other. -/
theorem Parallels.series {W : Type} {future : Deferred W} {call : Direct}
    {calls : List (Nanos × Args)} (h : ∀ args, future.Parallels call S args)
    (whole : ∀ c ∈ calls, Nanos.perMilli ∣ c.1) :
    ∀ {w v}, Twins S w v →
      (∃ replies u, future.Series calls v replies u) ∧
      ∀ replies u, future.Series calls v replies u →
        replies = ((call.series calls).run w).1 ∧ Twins S ((call.series calls).run w).2 u := by
  induction calls with
  | nil =>
    intro w v twins
    refine ⟨⟨[], v, .nil v⟩, fun replies u series => ?_⟩
    cases series
    exact ⟨rfl, twins⟩
  | cons c rest ih =>
    intro w v twins
    obtain ⟨pause, args⟩ := c
    have paused := twins.pass (whole _ List.mem_cons_self)
    obtain ⟨o, between, ended, led, after⟩ := h args _ _ paused
    obtain ⟨⟨others, last, exist⟩, unique⟩ :=
      ih (fun c later => whole c (List.mem_cons_of_mem _ later)) after
    refine ⟨⟨_, last, .cons led.lasts exist⟩, fun replies u series => ?_⟩
    obtain - | ⟨lasted, later⟩ := series
    -- The call has only one end, and the later ones begin from there.
    obtain ⟨rfl, rfl⟩ := Prod.mk.inj (led.eq_of_lasts lasted)
    obtain ⟨rfl, done⟩ := unique _ _ later
    simp only [Direct.series, Act.run_bind, Act.run_sleep, Act.run_pure]
    exact ⟨by rw [ended], done⟩

end Deferred

theorem World.service_of_size_le {w : World} {n : Nat} (beyond : w.services.size ≤ n) :
    w.service n = ⟨"", [], 0⟩ := by
  unfold World.service
  rw [Array.getElem?_eq_none beyond]
  rfl

namespace Chain

/-- The services that a chain knows or has made later, and the scheduler on which it waits. -/
def scope (c : Chain) (s : Scheduler) (w : World) : Scope :=
  ⟨fun n => c.Knows n ∨ w.services.size ≤ n, s⟩

/-- Every world is its own twin, as far as the chain goes. -/
theorem twins_self {c : Chain} {s : Scheduler} {w : World}
    (plain : ∀ n, c.Knows n → (w.service n).IsPlain) (whole : Nanos.perMilli ∣ w.clock s) :
    Twins (c.scope s w) w w where
  same := rfl
  whole := whole
  plain n reached := by
    rcases reached with known | beyond
    · exact plain n known
    · rw [World.service_of_size_le beyond]
      exact fun p none => absurd none List.not_mem_nil
  fresh n beyond := .inr beyond

/-- Calls that are made one after the other come to an end in the deferred shape, and however they are
waited for they have the replies that they have in the direct shape, and leave the world in which
direct calls leave it, but for the delays that they have asked for. -/
theorem series_agree {c : Chain} {s : Scheduler} (even : ∀ l ∈ c.layers, l.IsEven)
    (reenter : Reentry → Act Reply) {w : World} {calls : List (Nanos × Args)}
    (plain : ∀ n, c.Knows n → (w.service n).IsPlain) (whole : Nanos.perMilli ∣ w.clock s)
    (pauses : ∀ call ∈ calls, Nanos.perMilli ∣ call.1) :
    (∃ replies v, (c.suspended s).deferred.Series calls w replies v) ∧
    ∀ replies v, (c.suspended s).deferred.Series calls w replies v →
      replies = (((c.direct reenter).series calls).run w).1 ∧
      v.withoutDelays = (((c.direct reenter).series calls).run w).2.withoutDelays := by
  have parallel : ∀ args,
      (c.suspended s).deferred.Parallels (c.direct reenter) (c.scope s w) args := by
    intro args
    refine parallels_through (S := c.scope s w) even (.inl (.inl rfl)) ?_ c.route reenter
    exact fun l mem n known => .inl (.inr ⟨l, mem, known⟩)
  obtain ⟨ends, unique⟩ := Deferred.Parallels.series parallel pauses (twins_self plain whole)
  refine ⟨ends, fun replies v series => ?_⟩
  obtain ⟨same, twins⟩ := unique replies v series
  exact ⟨same, twins.same⟩

end Chain

end CallGuard
