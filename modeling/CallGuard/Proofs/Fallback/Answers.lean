import CallGuard.Proofs.Chain.Built
import CallGuard.Proofs.Context.Series
import CallGuard.Proofs.Retry.Attempts

/-!
# The first stage that accepts answers

A list of fallback stages is asked about one outcome, from the first stage on and no further than to
the one that accepts. `Selects` says which questions are written down and which service is found, and
`Answers` what becomes of the reply of the guarded call; both are read off the two shapes of calls.
Main statement: `BoundFallback.first_accepting_answers`.
-/

namespace CallGuard

namespace Substitute

/-- The service to call, and the world once it is there. -/
def provided (s : Substitute) (e : Option Fault) (w : World) : Nat × World :=
  match s with
  | service number => (number, w)
  | made make =>
    let asked := w.append [.factoryAsked e]
    (asked.services.size, { asked with services := asked.services.push (make e) })

theorem run_provide (s : Substitute) (e : Option Fault) (w : World) :
    (s.provide e).run w = s.provided e w := by
  cases s with
  | service number => rfl
  | made make =>
    rw [provide, Act.run_bind, Act.run_write]
    rfl

end Substitute

namespace BoundFallback

variable {m : Method} {o : Outcome} {stages declined later : List BoundFallback}
  {stage : BoundFallback} {w v : World} {found : Option Nat}

/-- What is written down when the stage is asked about the outcome. -/
def question (m : Method) (o : Outcome) (stage : BoundFallback) : Entry :=
  .handlerAsked stage.handler.announced m.display o

/-- Nobody accepts the outcome and no service is found, or the service of the first stage that does.
Nobody after that stage is asked, and no other factory either. -/
inductive Selects (m : Method) (o : Outcome) (stages : List BoundFallback) (w : World) :
    Option Nat → World → Prop where
  | nobody (refused : ∀ stage ∈ stages, stage.handler.accepts m o = false) :
      Selects m o stages w none (w.append (stages.map (question m o)))
  | first {declined later : List BoundFallback} {stage : BoundFallback}
      (order : stages = declined ++ stage :: later)
      (refused : ∀ stage ∈ declined, stage.handler.accepts m o = false)
      (accepts : stage.handler.accepts m o = true) {service : Nat} {v : World}
      (provided : stage.substitute.provided o.fault?
        (w.append ((declined ++ [stage]).map (question m o))) = (service, v)) :
      Selects m o stages w (some service) v

theorem run_ask (m : Method) (o : Outcome) (stage : BoundFallback) (w : World) :
    (stage.handler.ask m o).run w =
      (stage.handler.accepts m o, w.append [stage.question m o]) := by
  rw [Handler.ask, Act.run_bind, Act.run_write, Act.run_pure]
  rfl

theorem run_select_refused (refused : stage.handler.accepts m o = false) (w : World) :
    (select m o (stage :: later)).run w =
      (select m o later).run (w.append [stage.question m o]) := by
  simp only [select, Act.run_bind, run_ask, refused, Bool.false_eq_true, if_false]

theorem run_select_nobody (refused : ∀ stage ∈ stages, stage.handler.accepts m o = false)
    (w : World) :
    (select m o stages).run w = (none, w.append (stages.map (question m o))) := by
  induction stages generalizing w with
  | nil => rw [select, Act.run_pure, List.map_nil, World.append_nil]
  | cons stage later ih =>
    obtain ⟨here, there⟩ := List.forall_mem_cons.mp refused
    rw [run_select_refused here, ih there, World.append_append]
    rfl

theorem run_select_first (refused : ∀ stage ∈ declined, stage.handler.accepts m o = false)
    (accepts : stage.handler.accepts m o = true) (w : World) :
    (select m o (declined ++ stage :: later)).run w =
      let provided := stage.substitute.provided o.fault?
        (w.append ((declined ++ [stage]).map (question m o)))
      (some provided.1, provided.2) := by
  induction declined generalizing w with
  | nil =>
    simp only [List.nil_append, select, Act.run_bind, run_ask, accepts, if_true,
      Substitute.run_provide, Act.run_pure]
    rfl
  | cons before declined ih =>
    obtain ⟨here, there⟩ := List.forall_mem_cons.mp refused
    rw [List.cons_append, run_select_refused here, ih there, World.append_append]
    rfl

theorem run_select_iff : (select m o stages).run w = (found, v) ↔ Selects m o stages w found v := by
  constructor
  · intro ran
    cases first : stages.find? fun stage => stage.handler.accepts m o with
    | none =>
      have refused := List.find?_eq_none.mp first
      simp only [Bool.not_eq_true] at refused
      rw [run_select_nobody refused] at ran
      cases ran
      exact .nobody refused
    | some stage =>
      obtain ⟨accepts, declined, later, rfl, refused⟩ := List.find?_eq_some_iff_append.mp first
      simp only [Bool.not_eq_true'] at refused
      rw [run_select_first refused accepts] at ran
      cases ran
      exact .first rfl refused accepts rfl
  · rintro (refused | ⟨rfl, refused, accepts, provided⟩)
    · exact run_select_nobody refused w
    · rw [run_select_first refused accepts]
      simp only [provided]

/-- What becomes of the reply of the guarded call. A crash passes, and so does an outcome that nobody
accepts; otherwise the service that is found is called once, and its reply is that of the call. -/
inductive Answers (m : Method) (stages : List BoundFallback)
    (serves : Nat → World → Reply → World → Prop) : Reply → World → Reply → World → Prop where
  | crashed (text : String) (w : World) : Answers m stages serves (.crashed text) w (.crashed text) w
  | kept {o : Outcome} {w v : World} (selects : Selects m o stages w none v) :
      Answers m stages serves (.ended o) w (.ended o) v
  | substituted {o : Outcome} {w u v : World} {service : Nat} {reply : Reply}
      (selects : Selects m o stages w (some service) u) (served : serves service u reply v) :
      Answers m stages serves (.ended o) w reply v

variable {serves : Nat → World → Reply → World → Prop} {reply : Reply}

/-- The reply is settled when it is known whose service is called, if any. -/
theorem answers_ended_iff : Answers m stages serves (.ended o) w reply v ↔
    match (select m o stages).run w with
      | (none, u) => (Reply.ended o, u) = (reply, v)
      | (some service, u) => serves service u reply v := by
  cases ran : (select m o stages).run w with
  | mk found u =>
    constructor
    · rintro (_ | selects | ⟨selects, served⟩)
      · cases ran.symm.trans (run_select_iff.mpr selects)
        rfl
      · cases ran.symm.trans (run_select_iff.mpr selects)
        exact served
    · intro settled
      cases found with
      | none =>
        cases settled
        exact .kept (run_select_iff.mp ran)
      | some service => exact .substituted (run_select_iff.mp ran) settled

theorem answers_crashed_iff {text : String} :
    Answers m stages serves (.crashed text) w reply v ↔ (Reply.crashed text, w) = (reply, v) := by
  constructor
  · rintro ⟨⟩
    rfl
  · rintro ⟨⟩
    exact .crashed text w

variable (r : Route) (stages)

/-- A direct call ends as its outcome is answered. -/
theorem run_direct_iff (reenter : Reentry → Act Reply) (call : Direct) (args : Args) :
    (direct r reenter stages call args).run w = (reply, v) ↔
      ∃ last u, (call args).run w = (last, u) ∧
        Answers r.method stages
          (fun service u reply v => (r.direct reenter service args).run u = (reply, v))
          last u reply v := by
  rw [direct, Act.run_bind_iff]
  apply exists_congr
  intro last
  apply exists_congr
  intro u
  apply and_congr_right
  intro _
  cases last with
  | crashed text => exact answers_crashed_iff.symm
  | ended o =>
    rw [answers_ended_iff, Act.run_bind]
    obtain ⟨_ | service, t⟩ := (select r.method o stages).run u
    · rfl
    · rfl

/-- A deferred call goes to the end to which its outcome is answered. -/
theorem goes_iff {W : Type} (future : Deferred W) (args : Args) (progress : Progress W × World) :
    (deferred r stages future).Goes ((onward r stages args progress.1).run progress.2) (reply, v) ↔
      ∃ last u, future.Goes progress (last, u) ∧
        Answers r.method stages
          (fun service u reply v =>
            (r.deferred service).Goes (((r.deferred service).opening args).run u) (reply, v))
          last u reply v := by
  have wraps : (deferred r stages future).Wraps future (.trying args) (onward r stages args) :=
    ⟨fun _ => rfl, fun _ => rfl⟩
  rw [wraps.goes_iff]
  apply exists_congr
  intro last
  apply exists_congr
  intro u
  apply and_congr_right
  intro _
  cases last with
  | crashed text =>
    rw [onward, Act.run_pure, Deferred.goes_done_iff, answers_crashed_iff]
    exact eq_comm
  | ended o =>
    rw [onward_ended, answers_ended_iff, Act.run_bind]
    obtain ⟨_ | service, t⟩ := (select r.method o stages).run u
    · rw [Act.run_pure, Deferred.goes_done_iff]
      exact eq_comm
    · have relays : (deferred r stages future).Wraps (r.deferred service) .replaced relay :=
        ⟨fun _ => rfl, fun _ => rfl⟩
      rw [Act.run_bind, relays.goes_iff]
      constructor
      · rintro ⟨answer, x, goes, ended⟩
        rw [relay, Act.run_pure, Deferred.goes_done_iff] at ended
        rwa [ended]
      · intro goes
        exact ⟨reply, v, goes, .done reply v⟩

end BoundFallback

/-! ### What the stages are made of -/

/-- The stage as it is bound to the method: with its own handler, and with the service or the factory
that its source names. A managed service is the one that the context has for its type. -/
inductive FallbackStage.Binds (context : Nat) (m : Method) : FallbackStage → BoundFallback → Prop where
  | managed {ref : InstanceRef} {handler : Handler} {number : Nat} {u v : World}
      (found : (ref.lookup context).run.run u = (.ok (.service m.interface number), v)) :
      Binds context m ⟨.managed ref, handler⟩ ⟨.service number, handler⟩
  | given (type : String) (number : Nat) (handler : Handler) :
      Binds context m ⟨.given type m.interface number, handler⟩ ⟨.service number, handler⟩
  | made (type : String) (make : Option Fault → Service) (handler : Handler) :
      Binds context m ⟨.made type ⟨m.interface, make⟩, handler⟩ ⟨.made make, handler⟩

/-- A stage that is bound falls back to something that implements the interface of the method. -/
theorem ResolvedFallback.of_bind {m : Method} {s : ResolvedFallback} {bound : BoundFallback}
    (fits : s.bind m = .ok bound) :
    (∃ number, s.alternative = .instance (.service m.interface number) ∧
      bound = ⟨.service number, s.handler⟩) ∨
    ∃ make, s.alternative = .factory ⟨m.interface, make⟩ ∧ bound = ⟨.made make, s.handler⟩ := by
  obtain ⟨type, alternative, handler⟩ := s
  unfold bind substitute? at fits
  rcases alternative with (⟨interface, number⟩ | _ | _ | _ | _ | _) | ⟨interface, make⟩
  case factory =>
    by_cases same : interface = m.interface
    · subst same
      simp only [if_true, Except.ok.injEq] at fits
      exact .inr ⟨make, rfl, fits.symm⟩
    · simp [same] at fits
  case instance.service =>
    by_cases same : interface = m.interface
    · subst same
      simp only [if_true, Except.ok.injEq] at fits
      exact .inl ⟨number, rfl, fits.symm⟩
    · simp [same] at fits
  all_goals cases fits

namespace FallbackStage

variable {context : Nat} {m : Method} {u v : World}

theorem binds_of_resolve {s : FallbackStage} {resolved : ResolvedFallback} {bound : BoundFallback}
    (ran : (s.resolve context).run.run u = (.ok resolved, v)) (fits : resolved.bind m = .ok bound) :
    s.Binds context m bound := by
  obtain ⟨source, handler⟩ := s
  obtain ⟨alternative, w, found, made⟩ := Build.bind_ok_iff.mp ran
  cases made
  cases source with
  | managed ref =>
    obtain ⟨i, x, looked, made⟩ := Build.bind_ok_iff.mp found
    cases made
    obtain ⟨number, is, rfl⟩ | ⟨make, is, -⟩ := ResolvedFallback.of_bind fits
    · cases is
      exact .managed looked
    · cases is
  | given type interface service =>
    cases found
    obtain ⟨number, is, rfl⟩ | ⟨make, is, -⟩ := ResolvedFallback.of_bind fits
    · cases is
      exact .given type _ handler
    · cases is
  | made type factory =>
    cases found
    obtain ⟨number, is, -⟩ | ⟨make, is, rfl⟩ := ResolvedFallback.of_bind fits
    · cases is
    · cases is
      exact .made type make handler

theorem binds_of_mapM {stages : List FallbackStage} {found : List ResolvedFallback}
    {bound : List BoundFallback}
    (resolves : List.Forall₂ (fun s f => ∃ u v, (resolve context s).run.run u = (.ok f, v))
      stages found)
    (fits : found.mapM (·.bind m) = .ok bound) : List.Forall₂ (Binds context m) stages bound := by
  induction resolves generalizing bound with
  | nil =>
    cases fits
    exact .nil
  | @cons stage first stages found ran _ ih =>
    obtain ⟨u, v, ran⟩ := ran
    rw [List.mapM_cons] at fits
    cases front : first.bind m with
    | error e =>
      rw [front] at fits
      cases fits
    | ok b =>
      cases rest : found.mapM (·.bind m) with
      | error e =>
        rw [front, rest] at fits
        cases fits
      | ok bs =>
        rw [front, rest] at fits
        cases fits
        exact .cons (binds_of_resolve ran front) (ih rest)

/-- Stages are bound one for one and in their order. -/
theorem exists_bound {stages : List FallbackStage} {resolved : ResolvedStage} {layer : Layer}
    (ran : ((Policy.fallback stages).resolve context m).run.run u = (.ok resolved, v))
    (fits : resolved.bind m = .ok layer) :
    ∃ bound, layer = .fallback bound ∧ List.Forall₂ (Binds context m) stages bound := by
  obtain ⟨found, w, each, made⟩ := Build.bind_ok_iff.mp ran
  cases made
  have resolves := (Build.mapM_ok_iff.mp each).forall₂
  obtain ⟨bound, binds, rfl⟩ := ResolvedStage.exists_of_bind_fallback fits
  exact ⟨bound, rfl, binds_of_mapM resolves binds⟩

end FallbackStage

namespace BoundFallback

/-- **The first stage that accepts answers.** Around a call of either shape, the stages are asked about
its outcome in their order and no further than to the first that accepts; the service of that stage is
called once, with the arguments of the call, and its reply is that of the call, about which nobody is
asked. A factory is asked when its stage accepts, and at no other time: not while the stages are being
resolved and bound either, which become in their order what their sources name. -/
theorem first_accepting_answers (r : Route) (stages : List BoundFallback) (args : Args) :
    (∀ (reenter : Reentry → Act Reply) (call : Direct) (w : World) (reply : Reply) (v : World),
      (direct r reenter stages call args).run w = (reply, v) ↔
        ∃ last u, (call args).run w = (last, u) ∧
          Answers r.method stages
            (fun service u reply v => (r.direct reenter service args).run u = (reply, v))
            last u reply v) ∧
    (∀ {W : Type} (future : Deferred W),
      (∀ w, ((deferred r stages future).start args).run w =
        (((future.start args).run w).1.map (Replacing.trying args), ((future.start args).run w).2)) ∧
      ∀ (memory : W) (w : World) (reply : Reply) (v : World),
        (deferred r stages future).Goes (.waiting (.trying args memory), w) (reply, v) ↔
          ∃ last u, future.Goes (.waiting memory, w) (last, u) ∧
            Answers r.method stages
              (fun service u reply v =>
                (r.deferred service).Goes (((r.deferred service).opening args).run u) (reply, v))
              last u reply v) ∧
    ∀ (declared : List FallbackStage) (context : Nat) (u v : World) (resolved : ResolvedStage)
      (layer : Layer),
      ((Policy.fallback declared).resolve context r.method).run.run u = (.ok resolved, v) →
      resolved.bind r.method = .ok layer →
        (∃ bound, layer = .fallback bound ∧
          List.Forall₂ (FallbackStage.Binds context r.method) declared bound) ∧
        ∃ entries, v.history = u.history ++ entries ∧ ∀ e ∈ entries, ∀ o, e ≠ .factoryAsked o := by
  refine ⟨?_, ?_, ?_⟩
  · intro reenter call w reply v
    exact run_direct_iff stages r reenter call args
  · intro W future
    constructor
    · intro w
      rw [deferred, Act.run_bind]
      cases ((future.start args).run w).1 <;> rfl
    · intro memory w reply v
      exact goes_iff stages r future args (.waiting memory, w)
  · intro declared context u v resolved layer ran fits
    have made := Policy.makes_resolve context r.method (.fallback declared) u
    rw [ran] at made
    obtain ⟨entries, wrote, making⟩ := made.wrote
    refine ⟨FallbackStage.exists_bound ran fits, entries, wrote, ?_⟩
    rintro e mem o rfl
    exact making _ mem

/-- A value is wanted by the first stage, an input or output fault by the second, and any fault by the
third. -/
def graded : List BoundFallback :=
  [⟨.service 1, .onValue fun _ => true⟩,
    ⟨.made fun e => ⟨"made", [.ofEnding (if e.isSome then .fault (.missing "spare") else .echo)], 0⟩,
      .ofKind .io⟩,
    ⟨.service 1, .anyFault⟩]

/-- The service fails. -/
def closed : World :=
  { World.empty with
    services := #[⟨"first", [.ofEnding (.fault (.io "closed"))], 0⟩, ⟨"second", [], 0⟩] }

/-- The first two stages are asked. The second has a service made for the fault, and the fault of that
service leaves, although the third stage would have it replaced. -/
theorem first_accepting_answers_graded :
    let call := Catalog.get.direct (fun _ => pure (.crashed "")) 0
    let replaced := direct Catalog.get (fun _ => pure (.crashed "")) graded call ⟨"key", 0⟩
    (replaced.run closed).1 = .ended (.fault (.missing "spare")) ∧
      (replaced.run closed).2.history =
        [.called 0 0 "first" "get" ⟨"key", 0⟩, .replied 0 (.ended (.fault (.io "closed"))),
          .handlerAsked false "Svc::get(String)" (.fault (.io "closed")),
          .handlerAsked false "Svc::get(String)" (.fault (.io "closed")),
          .factoryAsked (some (.io "closed")), .called 0 2 "made" "get" ⟨"key", 0⟩,
          .replied 2 (.ended (.fault (.missing "spare")))] ∧
      ∃ last u, (call ⟨"key", 0⟩).run closed = (last, u) ∧
        Answers Catalog.get.method graded
          (fun service u reply v =>
            (Catalog.get.direct (fun _ => pure (.crashed "")) service ⟨"key", 0⟩).run u = (reply, v))
          last u (replaced.run closed).1 (replaced.run closed).2 := by
  intro call replaced
  obtain ⟨direct, -⟩ := first_accepting_answers Catalog.get graded ⟨"key", 0⟩
  refine ⟨by decide +kernel, by decide +kernel, ?_⟩
  exact (direct _ call closed _ _).mp rfl

end BoundFallback

end CallGuard
