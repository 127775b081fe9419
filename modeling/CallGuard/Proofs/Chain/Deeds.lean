import CallGuard.Chain.Stage
import CallGuard.Proofs.Acts

/-!
# Deeds

What the stages of a chain do, as far as it decides how a call ends: which calls of services were
made and answered, who let a call through and who refused it, what a breaker recorded and a retry
announced, and what handlers, factories and mappers were asked. A `Deed` is one of these, and
`Act.Tells` says which deeds an act does, in any world. What is seen of
them is left open to a `View`, since the code of a service may do deeds of its own.
-/

namespace CallGuard

inductive Deed where
  | called (service : Nat)
  | replied (service : Nat) (r : Reply)
  /-- The stage of the capability let the call through. -/
  | granted (c : Capability)
  /-- A breaker was asked for a permission in vain. -/
  | denied
  /-- A stage refused the call with the fault. -/
  | refused (e : Fault)
  /-- A breaker recorded a success or a failure. -/
  | recorded (failed : Bool)
  /-- A retry announced how it goes on or ends. -/
  | told (h : Happening)
  | handlerAsked (o : Outcome)
  | factoryAsked (e : Option Fault)
  | mapperAsked (mapper : String) (e : Fault)
  deriving DecidableEq, Repr

/-- An entry other than that of a call of a service or of its reply. -/
def Entry.IsPlain : Entry → Prop
  | .called .. | .replied .. => False
  | _ => True

/-- The deed that an event of the guard reports. -/
def Happening.deed? (guard : String) : Happening → Option Deed
  | .retried attempt wait => some (.told (.retried attempt wait))
  | .succeeded attempts => some (.told (.succeeded attempts))
  | .exhausted attempts => some (.told (.exhausted attempts))
  | .ignoredFault => some (.told .ignoredFault)
  | .permitAcquired _ => some (.granted .limiter)
  | .permitRejected _ => some (.refused (.requestNotPermitted guard))
  | .breakerRejected state => some (.refused (.callNotPermitted guard state))
  | .callPermitted _ => some (.granted .bulkhead)
  | .callRejected capacity => some (.refused (.bulkheadFull guard capacity))
  | .successRecorded => some (.recorded false)
  | .failureRecorded => some (.recorded true)
  | .transitioned .. | .callFinished => none

/-- The deed that an entry tells of. Of a permission that a breaker refuses it tells, and then of the
fault as well. -/
def Entry.deed? : Entry → Option Deed
  | .called _ service _ _ _ => some (.called service)
  | .replied service r => some (.replied service r)
  | .emitted e => e.happening.deed? e.guard
  | .handlerAsked _ _ o => some (.handlerAsked o)
  | .factoryAsked e => some (.factoryAsked e)
  | .mapperAsked _ mapper e => some (.mapperAsked mapper e)
  | .permissionAsked _ true => some (.granted .breaker)
  | .permissionAsked _ false => some .denied
  | .heard .. | .constructed _ | .configAsked _ | .policySought ..
  | .delayAsked _ => none

/-- What is seen of a run from one world to another. Deeds that have nothing to do with services are
seen as they were written, as long as proxies stay as they are. -/
structure View where
  sees : World → World → List Deed → Prop
  trans {u w v : World} {σ τ : List Deed} (first : sees u w σ) (second : sees w v τ) :
    sees u v (σ ++ τ)
  plain {w v : World} (entries : List Entry) (same : v.proxies = w.proxies)
    (wrote : v.history = w.history ++ entries)
    (plain : ∀ e ∈ entries, e.IsPlain) :
    sees w v (entries.filterMap Entry.deed?)

theorem View.quiet (V : View) {w v : World} (proxies : v.proxies = w.proxies)
    (history : v.history = w.history) : V.sees w v [] :=
  V.plain [] proxies (history.trans (List.append_nil _).symm) nofun

theorem World.deeds_reported (w : World) (guard : String) (listeners : List Listener)
    (h : Happening) :
    (w.reported guard listeners h).filterMap Entry.deed? = (h.deed? guard).toList :=
  filterMap_reported (fun _ _ => rfl) w guard listeners h

theorem World.isPlain_of_mem_reported (w : World) (guard : String) (listeners : List Listener)
    (h : Happening) : ∀ e ∈ w.reported guard listeners h, e.IsPlain := by
  intro e mem
  rcases List.mem_cons.mp mem with rfl | heard
  · trivial
  · obtain ⟨label, -, rfl⟩ := List.mem_map.mp heard
    trivial

namespace Act

variable {A B : Type} {V : View} {act : Act A} {next : A → Act B} {goal : List Deed → A → Prop}
  {result : List Deed → B → Prop}

/-- In any world, the deeds of the act go with what it returns. -/
def Tells (act : Act A) (V : View) (goal : List Deed → A → Prop) : Prop :=
  ∀ w, ∃ σ, V.sees w (act.run w).2 σ ∧ goal σ (act.run w).1

namespace Tells

theorem pure {a : A} (reached : goal [] a) : (pure a : Act A).Tells V goal :=
  fun _ => ⟨[], V.quiet rfl rfl, reached⟩

theorem bind (first : act.Tells V goal)
    (rest : ∀ {σ a}, goal σ a → (next a).Tells V fun τ b => result (σ ++ τ) b) :
    (act >>= next).Tells V result := by
  intro w
  obtain ⟨σ, begun, reached⟩ := first w
  obtain ⟨τ, ended, done⟩ := rest reached (act.run w).2
  exact ⟨σ ++ τ, V.trans begun ended, done⟩

theorem imp {weaker : List Deed → A → Prop} (h : act.Tells V goal)
    (implies : ∀ {σ a}, goal σ a → weaker σ a) : act.Tells V weaker := by
  intro w
  obtain ⟨σ, seen, reached⟩ := h w
  exact ⟨σ, seen, implies reached⟩

/-- What is returned is made of what an act returns. -/
theorem map {f : A → B} (h : act.Tells V goal) (implies : ∀ {σ a}, goal σ a → result σ (f a)) :
    (act >>= fun a => Pure.pure (f a)).Tells V result := by
  refine h.bind fun {σ a} reached => .pure ?_
  rw [List.append_nil]
  exact implies reached

/-- After an act without deeds. -/
theorem bind_quiet (first : act.Tells V fun σ _ => σ = [])
    (rest : ∀ a, (next a).Tells V result) : (act >>= next).Tells V result := by
  refine first.bind fun {σ a} quiet => ?_
  subst quiet
  exact rest a

/-- After an act that does one deed whatever comes of it. -/
theorem bind_one {d : Deed} (first : act.Tells V fun σ _ => σ = [d])
    (rest : ∀ a, (next a).Tells V fun τ b => result (d :: τ) b) : (act >>= next).Tells V result := by
  refine first.bind fun {σ a} one => ?_
  subst one
  exact rest a

/-- What follows may depend on the world as it is. -/
theorem get_bind {next : World → Act B} (rest : ∀ w, (next w).Tells V result) :
    ((get : Act World) >>= next).Tells V result :=
  fun w => rest w w

end Tells

theorem tells_quiet (proxies : ∀ w, (act.run w).2.proxies = w.proxies)
    (history : ∀ w, (act.run w).2.history = w.history) : act.Tells V fun σ _ => σ = [] :=
  fun w => ⟨[], V.quiet (proxies w) (history w), rfl⟩

theorem tells_write {e : Entry} (plain : e.IsPlain) :
    (write e).Tells V fun σ _ => σ = e.deed?.toList := by
  intro w
  have deeds : [e].filterMap Entry.deed? = e.deed?.toList := by cases deed : e.deed? <;> simp [deed]
  refine ⟨_, ?_, rfl⟩
  rw [run_write, ← deeds]
  exact V.plain [e] rfl (w.history_append [e]) (List.forall_mem_singleton.mpr plain)

theorem tells_emit (guard : String) (listeners : List Listener) (h : Happening) :
    (emit guard listeners h).Tells V fun σ _ => σ = (h.deed? guard).toList := by
  intro w
  refine ⟨_, ?_, rfl⟩
  rw [run_emit, ← w.deeds_reported guard listeners h]
  exact V.plain _ rfl (w.history_append _) (w.isPlain_of_mem_reported guard listeners h)

theorem tells_raise (metric : String) (labels : List (String × String)) :
    (raise metric labels).Tells V fun σ _ => σ = [] :=
  tells_quiet (fun _ => rfl) fun _ => rfl

theorem tells_sleep (d : Nanos) : (sleep d).Tells V fun σ _ => σ = [] :=
  tells_quiet (fun _ => rfl) fun _ => rfl

theorem tells_outwait (t : Timer) : (outwait t).Tells V fun σ _ => σ = [] := by
  refine tells_quiet (fun w => ?_) fun w => w.history_outwait t
  obtain ⟨now, ahead, waited⟩ := w.exists_outwait t
  rw [run_outwait, waited]

theorem tells_isOver (t : Timer) : (isOver t).Tells V fun σ _ => σ = [] :=
  tells_quiet (fun _ => rfl) fun _ => rfl

theorem tells_delay (s : Scheduler) (d : Nanos) : (delay s d).Tells V fun σ _ => σ = [] := by
  intro w
  refine ⟨[], ?_, rfl⟩
  rw [run_delay]
  exact V.plain [.delayAsked d] rfl (w.history_append _) (List.forall_mem_singleton.mpr trivial)

end Act

end CallGuard
