import CallGuard.Chain.Resolve

/-!
# Kinds of guards

What the kinds of guards have in common: policies name guards of a kind, stages hold them, and a context
keeps those of one kind apart from the others and from its instances.
-/

namespace CallGuard

/-- A kind of guards. -/
inductive Primitive where
  | retry
  | limiter
  | breaker
  | bulkhead
  deriving DecidableEq

namespace Primitive

@[reducible] def Config : Primitive → Type
  | retry => RetryConfig
  | limiter => LimiterConfig
  | breaker => BreakerConfig
  | bulkhead => BulkheadConfig

@[reducible] def Guard : Primitive → Type
  | retry => Retry
  | limiter => Limiter
  | breaker => Breaker
  | bulkhead => Bulkhead

def kind : (p : Primitive) → GuardKind p.Config p.Guard
  | retry => Retry.kind
  | limiter => Limiter.kind
  | breaker => Breaker.kind
  | bulkhead => Bulkhead.kind

/-- The name that a guard has, and its configuration. -/
def settings : (p : Primitive) → p.Guard → String × p.Config
  | retry => fun r => (r.name, r.config)
  | limiter => fun l => (l.name, l.config)
  | breaker => fun b => (b.name, b.config)
  | bulkhead => fun b => (b.name, b.config)

/-- What the policy says of a guard of the kind. -/
def policy? : (p : Primitive) → Policy → Option (GuardPolicy p.Config)
  | retry, .retry q => some q
  | limiter, .limiter q => some q
  | breaker, .breaker q => some q
  | bulkhead, .bulkhead q => some q
  | retry, _ | limiter, _ | breaker, _ | bulkhead, _ => none

/-- The guard of the kind that the stage holds. -/
def guard? {F : Type} : (p : Primitive) → Stage F → Option p.Guard
  | retry, .retry r _ => some r
  | limiter, .limiter l _ => some l
  | breaker, .breaker b => some b
  | bulkhead, .bulkhead b _ => some b
  | retry, _ | limiter, _ | breaker, _ | bulkhead, _ => none

def capability : Primitive → Capability
  | retry => .retry
  | limiter => .limiter
  | breaker => .breaker
  | bulkhead => .bulkhead

/-- Whether a guard of that configuration can be made. -/
def CanMake : (p : Primitive) → p.Config → Prop
  | retry, _ | limiter, _ | breaker, _ => True
  | bulkhead, c => c.capacity ≤ Slots.limit

instance : (p : Primitive) → (c : p.Config) → Decidable (p.CanMake c)
  | retry, _ | limiter, _ | breaker, _ => inferInstanceAs (Decidable True)
  | bulkhead, c => inferInstanceAs (Decidable (c.capacity ≤ Slots.limit))

theorem policy?_isSome {p : Primitive} {q : Policy} (same : q.capability = p.capability) :
    (p.policy? q).isSome := by
  cases p <;> cases q <;> first | rfl | cases same

theorem capability_of_guard? {F : Type} {p : Primitive} {s : Stage F} {g : p.Guard}
    (holds : p.guard? s = some g) : s.capability = p.capability := by
  cases p <;> cases s <;> first | rfl | cases holds

theorem guards_setGuards (p : Primitive) (c : Context) (guards : Registry String p.Guard) :
    p.kind.guards (p.kind.setGuards c guards) = guards := by
  cases p <;> rfl

theorem guards_setGuards_of_ne {p q : Primitive} (other : q ≠ p) (c : Context)
    (guards : Registry String q.Guard) :
    p.kind.guards (q.kind.setGuards c guards) = p.kind.guards c := by
  cases p <;> cases q <;> first | rfl | exact absurd rfl other

theorem guards_instances (p : Primitive) (c : Context) (instances : Registry String Instance) :
    p.kind.guards { c with instances } = p.kind.guards c := by
  cases p <;> rfl

theorem setup_setGuards (p : Primitive) (c : Context) (guards : Registry String p.Guard) :
    (p.kind.setGuards c guards).scheduler = c.scheduler ∧
      (p.kind.setGuards c guards).placement = c.placement := by
  cases p <;> exact ⟨rfl, rfl⟩

end Primitive

end CallGuard
