import CallGuard.Context.Lookup

/-!
# Looking guards up

A context has at most one guard of each kind and name. The first policy that asks for the name has it
made, with the configuration of the policy's provider, or its own, or the standard one; the policies
that follow get the same guard whatever they say.
-/

namespace CallGuard

/-- What a context has to know of one kind of guards, which have configurations `C`. -/
structure GuardKind (C G : Type) where
  standard : C
  provided? : GuardConfig → Option C
  /-- The role of a provider of such configurations. -/
  role : String
  guards : Context → Registry String G
  setGuards : Context → Registry String G → Context
  make : String → C → Build G

namespace GuardKind

variable {C G : Type}

/-- The configuration of a guard that is made for the policy. -/
def config (k : GuardKind C G) (context : Nat) (p : GuardPolicy C) : Build C := do
  match p.provider with
  | some ref =>
    let (type, c) ← ref.lookupAs context
      (fun i => i.provider?.bind fun p => (k.provided? p.config).map fun c => (p.type, c)) k.role
    Act.write (.configAsked type)
    return c
  | none => return p.config.getD k.standard

/-- The guard of the policy's name, made on first use. -/
def fetch (k : GuardKind C G) (context : Nat) (p : GuardPolicy C) : Build G := do
  match (k.guards (← Context.read context)).find? p.name with
  | some g => return g
  | none =>
    let c ← k.config context p
    let g ← k.make p.name c
    Context.update context fun c => k.setGuards c ((k.guards c).insert p.name g)
    return g

/-- Keeps a guard of that name and configuration, in place of any earlier one of the name. -/
def register (k : GuardKind C G) (context : Nat) (name : String) (c : C) : Build Unit := do
  let g ← k.make name c
  Context.update context fun c => k.setGuards c ((k.guards c).insert name g)

end GuardKind

namespace Retry

def kind : GuardKind RetryConfig Retry where
  standard := .standard
  provided? := fun c => match c with
    | .retry c => some c
    | _ => none
  role := "Arc<dyn ConfigProvider<RetryConfig>>"
  guards := Context.retries
  setGuards := fun c guards => { c with retries := guards }
  make := fun name c => return ⟨name, c⟩

end Retry

namespace Breaker

/-- A new breaker with a circuit of its own. -/
def make (name : String) (c : BreakerConfig) : Build Breaker := do
  let cell := (← get).circuits.size
  modify fun w => { w with circuits := w.circuits.push .fresh }
  return ⟨name, c, cell⟩

def kind : GuardKind BreakerConfig Breaker where
  standard := .standard
  provided? := fun c => match c with
    | .breaker c => some c
    | _ => none
  role := "Arc<dyn ConfigProvider<CircuitBreakerConfig>>"
  guards := Context.breakers
  setGuards := fun c guards => { c with breakers := guards }
  make := make

end Breaker

namespace Limiter

/-- A new limiter with a full balance. -/
def make (name : String) (c : LimiterConfig) : Build Limiter := do
  let cell := (← get).balances.size
  modify fun w => { w with balances := w.balances.push (.ofLimit c.limit c.period w.now) }
  return ⟨name, c, cell⟩

def kind : GuardKind LimiterConfig Limiter where
  standard := .standard
  provided? := fun c => match c with
    | .limiter c => some c
    | _ => none
  role := "Arc<dyn ConfigProvider<RateLimiterConfig>>"
  guards := Context.limiters
  setGuards := fun c guards => { c with limiters := guards }
  make := make

end Limiter

namespace Bulkhead

/-- A new bulkhead with all of its slots free. Making one of more slots than can be kept crashes. -/
def make (name : String) (c : BulkheadConfig) : Build Bulkhead := do
  if Slots.limit < c.capacity then
    throw (.crash ("a semaphore may not have more than MAX_PERMITS permits (" ++
      toString Slots.limit ++ ")"))
  let cell := (← get).slots.size
  modify fun w => { w with slots := w.slots.push (.ofCapacity c.capacity) }
  return ⟨name, c, cell⟩

def kind : GuardKind BulkheadConfig Bulkhead where
  standard := .standard
  provided? := fun c => match c with
    | .bulkhead c => some c
    | _ => none
  role := "Arc<dyn ConfigProvider<BulkheadConfig>>"
  guards := Context.bulkheads
  setGuards := fun c guards => { c with bulkheads := guards }
  make := make

end Bulkhead

end CallGuard
