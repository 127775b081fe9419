import CallGuard.Context.Guards

/-!
# Resolving chains

The policies that apply to a method are looked up in the order in which a call will meet them, and
each becomes a stage before the next one is looked up. The first one that cannot be resolved ends it
all. Only then are the stages bound to the method, from the innermost outwards.
-/

namespace CallGuard

/-- The scheduler of the context, which the capability cannot do without. -/
def requireScheduler (context : Nat) (c : Capability) (m : Method) : Build Scheduler := do
  match (← Context.read context).scheduler with
  | some s => return s
  | none => Build.fail (.missingScheduler c.name m.display)

namespace MapperSource

/-- The mapper of the source, which may make only faults that the method may end with. -/
def resolve (context : Nat) (m : Method) (s : MapperSource) : Build Mapper := do
  let mapper ← match s with
    | .managed ref => ref.lookupAs context Instance.mapper? Instance.mapperRole
    | .given _ mapper => pure mapper
  match mapper.output with
  | .unchecked => return mapper
  | .checked kind =>
    if m.declares kind then return mapper
    else Build.fail (.incompatibleMapper s.type kind.name m.display)

end MapperSource

namespace FallbackSource

/-- What the source falls back to. -/
def resolve (context : Nat) : FallbackSource → Build Alternative
  | .managed ref => return .instance (← ref.lookup context)
  | .given _ interface service => return .instance (.service interface service)
  | .made _ factory => return .factory factory

end FallbackSource

namespace FallbackStage

def resolve (context : Nat) (s : FallbackStage) : Build ResolvedFallback := do
  return ⟨s.source.type, ← s.source.resolve context, s.handler⟩

end FallbackStage

namespace Policy

/-- The stage that the policy asks for. -/
def resolve (context : Nat) (m : Method) : Policy → Build ResolvedStage
  | .exceptions mappers => return .exceptions (← mappers.mapM (·.resolve context m))
  | .retry p => do
    let r ← Retry.kind.fetch context p
    match m.shape with
    | .direct => return .retry r none
    | .deferred => return .retry r (some (← requireScheduler context .retry m))
  | .limiter p => do
    let l ← Limiter.kind.fetch context p
    match m.shape with
    | .direct => return .limiter l none
    | .deferred =>
      if l.config.timeout = 0 then return .limiter l none
      else return .limiter l (some (← requireScheduler context .limiter m))
  | .breaker p => return .breaker (← Breaker.kind.fetch context p)
  | .fallback stages => return .fallback (← stages.mapM (·.resolve context))
  | .bulkhead p => do
    let b ← Bulkhead.kind.fetch context p
    if b.config.maxWait = 0 then return .bulkhead b none
    else return .bulkhead b (some (← requireScheduler context .bulkhead m))

end Policy

namespace PolicyTable

/-- Looks the policy of a capability up. -/
def seek (t : PolicyTable) (c : Capability) (m : Method) : Build (Option Policy) := do
  Act.write (.policySought (← get).announcesPolicies c.name m.name)
  return t.find? c m.name

/-- The stages of the capabilities, as far as they apply to the method. -/
def resolveEach (t : PolicyTable) (context : Nat) (m : Method) :
    List Capability → Build (List ResolvedStage)
  | [] => return []
  | c :: rest => do
    match ← t.seek c m with
    | none => resolveEach t context m rest
    | some p =>
      let stage ← p.resolve context m
      return stage :: (← resolveEach t context m rest)

/-- The stages that apply to the method, outermost first. -/
def resolve (t : PolicyTable) (context : Nat) (m : Method) : Build (List ResolvedStage) := do
  resolveEach t context m (← Context.read context).placement.order

end PolicyTable

end CallGuard
