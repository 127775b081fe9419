import CallGuard.Chain.Call
import CallGuard.Chain.Resolve

/-!
# Calls through a proxy

A proxy builds the chain of a method when the method is first called and uses it from then on. What
goes wrong while it is being built is the reply of the call, and the next call tries again. A method
that shares its key with another of different argument or result types cannot use the other's chain.
-/

namespace CallGuard

/-- A deferred call on its way, or one whose reply was there from the start. -/
inductive Ongoing where
  | ready (r : Reply)
  | running (c : Chain) (m : Chain.Memory c.layers)

namespace Ongoing

def poll : Ongoing → Act (Progress Ongoing)
  | ready r => pure (.done r)
  | running c m => do
    match ← c.deferred.poll m with
    | .waiting m => return .waiting (running c m)
    | .done r => return .done r

def drop : Ongoing → Act Unit
  | ready _ => pure ()
  | running c m => c.deferred.drop m

def timer : Ongoing → Option Timer
  | ready _ => none
  | running c m => c.deferred.timer m

end Ongoing

namespace Chain

/-- Starts a deferred call through the chain. -/
def launch (c : Chain) (args : Args) : Act (Except String Ongoing) := do
  match ← c.deferred.start args with
  | .error text => return .error text
  | .ok m => return .ok (.running c m)

end Chain

namespace Proxy

/-- The proxy of that number. -/
def read (number : Nat) : Act Proxy := return ((← get).proxies[number]?).getD default

/-- The stages of a method, outermost first. -/
def resolve (p : Proxy) (m : Method) : Build (List ResolvedStage) := do
  (((← get).tables[p.table]?).getD .empty).resolve p.context m

/-- A new chain for the method. -/
def build (p : Proxy) (r : Route) : Build Chain := do
  let stages ← p.resolve r.method
  return ⟨r, p.target, ← Build.ofExcept (ResolvedStage.bindAll r.method stages)⟩

/-- Keeps the chain for the method key. -/
def keep (number : Nat) (key : MethodKey) (c : Chain) : Act Unit :=
  modify fun w => { w with
    proxies := w.proxies.modify number fun p => { p with cache := p.cache.insert key c } }

/-- The chain that calls of the method take. -/
def chain (number : Nat) (r : Route) : Build Chain := do
  let p ← read number
  match p.cache.find? r.method.key with
  | some c =>
    if c.route.signature = r.signature then return c
    else Build.fail (.signatureConflict r.method.display)
  | none =>
    let c ← p.build r
    keep number r.method.key c
    return c

/-- The chain that a service's own call takes. -/
def enter (call : Reentry) : Act (Except Reply Chain) := do
  match (← read call.proxy).interface.route? call.method with
  | none => return .error (.crashed "there is no such method")
  | some r =>
    match ← (chain call.proxy r).run with
    | .error halt => return .error halt.reply
    | .ok c => return .ok c

/-- How deep calls may be nested; no machine has room for that many at once. -/
def nestingLimit : Nat := 1 <<< 32

/-- Carries a direct call out. -/
def run (c : Chain) (args : Args) : Act Reply := Chain.callWithin enter nestingLimit c args

/-- Calls the method and waits for its reply. -/
def call (number : Nat) (r : Route) (args : Args) : Act Reply := do
  match ← (chain number r).run with
  | .error halt => return halt.reply
  | .ok c =>
    match c.route.method.shape with
    | .direct => run c args
    | .deferred => c.deferred.await args

/-- Starts a call of the method. A direct method runs to its reply at once. -/
def start (number : Nat) (r : Route) (args : Args) : Act (Except String Ongoing) := do
  match ← (chain number r).run with
  | .error (.fault e) => return .ok (.ready (.refusal e))
  | .error (.crash text) => return .error text
  | .ok c =>
    match c.route.method.shape with
    | .deferred => c.launch args
    | .direct =>
      match ← run c args with
      | .crashed text => return .error text
      | reply => return .ok (.ready reply)

end Proxy

end CallGuard
