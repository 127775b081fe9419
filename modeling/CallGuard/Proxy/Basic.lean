import CallGuard.Context.Basic

/-!
# Proxies

A proxy stands in front of a service. It resolves the chain of a method on the method's first call
and keeps it for the calls that follow.
-/

namespace CallGuard

/-- An interface: its methods, each with the operation of a service that carries it out. -/
structure Interface where
  name : String
  routes : List Route

namespace Interface

def route? (i : Interface) (method : String) : Option Route :=
  i.routes.find? fun r => r.method.name = method

end Interface

structure Proxy where
  interface : Interface
  /-- The service behind the proxy. -/
  target : Nat
  /-- The number of the table that the policies come from. -/
  table : Nat
  /-- The number of the context that guards and instances come from. -/
  context : Nat
  cache : Registry MethodKey Chain

namespace Proxy

/-- Proxies are interchangeable when target, table and context are the same; what they have cached
does not matter. -/
def same (p q : Proxy) : Bool := p.target = q.target && p.table = q.table && p.context = q.context

/-- What proxies are hashed by. -/
def hashed (p : Proxy) : Nat := p.target

theorem hashed_eq_of_same {p q : Proxy} (h : p.same q) : p.hashed = q.hashed := by
  simp only [same, Bool.and_eq_true, decide_eq_true_eq] at h
  exact h.1.1

/-- How many methods have a chain. -/
def cached (p : Proxy) : Nat := p.cache.size

/-- Where the target stands in memory is not shown. -/
def inspect (p : Proxy) : String :=
  record (p.interface.name ++ "Proxy")
    [("dispatcher", record "ProxyDispatcher"
      [("interface", quoted p.interface.name), ("target", "PTR"),
        ("cached_methods", toString p.cached)])]

instance : Inhabited Proxy := ⟨⟨⟨"", []⟩, 0, 0, 0, .empty⟩⟩

end Proxy

end CallGuard
