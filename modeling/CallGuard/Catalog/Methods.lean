import CallGuard.Proxy.Basic

/-!
# A sample interface

`Svc` has direct and deferred methods, with and without a count, and some that declare faults. Two
methods outside the interface share its operations.
-/

namespace CallGuard.Catalog

/-- The name of the interface. -/
def svcName : String := "Svc"

private def method (name : String) (params : List String) (shape : Shape)
    (declared : List FaultKind) : Method :=
  ⟨svcName, ⟨name, params⟩, shape, declared⟩

def get : Route where
  method := method "get" ["String"] .direct []
  signature := ⟨[.text], .int⟩
  operation := ⟨"get", true, false, .keyLength, .int⟩
  addsCount := false

def put : Route where
  method := method "put" ["String", "i64"] .direct [.checked]
  signature := ⟨[.text, .int], .int⟩
  operation := ⟨"put", true, true, .count, .int⟩
  addsCount := false

def ping : Route where
  method := method "ping" [] .direct []
  signature := ⟨[], .text⟩
  operation := ⟨"ping", false, false, .constant (.text "pong"), .text⟩
  addsCount := false

def fetch : Route where
  method := method "fetch" ["String"] .deferred []
  signature := ⟨[.text], .int⟩
  operation := ⟨"fetch", true, false, .keyLength, .int⟩
  addsCount := false

def push : Route where
  method := method "push" ["String", "i64"] .deferred [.checked, .missing]
  signature := ⟨[.text, .int], .int⟩
  operation := ⟨"push", true, true, .count, .int⟩
  addsCount := false

def text : Route where
  method := method "text" ["String"] .deferred []
  signature := ⟨[.text], .text⟩
  operation := ⟨"text", true, false, .key, .text⟩
  addsCount := false

def svc : Interface := ⟨svcName, [get, put, ping, fetch, push, text]⟩

/-- Has the key of `get` and a smaller result. -/
def narrow : Route where
  method := method "get" ["String"] .direct []
  signature := ⟨[.text], .small⟩
  operation := get.operation
  addsCount := false

/-- Has the name of `get` and one parameter more, which it adds to the result. -/
def wide : Route where
  method := method "get" ["String", "i64"] .direct []
  signature := ⟨[.text, .int], .int⟩
  operation := get.operation
  addsCount := true

end CallGuard.Catalog
