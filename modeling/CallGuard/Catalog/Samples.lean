import CallGuard.Catalog.Methods
import CallGuard.Policy

/-!
# Sample services, mappers and providers

What sessions are set up with: services for fallbacks, mappers of faults, providers of
configurations, and values that do not fit where they are used.
-/

namespace CallGuard

namespace FaultKind

/-- A fault of the kind, made up from a text. -/
def sample (text : String) : FaultKind → Fault
  | transient => .transient text
  | missing => .missing text
  | checked => .checked text
  | wrapped => .wrapped text
  | io => .io text
  | callNotPermitted => .callNotPermitted text .opened
  | requestNotPermitted => .requestNotPermitted text
  | bulkheadFull => .bulkheadFull text 3
  | maxRetriesExceeded => .maxRetriesExceeded text 2
  | configError => .signatureConflict text

end FaultKind

namespace Catalog

/-- A service of one of the sample types, which is made where it is needed. -/
def serviceRef (type : String) (script : List Plan) : InstanceRef :=
  ⟨type, some ⟨true, .service svcName type script⟩⟩

/-- Always has seven. -/
def shelf : InstanceRef := serviceRef "Shelf" [.ofEnding (.value (.int 7))]

/-- Always misses. -/
def backup : InstanceRef := serviceRef "Backup" [.ofEnding (.fault (.missing "backup"))]

/-- Always echoes. -/
def echoing : InstanceRef := serviceRef "Mirror" []

def fallbackTypes : List InstanceRef := [shelf, backup, echoing]

/-- The name of an interface that has nothing to do with the sample one. -/
def alienName : String := "Alien"

/-- A service of the unrelated interface. -/
def alien : InstanceRef := ⟨alienName, some ⟨false, .service alienName alienName []⟩⟩

/-- A factory of services of the unrelated interface. -/
def alienFactory : FallbackSource :=
  .made "alien_factory" ⟨alienName, fun _ => ⟨alienName, [], 0⟩⟩

/-- Makes a service that answers every call with the message of the fault. -/
def factory : FallbackSource :=
  .made "factory" ⟨svcName, fun e =>
    ⟨"factory", [.ofEnding (.value (.text ((e.map Fault.message).getD "none")))], 0⟩⟩

/-- Turns faults of input and output into missing ones. -/
def ioToMissing : Mapper where
  name := "IoToMissing"
  announced := true
  output := .unchecked
  replace? := fun e => match e with
    | .io text => some (.missing text)
    | _ => none

/-- Turns every fault into a checked one. -/
def toChecked : Mapper where
  name := "ToChecked"
  announced := true
  output := .checked .checked
  replace? := fun e => some (.checked e.message)

/-- Leaves every fault as it is. -/
def decliner : Mapper where
  name := "Decliner"
  announced := true
  output := .unchecked
  replace? := fun _ => none

/-- Turns transient faults into missing ones with a tag. -/
def tagger (tag : String) : Mapper where
  name := "Tagger"
  announced := true
  output := .unchecked
  replace? := fun e => match e with
    | .transient text => some (.missing (tag ++ "/" ++ text))
    | _ => none

/-- Mappers of the sample types as they are made by default, and whether making one is written down. -/
def mappers : List (Mapper × Bool) :=
  [(ioToMissing, false), (toChecked, false), (decliner, false), (tagger "tag", true)]

/-- The mapper of a sample type, made where it is needed. -/
def mapperRef (m : Mapper) (announced : Bool) : InstanceRef :=
  ⟨m.name, some ⟨announced, .mapper m⟩⟩

/-- Turns faults of one kind into faults of another, and may declare that. -/
def between (source target : FaultKind) (declared : Bool) : MapperSource :=
  let name := "FnMapper<" ++ source.name ++ ", " ++ target.name ++ ">"
  .given name
    { name := name
      announced := false
      output := if declared then .checked target else .unchecked
      replace? := fun e =>
        if e.isOf source then some (target.sample ("<" ++ e.message ++ ">")) else none }

/-- The provider of retries as it is made by default. -/
def retryProvider : Provider :=
  ⟨"RetryProvider", .retry (.ofSettings [.maxAttempts 2, .wait 0])⟩

def breakerProvider : Provider :=
  ⟨"BreakerProvider", .breaker (.ofSettings [.window 2, .minimum 2])⟩

def limiterProvider : Provider :=
  ⟨"LimiterProvider", .limiter (.ofSettings [.limit 1, .period (Nanos.ofSeconds 60), .timeout 0])⟩

def bulkheadProvider : Provider :=
  ⟨"BulkheadProvider", .bulkhead (.ofSettings [.capacity 1])⟩

/-- The provider, made where it is needed. -/
def providerRef (p : Provider) : InstanceRef := ⟨p.type, some ⟨true, .provider p⟩⟩

end Catalog

end CallGuard
