import CallGuard.Context.Build
import CallGuard.Registry.Race
import CallGuard.Service.Call

/-!
# Looking instances up

A context hands out the instance of a type, and makes it when it is asked for the first time. What
could not be made is not kept, so that the next who asks tries again. Whoever asks expects the
instance in a role; one that does not fit the role stays for those whom it does fit.
-/

namespace CallGuard

namespace Halt

/-- Says of a fault what could not be made. -/
def constructing (type : String) : Halt → Halt
  | fault e => .fault (.construction type e)
  | crash text => .crash text

end Halt

namespace Build

/-- Builds in one step; what cannot be built ends the program. -/
def andThen {A : Type} (build : Build A) (next : A → Program World String Halt Instance) :
    Program World String Halt Instance :=
  .act (fun w => (build.run.run w).2) fun w =>
    match (build.run.run w).1 with
    | .ok a => next a
    | .error h => .ends (.error h)

end Build

namespace Context

/-- Keeps the instance for the type. -/
def keep (number : Nat) (type : String) (i : Instance) : Act Unit :=
  update number fun c => { c with instances := c.instances.insert type i }

/-- The instance kept for the type, or else the one that is made now. -/
def fetch (number : Nat) (type : String) (make : Build Instance) : Build Instance := do
  match (← read number).instances.find? type with
  | some i => return i
  | none =>
    let i ← make
    keep number type i
    return i

/-- Says of a fault what could not be made. -/
def constructing (type : String) (make : Build Instance) : Build Instance :=
  tryCatch make fun h => throw (h.constructing type)

end Context

namespace Instance

/-- A text that is shared from now on. -/
def shareText (s : String) : Build Instance := do
  let serial := (← get).texts
  modify fun w => { w with texts := w.texts + 1 }
  return .text serial s

/-- The text that the instance is. -/
def text? : Instance → Option (Nat × String)
  | text serial s => some (serial, s)
  | _ => none

/-- The role of a shared text. -/
def textRole : String := "Arc<String>"

/-- The role of a shared number. -/
def numberRole : String := "Arc<i64>"

/-- The role of a mapper. -/
def mapperRole : String := "Arc<dyn ExceptionMapper>"

def number? : Instance → Option Int
  | number n => some n
  | _ => none

def mapper? : Instance → Option Mapper
  | mapper m => some m
  | _ => none

def provider? : Instance → Option Provider
  | provider p => some p
  | _ => none

end Instance

namespace Sample

/-- Counts a making of the sample under the key, and says how many there were before. -/
def countMaking (key : String) (s : Sample) : Build Nat := do
  let before := ((← get).makings.find? (key, s)).getD 0
  modify fun w => { w with makings := w.makings.insert (key, s) (before + 1) }
  return before

/-- A text and a suffix, shared as one. -/
def extend (key : String) (i : Instance) (suffix : String) : Build Instance := do
  match i.text? with
  | some (_, s) => Instance.shareText (s ++ suffix)
  | none => Build.fail (.wrongType key Instance.textRole)

/-- Makes the sample under the key. -/
def make (context : Nat) (key : String) (sample : Sample) : Build Instance := do
  Act.write (.constructed key)
  let before ← countMaking key sample
  match sample with
  | text s => Instance.shareText s
  | number n => return .number n
  | failing message => Build.fail (.io message)
  | flaky failures s =>
    if before < failures then Build.fail (.transient ("try " ++ toString before))
    else Instance.shareText s
  | suffixed other base suffix =>
    let i ← Context.fetch context other (Context.constructing other (base.make context other))
    extend other i suffix
  | suffixedRegistered other suffix =>
    let i ← Context.fetch context other (Build.fail (.noDefault other))
    extend other i suffix

/-- Makes the sample under the key where others may be stepped in between. -/
def making (context : Nat) (key : String) (sample : Sample) : Program World String Halt Instance :=
  match sample with
  | suffixed other base suffix =>
    begun key sample <| .fetch other
      ((base.making context other).mapError (Halt.constructing other)) (extending other suffix)
  | suffixedRegistered other suffix =>
    begun key sample <| .fetch other (.ends (.error (.fault (.noDefault other))))
      (extending other suffix)
  | text _ | number _ | failing _ | flaky _ _ =>
    (sample.make context key).andThen fun i => .ends (.ok i)
where
  begun (key : String) (sample : Sample) (next : Program World String Halt Instance) :
      Program World String Halt Instance :=
    Build.andThen (do Act.write (.constructed key); countMaking key sample) fun _ => next
  extending (other suffix : String) : Except Halt Instance → Program World String Halt Instance
    | .ok i => (extend other i suffix).andThen fun i => .ends (.ok i)
    | .error h => .ends (.error h)

/-- The most steps that making the sample takes. -/
def steps : Sample → Nat
  | text _ | number _ | failing _ | flaky _ _ => 2
  | suffixed _ base _ => base.steps + 5
  | suffixedRegistered _ _ => 6

end Sample

namespace Recipe

/-- Makes the instance under its type. -/
def make (context : Nat) (type : String) (r : Recipe) : Build Instance := do
  match r.product with
  | .sample s => s.make context type
  | .service interface label script =>
    if r.announced then Act.write (.constructed type)
    return .service interface (← Service.enroll ⟨label, script, 0⟩)
  | .mapper m =>
    if r.announced then Act.write (.constructed type)
    return .mapper m
  | .provider p =>
    if r.announced then Act.write (.constructed type)
    return .provider p

/-- Makes the instance under its type where others may be stepped in between. -/
def making (context : Nat) (type : String) (r : Recipe) : Program World String Halt Instance :=
  match r.product with
  | .sample s => s.making context type
  | .service .. | .mapper _ | .provider _ =>
    (r.make context type).andThen fun i => .ends (.ok i)

/-- The most steps that making the instance takes. -/
def steps (r : Recipe) : Nat :=
  match r.product with
  | .sample s => s.steps
  | .service .. | .mapper _ | .provider _ => 2

end Recipe

namespace InstanceRef

/-- Makes the instance anew. -/
def construct (context : Nat) (r : InstanceRef) : Build Instance :=
  match r.recipe with
  | some recipe => Context.constructing r.type (recipe.make context r.type)
  | none => Build.fail (.noDefault r.type)

/-- The instance that the reference leads to. -/
def lookup (context : Nat) (r : InstanceRef) : Build Instance :=
  Context.fetch context r.type (r.construct context)

/-- The instance that the reference leads to, in the role that is expected of it. -/
def lookupAs {α : Type} (context : Nat) (r : InstanceRef) (role? : Instance → Option α)
    (expected : String) : Build α := do
  match role? (← r.lookup context) with
  | some a => return a
  | none => Build.fail (.wrongType r.type expected)

/-- Makes the instance anew where others may be stepped in between. -/
def making (context : Nat) (r : InstanceRef) : Program World String Halt Instance :=
  match r.recipe with
  | some recipe => (recipe.making context r.type).mapError (Halt.constructing r.type)
  | none => .ends (.error (.fault (.noDefault r.type)))

/-- Threads that look the reference up at the same time. -/
def race (context : Nat) (r : InstanceRef) (threads : Nat) (w : World) :
    Race World String Halt Instance where
  state := w
  cells := .ofRegistry ((w.contexts[context]?).getD default).instances
  threads := List.replicate threads (.ofProgram (.fetch r.type (r.making context) .ends))

/-- What so many threads get that look the reference up at the same time. Every round takes one of
them a step further at least, so that all are done at the end. -/
def lookupTogether (context : Nat) (r : InstanceRef) (threads : Nat) :
    Act (List (Except Halt Instance)) := do
  let steps := ((r.recipe.map Recipe.steps).getD 0) + 3
  let race := (r.race context threads (← get)).run (Race.inTurns threads (threads * steps))
  set race.state
  Context.update context fun c => { c with instances := race.cells.registry }
  return race.results

end InstanceRef

end CallGuard
