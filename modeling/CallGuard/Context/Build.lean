import CallGuard.Call

/-!
# Building

What is built in a context may fail, with a fault that says what is wrong with the setup or with a
crash. What was done before the failure stays done.
-/

namespace CallGuard

/-- Why something could not be built. -/
inductive Halt where
  | fault (e : Fault)
  | crash (text : String)
  deriving DecidableEq, Repr

namespace Halt

/-- The reply of a call that needed what could not be built. -/
def reply : Halt → Reply
  | fault e => .refusal e
  | crash text => .crashed text

end Halt

abbrev Build := ExceptT Halt Act

namespace Build

def fail {α : Type} (e : Fault) : Build α := throw (.fault e)

def ofExcept {α : Type} : Except Fault α → Build α
  | .ok a => pure a
  | .error e => fail e

end Build

namespace Context

/-- The context of that number. -/
def read (number : Nat) : Act Context := return ((← get).contexts[number]?).getD default

def update (number : Nat) (f : Context → Context) : Act Unit :=
  modify fun w => { w with contexts := w.contexts.modify number f }

end Context

end CallGuard
