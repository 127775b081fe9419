import CallGuard.Fault

/-!
# Outcomes of calls

A call ends with a value or a fault, or its code crashes. Guards judge outcomes; a crash passes
through all of them.
-/

namespace CallGuard

/-- A returned value: a 64-bit number, a text, or a 32-bit number. -/
inductive Value where
  | int (n : Int)
  | text (s : String)
  | small (n : Int)
  deriving DecidableEq, Repr

inductive Outcome where
  | value (v : Value)
  | fault (e : Fault)
  deriving DecidableEq, Repr

namespace Outcome

def fault? : Outcome → Option Fault
  | value _ => none
  | fault e => some e

/-- What a handler may write down about the outcome. -/
def summary : Outcome → String
  | value _ => "success"
  | fault e => e.message

end Outcome

/-- The end of a call. -/
inductive Reply where
  | ended (o : Outcome)
  | crashed (text : String)
  deriving DecidableEq, Repr

/-- What a caller passes to a method. Methods without a key or a count leave theirs empty. -/
structure Args where
  key : String
  count : Int
  deriving DecidableEq, Repr

/-- The number reduced to 64 bits with a sign. -/
def wrap64 (n : Int) : Int := n.bmod (1 <<< 64)

/-- The type of a result. -/
inductive ResultType where
  | int
  | text
  | small
  deriving DecidableEq, Repr

namespace ResultType

/-- The value as a result of the type: a text counts its characters where a number is due, a number
is written in decimal where a text is due, and a small number keeps its lowest 32 bits. -/
def conform : ResultType → Value → Value
  | .int, .int n => .int n
  | .int, .text s => .int s.length
  | .int, .small n => .int n
  | .text, .int n => .text (toString n)
  | .text, .text s => .text s
  | .text, .small n => .text (toString n)
  | .small, .int n => .small (n.bmod (1 <<< 32))
  | .small, .text s => .small s.length
  | .small, .small n => .small n

end ResultType

end CallGuard
