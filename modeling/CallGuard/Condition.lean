import CallGuard.Outcome

/-!
# Conditions on faults and values

The conditions that configurations are written with. A guard only sees the function that a
condition denotes.
-/

namespace CallGuard

/-- Whether the second list holds the first as a run. -/
def holdsRun (run : List Char) : List Char → Bool
  | [] => run.isEmpty
  | c :: rest => run.isPrefixOf (c :: rest) || holdsRun run rest

inductive FaultCondition where
  | labelled (label : String)
  | contains (part : String)
  | not (c : FaultCondition)
  | always (answer : Bool)
  deriving DecidableEq, Repr, Inhabited

namespace FaultCondition

def holds : FaultCondition → Fault → Bool
  | labelled label, e => e.label = label
  | contains part, e => holdsRun part.toList e.message.toList
  | not c, e => !c.holds e
  | always answer, _ => answer

end FaultCondition

inductive IntCondition where
  | below (n : Int)
  | equals (n : Int)
  | always
  deriving DecidableEq, Repr

namespace IntCondition

/-- Holds of 64-bit numbers only. -/
def holds : IntCondition → Value → Bool
  | below n, .int m => m < n
  | equals n, .int m => m = n
  | always, .int _ => true
  | _, _ => false

end IntCondition

inductive TextCondition where
  | equals (s : String)
  | always
  deriving DecidableEq, Repr

namespace TextCondition

/-- Holds of texts only. -/
def holds : TextCondition → Value → Bool
  | equals s, .text t => t = s
  | always, .text _ => true
  | _, _ => false

end TextCondition

end CallGuard
