import CallGuard.Text.Quoted

/-!
# Written records

The inspection text of a value with named fields: `Name { first: 1, second: [a, b] }`, with `..` at
the end where the record holds more than it shows.
-/

namespace CallGuard

/-- A list between brackets. -/
def listed (items : List String) : String := "[" ++ ", ".intercalate items ++ "]"

/-- A record that shows all of its fields. -/
def record (name : String) (fields : List (String × String)) : String :=
  name ++ " \x7b " ++ ", ".intercalate (fields.map fun f => f.1 ++ ": " ++ f.2) ++ " \x7d"

/-- A record that holds more than the fields it shows. -/
def openRecord (name : String) (fields : List (String × String)) : String :=
  name ++ " \x7b " ++ String.join (fields.map fun f => f.1 ++ ": " ++ f.2 ++ ", ") ++ ".. \x7d"

end CallGuard
