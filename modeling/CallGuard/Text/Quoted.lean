import CallGuard.Text.Unprintable

/-!
# Quoted text

A text in a record is written between double quotes. The quote, the backslash and every character
without a shape of its own are escaped, so the written form shows all of the text.
-/

namespace CallGuard

/-- The number in hexadecimal with small letters. -/
def hexadecimal (n : Nat) : String := String.ofList (Nat.toDigits 16 n)

/-- How one character stands between the quotes. -/
def escaped (c : Char) : String :=
  match c with
  | '\x00' => "\\0"
  | '\t' => "\\t"
  | '\n' => "\\n"
  | '\r' => "\\r"
  | '"' => "\\\""
  | '\\' => "\\\\"
  | c => if Unprintable.contains c then "\\u\x7b" ++ hexadecimal c.toNat ++ "\x7d" else c.toString

/-- The text between double quotes. -/
def quoted (s : String) : String := "\"" ++ String.join (s.toList.map escaped) ++ "\""

end CallGuard
