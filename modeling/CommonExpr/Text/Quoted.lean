import CommonExpr.Text.Hidden
import CommonExpr.Text.Utf8

/-!
Text between double quotes, with the characters that cannot be shown escaped.
-/

namespace CommonExpr.Text

/-- Lower-case hexadecimal digits. -/
def hexText (n : Nat) : String := String.ofList (Nat.toDigits 16 n)

/-- One character as it is shown between quotes. -/
def shown (c : Char) : String :=
  if c = '"' then "\\\""
  else if c = '\\' then "\\\\"
  else if c = '\n' then "\\n"
  else if c = '\r' then "\\r"
  else if c = '\t' then "\\t"
  else if c = '\x00' then "\\0"
  else if hidden.holds c.toNat then "\\u\x7b" ++ hexText c.toNat ++ "\x7d"
  else c.toString

/-- The text in double quotes. -/
def quoted (s : String) : String :=
  "\"" ++ String.join (s.toList.map shown) ++ "\""

/-- Bytes as quoted text after a `b`, broken sequences shown as U+FFFD. -/
def quotedBytes (b : List UInt8) : String :=
  "b" ++ quoted (Utf8.lossy b)

end CommonExpr.Text
