import DialARide.Text.Printable

/-!
# Quoted text

Text between quotation marks, written in two ways: as a JSON string, and as a string shown in a
message, where characters without a visible form of their own are replaced by their code.
-/

namespace DialARide.Text

/-- A number in base sixteen, without leading zeros. -/
def hexadecimal (n : Nat) : String := String.ofList (Nat.toDigits 16 n)

/-- A character of a JSON string: the two marks of the format and the control characters are
escaped. -/
def jsonEscape (c : Char) : String :=
  if c = '"' then "\\\""
  else if c = '\\' then "\\\\"
  else if c = '\n' then "\\n"
  else if c = '\r' then "\\r"
  else if c = '\t' then "\\t"
  else if c = '\x08' then "\\b"
  else if c = '\x0c' then "\\f"
  else if c.toNat < 32 then
    "\\u00" ++ String.ofList [Nat.digitChar (c.toNat / 16), Nat.digitChar (c.toNat % 16)]
  else c.toString

/-- A character of a string shown in a message. -/
def shownEscape (c : Char) : String :=
  if c = '"' then "\\\""
  else if c = '\\' then "\\\\"
  else if c = '\n' then "\\n"
  else if c = '\r' then "\\r"
  else if c = '\t' then "\\t"
  else if c = '\x00' then "\\0"
  else if isPrintable c then c.toString
  else "\\u\x7b" ++ hexadecimal c.toNat ++ "\x7d"

/-- Text between quotation marks, each character written by `escape`. -/
def quoted (escape : Char → String) (text : String) : String :=
  "\"" ++ String.join (text.toList.map escape) ++ "\""

/-- Text as a JSON string. -/
def json (text : String) : String := quoted jsonEscape text

/-- Text as a string shown in a message. -/
def shown (text : String) : String := quoted shownEscape text

end DialARide.Text
