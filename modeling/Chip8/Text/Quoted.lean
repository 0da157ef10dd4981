/-
  File:      Chip8/Text/Quoted.lean
  Subject:   A text in quotation marks, as it appears in a message.

  The quotation mark, the backslash and the characters for tab, line feed, carriage return and
  zero are written with a backslash and one more character. Characters that do not show are
  written with their number. Everything else stands for itself.
-/
import Chip8.Text.Hex
import Chip8.Text.Printable

namespace Chip8.Text

/-- A character inside quotation marks. -/
def quotedChar (c : Char) : String :=
  if c = '"' then "\\\""
  else if c = '\\' then "\\\\"
  else if c = '\n' then "\\n"
  else if c = '\r' then "\\r"
  else if c = '\t' then "\\t"
  else if c.toNat = 0 then "\\0"
  else if isPrintable c then c.toString
  else "\\u\x7b" ++ lowerHex c.toNat ++ "\x7d"

/-- A text in quotation marks. -/
def quoted (s : String) : String := "\"" ++ String.join (s.toList.map quotedChar) ++ "\""

end Chip8.Text
