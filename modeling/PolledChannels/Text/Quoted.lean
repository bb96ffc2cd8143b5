import PolledChannels.Text.Hidden
import PolledChannels.Text.Numeral

/-!
# Quoted text

A text between double quotes, as diagnostics show it: the quote and the backslash get a backslash,
tab, newline, carriage return and NUL are written by their letters, and a character without a
visible form of its own is written by its code point in braces.
-/

namespace PolledChannels.Text

def quotedChar (c : Char) : String :=
  if c = '"' then "\\\""
  else if c = '\\' then "\\\\"
  else if c = '\t' then "\\t"
  else if c = '\n' then "\\n"
  else if c = '\r' then "\\r"
  else if c.toNat = 0 then "\\0"
  else if isHidden c then "\\u\x7b" ++ hexadecimal c.toNat ++ "\x7d"
  else c.toString

def quoted (s : String) : String :=
  "\"" ++ String.join (s.toList.map quotedChar) ++ "\""

end PolledChannels.Text
