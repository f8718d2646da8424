import ChannelWatch.Text.Visible
import ChannelWatch.Text.Numeral

/-!
# Quoted text

Text between double quotes, as messages show a value that they complain about. A quote and
a backslash get a backslash in front, the usual control characters their letter, and every
other character that is not visible its code point in hexadecimal.
-/

namespace ChannelWatch.Text
set_option autoImplicit false

/-- How one character stands between quotes. -/
def escape (c : Char) : List Char :=
  if c = '\x00' then ['\\', '0']
  else if c = '\t' then ['\\', 't']
  else if c = '\n' then ['\\', 'n']
  else if c = '\r' then ['\\', 'r']
  else if c = '"' then ['\\', '"']
  else if c = '\\' then ['\\', '\\']
  else if isVisible c then [c]
  else ['\\', 'u', '\x7b'] ++ Numeral.digits 16 c.toNat ++ ['\x7d']

/-- The text in double quotes. -/
def quoted (text : String) : String :=
  String.ofList ('"' :: text.toList.flatMap escape ++ ['"'])

end ChannelWatch.Text
