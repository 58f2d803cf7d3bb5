import DebugBridge.Number.Numeral
import DebugBridge.Text.Printable

/-!
Text as it is quoted in diagnostics.

The text stands between double quotes. A backslash and a double quote are preceded by a backslash,
four controls have a letter of their own, and a character that has no visible form or would combine
with the one before it is written by its code point.
-/

namespace DebugBridge.Text

def quoteChar (c : Char) : List Char :=
  if c = '"' then ['\\', '"']
  else if c = '\\' then ['\\', '\\']
  else if c = '\n' then ['\\', 'n']
  else if c = '\r' then ['\\', 'r']
  else if c = '\t' then ['\\', 't']
  else if c.toNat = 0 then ['\\', '0']
  else if isVisible c && !isCombining c then [c]
  else "\\u\x7b".toList ++ Numeral.hexadecimal c.toNat ++ ['\x7d']

/-- The text between double quotes. -/
def quoted (text : String) : String :=
  String.ofList ('"' :: text.toList.flatMap quoteChar ++ ['"'])

end DebugBridge.Text
