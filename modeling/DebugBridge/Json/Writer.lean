import DebugBridge.Json.Basic
import DebugBridge.Number.Shortest
import DebugBridge.Text.Utf8

/-!
JSON as text.

There is one text for every value: no spaces, members in the order they have in the value, and in
strings an escape only where the format demands one. A double is written with the fewest digits that
read back; its layout is `Json.layout`.

`chars` says what the text is. `writeOnto` writes it octet by octet, in a loop over the items and
members, since an array may have as many items as there are octets in a memory.
-/

namespace DebugBridge.Json

/-- Positional notation for exponents from -5 to 15, a sign on every exponent that is written, and
ties to the even digit. -/
def layout : Binary64.Layout := ⟨-5, 15, true, .even⟩

/-- A character inside a string. The double quote, the backslash and the controls are escaped, five
of them by a letter. -/
def escapeChar (c : Char) : List Char :=
  if c = '"' then ['\\', '"']
  else if c = '\\' then ['\\', '\\']
  else if 0x20 ≤ c.toNat then [c]
  else if c = '\n' then ['\\', 'n']
  else if c = '\r' then ['\\', 'r']
  else if c = '\t' then ['\\', 't']
  else if c.toNat = 8 then ['\\', 'b']
  else if c.toNat = 12 then ['\\', 'f']
  else
    ['\\', 'u', '0', '0', Numeral.digitChar (c.toNat / 16), Numeral.digitChar (c.toNat % 16)]

def stringChars (s : String) : List Char :=
  '"' :: s.toList.flatMap escapeChar ++ ['"']

def Number.chars : Number → List Char
  | .natural n => Numeral.decimal n.toNat
  | .negative magnitude => '-' :: Numeral.decimal magnitude.toNat
  | .binary x => layout.chars x

mutual
def chars : Json → List Char
  | .null => "null".toList
  | .bool true => "true".toList
  | .bool false => "false".toList
  | .number n => n.chars
  | .string s => stringChars s
  | .array items => '[' :: itemsChars items ++ [']']
  | .object members => '\x7b' :: membersChars members ++ ['\x7d']

/-- Items with a comma between neighbours. -/
def itemsChars : List Json → List Char
  | [] => []
  | [item] => chars item
  | item :: next :: rest => chars item ++ ',' :: itemsChars (next :: rest)

/-- Members with a comma between neighbours. -/
def membersChars : List (String × Json) → List Char
  | [] => []
  | [(key, value)] => stringChars key ++ ':' :: chars value
  | (key, value) :: next :: rest =>
    stringChars key ++ ':' :: chars value ++ ',' :: membersChars (next :: rest)
end

mutual
/-- Writes a value behind octets that have been written; the octets stand last first. -/
def writeOnto (written : List UInt8) : Json → List UInt8
  | .array items => 0x5D :: writeItemsOnto (0x5B :: written) items
  | .object members => 0x7D :: writeMembersOnto (0x7B :: written) members
  | value => Utf8.encodeOnto written value.chars

def writeItemsOnto (written : List UInt8) : List Json → List UInt8
  | [] => written
  | [item] => writeOnto written item
  | item :: next :: rest => writeItemsOnto (0x2C :: writeOnto written item) (next :: rest)

def writeMembersOnto (written : List UInt8) : List (String × Json) → List UInt8
  | [] => written
  | [(key, value)] => writeOnto (0x3A :: Utf8.encodeOnto written (stringChars key)) value
  | (key, value) :: next :: rest =>
    writeMembersOnto (0x2C :: writeOnto (0x3A :: Utf8.encodeOnto written (stringChars key)) value)
      (next :: rest)
end

/-- The value as one line of text. -/
def text (value : Json) : String :=
  String.ofList value.chars

end DebugBridge.Json
