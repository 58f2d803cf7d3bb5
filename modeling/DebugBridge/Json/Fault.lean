import DebugBridge.Json.Writer
import DebugBridge.Text.Quoted

/-!
What can be wrong with a text that should hold a value of some shape.

A `TextFault` is a breach of the grammar and always has a place in the text. A `ShapeFault` says
that a value, though well written, is not of the shape that was asked for; only some of them are
noticed while the text is still being read and so have a place.
-/

namespace DebugBridge.Json

/-! ## Breaches of the grammar -/

inductive TextFault where
  | endInValue
  | endInObject
  | endInList
  | endInString
  | expectedValue
  | expectedIdent
  | expectedColon
  | expectedCommaOrBrace
  | expectedCommaOrBracket
  | keyNotString
  | trailingComma
  | trailingCharacters
  | invalidNumber
  | numberOutOfRange
  | invalidEscape
  | invalidCodePoint
  | loneSurrogate
  | unfinishedSurrogate
  | controlCharacter
  | tooDeep
deriving DecidableEq, Repr

def TextFault.message : TextFault → String
  | .endInValue => "EOF while parsing a value"
  | .endInObject => "EOF while parsing an object"
  | .endInList => "EOF while parsing a list"
  | .endInString => "EOF while parsing a string"
  | .expectedValue => "expected value"
  | .expectedIdent => "expected ident"
  | .expectedColon => "expected `:`"
  | .expectedCommaOrBrace => "expected `,` or `\x7d`"
  | .expectedCommaOrBracket => "expected `,` or `]`"
  | .keyNotString => "key must be a string"
  | .trailingComma => "trailing comma"
  | .trailingCharacters => "trailing characters"
  | .invalidNumber => "invalid number"
  | .numberOutOfRange => "number out of range"
  | .invalidEscape => "invalid escape"
  | .invalidCodePoint => "invalid unicode code point"
  | .loneSurrogate => "lone leading surrogate in hex escape"
  | .unfinishedSurrogate => "unexpected end of hex escape"
  | .controlCharacter => "control character (\\u0000-\\u001F) found while parsing a string"
  | .tooDeep => "recursion limit exceeded"

/-! ## Values of another shape -/

/-- What stood where something else was expected. -/
inductive Found where
  | bool (b : Bool)
  | number (n : Number)
  | string (s : String)
  | null
  | sequence
  | map
  | unitVariant
deriving DecidableEq, Repr

def found : Json → Found
  | .null => .null
  | .bool b => .bool b
  | .number n => .number n
  | .string s => .string s
  | .array _ => .sequence
  | .object _ => .map

/-- A text between backticks. -/
def ticked (text : String) : String :=
  "`" ++ text ++ "`"

def Found.message : Found → String
  | .bool true => "boolean `true`"
  | .bool false => "boolean `false`"
  | .number (.binary x) => "floating point " ++ ticked (String.ofList (layout.chars x))
  | .number n => "integer " ++ ticked (String.ofList n.chars)
  | .string s => "string " ++ Text.quoted s
  | .null => "null"
  | .sequence => "sequence"
  | .map => "map"
  | .unitVariant => "unit variant"

inductive ShapeFault where
  | missingField (name : String)
  | duplicateField (name : String)
  | unknownVariant (name : String) (known : List String)
  | invalidType (found : Found) (expected : String)
  | invalidValue (found : Found) (expected : String)
  | invalidLength (length : Nat) (expected : String)
deriving DecidableEq, Repr

/-- A choice of names in words: one, either of two, or one of a list. -/
def choice : List String → String
  | [a] => "expected " ++ ticked a
  | [a, b] => "expected " ++ ticked a ++ " or " ++ ticked b
  | names => "expected one of " ++ String.intercalate ", " (names.map ticked)

def ShapeFault.message : ShapeFault → String
  | .missingField name => "missing field " ++ ticked name
  | .duplicateField name => "duplicate field " ++ ticked name
  | .unknownVariant name known => "unknown variant " ++ ticked name ++ ", " ++ choice known
  | .invalidType found expected => "invalid type: " ++ found.message ++ ", expected " ++ expected
  | .invalidValue found expected => "invalid value: " ++ found.message ++ ", expected " ++ expected
  | .invalidLength length expected =>
    "invalid length " ++ toString length ++ ", expected " ++ expected

/-! ## Faults with their place -/

/-- A line, counted from 1, and the number of octets of it up to the place. -/
structure Position where
  line : Nat
  column : Nat
deriving DecidableEq, Repr

/-- The place after the first `count` octets of a text. -/
def positionAfter (count : Nat) (octets : List UInt8) : Position :=
  (octets.take count).foldl
    (fun position octet =>
      if octet = 10 then ⟨position.line + 1, 0⟩ else ⟨position.line, position.column + 1⟩)
    ⟨1, 0⟩

inductive Fault where
  | grammar (fault : TextFault) (position : Position)
  | shape (fault : ShapeFault) (position : Option Position)
deriving DecidableEq, Repr

def Position.suffix (position : Position) : String :=
  " at line " ++ toString position.line ++ " column " ++ toString position.column

def Fault.message : Fault → String
  | .grammar fault position => fault.message ++ position.suffix
  | .shape fault none => fault.message
  | .shape fault (some position) => fault.message ++ position.suffix

end DebugBridge.Json
