import DebugBridge.Number.Shortest
import DebugBridge.Text.Blank
import DebugBridge.Wire.Event

/-!
Operands of a call in the debugged process.

An argument arrives as text with a type. `Operand.ofArgument` reads the text into a value, or
refuses it; `Operand.chars` writes the value as a literal of the native language. No part of the
text itself reaches the literal, so nothing can be smuggled into an expression.
-/

namespace DebugBridge

/-- Why a call cannot be put together. -/
inductive CallFault where
  | invalidArgument (kind : ArgumentKind) (value : String)
  | zeroSizedReturn
deriving DecidableEq, Repr

/-- What an argument of a type should have been. -/
def ArgumentKind.described : ArgumentKind → String
  | .pointer => "pointer"
  | .integer => "integer"
  | .bool => "bool"
  | .float => "float"
  | .other => "untyped"

/-- An operand in the form in which it is passed. -/
inductive Operand where
  | pointer (address : UInt64)
  | integer (value : UInt64)
  | flag (value : Bool)
  | float (value : Binary64)
deriving DecidableEq, Repr

namespace Operand

/-! ## Reading -/

/-- Decimal digits, or hexadecimal digits after `0x`. -/
def readUnsigned? (text : List Char) : Option UInt64 :=
  let text := Text.trim text
  match text with
  | '0' :: 'x' :: digits => (Numeral.readWord 16 digits).toOption
  | '0' :: 'X' :: digits => (Numeral.readWord 16 digits).toOption
  | _ => (Numeral.readWord 10 text).toOption

/-- An unsigned number, or a negative one that wraps around. -/
def readInteger? (text : List Char) : Option UInt64 :=
  let text := Text.trim text
  match readUnsigned? text with
  | some value => some value
  | none => (Numeral.readNegative? text).map fun magnitude => 0 - magnitude.toUInt64

/-- Whether a text says true; any other text says false. -/
def readFlag (text : List Char) : Bool :=
  let lower := (Text.trim text).map Char.toLower
  lower = "true".toList ∨ lower = "1".toList

/-- A finite number. -/
def readFloat? (text : List Char) : Option Binary64 :=
  (Binary64.readText? (Text.trim text)).filter Binary64.isFinite

/-- The operand of an argument. A type that is not known is passed like an integer. -/
def ofArgument (argument : Argument) : Except CallFault Operand :=
  let text := argument.value.toList
  let operand? : Option Operand :=
    match argument.kind with
    | .pointer => (readUnsigned? text).map .pointer
    | .integer => (readInteger? text).map .integer
    | .bool => some (.flag (readFlag text))
    | .float => (readFloat? text).map .float
    | .other => (readInteger? text).map .integer
  match operand? with
  | some operand => .ok operand
  | none => .error (.invalidArgument argument.kind argument.value)

/-! ## Writing -/

/-- Positional notation for exponents from -4 to 15, no sign on a positive exponent, and ties
upward. -/
def layout : Binary64.Layout := ⟨-4, 15, false, .up⟩

/-- The type of the parameter that takes the operand. -/
def nativeType : Operand → List Char
  | .pointer _ => "void*".toList
  | .integer _ => "unsigned long".toList
  | .flag _ => "int".toList
  | .float _ => "double".toList

/-- The operand as a literal. -/
def chars : Operand → List Char
  | .pointer address => "(void*)".toList ++ Numeral.address address
  | .integer value => Numeral.decimal value.toNat ++ "ul".toList
  | .flag true => ['1']
  | .flag false => ['0']
  | .float value => layout.chars value

end Operand
end DebugBridge
