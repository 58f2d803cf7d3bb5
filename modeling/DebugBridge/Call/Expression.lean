import DebugBridge.Call.Operand
import DebugBridge.Text.Quoted

/-!
Calls in the debugged process, as expressions for its native evaluator.

The callee is an address, cast to a pointer to a function whose parameters are those of the
operands. A result that fits a register is declared as an unsigned long. A larger result is declared
as a structure that holds as many octets; it is bound to a name whose address is the value of the
whole expression, so the evaluator's own calling convention delivers the octets.
-/

namespace DebugBridge

/-- Where a call leaves its result. A buffer has at least one octet. -/
inductive ReturnShape where
  | register
  | buffer (size : UInt64)
deriving DecidableEq, Repr

inductive CallKind where
  | method
  | function
deriving DecidableEq, Repr

/-- What a call is named in a report of its failure. -/
def CallKind.label (kind : CallKind) (shape : ReturnShape) : String :=
  match shape, kind with
  | .register, .method => "Simple method"
  | .register, .function => "Simple function"
  | .buffer _, .method => "Complex method"
  | .buffer _, .function => "Complex function"

structure NativeCall where
  address : UInt64
  operands : List Operand
  shape : ReturnShape
deriving DecidableEq, Repr

namespace NativeCall

/-- Without a size the result is in a register; a size of zero is refused. -/
def shapeOf : Option UInt64 → Except CallFault ReturnShape
  | none => .ok .register
  | some size => if size = 0 then .error .zeroSizedReturn else .ok (.buffer size)

/-- A call with operands that come before those of the arguments. -/
def build (address : UInt64) (before : List Operand) (arguments : List Argument)
    (returnSize : Option UInt64) : Except CallFault NativeCall := do
  let shape ← shapeOf returnSize
  let operands ← arguments.mapM Operand.ofArgument
  .ok ⟨address, before ++ operands, shape⟩

def ofFunction (address : UInt64) (arguments : List Argument) (returnSize : Option UInt64) :
    Except CallFault NativeCall :=
  build address [] arguments returnSize

/-- A method is passed the address of its receiver before everything else. -/
def ofMethod (address receiver : UInt64) (arguments : List Argument)
    (returnSize : Option UInt64) : Except CallFault NativeCall :=
  build address [.pointer receiver] arguments returnSize

/-! ## Writing -/

def parameterTypes (operands : List Operand) : List Char :=
  if operands.isEmpty then "void".toList
  else Text.joinWith ", ".toList (operands.map Operand.nativeType)

def literals (operands : List Operand) : List Char :=
  Text.joinWith ", ".toList (operands.map Operand.chars)

/-- The call of a function that returns the given type. -/
def application (call : NativeCall) (returnType : List Char) : List Char :=
  "((".toList ++ returnType ++ " (*)(".toList ++ parameterTypes call.operands ++ "))".toList
    ++ Numeral.address call.address ++ ")(".toList ++ literals call.operands ++ ")".toList

/-- The name of the structure that holds a result of a size. -/
def bufferName (size : UInt64) : List Char :=
  "ReturnBuffer_".toList ++ Numeral.decimal size.toNat

/-- The name that a large result is bound to. -/
def binding : List Char := "__tether_result".toList

def chars (call : NativeCall) : List Char :=
  match call.shape with
  | .register => call.application "unsigned long".toList
  | .buffer size =>
    let structure_ := "struct ".toList ++ bufferName size
    structure_ ++ " \x7b unsigned char bytes[".toList ++ Numeral.decimal size.toNat
      ++ "]; \x7d; auto ".toList ++ binding ++ " = ".toList ++ call.application structure_
      ++ "; &".toList ++ binding

def text (call : NativeCall) : String :=
  String.ofList call.chars

end NativeCall

def CallFault.message : CallFault → String
  | .invalidArgument kind value => "Invalid " ++ kind.described ++ " argument " ++ Text.quoted value
  | .zeroSizedReturn => "Return type size must be non-zero"

end DebugBridge
