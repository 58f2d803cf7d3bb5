import DebugBridge.Number.Numeral
import DebugBridge.Text.Blank
import DebugBridge.Text.Quoted
import DebugBridge.Wire.Report

/-!
The expressions that the probe engine understands.

A dollar sign names a register, a star an address and perhaps a size, and four words begin or are
expressions of their own; a call gives the address of a function, or of a method and its receiver,
then its arguments with their types, and perhaps the size of its result behind an arrow. Every other
expression is meant for the client's native evaluator.

`Query.read` takes an expression without blanks around it.
-/

namespace DebugBridge

/-- What an expression asks for. -/
inductive Query where
  | register (name : String)
  | memory (address size : UInt64)
  | frame
  | thread
  | base
  | typeOf (variableName : String)
  | allocate (size : UInt64)
  | function (address : UInt64) (arguments : List Argument) (returnSize : Option UInt64)
  | method (address receiver : UInt64) (arguments : List Argument) (returnSize : Option UInt64)
  | native (expression : String)
deriving DecidableEq, Repr

/-- What a size in an expression is the size of. -/
inductive SizeRole where
  | allocation
  | read
  | return
deriving DecidableEq, Repr

def SizeRole.name : SizeRole → String
  | .allocation => "allocation"
  | .read => "read"
  | .return => "return"

inductive QueryFault where
  | number (text : String) (fault : Numeral.Fault)
  | size (role : SizeRole) (text : String) (fault : Numeral.Fault)
  | noCallee
  | untypedArgument (token : String)
  | unknownType (name : String)
deriving DecidableEq, Repr

namespace QueryFault

/-- The report on a text that is no number. -/
def numberReport (text : String) (fault : Numeral.Fault) : Report :=
  ⟨"invalid number " ++ Text.quoted text, [fault.message]⟩

def report : QueryFault → Report
  | .number text fault => numberReport text fault
  | .size role text fault => (numberReport text fault).wrap ("parsing " ++ role.name ++ " size")
  | .noCallee => ⟨"call requires a function address", []⟩
  | .untypedArgument token =>
    ⟨"argument " ++ Text.quoted token ++ " must look like <type>:<value>", []⟩
  | .unknownType name => ⟨"unknown argument type " ++ Text.quoted name, []⟩

end QueryFault

namespace Query

/-! ## Parts -/

/-- A number without the blanks around it: decimal, or hexadecimal after `0x`. The fault comes with
the text that is no number. -/
def readNumber (text : List Char) : Except (String × Numeral.Fault) UInt64 :=
  let text := Text.trim text
  let result :=
    match Text.dropStart? ['0', 'x'] text with
    | some digits => Numeral.readWord 16 digits
    | none => Numeral.readWord 10 text
  result.mapError fun fault => (String.ofList text, fault)

def number (text : List Char) : Except QueryFault UInt64 :=
  (readNumber text).mapError fun (text, fault) => .number text fault

def size (role : SizeRole) (text : List Char) : Except QueryFault UInt64 :=
  (readNumber text).mapError fun (text, fault) => .size role text fault

/-- The size of memory that is read when none is given. -/
def defaultSize : UInt64 := 8

/-- An address, and a size behind a colon. -/
def memoryAt (text : List Char) : Except QueryFault Query :=
  match Text.splitOnce [':'] text with
  | some (address, rest) => do
    let address ← number address
    return .memory address (← size .read rest)
  | none => return .memory (← number text) defaultSize

/-- The types of arguments by the names that they have in an expression. -/
def argumentKind? (name : String) : Option ArgumentKind :=
  [("ptr", .pointer), ("int", .integer), ("bool", .bool), ("float", .float)].lookup name

/-- An argument: its type, a colon and its value, taken as it is. -/
def argument (token : List Char) : Except QueryFault Argument :=
  match Text.splitOnce [':'] token with
  | none => .error (.untypedArgument (String.ofList token))
  | some (name, value) =>
    match argumentKind? (String.ofList name) with
    | some kind => .ok ⟨String.ofList value, kind⟩
    | none => .error (.unknownType (String.ofList name))

/-- A callee and its arguments. The callee is read last. -/
def callee (returnSize : Option UInt64) : List (List Char) → Except QueryFault Query
  | [] => .error .noCallee
  | first :: tokens => do
    let arguments ← tokens.mapM argument
    match Text.splitOnce ['@'] first with
    | some (code, receiver) =>
      let address ← number code
      return .method address (← number receiver) arguments returnSize
    | none => return .function (← number first) arguments returnSize

/-- A call, its result in a register unless an arrow gives the result a size. -/
def call (text : List Char) : Except QueryFault Query :=
  match Text.splitOnce ['-', '>'] text with
  | some (text, returned) => do
    let returnSize ← size .return returned
    callee (some returnSize) (Text.words text)
  | none => callee none (Text.words text)

/-! ## Expressions -/

/-- Forms that begin with a word and a space. -/
def ofWords (expression : List Char) : Except QueryFault Query :=
  match Text.dropStart? "typeof ".toList expression with
  | some name => return .typeOf (String.ofList (Text.trim name))
  | none =>
    match Text.dropStart? "malloc ".toList expression with
    | some text => return .allocate (← size .allocation text)
    | none =>
      match Text.dropStart? "call ".toList expression with
      | some text => call text
      | none => return .native (String.ofList expression)

/-- What an expression asks for. -/
def read : List Char → Except QueryFault Query
  | '$' :: name => return .register (String.ofList name)
  | '*' :: text => memoryAt text
  | expression =>
    if expression = "frame".toList then return .frame
    else if expression = "thread".toList then return .thread
    else if expression = "base".toList then return .base
    else ofWords expression

end Query
end DebugBridge
