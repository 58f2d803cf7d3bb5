import DebugBridge.Json.Basic

/-!
Events: what a server asks of a client's debugger while a command runs, and the answers.

Every request has one category of answers, and an error is an answer to any request.
`Response.answers` is that relation as a test.
-/

namespace DebugBridge

/-- The type of an argument of a call in the debugged process. `other` is any type this side does
not know. -/
inductive ArgumentKind where
  | pointer
  | integer
  | bool
  | float
  | other
deriving DecidableEq, Repr, Inhabited

/-- An argument of a call, its value as text. -/
structure Argument where
  value : String
  kind : ArgumentKind
deriving DecidableEq, Repr, Inhabited

/-- What a call in the debugged process gave back: the contents of the return register, or the place
of a buffer that holds an aggregate. The buffer lasts until the next evaluation. -/
inductive CallResult where
  | register (value : UInt64) (returnType : String)
  | buffer (address size : UInt64) (returnType : String)
deriving DecidableEq, Repr

namespace CallResult

/-- A register result; its type is not known, so a placeholder stands for it. -/
def ofRegister (value : UInt64) : CallResult :=
  .register value "usize"

/-- A buffer result, with the placeholder for aggregates. -/
def ofBuffer (address size : UInt64) : CallResult :=
  .buffer address size "complex"

end CallResult

/-- An event. `unknown` stands for any event of a newer server. -/
inductive Request where
  | readMemory (address size : UInt64)
  | writeMemory (address : UInt64) (data : List UInt8)
  | readRegister (name : String)
  | readRegisterByIndex (index : UInt64)
  | frameInfo
  | threadInfo
  | baseAddress
  | evaluate (expression : String)
  | variableType (name : String)
  | allocate (size : UInt64)
  | callMethod (method receiver : UInt64) (arguments : List Argument) (returnSize : Option UInt64)
  | callFunction (function : UInt64) (arguments : List Argument) (returnSize : Option UInt64)
  | unknown
deriving DecidableEq, Repr, Inhabited

/-- The answer to an event. -/
inductive Response where
  | memoryData (data : List UInt8)
  | memoryWritten
  | registerData (value : UInt64)
  | frameInfo (pc sp fp : UInt64)
  | threadInfo (tid : UInt64) (name : Option String)
  | baseAddress (address : UInt64)
  | expressionResult (value : String)
  | variableType (typeName : Option String)
  | memoryAllocated (address : UInt64)
  | methodResult (result : CallResult)
  | functionResult (result : CallResult)
  | error (message : String)
deriving DecidableEq, Repr

namespace Request

/-- The name of an event on the wire. -/
def name : Request → String
  | .readMemory .. => "ReadMemory"
  | .writeMemory .. => "WriteMemory"
  | .readRegister .. => "ReadRegister"
  | .readRegisterByIndex .. => "ReadRegisterByIndex"
  | .frameInfo => "GetFrameInfo"
  | .threadInfo => "GetThreadInfo"
  | .baseAddress => "GetBaseAddress"
  | .evaluate .. => "EvaluateLLDBExpression"
  | .variableType .. => "GetVariableType"
  | .allocate .. => "AllocateMemory"
  | .callMethod .. => "ExecuteMethod"
  | .callFunction .. => "ExecuteFunction"
  | .unknown => "Unknown"

end Request

namespace Response

/-- The name of an answer on the wire. -/
def name : Response → String
  | .memoryData .. => "MemoryData"
  | .memoryWritten => "MemoryWritten"
  | .registerData .. => "RegisterData"
  | .frameInfo .. => "FrameInfo"
  | .threadInfo .. => "ThreadInfo"
  | .baseAddress .. => "BaseAddress"
  | .expressionResult .. => "ExpressionResult"
  | .variableType .. => "VariableTypeResult"
  | .memoryAllocated .. => "MemoryAllocated"
  | .methodResult .. => "MethodResult"
  | .functionResult .. => "FunctionResult"
  | .error .. => "Error"

/-- Whether a response is a legal answer to a request. -/
def answers : Response → Request → Bool
  | .error _, _ => true
  | .memoryData _, .readMemory .. => true
  | .memoryWritten, .writeMemory .. => true
  | .registerData _, .readRegister _ => true
  | .registerData _, .readRegisterByIndex _ => true
  | .frameInfo .., .frameInfo => true
  | .threadInfo .., .threadInfo => true
  | .baseAddress _, .baseAddress => true
  | .expressionResult _, .evaluate _ => true
  | .variableType _, .variableType _ => true
  | .memoryAllocated _, .allocate _ => true
  | .methodResult _, .callMethod .. => true
  | .functionResult _, .callFunction .. => true
  | _, _ => false

end Response
end DebugBridge
