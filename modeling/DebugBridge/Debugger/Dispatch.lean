import DebugBridge.Call.Expression
import DebugBridge.Debugger.Backend

/-!
Answering events with a debugger.

`dispatch` answers every event: what the debugger cannot do, and what makes it panic, becomes an
error answer. Without a target or a process every event is refused before anything else is looked
at.
-/

namespace DebugBridge

/-- Why an event cannot be answered as asked. -/
inductive EventFault where
  | noTarget
  | noProcess
  | noThread
  | noFrame
  | registerNotFound (name : String)
  | registerOutOfRange (index : UInt64) (count : Nat)
  | noModules
  | memoryRead (message : String)
  | memoryWrite (message : String)
  | partialWrite (written expected : Nat)
  | evaluation (message : String)
  | allocation (message : String)
  | call (fault : CallFault)
  | callFailed (label message : String)
  | noReturnAddress
  | unknownEvent
  | panicked (panic : Panic)
deriving DecidableEq, Repr

def EventFault.message : EventFault → String
  | .noTarget => "No target selected"
  | .noProcess => "No process"
  | .noThread => "No selected thread"
  | .noFrame => "No selected frame"
  | .registerNotFound name => "Register '" ++ name ++ "' not found"
  | .registerOutOfRange index count =>
    "Register index " ++ toString index.toNat ++ " not found (only have " ++ toString count
      ++ " registers)"
  | .noModules => "No modules loaded"
  | .memoryRead message => "Memory read failed: " ++ message
  | .memoryWrite message => "Memory write failed: " ++ message
  | .partialWrite written expected =>
    "Memory write failed: wrote " ++ toString written ++ " of " ++ toString expected ++ " bytes"
  | .evaluation message => "Expression evaluation failed: " ++ message
  | .allocation message => "Memory allocation failed: " ++ message
  | .call fault => fault.message
  | .callFailed label message => label ++ " call failed: " ++ message
  | .noReturnAddress => "Could not get address of complex return value"
  | .unknownEvent => "Unknown event type"
  | .panicked panic => "Event handling error: " ++ panic.message

/-- Part of the work on an event, which may end it with a fault. What was done to the debugger until
then stays done. -/
abbrev Handling (σ α : Type) := ExceptT EventFault (StateM σ) α

namespace Handling

variable {σ α : Type}

/-- An access; a panic in it ends the event. -/
def access (a : Access σ α) : Handling σ α := fun state =>
  match a state with
  | (.ok value, state) => (.ok value, state)
  | (.error panic, state) => (.error (.panicked panic), state)

/-- A value that should be there. -/
def expect (fault : EventFault) : Option α → Handling σ α
  | some value => pure value
  | none => throw fault

/-- A result that may be a failure in the debugger's words. -/
def succeed (fault : String → EventFault) : Except String α → Handling σ α
  | .ok value => pure value
  | .error message => throw (fault message)

/-- A call that may not have come about. -/
def built : Except CallFault α → Handling σ α
  | .ok value => pure value
  | .error fault => throw (.call fault)

end Handling

open Handling

/-- The selected frame, or what is missing. -/
def selectedFrame {σ : Type} (backend : Backend σ) : Handling σ (Except EventFault Frame) := do
  match ← access backend.thread with
  | none => return .error .noThread
  | some _ =>
    match ← access backend.frame with
    | none => return .error .noFrame
    | some frame => return .ok frame

/-- The selected frame, for an event that needs it. -/
def needFrame {σ : Type} (backend : Backend σ) : Handling σ Frame := do
  match ← selectedFrame backend with
  | .ok frame => pure frame
  | .error fault => throw fault

/-- The result of a call, from what its expression evaluated to. An aggregate lies at the address
that is the value, or else where the value itself is kept; the address zero is none. -/
def callResult {σ : Type} (label : String) (shape : ReturnShape) (evaluation : Evaluation) :
    Handling σ CallResult := do
  match shape with
  | .register =>
    let value ← expect (.callFailed label "result is not an integer") evaluation.unsigned
    return .ofRegister value
  | .buffer size =>
    let nonzero := evaluation.unsigned.filter (· != 0)
    let address ← expect .noReturnAddress (nonzero.or evaluation.loadAddress)
    return .ofBuffer address size

def executeCall {σ : Type} (backend : Backend σ) (kind : CallKind) (call : NativeCall) :
    Handling σ CallResult := do
  let label := kind.label call.shape
  let evaluated ← access (backend.evaluate call.text)
  let evaluation ← succeed (.callFailed label) evaluated
  callResult label call.shape evaluation

/-- The expression that allocates memory. -/
def allocationText (size : UInt64) : String :=
  String.ofList ("(void*)malloc(".toList ++ Numeral.decimal size.toNat ++ [')'])

/-- The work on an event once target and process are known to be there. -/
def handle {σ : Type} (backend : Backend σ) : Request → Handling σ Response
  | .readMemory address size => do
    let data ← succeed .memoryRead (← access (backend.readMemory address size))
    return .memoryData data
  | .writeMemory address data => do
    let written ← succeed .memoryWrite (← access (backend.writeMemory address data))
    if written ≠ data.length then throw (.partialWrite written data.length)
    return .memoryWritten
  | .readRegister name => do
    let frame ← needFrame backend
    let register ← expect (.registerNotFound name) (frame.registers.find? (·.name == name))
    return .registerData register.value
  | .readRegisterByIndex index => do
    let frame ← needFrame backend
    let registers := frame.registers
    let register ← expect (.registerOutOfRange index registers.length) registers[index.toNat]?
    return .registerData register.value
  | .frameInfo => do
    let frame ← needFrame backend
    return .frameInfo frame.pc frame.sp frame.fp
  | .threadInfo => do
    let thread ← expect .noThread (← access backend.thread)
    return .threadInfo thread.id (thread.name.filter (· != ""))
  | .baseAddress => do
    let address ← expect .noModules (← access backend.baseAddress)
    return .baseAddress address
  | .evaluate expression => do
    let evaluation ← succeed .evaluation (← access (backend.evaluate expression))
    return .expressionResult evaluation.display
  | .variableType name => do
    match ← selectedFrame backend with
    | .ok _ => return .variableType (← access (backend.variableType name))
    | .error _ => return .variableType none
  | .allocate size => do
    let evaluation ← succeed .allocation (← access (backend.evaluate (allocationText size)))
    let address ← expect (.allocation "malloc returned NULL") (evaluation.unsigned.filter (· != 0))
    return .memoryAllocated address
  | .callMethod method receiver arguments returnSize => do
    let call ← built (NativeCall.ofMethod method receiver arguments returnSize)
    return .methodResult (← executeCall backend .method call)
  | .callFunction function arguments returnSize => do
    let call ← built (NativeCall.ofFunction function arguments returnSize)
    return .functionResult (← executeCall backend .function call)
  | .unknown => throw .unknownEvent

/-- The work on an event. -/
def attend {σ : Type} (backend : Backend σ) (request : Request) : Handling σ Response := do
  if !(← access backend.hasTarget) then throw .noTarget
  if !(← access backend.hasProcess) then throw .noProcess
  handle backend request

/-- The answer to an event, and the debugger after it. -/
def dispatch {σ : Type} (backend : Backend σ) (request : Request) (state : σ) : Response × σ :=
  match attend backend request state with
  | (.ok response, state) => (response, state)
  | (.error fault, state) => (.error fault.message, state)

end DebugBridge
