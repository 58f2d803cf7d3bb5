import DebugBridge.Number.Numeral
import DebugBridge.Server.Work

/-!
What a server can ask of the client's debugger.

A task is work that may fail with a report. Each kind of request has a task that gives the payload
of its answer; an answer that reports an error makes the task fail with the client's words. A call
that leaves an aggregate in the client's memory is followed at once by the reading of it, before
anything else can use the place where it lies.
-/

namespace DebugBridge

/-- Work that gives an `α` or a report of its failure. -/
abbrev Task (α : Type) := ExceptT Report Work α

/-- What a call gave back: the contents of the return register, or the octets of an aggregate. -/
inductive Returned where
  | register (value : UInt64)
  | octets (data : List UInt8)
deriving DecidableEq, Repr

namespace Task

variable {α : Type}

/-- One exchange, whatever the answer. -/
def request (request : Request) : Task Response :=
  ExceptT.mk (.ask request fun reply => .done (reply.mapError ExchangeFault.report))

/-- The payload that an answer to a request should carry. -/
def payload (request : Request) (extract : Response → Option α) (response : Response) :
    Except Report α :=
  match response with
  | .error message => .error ⟨message, []⟩
  | response =>
    match extract response with
    | some a => .ok a
    | none => .error ⟨"unexpected " ++ response.name ++ " answer to " ++ request.name, []⟩

/-- One exchange, of which the payload of the answer is wanted. -/
def ask (request : Request) (extract : Response → Option α) : Task α := do
  let response ← Task.request request
  ExceptT.mk (.done (payload request extract response))

/-- The same task; its failure is reported with a statement in front. -/
def within (message : String) (task : Task α) : Task α :=
  ExceptT.mk (task.run.bind fun result => .done (result.mapError (Report.wrap message)))

def readMemory (address size : UInt64) : Task (List UInt8) :=
  ask (.readMemory address size) fun
    | .memoryData data => some data
    | _ => none

def writeMemory (address : UInt64) (data : List UInt8) : Task Unit :=
  ask (.writeMemory address data) fun
    | .memoryWritten => some ()
    | _ => none

def readRegister (name : String) : Task UInt64 :=
  ask (.readRegister name) fun
    | .registerData value => some value
    | _ => none

/-- The program counter, the stack pointer and the frame pointer. -/
def frameInfo : Task (UInt64 × UInt64 × UInt64) :=
  ask .frameInfo fun
    | .frameInfo pc sp fp => some (pc, sp, fp)
    | _ => none

def threadInfo : Task (UInt64 × Option String) :=
  ask .threadInfo fun
    | .threadInfo tid name => some (tid, name)
    | _ => none

def baseAddress : Task UInt64 :=
  ask .baseAddress fun
    | .baseAddress address => some address
    | _ => none

/-- The value of an expression of the client's native evaluator. -/
def evaluate (expression : String) : Task String :=
  ask (.evaluate expression) fun
    | .expressionResult value => some value
    | _ => none

def variableType (name : String) : Task (Option String) :=
  ask (.variableType name) fun
    | .variableType typeName => some typeName
    | _ => none

def allocate (size : UInt64) : Task UInt64 :=
  ask (.allocate size) fun
    | .memoryAllocated address => some address
    | _ => none

/-- What the reading of an aggregate is called in the report of its failure. -/
def readBackLabel (address size : UInt64) : String :=
  "reading " ++ toString size.toNat ++ " byte return value at "
    ++ String.ofList (Numeral.address address)

/-- Reads an aggregate as soon as it is known where it lies. -/
def materialize : CallResult → Task Returned
  | .register value _ => return .register value
  | .buffer address size _ => do
    let data ← within (readBackLabel address size) (readMemory address size)
    return .octets data

def callFunction (function : UInt64) (arguments : List Argument) (returnSize : Option UInt64) :
    Task Returned := do
  let result ← ask (.callFunction function arguments returnSize) fun
    | .functionResult result => some result
    | _ => none
  materialize result

/-- Calls a method on the object at an address. -/
def callMethod (method receiver : UInt64) (arguments : List Argument)
    (returnSize : Option UInt64) : Task Returned := do
  let result ← ask (.callMethod method receiver arguments returnSize) fun
    | .methodResult result => some result
    | _ => none
  materialize result

end Task
end DebugBridge
