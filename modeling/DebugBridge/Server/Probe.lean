import DebugBridge.Json.Basic
import DebugBridge.Server.Query
import DebugBridge.Server.Session
import DebugBridge.Server.Task

/-!
The probe engine.

It knows nothing about the binary beyond its path: whatever it reports comes from the client's
debugger. `eval` and `print` carry out the query that their expression makes; there are no functions
to list, and methods cannot be listed at all.
-/

namespace DebugBridge

/-- The probe engine of one session. -/
structure Probe where
  binary : String
deriving DecidableEq, Repr

namespace Probe

/-! ## Results -/

/-- An object with the members of a result. -/
def result (members : List (String × Json)) : Json :=
  (Json.object members).canonical

/-- What a call gave back, as a result. -/
def returned : Returned → Json
  | .register value => result [("value", .natural value)]
  | .octets data => result [("bytes", .octets data)]

/-! ## Queries -/

/-- Carries out a query. -/
def carryOut (probe : Probe) : Query → Task Json
  | .register name => do
    let value ← Task.readRegister name
    return result [("register", .string name), ("value", .natural value)]
  | .memory address size => do
    let data ← Task.readMemory address size
    return result [("address", .natural address), ("bytes", .octets data)]
  | .frame => do
    let (pc, sp, fp) ← Task.frameInfo
    return result [("pc", .natural pc), ("sp", .natural sp), ("fp", .natural fp)]
  | .thread => do
    let (tid, name) ← Task.threadInfo
    return result [("tid", .natural tid), ("name", .optional .string name)]
  | .base => do
    let address ← Task.baseAddress
    return result [("binary", .string probe.binary), ("base_address", .natural address)]
  | .typeOf name => do
    let typeName ← Task.variableType name
    return result [("variable", .string name), ("type", .optional .string typeName)]
  | .allocate size => do
    let address ← Task.allocate size
    return result [("address", .natural address), ("size", .natural size)]
  | .function address arguments returnSize => do
    return returned (← Task.callFunction address arguments returnSize)
  | .method address receiver arguments returnSize => do
    return returned (← Task.callMethod address receiver arguments returnSize)
  | .native expression => do
    let value ← Task.evaluate expression
    return result [("expression", .string expression), ("value", .string value)]

/-- The expression of a command without the blanks around it, if anything is left of it. -/
def expression? (command : Command) : Option (List Char) :=
  (command.expression?.map fun text => Text.trim text.toList).filter (!·.isEmpty)

/-- Carries out the query that a command's expression makes. -/
def evaluate (probe : Probe) (command : Command) : Task Json := do
  match expression? command with
  | none => throw ⟨command.kind.name ++ " requires an expression", []⟩
  | some text =>
    match Query.read text with
    | .error fault => throw fault.report
    | .ok query => probe.carryOut query

/-- Carries out a command. -/
def handle (probe : Probe) (command : Command) : Task Json :=
  match command.kind with
  | .eval => probe.evaluate command
  | .print => probe.evaluate command
  | .functions => return .array []
  | .methods =>
    throw ⟨"methods requires type information, which this server does not load", []⟩
  | .shutdown => throw ⟨"shutdown is not a session command", []⟩

/-- The engine that attaches a probe to every path that names a file. -/
def engine (isFile : String → Bool) : Engine Probe where
  attach path :=
    if isFile path then .ok ⟨path⟩ else .error ⟨"binary not found: " ++ path, []⟩
  handle probe command := do
    let result ← (probe.handle command).run
    return (result, probe)

end Probe
end DebugBridge
