import DebugBridge.Files.Path

/-!
The debugger as the client sees it.

A debugger has at most one selected target, the target at most one process, the process at most one
selected thread, and the thread at most one selected frame. Each access may change the debugger's
state, and each may panic: the state then stays as it was when that happened.
-/

namespace DebugBridge

/-- A panic, with its text if it has one. -/
inductive Panic where
  | saying (text : String)
  | wordless
deriving DecidableEq, Repr

def Panic.message : Panic → String
  | .saying text => text
  | .wordless => "unknown panic"

/-- The value of an expression, as far as the evaluator gives one: its text, a summary, the value as
an unsigned number, where it is kept, and its type. -/
structure Evaluation where
  value : Option String := none
  summary : Option String := none
  unsigned : Option UInt64 := none
  loadAddress : Option UInt64 := none
  typeName : Option String := none
deriving DecidableEq, Repr

namespace Evaluation

def ofUnsigned (n : UInt64) : Evaluation :=
  { value := some (toString n.toNat), unsigned := some n }

/-- The text of a value, else its summary. -/
def display (evaluation : Evaluation) : String :=
  (evaluation.value.or evaluation.summary).getD ""

end Evaluation

structure Register where
  name : String
  value : UInt64
deriving DecidableEq, Repr

structure RegisterSet where
  name : String
  registers : List Register
deriving DecidableEq, Repr

structure Thread where
  id : UInt64
  name : Option String
deriving DecidableEq, Repr

structure Frame where
  pc : UInt64
  sp : UInt64
  fp : UInt64
  registerSets : List RegisterSet
deriving DecidableEq, Repr

/-- The registers of every set, in the order of the sets. -/
def Frame.registers (frame : Frame) : List Register :=
  frame.registerSets.flatMap (·.registers)

/-- An access to a debugger in state `σ`. -/
abbrev Access (σ α : Type) := ExceptT Panic (StateM σ) α

/-- A debugger whose states are `σ`. The inner `Except String` of some accesses is a failure that
the debugger reports in its own words. -/
structure Backend (σ : Type) where
  hasTarget : Access σ Bool
  /-- The path of the target's executable. -/
  executable : Access σ (Option Path)
  hasProcess : Access σ Bool
  /-- Where the main module is loaded. -/
  baseAddress : Access σ (Option UInt64)
  thread : Access σ (Option Thread)
  /-- The frame selected in the selected thread. -/
  frame : Access σ (Option Frame)
  /-- The type of a variable that the selected frame sees. -/
  variableType : String → Access σ (Option String)
  readMemory : (address size : UInt64) → Access σ (Except String (List UInt8))
  /-- Writes and tells how many octets were written. -/
  writeMemory : (address : UInt64) → List UInt8 → Access σ (Except String Nat)
  evaluate : String → Access σ (Except String Evaluation)

end DebugBridge
