import DebugBridge.Debugger.CallText
import DebugBridge.Debugger.Dispatch
import DebugBridge.Debugger.Extent
import DebugBridge.Text.Utf8

/-!
A debugger held in memory.

It models a stopped process with some mapped regions, one thread and one frame. Its evaluator knows
the allocation of zeroed memory from a heap, calls of functions that are registered by address, and
expressions that are registered with a value or with a panic; every expression is recorded. An
aggregate result is put into one scratch region, which the next aggregate replaces.

Of overlapping regions the first that contains an address counts. Mapping a region where one starts
already replaces that one, and puts the new one last.
-/

namespace DebugBridge

/-! ## The parts -/

structure Region where
  start : UInt64
  content : Extent
  writable : Bool
deriving DecidableEq, Repr

def Region.contains (region : Region) (address : UInt64) : Bool :=
  region.start ≤ address && (address - region.start).toNat < region.content.size

/-- What a function of the simulated process does with its arguments. -/
inductive Behaviour where
  | scalar (run : List CallValue → Except Panic UInt64)
  | aggregate (run : List CallValue → Except Panic (List UInt8))

structure SimulatedFrame where
  registerSets : List RegisterSet
  /-- The types of variables by name; the first entry for a name counts. -/
  variableTypes : List (String × String)
deriving DecidableEq, Repr

namespace SimulatedFrame

/-- The value of the first register of a name, in the order of the sets. -/
def register (frame : SimulatedFrame) (name : String) : UInt64 :=
  match (frame.registerSets.flatMap (·.registers)).find? (·.name == name) with
  | some register => register.value
  | none => 0

def toFrame (frame : SimulatedFrame) : Frame where
  pc := frame.register "rip"
  sp := frame.register "rsp"
  fp := frame.register "rbp"
  registerSets := frame.registerSets

end SimulatedFrame

structure SimulatedThread where
  id : UInt64
  name : Option String
  frame : Option SimulatedFrame
deriving DecidableEq, Repr

structure SimulatedProcess where
  regions : List Region
  thread : Option SimulatedThread
deriving DecidableEq, Repr

structure SimulatedTarget where
  executable : Option Path
  baseAddress : Option UInt64
  process : Option SimulatedProcess
  /-- Expressions with a value; the first entry for an expression counts. -/
  expressions : List (String × Evaluation)
  panicking : List String
  /-- Functions by address; the first entry for an address counts. -/
  functions : List (UInt64 × Behaviour)
  /-- Every expression evaluated so far, in order. -/
  evaluated : List String
  /-- Where the next allocation will lie. -/
  heapNext : UInt64

structure Simulator where
  target : Option SimulatedTarget

namespace Simulator

/-! ## Fixed addresses -/

def stackBase : UInt64 := 0x7ffe0000
def rodataBase : UInt64 := 0x555555558000
def scratchAddress : UInt64 := 0x7ffff000
def heapBase : UInt64 := 0x60000000

/-- The registers of the frame that a new debugger has selected. -/
def registerSets : List RegisterSet :=
  [ ⟨"General Purpose Registers",
      [⟨"rip", 0x555555555140⟩, ⟨"rsp", stackBase + 0x80⟩, ⟨"rbp", stackBase + 0xa0⟩,
        ⟨"rax", 0⟩, ⟨"rdi", 1⟩]⟩,
    ⟨"Floating Point Registers", [⟨"fcw", 0x37f⟩, ⟨"fsw", 0⟩]⟩ ]

/-- A stack whose octets count upwards, and data that cannot be written. -/
def firstRegions : List Region :=
  [ ⟨stackBase, .ofList ((List.range 256).map Nat.toUInt8), true⟩,
    ⟨rodataBase, .ofList (Utf8.encode "hello, world!".toList ++ [0, 0, 0]), false⟩ ]

/-- A process stopped in its main function. -/
def fresh : Simulator where
  target := some {
    executable := some (.ofText "/bin/prog")
    baseAddress := some 0x555555554000
    process := some {
      regions := firstRegions
      thread := some ⟨4242, some "main", some ⟨registerSets, []⟩⟩ }
    expressions := []
    panicking := []
    functions := []
    evaluated := []
    heapNext := heapBase }

end Simulator

/-! ## Memory -/

namespace SimulatedProcess

def region? (process : SimulatedProcess) (address : UInt64) : Option Region :=
  process.regions.find? (·.contains address)

/-- Puts a region in place of those that start where it does. -/
def map (region : Region) (process : SimulatedProcess) : SimulatedProcess :=
  { process with regions := process.regions.filter (·.start != region.start) ++ [region] }

/-- The octets mapped at an address. -/
def memory? (address size : UInt64) (process : SimulatedProcess) : Option (List UInt8) := do
  let region ← process.region? address
  region.content.slice? (address - region.start).toNat size.toNat

def readMemory (address size : UInt64) (process : SimulatedProcess) :
    Except String (List UInt8) :=
  match process.memory? address size with
  | some data => .ok data
  | none => .error ("memory read failed for " ++ String.ofList (Numeral.address address))

/-- Applies a change to the first region that contains an address. -/
def updateRegion (address : UInt64) (change : Region → Region) : List Region → List Region
  | [] => []
  | region :: rest =>
    if region.contains address then change region :: rest
    else region :: updateRegion address change rest

/-- Writes as much as fits into the region, and tells how much. -/
def writeMemory (address : UInt64) (data : List UInt8) (process : SimulatedProcess) :
    Except String Nat × SimulatedProcess :=
  match process.region? address with
  | none =>
    (.error ("memory write failed for " ++ String.ofList (Numeral.address address)), process)
  | some region =>
    if region.writable then
      let offset := (address - region.start).toNat
      let stored := data.take (region.content.size - offset)
      let change (region : Region) : Region :=
        { region with content := region.content.overwrite offset stored }
      (.ok stored.length, { process with regions := updateRegion address change process.regions })
    else
      (.error ("memory at " ++ String.ofList (Numeral.address address) ++ " is not writable"),
        process)

end SimulatedProcess

/-! ## Evaluation -/

namespace SimulatedTarget

/-- The panic of an addition that leaves 64 bits. -/
def overflow : Panic := .saying "attempt to add with overflow"

/-- The panic of asking for more octets than an allocation can have. -/
def tooLarge : Panic := .saying "capacity overflow"

/-- The largest number of octets an allocation can have, and one more. -/
def capacity : Nat := 0x8000000000000000

abbrev Evaluating := ExceptT Panic (StateM SimulatedTarget) (Except String Evaluation)

/-- The size of an allocation on the heap: at least one octet, rounded up to sixteen. -/
def roundedSize (size : UInt64) : Nat :=
  (max size.toNat 1 + 15) / 16 * 16

/-- Allocates zeroed memory. The heap moves on before the memory is asked for. -/
def allocate (size : UInt64) : Evaluating := do
  let target ← get
  let address := target.heapNext
  let next := address.toNat + roundedSize size
  if UInt64.size ≤ next then throw overflow
  set { target with heapNext := next.toUInt64 }
  match target.process with
  | none => return .error "process exited"
  | some process =>
    if capacity ≤ size.toNat then throw tooLarge
    modify fun target =>
      { target with process := some (process.map ⟨address, .blank size.toNat, true⟩) }
    return .ok (.ofUnsigned address)

/-- The value that names the scratch region. -/
def scratchEvaluation (size : UInt64) : Evaluation :=
  { value := some (String.ofList (Numeral.address Simulator.scratchAddress))
    unsigned := some Simulator.scratchAddress
    typeName := some ("ReturnBuffer_" ++ toString size.toNat ++ " *") }

/-- Runs a function on the arguments of a call. -/
def call (call : CallText) : Evaluating := do
  let target ← get
  match target.functions.lookup call.address, call.bufferSize with
  | none, _ => return .error ("no function at " ++ String.ofList (Numeral.address call.address))
  | some (.scalar run), none =>
    match run call.values with
    | .error panic => throw panic
    | .ok value => return .ok (.ofUnsigned value)
  | some (.aggregate run), some size =>
    match run call.values with
    | .error panic => throw panic
    | .ok octets =>
      if capacity ≤ size.toNat then throw tooLarge
      match target.process with
      | none => return .error "process exited"
      | some process =>
        let content := (Extent.ofList octets).resize size.toNat
        set { target with
          process := some (process.map ⟨Simulator.scratchAddress, content, true⟩) }
        return .ok (scratchEvaluation size)
  | some _, _ =>
    return .error ("return shape does not match the function at "
      ++ String.ofList (Numeral.address call.address))

/-- The size in an expression that allocates; `some (.error _)` when there is no number in its
place. -/
def allocation? (text : List Char) : Option (Except String UInt64) := do
  let rest ← Text.dropStart? "(void*)malloc(".toList text
  let size ← Text.dropEnd? [')'] rest
  match Numeral.readWord 10 size with
  | .ok size => return .ok size
  | .error _ => return .error ("bad allocation size " ++ String.ofList size)

/-- Evaluates an expression; it is recorded whatever comes of it. -/
def evaluate (expression : String) : Evaluating := do
  modify fun target => { target with evaluated := target.evaluated ++ [expression] }
  let target ← get
  if expression ∈ target.panicking then throw (.saying expression)
  match target.expressions.lookup expression with
  | some evaluation => return .ok evaluation
  | none =>
    match allocation? expression.toList with
    | some (.ok size) => allocate size
    | some (.error message) => return .error message
    | none =>
      match CallText.read? expression.toList with
      | some text => call text
      | none => return .error ("error: use of undeclared identifier '" ++ expression ++ "'")

end SimulatedTarget

/-! ## The debugger -/

namespace Simulator

def process? (simulator : Simulator) : Option SimulatedProcess := do
  (← simulator.target).process

def thread? (simulator : Simulator) : Option SimulatedThread := do
  (← simulator.process?).thread

def frame? (simulator : Simulator) : Option SimulatedFrame := do
  (← simulator.thread?).frame

def updateTarget (change : SimulatedTarget → SimulatedTarget) (simulator : Simulator) :
    Simulator :=
  ⟨simulator.target.map change⟩

def updateProcess (change : SimulatedProcess → SimulatedProcess) : Simulator → Simulator :=
  updateTarget fun target => { target with process := target.process.map change }

def updateThread (change : SimulatedThread → SimulatedThread) : Simulator → Simulator :=
  updateProcess fun process => { process with thread := process.thread.map change }

def updateFrame (change : SimulatedFrame → SimulatedFrame) : Simulator → Simulator :=
  updateThread fun thread => { thread with frame := thread.frame.map change }

/-- The accesses of the simulated debugger. Only memory writes and evaluations change it, and only
evaluations panic. -/
def backend : Backend Simulator where
  hasTarget := return (← get).target.isSome
  executable := return (← get).target.bind (·.executable)
  hasProcess := return (← get).process?.isSome
  baseAddress := return (← get).target.bind (·.baseAddress)
  thread := return (← get).thread?.map fun thread => ⟨thread.id, thread.name⟩
  frame := return (← get).frame?.map SimulatedFrame.toFrame
  variableType name := return (← get).frame?.bind (·.variableTypes.lookup name)
  readMemory address size := do
    match (← get).process? with
    | some process => return process.readMemory address size
    | none => return .error "process exited"
  writeMemory address data := do
    match (← get).process? with
    | some process =>
      let (result, process) := process.writeMemory address data
      modify (updateProcess fun _ => process)
      return result
    | none => return .error "process exited"
  evaluate expression := fun simulator =>
    match simulator.target with
    | none => (.ok (.error "process exited"), simulator)
    | some target =>
      let (result, target) := (SimulatedTarget.evaluate expression).run target
      (result, ⟨some target⟩)

/-! ## Observations -/

/-- Every expression evaluated so far, in order. -/
def evaluated (simulator : Simulator) : List String :=
  match simulator.target with
  | some target => target.evaluated
  | none => []

/-- How many registers the selected frame has, over all sets. -/
def registerCount (simulator : Simulator) : Nat :=
  match simulator.frame? with
  | some frame => (frame.toFrame).registers.length
  | none => 0

def memory? (address size : UInt64) (simulator : Simulator) : Option (List UInt8) := do
  (← simulator.process?).memory? address size

end Simulator

/-! ## Setting up -/

/-- A step in setting up a simulated debugger. What belongs to a level that is missing does
nothing. -/
inductive Setup where
  | afresh
  | withoutTarget
  | withoutProcess
  | withoutThread
  | withoutFrame
  | withoutModules
  | withoutExecutable
  | executable (path : Path)
  | baseAddress (address : UInt64)
  | threadName (name : Option String)
  | variable (name typeName : String)
  | region (start : UInt64) (octets : List UInt8) (writable : Bool)
  | expression (text : String) (evaluation : Evaluation)
  | expressionPanic (text : String)
  | function (address : UInt64) (behaviour : Behaviour)

namespace Setup

open Simulator

def apply : Setup → Simulator → Simulator
  | .afresh, _ => fresh
  | .withoutTarget, _ => ⟨none⟩
  | .withoutProcess, s => updateTarget (fun target => { target with process := none }) s
  | .withoutThread, s => updateProcess (fun process => { process with thread := none }) s
  | .withoutFrame, s => updateThread (fun thread => { thread with frame := none }) s
  | .withoutModules, s => updateTarget (fun target => { target with baseAddress := none }) s
  | .withoutExecutable, s => updateTarget (fun target => { target with executable := none }) s
  | .executable path, s => updateTarget (fun target => { target with executable := some path }) s
  | .baseAddress address, s =>
    updateTarget (fun target => { target with baseAddress := some address }) s
  | .threadName name, s => updateThread (fun thread => { thread with name := name }) s
  | .variable name typeName, s =>
    updateFrame
      (fun frame => { frame with variableTypes := (name, typeName) :: frame.variableTypes }) s
  | .region start octets writable, s =>
    updateProcess (SimulatedProcess.map ⟨start, .ofList octets, writable⟩) s
  | .expression text evaluation, s =>
    updateTarget
      (fun target => { target with expressions := (text, evaluation) :: target.expressions }) s
  | .expressionPanic text, s =>
    updateTarget (fun target => { target with panicking := target.panicking ++ [text] }) s
  | .function address behaviour, s =>
    updateTarget
      (fun target => { target with functions := (address, behaviour) :: target.functions }) s

end Setup

/-- A simulated debugger set up in steps. -/
def Simulator.setUp (steps : List Setup) (simulator : Simulator) : Simulator :=
  steps.foldl (fun simulator step => step.apply simulator) simulator

end DebugBridge
