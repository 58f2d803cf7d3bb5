import DebugBridge.Proofs.Debugger.Calls
import DebugBridge.Proofs.Debugger.Memory

/-!
# What an event touches

Most events only look at the debugger. A write changes octets of one region. Only an evaluation can
do more, and an event evaluates at most one expression: its own, that of an allocation, or that of a
call, if the call can be put together. The expression is recorded before anything else is done with
it, so it stays recorded when the evaluation fails or panics.

Results:
1. `Handling.state_bind`: what follows the one access that changes something does not matter.
2. `SimulatedTarget.keeps_allocate`, `SimulatedTarget.keeps_call`, `SimulatedTarget.evaluate_keeps`:
   what an evaluation leaves alone.
3. `Calling.build_isOk_iff`: which calls are evaluated.
4. `Simulator.touches_dispatch`, `Simulator.fixtures_asked`: one event, and a run of events.
5. `Simulator.dispatch_touches`: all debuggers, with and without a target and a process.
-/

namespace DebugBridge

/-! ## Handling that only looks -/

namespace Handling

variable {σ α β : Type}

/-- The debugger stays as it is. -/
def Still (handling : Handling σ α) : Prop :=
  ∀ state, (handling state).2 = state

theorem still_pure (a : α) : Still (pure a : Handling σ α) := fun _ => rfl

theorem still_throw (fault : EventFault) : Still (throw fault : Handling σ α) := fun _ => rfl

theorem still_expect (fault : EventFault) (value : Option α) :
    Still (expect fault value : Handling σ α) := by
  cases value with
  | none => exact still_throw fault
  | some a => exact still_pure a

theorem still_succeed (fault : String → EventFault) (result : Except String α) :
    Still (succeed fault result : Handling σ α) := by
  cases result with
  | error message => exact still_throw (fault message)
  | ok a => exact still_pure a

theorem still_access {a : Access σ α} (looks : ∀ state, (a state).2 = state) :
    Still (access a) := by
  intro state
  have same := looks state
  unfold access
  split
  · next eq => rwa [eq] at same
  · next eq => rwa [eq] at same

/-- What only looks at the debugger can be disregarded when it comes last. -/
theorem state_bind (handling : Handling σ α) {next : α → Handling σ β}
    (looks : ∀ a, Still (next a)) (state : σ) :
    ((handling >>= next) state).2 = (handling state).2 := by
  rw [bind_apply]
  split
  · next a after eq => exact (looks a after).trans (congrArg Prod.snd eq).symm
  · next fault after eq => exact (congrArg Prod.snd eq).symm

theorem still_bind {handling : Handling σ α} (first : Still handling) {next : α → Handling σ β}
    (later : ∀ a, Still (next a)) : Still (handling >>= next) :=
  fun state => (state_bind handling later state).trans (first state)

/-- An access leaves the debugger as the access itself does. -/
theorem state_access (a : Access σ α) (state : σ) : (access a state).2 = (a state).2 := by
  unfold access
  split
  · next eq => exact (congrArg Prod.snd eq).symm
  · next eq => exact (congrArg Prod.snd eq).symm

end Handling

open Handling Simulator

theorem still_selectedFrame : Still (selectedFrame backend) := by
  refine still_bind (still_access fun _ => rfl) fun thread => ?_
  cases thread with
  | none => exact still_pure _
  | some thread =>
    refine still_bind (still_access fun _ => rfl) fun frame => ?_
    cases frame with
    | none => exact still_pure _
    | some frame => exact still_pure _

theorem still_needFrame : Still (needFrame backend) := by
  refine still_bind still_selectedFrame fun selected => ?_
  cases selected with
  | ok frame => exact still_pure _
  | error fault => exact still_throw _

theorem still_callResult (label : String) (shape : ReturnShape) (evaluation : Evaluation) :
    Still (callResult label shape evaluation : Handling Simulator CallResult) := by
  cases shape with
  | register => exact still_bind (still_expect _ _) fun _ => still_pure _
  | buffer size => exact still_bind (still_expect _ _) fun _ => still_pure _

/-! ## Evaluations -/

/-- Everything in a debugger but the mapped regions, the recorded expressions and the place of the
next allocation. -/
structure Fixtures where
  executable : Option Path
  baseAddress : Option UInt64
  /-- The selected thread with its frame, the registers and the variables, if there is a process. -/
  thread : Option (Option SimulatedThread)
  expressions : List (String × Evaluation)
  panicking : List String
  functions : List (UInt64 × Behaviour)

namespace SimulatedTarget

def fixtures (target : SimulatedTarget) : Fixtures :=
  ⟨target.executable, target.baseAddress, target.process.map (·.thread), target.expressions,
    target.panicking, target.functions⟩

/-- An evaluation changes nothing but memory and the heap. -/
def Keeps (evaluating : Evaluating) : Prop :=
  ∀ target, (evaluating target).2.fixtures = target.fixtures ∧
    (evaluating target).2.evaluated = target.evaluated

theorem fixtures_map {target : SimulatedTarget} {process : SimulatedProcess}
    (running : target.process = some process) (region : Region) (heapNext : UInt64) :
    { target with heapNext, process := some (process.map region) }.fixtures = target.fixtures := by
  unfold fixtures
  rw [running]
  rfl

/-- An allocation, with all ways in which it comes out. -/
theorem allocate_apply (size : UInt64) (target : SimulatedTarget) :
    allocate size target
      = if UInt64.size ≤ target.heapNext.toNat + roundedSize size then (.error overflow, target)
        else
          let moved := { target with
            heapNext := (target.heapNext.toNat + roundedSize size).toUInt64 }
          match target.process with
          | none => (.ok (.error "process exited"), moved)
          | some process =>
            if capacity ≤ size.toNat then (.error tooLarge, moved)
            else (.ok (.ok (.ofUnsigned target.heapNext)),
              { moved with
                process := some (process.map ⟨target.heapNext, .blank size.toNat, true⟩) }) := by
  unfold allocate
  rw [get_bind]
  by_cases high : UInt64.size ≤ target.heapNext.toNat + roundedSize size
  · simp only [if_pos high]
    rfl
  · simp only [if_neg high]
    cases target.process with
    | none => rfl
    | some process =>
      by_cases large : capacity ≤ size.toNat
      · simp only [if_pos large]
        rfl
      · simp only [if_neg large]
        rfl

theorem keeps_allocate (size : UInt64) : Keeps (allocate size) := by
  intro target
  rw [allocate_apply]
  split
  · exact ⟨rfl, rfl⟩
  dsimp only
  split
  · exact ⟨rfl, rfl⟩
  next process running =>
  split
  · exact ⟨rfl, rfl⟩
  · exact ⟨fixtures_map running _ _, rfl⟩

/-- A call leaves the target as it is, unless an aggregate function has come to a result that fits:
that is mapped in the scratch region. -/
theorem call_cases (text : CallText) (target : SimulatedTarget) :
    (call text target).2 = target ∨
      ∃ process run size octets, target.process = some process ∧
        target.functions.lookup text.address = some (.aggregate run) ∧
        text.bufferSize = some size ∧ run text.values = .ok octets ∧ size.toNat < capacity ∧
        call text target = (.ok (.ok (scratchEvaluation size)),
          { target with
            process := some (process.map
              ⟨Simulator.scratchAddress, (Extent.ofList octets).resize size.toNat, true⟩) }) := by
  unfold call
  rw [get_bind]
  cases target.functions.lookup text.address with
  | none => exact .inl rfl
  | some behaviour =>
    cases behaviour with
    | scalar run =>
      cases text.bufferSize with
      | none =>
        left
        dsimp only
        cases run text.values <;> rfl
      | some size => exact .inl rfl
    | aggregate run =>
      cases text.bufferSize with
      | none => exact .inl rfl
      | some size =>
        dsimp only
        cases ran : run text.values with
        | error panic => exact .inl rfl
        | ok octets =>
          rcases Nat.lt_or_ge size.toNat capacity with fits | large
          · dsimp only
            rw [if_neg (Nat.not_le_of_lt fits)]
            cases running : target.process with
            | none => exact .inl rfl
            | some process => exact .inr ⟨process, run, size, octets, rfl, rfl, rfl, ran, fits, rfl⟩
          · dsimp only
            rw [if_pos large]
            exact .inl rfl

theorem keeps_call (text : CallText) : Keeps (call text) := by
  intro target
  rcases call_cases text target with
    same | ⟨process, run, size, octets, running, -, -, -, -, mapped⟩
  · rw [same]
    exact ⟨rfl, rfl⟩
  · rw [mapped]
    exact ⟨fixtures_map running _ target.heapNext, rfl⟩

/-- An expression is recorded, and nothing but memory and the heap changes besides. -/
theorem evaluate_keeps (expression : String) (target : SimulatedTarget) :
    (evaluate expression target).2.fixtures = target.fixtures ∧
      (evaluate expression target).2.evaluated = target.evaluated ++ [expression] := by
  rw [evaluate_apply]
  split
  · exact ⟨rfl, rfl⟩
  split
  · exact ⟨rfl, rfl⟩
  split
  · exact keeps_allocate _ _
  · exact ⟨rfl, rfl⟩
  split
  · exact keeps_call _ _
  · exact ⟨rfl, rfl⟩

end SimulatedTarget

/-! ## Which calls are evaluated -/

namespace Calling

variable {calling : Calling}

/-- All arguments can be passed, and the result does not have the size zero. -/
def Acceptable (calling : Calling) : Prop :=
  calling.returnSize ≠ some 0 ∧
    ∀ argument ∈ calling.arguments, ∃ operand, Operand.ofArgument argument = .ok operand

theorem build_isOk_iff : (∃ call, calling.build = .ok call) ↔ calling.Acceptable := by
  obtain ⟨callee, receiver, arguments, returnSize⟩ := calling
  have built : ∀ before, (∃ call, NativeCall.build callee before arguments returnSize = .ok call)
      ↔ Acceptable ⟨callee, receiver, arguments, returnSize⟩ := by
    intro before
    unfold NativeCall.build Acceptable
    rw [← Result.mapM_isOk_iff]
    rcases returnSize with _ | size
    · cases arguments.mapM Operand.ofArgument <;> simp [NativeCall.shapeOf]
    · by_cases zero : size = 0
      · simp [NativeCall.shapeOf, zero]
      · cases arguments.mapM Operand.ofArgument <;> simp [NativeCall.shapeOf, zero]
  cases receiver with
  | none => exact built []
  | some receiver => exact built [.pointer receiver]

/-- A call that cannot be put together is refused before the debugger is asked for anything. -/
theorem still_of_not_acceptable (refused : ¬ calling.Acceptable) :
    Still (handle backend calling.request) := by
  rw [handle_calling]
  cases built : calling.build with
  | ok call => exact absurd (build_isOk_iff.mp ⟨call, built⟩) refused
  | error fault => exact still_throw (.call fault)

/-- Otherwise its expression is evaluated, and nothing else is done. -/
theorem state_of_build {call : NativeCall} (built : calling.build = .ok call)
    (debugger : Simulator) :
    (handle backend calling.request debugger).2 = (backend.evaluate call.text debugger).2 := by
  rw [handle_request built, state_bind _ fun _ => still_pure _]
  unfold executeCall
  rw [state_bind _ fun _ => still_bind (still_succeed _ _) fun _ => still_callResult _ _ _,
    state_access]

end Calling

/-! ## Events -/

namespace Simulator

variable {debugger : Simulator} {process : SimulatedProcess}

/-- Everything in a debugger but the mapped regions, the recorded expressions and the place of the
next allocation, if there is a target. -/
def fixtures (debugger : Simulator) : Option Fixtures :=
  debugger.target.map SimulatedTarget.fixtures

/-- Nothing but octets of one region that can be written to may differ. -/
def WritesWithin (before after : Simulator) : Prop :=
  after = before ∨ ∃ process front region later content, before.process? = some process ∧
    process.regions = front ++ region :: later ∧ region.writable = true ∧
    Extent.size content = region.content.size ∧
    after = before.withProcess
      { process with regions := front ++ { region with content := content } :: later }

/-- An expression is added to those that have been evaluated. Memory may have changed. -/
structure Evaluates (expression : String) (before after : Simulator) : Prop where
  evaluated : after.evaluated = before.evaluated ++ [expression]
  fixtures : after.fixtures = before.fixtures

/-- A call is evaluated if it can be put together, and else leaves everything as it is. -/
def Calls (calling : Calling) (before after : Simulator) : Prop :=
  (calling.Acceptable → ∃ call, calling.build = .ok call ∧ Evaluates call.text before after) ∧
    (¬ calling.Acceptable → after = before)

/-- What an event may touch in a debugger that has a process. -/
def Touches (before after : Simulator) : Request → Prop
  | .readMemory _ _ | .readRegister _ | .readRegisterByIndex _ | .frameInfo | .threadInfo
  | .baseAddress | .variableType _ | .unknown => after = before
  | .writeMemory _ _ => WritesWithin before after
  | .evaluate expression => Evaluates expression before after
  | .allocate size => Evaluates (allocationText size) before after
  | .callMethod method receiver arguments returnSize =>
    Calls ⟨method, some receiver, arguments, returnSize⟩ before after
  | .callFunction function arguments returnSize =>
    Calls ⟨function, none, arguments, returnSize⟩ before after

section
variable (running : debugger.process? = some process)
include running

theorem state_dispatch (request : Request) :
    (dispatch backend request debugger).2 = (handle backend request debugger).2 := by
  rw [← attend_of_running (backend_running running)]
  unfold dispatch
  split
  · next eq => exact (congrArg Prod.snd eq).symm
  · next eq => exact (congrArg Prod.snd eq).symm

theorem evaluates_evaluate (expression : String) :
    Evaluates expression debugger (backend.evaluate expression debugger).2 := by
  obtain ⟨target, rfl⟩ := exists_target running
  have ⟨kept, evaluated⟩ :=
    SimulatedTarget.evaluate_keeps expression { target with process := some process }
  exact ⟨evaluated, congrArg some kept⟩

/-- An event that only looks at the debugger. -/
theorem dispatch_of_still {request : Request} (still : Still (handle backend request)) :
    (dispatch backend request debugger).2 = debugger :=
  (state_dispatch running request).trans (still debugger)

/-- An event that evaluates, and then only looks at the result. -/
theorem state_of_evaluating {request : Request} {expression : String}
    {next : Except String Evaluation → Handling Simulator Response}
    (evaluating : handle backend request = access (backend.evaluate expression) >>= next)
    (looks : ∀ result, Still (next result)) :
    (dispatch backend request debugger).2 = (backend.evaluate expression debugger).2 := by
  rw [state_dispatch running, evaluating, state_bind _ looks, state_access]

theorem state_evaluate (expression : String) :
    (dispatch backend (.evaluate expression) debugger).2
      = (backend.evaluate expression debugger).2 :=
  state_of_evaluating running rfl fun _ => still_bind (still_succeed _ _) fun _ => still_pure _

theorem state_allocate (size : UInt64) :
    (dispatch backend (.allocate size) debugger).2
      = (backend.evaluate (allocationText size) debugger).2 :=
  state_of_evaluating running rfl fun _ =>
    still_bind (still_succeed _ _) fun _ => still_bind (still_expect _ _) fun _ => still_pure _

theorem state_calling {calling : Calling} {call : NativeCall} (built : calling.build = .ok call) :
    (dispatch backend calling.request debugger).2 = (backend.evaluate call.text debugger).2 := by
  rw [state_dispatch running, Calling.state_of_build built]

theorem calls_dispatch (calling : Calling) :
    Calls calling debugger (dispatch backend calling.request debugger).2 := by
  refine ⟨fun accepted => ?_, fun refused =>
    dispatch_of_still running (Calling.still_of_not_acceptable refused)⟩
  obtain ⟨call, built⟩ := Calling.build_isOk_iff.mpr accepted
  refine ⟨call, built, ?_⟩
  rw [state_calling running built]
  exact evaluates_evaluate running call.text

theorem writesWithin_dispatch (address : UInt64) (data : List UInt8) :
    WritesWithin debugger (dispatch backend (.writeMemory address data) debugger).2 := by
  cases here : process.region? address with
  | none =>
    obtain ⟨response, dispatched, -⟩ := written_unmapped running here data
    exact .inl (congrArg Prod.snd dispatched)
  | some region =>
    cases writable : region.writable with
    | false =>
      obtain ⟨response, dispatched, -⟩ := written_readOnly running here writable data
      exact .inl (congrArg Prod.snd dispatched)
    | true =>
      obtain ⟨front, later, found⟩ := SimulatedProcess.exists_found here
      obtain ⟨response, dispatched, -⟩ := written_stored running found writable data
      exact .inr ⟨process, front, region, later, _, running, found.regions, writable,
        Region.size_store found.inside, congrArg Prod.snd dispatched⟩

/-- With a process, every event touches only what it may. -/
theorem touches_dispatch (request : Request) :
    Touches debugger (dispatch backend request debugger).2 request := by
  cases request with
  | readMemory address size => rw [dispatch_readMemory running, Touches]
  | writeMemory address data => exact writesWithin_dispatch running address data
  | readRegister name =>
    exact dispatch_of_still running (still_bind still_needFrame fun _ =>
      still_bind (still_expect _ _) fun _ => still_pure _)
  | readRegisterByIndex index =>
    exact dispatch_of_still running (still_bind still_needFrame fun _ =>
      still_bind (still_expect _ _) fun _ => still_pure _)
  | frameInfo =>
    exact dispatch_of_still running (still_bind still_needFrame fun _ => still_pure _)
  | threadInfo =>
    exact dispatch_of_still running (still_bind (still_access fun _ => rfl) fun _ =>
      still_bind (still_expect _ _) fun _ => still_pure _)
  | baseAddress =>
    exact dispatch_of_still running (still_bind (still_access fun _ => rfl) fun _ =>
      still_bind (still_expect _ _) fun _ => still_pure _)
  | evaluate expression =>
    rw [state_evaluate running]
    exact evaluates_evaluate running expression
  | variableType name =>
    refine dispatch_of_still running (still_bind still_selectedFrame fun selected => ?_)
    cases selected with
    | ok frame => exact still_bind (still_access fun _ => rfl) fun _ => still_pure _
    | error fault => exact still_pure _
  | allocate size =>
    rw [state_allocate running]
    exact evaluates_evaluate running (allocationText size)
  | callMethod method receiver arguments returnSize =>
    exact calls_dispatch running ⟨method, some receiver, arguments, returnSize⟩
  | callFunction function arguments returnSize =>
    exact calls_dispatch running ⟨function, none, arguments, returnSize⟩
  | unknown => exact dispatch_of_still running (still_throw .unknownEvent)

end

theorem fixtures_withProcess (running : debugger.process? = some process)
    {other : SimulatedProcess} (same : other.thread = process.thread) :
    (debugger.withProcess other).fixtures = debugger.fixtures := by
  obtain ⟨target, rfl⟩ := exists_target running
  show some { target with process := some other }.fixtures
    = some { target with process := some process }.fixtures
  simp only [SimulatedTarget.fixtures, Option.map_some, same]

/-- What an event may touch does not include the fixtures. -/
theorem fixtures_of_touches {after : Simulator} {request : Request}
    (touches : Touches debugger after request) : after.fixtures = debugger.fixtures := by
  have still : after = debugger → after.fixtures = debugger.fixtures := congrArg fixtures
  have calls : ∀ calling, Calls calling debugger after → after.fixtures = debugger.fixtures := by
    intro calling ⟨accepted, refused⟩
    by_cases acceptable : calling.Acceptable
    · obtain ⟨call, -, evaluates⟩ := accepted acceptable
      exact evaluates.fixtures
    · exact still (refused acceptable)
  cases request with
  | writeMemory address data =>
    rcases touches with same | ⟨process, front, region, later, content, running, -, -, -, rfl⟩
    · exact still same
    · exact fixtures_withProcess running rfl
  | evaluate expression => exact touches.fixtures
  | allocate size => exact touches.fixtures
  | callMethod method receiver arguments returnSize => exact calls _ touches
  | callFunction function arguments returnSize => exact calls _ touches
  | _ => exact still touches

theorem dispatch_noTarget (missing : debugger.target = none) (request : Request) :
    dispatch backend request debugger = (.error "No target selected", debugger) := by
  have noTarget : backend.hasTarget debugger = (.ok false, debugger) := by
    show (Except.ok debugger.target.isSome, debugger) = _
    rw [missing]
    rfl
  exact dispatch_of_error (attend_of_noTarget noTarget request)

theorem dispatch_noProcess (present : debugger.target ≠ none) (missing : debugger.process? = none)
    (request : Request) : dispatch backend request debugger = (.error "No process", debugger) := by
  have target : backend.hasTarget debugger = (.ok true, debugger) := by
    obtain ⟨target⟩ := debugger
    cases target with
    | none => exact absurd rfl present
    | some target => rfl
  have noProcess : backend.hasProcess debugger = (.ok false, debugger) := by
    show (Except.ok debugger.process?.isSome, debugger) = _
    rw [missing]
    rfl
  exact dispatch_of_error (attend_of_noProcess target noProcess request)

theorem fixtures_dispatch (request : Request) (debugger : Simulator) :
    (dispatch backend request debugger).2.fixtures = debugger.fixtures := by
  cases running : debugger.process? with
  | some process => exact fixtures_of_touches (touches_dispatch running request)
  | none =>
    by_cases missing : debugger.target = none
    · rw [dispatch_noTarget missing]
    · rw [dispatch_noProcess missing running]

/-- The debugger after it has been asked events, one after the other. -/
def asked (requests : List Request) (debugger : Simulator) : Simulator :=
  requests.foldl (fun debugger request => (dispatch backend request debugger).2) debugger

theorem asked_append (requests later : List Request) (debugger : Simulator) :
    debugger.asked (requests ++ later) = (debugger.asked requests).asked later :=
  List.foldl_append

theorem fixtures_asked (requests : List Request) (debugger : Simulator) :
    (debugger.asked requests).fixtures = debugger.fixtures := by
  induction requests generalizing debugger with
  | nil => rfl
  | cons request requests ih => exact (ih _).trans (fixtures_dispatch request debugger)

/-- Without a target, and else without a process, every event is refused and nothing changes. With a
process every event touches only what it may, and no events ever touch the fixtures. -/
theorem dispatch_touches (debugger : Simulator) :
    (∀ request,
      (debugger.target = none →
        dispatch backend request debugger = (.error "No target selected", debugger)) ∧
      (debugger.target ≠ none → debugger.process? = none →
        dispatch backend request debugger = (.error "No process", debugger)) ∧
      (debugger.process? ≠ none →
        Touches debugger (dispatch backend request debugger).2 request)) ∧
      ∀ requests, (debugger.asked requests).fixtures = debugger.fixtures := by
  refine ⟨fun request => ⟨fun missing => dispatch_noTarget missing request,
    fun present missing => dispatch_noProcess present missing request, fun present => ?_⟩,
    fun requests => fixtures_asked requests debugger⟩
  obtain ⟨process, running⟩ := Option.ne_none_iff_exists'.mp present
  exact touches_dispatch running request

/-- A debugger with an expression that panics. -/
def brittle : Simulator :=
  Simulator.fresh.setUp [.expressionPanic "broken()"]

theorem dispatch_touches_brittle :
    dispatch backend .unknown ⟨none⟩ = (.error "No target selected", ⟨none⟩) ∧
      dispatch backend (.callFunction 0x4100 [] (some 0)) (brittle.setUp [.withoutProcess])
        = (.error "No process", brittle.setUp [.withoutProcess]) ∧
      (dispatch backend (.evaluate "broken()") brittle).1
        = .error "Event handling error: broken()" ∧
      (dispatch backend (.evaluate "broken()") brittle).2.evaluated = ["broken()"] ∧
      (dispatch backend (.callFunction 0x4100 [⟨"1", .integer⟩, ⟨"one", .integer⟩] none)
        brittle).2 = brittle ∧
      (brittle.asked [.allocate 8, .evaluate "broken()"]).fixtures = brittle.fixtures := by
  have ⟨events, runs⟩ := dispatch_touches brittle
  have present : brittle.process? ≠ none := nofun
  have refused :
      ¬ Calling.Acceptable ⟨0x4100, none, [⟨"1", .integer⟩, ⟨"one", .integer⟩], none⟩ := by
    intro ⟨_, arguments⟩
    obtain ⟨operand, made⟩ := arguments ⟨"one", .integer⟩ (by simp)
    have invalid : (Operand.ofArgument ⟨"one", .integer⟩).toOption = none := by decide +kernel
    rw [made] at invalid
    cases invalid
  refine ⟨((dispatch_touches ⟨none⟩).1 .unknown).1 rfl,
    ((dispatch_touches (brittle.setUp [.withoutProcess])).1 _).2.1 nofun rfl, by rfl, ?_, ?_,
    runs _⟩
  · exact ((events (.evaluate "broken()")).2.2 present).evaluated
  · exact ((events (.callFunction _ _ _)).2.2 present).2 refused

end Simulator
end DebugBridge
