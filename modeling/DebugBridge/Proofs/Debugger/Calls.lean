import DebugBridge.Debugger.Simulator
import DebugBridge.Proofs.Call.ReadBack
import DebugBridge.Proofs.Debugger.Answers

/-!
# A call reaches the function that it names

A call that is asked for becomes an expression, and the simulated process runs the function at the
callee's address on the values that it reads out of the expression. They are the values that were
asked for, so the answer is what that function makes of them. `Outcome` says which answer that is,
and what becomes of the process.

Results:
1. `dispatch_of_executeCall`, `executeCall_of_evaluate`, `evaluate_of_read?`: from the event to the
   call in the process.
2. `outcome_of_call`: every way in which the call comes out.
3. `Calling.delivers_arguments`: the call passes what was asked for, and its outcome is the answer.
-/

namespace DebugBridge

/-- A call that a server asks for: of a method if there is a receiver, else of a function. -/
structure Calling where
  callee : UInt64
  receiver : Option UInt64
  arguments : List Argument
  returnSize : Option UInt64

namespace Calling

def request (calling : Calling) : Request :=
  match calling.receiver with
  | some receiver =>
    .callMethod calling.callee receiver calling.arguments calling.returnSize
  | none => .callFunction calling.callee calling.arguments calling.returnSize

/-- The expression that the call becomes. -/
def build (calling : Calling) : Except CallFault NativeCall :=
  match calling.receiver with
  | some receiver =>
    NativeCall.ofMethod calling.callee receiver calling.arguments calling.returnSize
  | none => NativeCall.ofFunction calling.callee calling.arguments calling.returnSize

/-- What is passed: the receiver, if there is one, before the values of the arguments. -/
def passed (calling : Calling) (values : List CallValue) : List CallValue :=
  calling.receiver.toList.map .unsigned ++ values

def kind (calling : Calling) : CallKind :=
  if calling.receiver.isSome then .method else .function

def shape (calling : Calling) : ReturnShape :=
  match calling.returnSize with
  | none => .register
  | some size => .buffer size

/-- The answer that carries a result. -/
def answer (calling : Calling) (result : CallResult) : Response :=
  if calling.receiver.isSome then .methodResult result else .functionResult result

def respond (calling : Calling) : Except EventFault CallResult → Response
  | .ok result => calling.answer result
  | .error fault => .error fault.message

/-- The answer that reports a failure in the debugger's words. -/
def failure (calling : Calling) (message : String) : Response :=
  .error (calling.kind.label calling.shape ++ " call failed: " ++ message)

/-- What a call that passes these values comes to in a process: the answer, and the process
afterwards. -/
inductive Outcome (calling : Calling) (passed : List CallValue) (target : SimulatedTarget) :
    Response → SimulatedTarget → Prop
  | scalar {run : List CallValue → Except Panic UInt64} {value : UInt64} :
      target.functions.lookup calling.callee = some (.scalar run) → calling.returnSize = none →
      run passed = .ok value →
      Outcome calling passed target (calling.answer (.ofRegister value)) target
  /-- The octets are put into the scratch region, cut off or filled up to the size. -/
  | aggregate {run : List CallValue → Except Panic (List UInt8)} {octets : List UInt8}
      {size : UInt64} {process : SimulatedProcess} :
      target.functions.lookup calling.callee = some (.aggregate run) →
      calling.returnSize = some size → run passed = .ok octets →
      size.toNat < SimulatedTarget.capacity → target.process = some process →
      Outcome calling passed target (calling.answer (.ofBuffer Simulator.scratchAddress size))
        { target with
          process := some (process.map
            ⟨Simulator.scratchAddress, (Extent.ofList octets).resize size.toNat, true⟩) }
  /-- No allocation can hold a buffer of that size. -/
  | tooLarge {run : List CallValue → Except Panic (List UInt8)} {octets : List UInt8}
      {size : UInt64} :
      target.functions.lookup calling.callee = some (.aggregate run) →
      calling.returnSize = some size → run passed = .ok octets →
      SimulatedTarget.capacity ≤ size.toNat →
      Outcome calling passed target (.error "Event handling error: capacity overflow") target
  | scalarPanic {run : List CallValue → Except Panic UInt64} {panic : Panic} :
      target.functions.lookup calling.callee = some (.scalar run) → calling.returnSize = none →
      run passed = .error panic →
      Outcome calling passed target (.error ("Event handling error: " ++ panic.message)) target
  | aggregatePanic {run : List CallValue → Except Panic (List UInt8)} {size : UInt64}
      {panic : Panic} :
      target.functions.lookup calling.callee = some (.aggregate run) →
      calling.returnSize = some size → run passed = .error panic →
      Outcome calling passed target (.error ("Event handling error: " ++ panic.message)) target
  | missing :
      target.functions.lookup calling.callee = none →
      Outcome calling passed target
        (calling.failure
          ("no function at " ++ String.ofList (Numeral.address calling.callee))) target
  | scalarMismatch {run : List CallValue → Except Panic UInt64} {size : UInt64} :
      target.functions.lookup calling.callee = some (.scalar run) →
      calling.returnSize = some size →
      Outcome calling passed target
        (calling.failure ("return shape does not match the function at "
          ++ String.ofList (Numeral.address calling.callee))) target
  | aggregateMismatch {run : List CallValue → Except Panic (List UInt8)} :
      target.functions.lookup calling.callee = some (.aggregate run) →
      calling.returnSize = none →
      Outcome calling passed target
        (calling.failure ("return shape does not match the function at "
          ++ String.ofList (Numeral.address calling.callee))) target

end Calling

open Simulator

/-! ## From the event to the process -/

variable {calling : Calling} {call : NativeCall} {target after : SimulatedTarget}

theorem attend_running (running : target.process.isSome = true) (request : Request) :
    attend backend request ⟨some target⟩ = handle backend request ⟨some target⟩ := by
  obtain ⟨executable, base, process, expressions, panicking, functions, evaluated, heap⟩ := target
  cases process with
  | none => cases running
  | some process => rfl

theorem handle_calling {σ : Type} (backend : Backend σ) (calling : Calling) :
    handle backend calling.request
      = Handling.built calling.build >>= fun call =>
        executeCall backend calling.kind call >>= fun result => pure (calling.answer result) := by
  obtain ⟨callee, receiver, arguments, returnSize⟩ := calling
  cases receiver <;> rfl

theorem handle_request (accepted : calling.build = .ok call) :
    handle backend calling.request
      = executeCall backend calling.kind call >>= fun result => pure (calling.answer result) := by
  rw [handle_calling, accepted]
  rfl

/-- The answer to a call is its result, or what went wrong. -/
theorem dispatch_of_executeCall (accepted : calling.build = .ok call)
    (running : target.process.isSome = true) {result : Except EventFault CallResult}
    {debugger : Simulator}
    (executed : executeCall backend calling.kind call ⟨some target⟩ = (result, debugger)) :
    dispatch backend calling.request ⟨some target⟩ = (calling.respond result, debugger) := by
  rw [dispatch, attend_running running, handle_request accepted, Handling.bind_apply, executed]
  cases result <;> rfl

theorem executeCall_of_evaluate (kind : CallKind) {result : Except Panic (Except String Evaluation)}
    (evaluated : SimulatedTarget.evaluate call.text target = (result, after)) :
    executeCall backend kind call ⟨some target⟩
      = match result with
        | .error panic => (.error (.panicked panic), ⟨some after⟩)
        | .ok (.error message) =>
          (.error (.callFailed (kind.label call.shape) message), ⟨some after⟩)
        | .ok (.ok evaluation) =>
          callResult (kind.label call.shape) call.shape evaluation ⟨some after⟩ := by
  have accessed : Handling.access (backend.evaluate call.text) ⟨some target⟩
      = match result with
        | .ok value => (.ok value, ⟨some after⟩)
        | .error panic => (.error (.panicked panic), ⟨some after⟩) := by
    have run : backend.evaluate call.text ⟨some target⟩ = (result, ⟨some after⟩) := by
      show ((SimulatedTarget.evaluate call.text target).1,
        (⟨some (SimulatedTarget.evaluate call.text target).2⟩ : Simulator)) = _
      rw [evaluated]
    unfold Handling.access
    rw [run]
    cases result <;> rfl
  unfold executeCall
  rw [Handling.bind_apply, accessed]
  rcases result with panic | message | evaluation <;> rfl

namespace SimulatedTarget

/-- The target with an expression recorded. -/
def recording (expression : String) (target : SimulatedTarget) : SimulatedTarget :=
  { target with evaluated := target.evaluated ++ [expression] }

/-- An evaluation, with all ways in which it comes out. -/
theorem evaluate_apply (expression : String) (target : SimulatedTarget) :
    evaluate expression target
      = if expression ∈ target.panicking then
          (.error (.saying expression), target.recording expression)
        else
          match target.expressions.lookup expression with
          | some evaluation => (.ok (.ok evaluation), target.recording expression)
          | none =>
            match allocation? expression.toList with
            | some (.ok size) => allocate size (target.recording expression)
            | some (.error message) => (.ok (.error message), target.recording expression)
            | none =>
              match CallText.read? expression.toList with
              | some text => SimulatedTarget.call text (target.recording expression)
              | none =>
                (.ok (.error ("error: use of undeclared identifier '" ++ expression ++ "'")),
                  target.recording expression) := by
  unfold evaluate
  change (ite (expression ∈ target.panicking) _ _ : Evaluating) (target.recording expression) = _
  by_cases panics : expression ∈ target.panicking
  · rw [if_pos panics, if_pos panics]
    rfl
  rw [if_neg panics, if_neg panics]
  dsimp only
  cases target.expressions.lookup expression with
  | some evaluation => rfl
  | none =>
    rcases allocation? expression.toList with _ | message | size
    · cases CallText.read? expression.toList <;> rfl
    · rfl
    · rfl

end SimulatedTarget

theorem evaluate_of_read? {expression : String} {text : CallText}
    (calm : expression ∉ target.panicking)
    (unregistered : target.expressions.lookup expression = none)
    (unallocating : SimulatedTarget.allocation? expression.toList = none)
    (read : CallText.read? expression.toList = some text) :
    SimulatedTarget.evaluate expression target
      = SimulatedTarget.call text
        { target with evaluated := target.evaluated ++ [expression] } := by
  rw [SimulatedTarget.evaluate_apply, if_neg calm]
  simp only [unregistered, unallocating, read]
  rfl

/-- A call does not begin like an allocation. -/
theorem allocation?_chars (call : NativeCall) : SimulatedTarget.allocation? call.chars = none := by
  obtain ⟨address, operands, shape⟩ := call
  cases shape with
  | register => rfl
  | buffer size => rfl

/-! ## In the process -/

theorem shape_eq (same : call.returnSize = calling.returnSize) : call.shape = calling.shape := by
  unfold Calling.shape
  rw [← same]
  unfold NativeCall.returnSize
  cases call.shape <;> rfl

section
variable (accepted : calling.build = .ok call) (running : target.process.isSome = true)
include accepted running

theorem dispatch_of_panic {panic : Panic}
    (evaluated : SimulatedTarget.evaluate call.text target = (.error panic, after)) :
    dispatch backend calling.request ⟨some target⟩
      = (.error ("Event handling error: " ++ panic.message), ⟨some after⟩) :=
  dispatch_of_executeCall accepted running (executeCall_of_evaluate calling.kind evaluated)

theorem dispatch_of_failure (shape : call.shape = calling.shape) {message : String}
    (evaluated : SimulatedTarget.evaluate call.text target = (.ok (.error message), after)) :
    dispatch backend calling.request ⟨some target⟩ = (calling.failure message, ⟨some after⟩) := by
  have executed := executeCall_of_evaluate calling.kind evaluated
  rw [shape] at executed
  exact dispatch_of_executeCall accepted running executed

theorem dispatch_of_register (shape : call.shape = .register) {value : UInt64}
    (evaluated : SimulatedTarget.evaluate call.text target
      = (.ok (.ok (.ofUnsigned value)), after)) :
    dispatch backend calling.request ⟨some target⟩
      = (calling.answer (.ofRegister value), ⟨some after⟩) := by
  have executed := executeCall_of_evaluate calling.kind evaluated
  rw [shape] at executed
  exact dispatch_of_executeCall accepted running executed

theorem dispatch_of_buffer {size : UInt64} (shape : call.shape = .buffer size)
    (evaluated : SimulatedTarget.evaluate call.text target
      = (.ok (.ok (SimulatedTarget.scratchEvaluation size)), after)) :
    dispatch backend calling.request ⟨some target⟩
      = (calling.answer (.ofBuffer scratchAddress size), ⟨some after⟩) := by
  have executed := executeCall_of_evaluate calling.kind evaluated
  rw [shape] at executed
  exact dispatch_of_executeCall accepted running executed

end

theorem SimulatedTarget.get_bind (next : SimulatedTarget → SimulatedTarget.Evaluating)
    (target : SimulatedTarget) :
    ((get : ExceptT Panic (StateM SimulatedTarget) SimulatedTarget) >>= next) target
      = next target target := rfl

section
variable {passed : List CallValue} {asked : SimulatedTarget}
variable (accepted : calling.build = .ok call) (running : target.process.isSome = true)
  (shape : call.shape = calling.shape)
  (evaluated : SimulatedTarget.evaluate call.text target
    = SimulatedTarget.call ⟨calling.callee, passed, calling.returnSize⟩ asked)
include accepted running shape evaluated

/-- A scalar function that no buffer is asked of is run, and its value is the answer. -/
theorem outcome_of_scalar {run : List CallValue → Except Panic UInt64}
    (function : asked.functions.lookup calling.callee = some (.scalar run))
    (size : calling.returnSize = none) :
    ∃ response after, dispatch backend calling.request ⟨some target⟩ = (response, ⟨some after⟩)
      ∧ calling.Outcome passed asked response after := by
  have register : call.shape = .register := by rw [shape, Calling.shape, size]
  unfold SimulatedTarget.call at evaluated
  rw [SimulatedTarget.get_bind] at evaluated
  simp only [function, size] at evaluated
  cases ran : run passed with
  | error panic =>
    rw [ran] at evaluated
    exact ⟨_, _, dispatch_of_panic accepted running evaluated, .scalarPanic function size ran⟩
  | ok value =>
    rw [ran] at evaluated
    exact ⟨_, _, dispatch_of_register accepted running register evaluated,
      .scalar function size ran⟩

/-- An aggregate function that a buffer is asked of is run, and fills the buffer if there can be
one. -/
theorem outcome_of_aggregate {run : List CallValue → Except Panic (List UInt8)} {size : UInt64}
    (running' : asked.process.isSome = true)
    (function : asked.functions.lookup calling.callee = some (.aggregate run))
    (size_eq : calling.returnSize = some size) :
    ∃ response after, dispatch backend calling.request ⟨some target⟩ = (response, ⟨some after⟩)
      ∧ calling.Outcome passed asked response after := by
  obtain ⟨process, process_eq⟩ := Option.isSome_iff_exists.mp running'
  have buffer : call.shape = .buffer size := by rw [shape, Calling.shape, size_eq]
  unfold SimulatedTarget.call at evaluated
  rw [SimulatedTarget.get_bind] at evaluated
  simp only [function, size_eq] at evaluated
  cases ran : run passed with
  | error panic =>
    rw [ran] at evaluated
    exact ⟨_, _, dispatch_of_panic accepted running evaluated,
      .aggregatePanic function size_eq ran⟩
  | ok octets =>
    rw [ran] at evaluated
    dsimp only at evaluated
    rcases Nat.lt_or_ge size.toNat SimulatedTarget.capacity with fits | large
    · rw [if_neg (Nat.not_le_of_lt fits), process_eq] at evaluated
      exact ⟨_, _, dispatch_of_buffer accepted running buffer evaluated,
        .aggregate function size_eq ran fits process_eq⟩
    · rw [if_pos large] at evaluated
      exact ⟨_, _, dispatch_of_panic accepted running evaluated,
        .tooLarge function size_eq ran large⟩

/-- Every way in which the call comes out. -/
theorem outcome_of_call (running' : asked.process.isSome = true) :
    ∃ response after, dispatch backend calling.request ⟨some target⟩ = (response, ⟨some after⟩)
      ∧ calling.Outcome passed asked response after := by
  cases function : asked.functions.lookup calling.callee with
  | none =>
    have missing := evaluated
    unfold SimulatedTarget.call at missing
    rw [SimulatedTarget.get_bind] at missing
    simp only [function] at missing
    exact ⟨_, _, dispatch_of_failure accepted running shape missing, .missing function⟩
  | some behaviour =>
    have mismatch := evaluated
    unfold SimulatedTarget.call at mismatch
    rw [SimulatedTarget.get_bind] at mismatch
    cases behaviour with
    | scalar run =>
      cases size : calling.returnSize with
      | none => exact outcome_of_scalar accepted running shape evaluated function size
      | some size' =>
        simp only [function, size] at mismatch
        exact ⟨_, _, dispatch_of_failure accepted running shape mismatch,
          .scalarMismatch function size⟩
    | aggregate run =>
      cases size : calling.returnSize with
      | some size' =>
        exact outcome_of_aggregate accepted running shape evaluated running' function size
      | none =>
        simp only [function, size] at mismatch
        exact ⟨_, _, dispatch_of_failure accepted running shape mismatch,
          .aggregateMismatch function size⟩

end

/-! ## The whole way -/

namespace Calling

theorem build_eq_ok (accepted : calling.build = .ok call) :
    ∃ operands, calling.arguments.mapM Operand.ofArgument = .ok operands ∧
      call.address = calling.callee ∧
      call.operands = calling.receiver.toList.map .pointer ++ operands ∧
      call.returnSize = calling.returnSize := by
  obtain ⟨callee, receiver, arguments, returnSize⟩ := calling
  cases receiver <;> exact NativeCall.build_eq_ok accepted

theorem legible_of_asks {receiver : Option UInt64} {arguments : List Argument}
    {operands : List Operand}
    (asks : AskInOrder arguments (operands.map Operand.value))
    (floats : ∀ x, .float x ∈ receiver.toList.map Operand.pointer ++ operands →
      Binary64.readText? (Operand.layout.chars x) = some x) :
    ∀ operand ∈ receiver.toList.map Operand.pointer ++ operands, operand.Legible := by
  rintro operand member x rfl
  refine ⟨?_, floats x member⟩
  rcases List.mem_append.mp member with before | among
  · obtain ⟨address, -, same⟩ := List.mem_map.mp before
    cases same
  · exact asks.finite (List.mem_map.mpr ⟨_, among, rfl⟩)

/-- A call that is accepted passes exactly what was asked for, if the floats in it are read back as
they are written. Its text is read back as the callee, the values in their order, and the size of
the buffer; and whatever is asked of a running process, its answer is what the function at that
address makes of these values. -/
theorem delivers_arguments (accepted : calling.build = .ok call)
    (floats : ∀ x, .float x ∈ call.operands →
      Binary64.readText? (Operand.layout.chars x) = some x) :
    ∃ values, (∀ asked, AskInOrder calling.arguments asked ↔ asked = values) ∧
      CallText.read? call.chars
        = some ⟨calling.callee, calling.passed values, calling.returnSize⟩ ∧
      ∀ target : SimulatedTarget, target.process.isSome = true →
        call.text ∉ target.panicking → target.expressions.lookup call.text = none →
        ∃ response after, dispatch backend calling.request ⟨some target⟩ = (response, ⟨some after⟩)
          ∧ calling.Outcome (calling.passed values)
            { target with evaluated := target.evaluated ++ [call.text] } response after := by
  obtain ⟨operands, made, callee, before, size⟩ := build_eq_ok accepted
  have asks := Operand.asks_of_mapM made
  rw [before] at floats
  have legible := legible_of_asks asks floats
  rw [← before] at legible
  have passed : call.operands.map Operand.value
      = calling.passed (operands.map Operand.value) := by
    rw [before, List.map_append, List.map_map]
    rfl
  have read := CallText.read?_chars legible
  rw [callee, passed, size] at read
  refine ⟨operands.map Operand.value, fun asked => ⟨fun asks' => asks'.unique asks, ?_⟩,
    read, fun target running calm unregistered => ?_⟩
  · rintro rfl
    exact asks
  · have chars : call.text.toList = call.chars := String.toList_ofList
    have evaluated := evaluate_of_read? calm unregistered
      (by rw [chars, allocation?_chars]) (by rw [chars, read])
    exact outcome_of_call accepted running (shape_eq size) evaluated running

/-- A process with one function, which gives back an octet of each value. -/
def workshop : SimulatedTarget where
  executable := none
  baseAddress := none
  process := some ⟨firstRegions, none⟩
  expressions := []
  panicking := []
  functions :=
    [(0x4100, .aggregate fun values => .ok (values.map fun value => value.toWord.toUInt8))]
  evaluated := []
  heapNext := heapBase

/-- A method with arguments of every type. -/
def scaling : Calling where
  callee := 0x4100
  receiver := some 0x60000010
  arguments :=
    [⟨" 0xFF ", .pointer⟩, ⟨"-5", .integer⟩, ⟨"TRUE", .bool⟩, ⟨"2.5", .float⟩, ⟨"+7", .other⟩]
  returnSize := some 24

def scaled : NativeCall where
  address := 0x4100
  operands := [.pointer 0x60000010, .pointer 0xFF, .integer 0xFFFFFFFFFFFFFFFB, .flag true,
    .float ⟨0x4004000000000000⟩, .integer 7]
  shape := .buffer 24

theorem delivers_arguments_scaling :
    scaling.build = .ok scaled ∧
      (∀ x, .float x ∈ scaled.operands →
        Binary64.readText? (Operand.layout.chars x) = some x) ∧
      ∃ values, (∀ asked, AskInOrder scaling.arguments asked ↔ asked = values) ∧
        CallText.read? scaled.chars
          = some ⟨scaling.callee, scaling.passed values, scaling.returnSize⟩ ∧
        ∃ after, dispatch backend scaling.request ⟨some workshop⟩
              = (.methodResult (.ofBuffer scratchAddress 24), ⟨some after⟩) ∧
          scaling.Outcome (scaling.passed values) { workshop with evaluated := [scaled.text] }
            (.methodResult (.ofBuffer scratchAddress 24)) after := by
  have accepted : scaling.build = .ok scaled := Result.eq_ok_of_toOption (by decide +kernel)
  have floats : ∀ x, .float x ∈ scaled.operands →
      Binary64.readText? (Operand.layout.chars x) = some x := by
    intro x present
    have only : ∀ operand ∈ scaled.operands, ∀ x, operand = .float x →
        x = ⟨0x4004000000000000⟩ := by
      simp [scaled]
    rw [only _ present x rfl]
    decide +kernel
  obtain ⟨values, exactly, read, delivers⟩ := delivers_arguments accepted floats
  obtain ⟨response, after, dispatched, outcome⟩ := delivers workshop rfl List.not_mem_nil rfl
  have answered : response = .methodResult (.ofBuffer scratchAddress 24) := by
    cases outcome with
    | aggregate function size =>
      cases size
      rfl
    | tooLarge function size ran large =>
      cases size
      exact absurd large (by decide)
    | aggregatePanic function size ran =>
      cases function
      cases ran
    | aggregateMismatch function size => cases size
    | scalar function | scalarPanic function | scalarMismatch function | missing function =>
      cases function
  rw [answered] at dispatched outcome
  exact ⟨accepted, floats, values, exactly, read, after, dispatched, outcome⟩

/-- A call of the same function that wants half of all memory for its result. -/
def hoarding : Calling where
  callee := 0x4100
  receiver := none
  arguments := []
  returnSize := some 0x8000000000000000

def hoarded : NativeCall where
  address := 0x4100
  operands := []
  shape := .buffer 0x8000000000000000

/-- There is no buffer for it, so that no result is answered. -/
theorem hoarding_refused :
    hoarding.build = .ok hoarded ∧ workshop.process.isSome = true ∧
      hoarded.text ∉ workshop.panicking ∧ workshop.expressions.lookup hoarded.text = none ∧
      (∃ run, workshop.functions.lookup hoarding.callee = some (.aggregate run) ∧
        run (hoarding.passed []) = .ok []) ∧
      (dispatch backend hoarding.request ⟨some workshop⟩).1
        = .error "Event handling error: capacity overflow" ∧
      (dispatch backend hoarding.request ⟨some workshop⟩).1
        ≠ hoarding.answer (.ofBuffer scratchAddress 0x8000000000000000) := by
  have accepted : hoarding.build = .ok hoarded := rfl
  have chars : hoarded.text.toList = hoarded.chars := String.toList_ofList
  have read : CallText.read? hoarded.chars = some ⟨0x4100, [], some 0x8000000000000000⟩ :=
    @CallText.read?_chars hoarded fun _ member => absurd member List.not_mem_nil
  have evaluated : SimulatedTarget.evaluate hoarded.text workshop
      = (.error SimulatedTarget.tooLarge, { workshop with evaluated := [hoarded.text] }) := by
    rw [evaluate_of_read? List.not_mem_nil rfl (by rw [chars, allocation?_chars])
      (by rw [chars, read])]
    rfl
  rw [dispatch_of_panic accepted rfl evaluated]
  exact ⟨accepted, rfl, List.not_mem_nil, rfl, ⟨_, rfl, rfl⟩, rfl, Response.noConfusion⟩

end Calling
end DebugBridge
