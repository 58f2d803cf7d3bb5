import DebugBridge.Proofs.Debugger.Calls
import DebugBridge.Proofs.Debugger.Levels

/-!
# Results have the shape that was asked for

A call that wants its result in a register is answered by a number, and a call that wants a buffer
is answered by the place of one, of the size that was asked for. What the evaluator may say of an
expression is left open here: a value, a number, a place, or none of these. So an event that is
answered by anything but an error is followed backwards, from its answer to what the evaluator has
said.

The address zero is taken for a result that is missing where it comes as a value, of a call and of
an allocation. Where it comes as the place in which a value is kept, it is passed on.

Results:
1. `Handling.bind_eq_ok` and its like: a step that has come out well.
2. `isError_or_handled`: an event is answered by an error, or it has come out well all the way.
3. `callResult_eq_ok`, `executeCall_eq_ok`: what the evaluator has said of a call.
4. `results_fit`: the shape of answers to calls and allocations, and whether they name the address
   zero.
-/

namespace DebugBridge

/-! ## Steps that have come out well -/

namespace Handling

variable {σ α β : Type} {before after : σ}

theorem bind_eq_ok {handling : Handling σ α} {next : α → Handling σ β} {b : β} :
    (handling >>= next) before = (.ok b, after) ↔
      ∃ a between, handling before = (.ok a, between) ∧ next a between = (.ok b, after) := by
  rw [bind_apply]
  rcases handling before with ⟨fault | a, between⟩
  · exact ⟨nofun, fun ⟨_, _, done, _⟩ => nomatch done⟩
  · refine ⟨fun last => ⟨a, between, rfl, last⟩, ?_⟩
    rintro ⟨a', between', done, last⟩
    cases done
    exact last

theorem pure_eq_ok {a b : α} :
    (pure a : Handling σ α) before = (.ok b, after) ↔ a = b ∧ before = after := by
  show (Except.ok a, before) = _ ↔ _
  rw [Prod.mk.injEq, Except.ok.injEq]

theorem access_eq_ok {a : Access σ α} {value : α} :
    access a before = (.ok value, after) ↔ a before = (.ok value, after) := by
  unfold access
  rcases a before with ⟨panic | value', between⟩
  · exact ⟨nofun, nofun⟩
  · constructor <;>
    · intro same
      cases same
      rfl

theorem expect_eq_ok {fault : EventFault} {value : Option α} {a : α} :
    expect fault value before = (.ok a, after) ↔ value = some a ∧ before = after := by
  cases value with
  | none => exact ⟨nofun, fun ⟨present, _⟩ => nomatch present⟩
  | some value =>
    rw [Option.some.injEq]
    exact pure_eq_ok

theorem succeed_eq_ok {fault : String → EventFault} {result : Except String α} {a : α} :
    succeed fault result before = (.ok a, after) ↔ result = .ok a ∧ before = after := by
  cases result with
  | error message => exact ⟨nofun, fun ⟨present, _⟩ => nomatch present⟩
  | ok value =>
    rw [Except.ok.injEq]
    exact pure_eq_ok

theorem built_eq_ok {result : Except CallFault α} {a : α} :
    built result before = (.ok a, after) ↔ result = .ok a ∧ before = after := by
  cases result with
  | error fault => exact ⟨nofun, fun ⟨present, _⟩ => nomatch present⟩
  | ok value =>
    rw [Except.ok.injEq]
    exact pure_eq_ok

theorem access_of_error {a : Access σ α} {panic : Panic}
    (panics : a before = (.error panic, after)) :
    access a before = (.error (.panicked panic), after) := by
  unfold access
  rw [panics]

end Handling

open Handling

variable {σ : Type} {backend : Backend σ} {before after : σ}

/-! ## From the answer to the evaluator -/

/-- Work on an event comes out well only with a target and a process. -/
theorem attend_eq_ok {request : Request} {response : Response} :
    attend backend request before = (.ok response, after) ↔
      ∃ running, backend.Running before running ∧
        handle backend request running = (.ok response, after) := by
  constructor
  · intro attended
    rcases target : backend.hasTarget before with ⟨panic | present, between⟩
    · unfold attend at attended
      rw [bind_of_error (access_of_error target)] at attended
      cases attended
    cases present with
    | false =>
      rw [attend_of_noTarget target] at attended
      cases attended
    | true =>
      rcases process : backend.hasProcess between with ⟨panic | present, running⟩
      · unfold attend at attended
        rw [bind_of_ok (access_of_ok target)] at attended
        cases (bind_of_error (access_of_error process) _).symm.trans attended
      cases present with
      | false =>
        rw [attend_of_noProcess target process] at attended
        cases attended
      | true =>
        have found : backend.Running before running := ⟨between, target, process⟩
        exact ⟨running, found, (attend_of_running found request).symm.trans attended⟩
  · rintro ⟨running, found, handled⟩
    exact (attend_of_running found request).trans handled

/-- An event is answered by an error, or its handling comes out well and is the answer. -/
theorem isError_or_handled (backend : Backend σ) (request : Request) (before : σ) :
    (dispatch backend request before).1.IsError ∨
      ∃ response running after, backend.Running before running ∧
        handle backend request running = (.ok response, after) ∧
        dispatch backend request before = (response, after) := by
  rcases attended : attend backend request before with ⟨fault | response, after⟩
  · rw [dispatch_of_error attended]
    exact .inl ⟨fault.message, rfl⟩
  · obtain ⟨running, found, handled⟩ := attend_eq_ok.mp attended
    exact .inr ⟨response, running, after, found, handled, dispatch_of_ok attended⟩

/-- The addresses at which an aggregate can be said to lie: the value, unless it is zero, and else
the place where the value is kept. -/
inductive Evaluation.Locates (evaluation : Evaluation) : UInt64 → Prop
  | value {address : UInt64} : evaluation.unsigned = some address → address ≠ 0 →
      Locates evaluation address
  | place {address : UInt64} : evaluation.unsigned = none ∨ evaluation.unsigned = some 0 →
      evaluation.loadAddress = some address → Locates evaluation address

theorem Evaluation.locates_iff {evaluation : Evaluation} {address : UInt64} :
    evaluation.Locates address ↔
      (evaluation.unsigned.filter (· != 0)).or evaluation.loadAddress = some address := by
  rcases unsigned : evaluation.unsigned with _ | value
  · refine ⟨?_, fun place => .place (.inl unsigned) place⟩
    rintro (⟨present, -⟩ | ⟨-, place⟩)
    · cases unsigned.symm.trans present
    · exact place
  by_cases zero : value = 0
  · subst zero
    refine ⟨?_, fun place => .place (.inr unsigned) place⟩
    rintro (⟨present, nonzero⟩ | ⟨-, place⟩)
    · cases unsigned.symm.trans present
      exact absurd rfl nonzero
    · exact place
  · have kept : (some value).filter (· != 0) = some value := by simpa using zero
    rw [kept, Option.some_or, Option.some.injEq]
    constructor
    · rintro (⟨present, -⟩ | ⟨none | null, -⟩)
      · exact Option.some.inj (unsigned.symm.trans present)
      · cases unsigned.symm.trans none
      · exact absurd (Option.some.inj (unsigned.symm.trans null)) zero
    · rintro rfl
      exact .value unsigned zero

/-- What a call comes to, by what the evaluator has said of its expression. -/
inductive Evaluation.Gives (evaluation : Evaluation) : ReturnShape → CallResult → Prop
  | register {value : UInt64} : evaluation.unsigned = some value →
      Gives evaluation .register (.ofRegister value)
  | buffer {size address : UInt64} : evaluation.Locates address →
      Gives evaluation (.buffer size) (.ofBuffer address size)

theorem callResult_eq_ok {label : String} {shape : ReturnShape} {evaluation : Evaluation}
    {result : CallResult} :
    callResult label shape evaluation before = (.ok result, after) ↔
      evaluation.Gives shape result ∧ before = after := by
  cases shape with
  | register =>
    unfold callResult
    simp only [bind_eq_ok, expect_eq_ok, pure_eq_ok]
    constructor
    · rintro ⟨value, _, ⟨present, rfl⟩, rfl, rfl⟩
      exact ⟨.register present, rfl⟩
    · rintro ⟨gives, rfl⟩
      cases gives with
      | register present => exact ⟨_, _, ⟨present, rfl⟩, rfl, rfl⟩
  | buffer size =>
    unfold callResult
    simp only [bind_eq_ok, expect_eq_ok, pure_eq_ok, ← Evaluation.locates_iff]
    constructor
    · rintro ⟨address, _, ⟨located, rfl⟩, rfl, rfl⟩
      exact ⟨.buffer located, rfl⟩
    · rintro ⟨gives, rfl⟩
      cases gives with
      | buffer located => exact ⟨_, _, ⟨located, rfl⟩, rfl, rfl⟩

theorem executeCall_eq_ok {kind : CallKind} {call : NativeCall} {result : CallResult} :
    executeCall backend kind call before = (.ok result, after) ↔
      ∃ evaluation, backend.evaluate call.text before = (.ok (.ok evaluation), after) ∧
        evaluation.Gives call.shape result := by
  unfold executeCall
  simp only [bind_eq_ok, access_eq_ok, succeed_eq_ok, callResult_eq_ok]
  constructor
  · rintro ⟨_, _, evaluated, evaluation, _, ⟨rfl, rfl⟩, gives, rfl⟩
    exact ⟨evaluation, evaluated, gives⟩
  · rintro ⟨evaluation, evaluated, gives⟩
    exact ⟨_, _, evaluated, evaluation, _, ⟨rfl, rfl⟩, gives, rfl⟩

/-! ## Calls and allocations -/

namespace Calling

/-- The evaluator has no value for the expression of the call, or zero, and says that it is kept at
the address zero. -/
def KeptAtZero (calling : Calling) (backend : Backend σ) (before : σ) : Prop :=
  ∃ call running evaluation after, calling.build = .ok call ∧ backend.Running before running ∧
    backend.evaluate call.text running = (.ok (.ok evaluation), after) ∧
    (evaluation.unsigned = none ∨ evaluation.unsigned = some 0) ∧
    evaluation.loadAddress = some 0

/-- The answers that have the shape which a call asks for. The place of a buffer has a property. -/
inductive Fits (calling : Calling) (located : UInt64 → Prop) : Response → Prop
  | register {value : UInt64} : calling.returnSize = none →
      Fits calling located (calling.answer (.ofRegister value))
  | buffer {size address : UInt64} : calling.returnSize = some size → size ≠ 0 →
      located address → Fits calling located (calling.answer (.ofBuffer address size))

variable {calling : Calling} {call : NativeCall}

theorem returnSize_ne_zero (accepted : calling.build = .ok call) : calling.returnSize ≠ some 0 := by
  obtain ⟨callee, receiver, arguments, returnSize⟩ := calling
  rintro rfl
  cases receiver <;> cases accepted

theorem handle_eq_ok {response : Response} :
    handle backend calling.request before = (.ok response, after) ↔
      ∃ call evaluation result, calling.build = .ok call ∧
        backend.evaluate call.text before = (.ok (.ok evaluation), after) ∧
        evaluation.Gives calling.shape result ∧ response = calling.answer result := by
  rw [handle_calling]
  simp only [bind_eq_ok, built_eq_ok, executeCall_eq_ok, pure_eq_ok]
  constructor
  · rintro ⟨call, _, ⟨accepted, rfl⟩, result, _, ⟨evaluation, evaluated, gives⟩, rfl, rfl⟩
    obtain ⟨-, -, -, -, size⟩ := build_eq_ok accepted
    exact ⟨call, evaluation, result, accepted, evaluated, shape_eq size ▸ gives, rfl⟩
  · rintro ⟨call, evaluation, result, accepted, evaluated, gives, rfl⟩
    obtain ⟨-, -, -, -, size⟩ := build_eq_ok accepted
    exact ⟨call, _, ⟨accepted, rfl⟩, result, _, ⟨evaluation, evaluated, shape_eq size ▸ gives⟩,
      rfl, rfl⟩

theorem fits_of_gives (accepted : calling.build = .ok call) {evaluation : Evaluation}
    {result : CallResult} (gives : evaluation.Gives calling.shape result) :
    calling.Fits evaluation.Locates (calling.answer result) := by
  have nonzero := returnSize_ne_zero accepted
  unfold shape at gives
  cases size : calling.returnSize with
  | none =>
    rw [size] at gives
    cases gives
    exact .register size
  | some size' =>
    rw [size] at gives nonzero
    cases gives with
    | buffer located => exact .buffer size (fun zero => nonzero (congrArg some zero)) located

theorem Fits.imp {located located' : UInt64 → Prop} {response : Response}
    (fits : calling.Fits located response) (imp : ∀ address, located address → located' address) :
    calling.Fits located' response := by
  cases fits with
  | register size => exact .register size
  | buffer size nonzero at' => exact .buffer size nonzero (imp _ at')

/-- An answer that is no error has the shape that the call asks for. Only what is kept at the
address zero is said to lie there. -/
theorem isError_or_fits (calling : Calling) (backend : Backend σ) (before : σ) :
    (dispatch backend calling.request before).1.IsError ∨
      calling.Fits (fun address => address ≠ 0 ∨ calling.KeptAtZero backend before)
        (dispatch backend calling.request before).1 := by
  rcases isError_or_handled backend calling.request before with
    error | ⟨response, running, after, found, handled, dispatched⟩
  · exact .inl error
  obtain ⟨call, evaluation, result, accepted, evaluated, gives, rfl⟩ := handle_eq_ok.mp handled
  rw [dispatched]
  refine .inr ((fits_of_gives accepted gives).imp fun address located => ?_)
  cases located with
  | value _ nonzero => exact .inl nonzero
  | place missing kept =>
    by_cases zero : address = 0
    · subst zero
      exact .inr ⟨call, running, evaluation, after, accepted, found, evaluated, missing, kept⟩
    · exact .inl zero

/-- What is kept at the address zero is said to lie there. -/
theorem answer_of_keptAtZero (zero : calling.KeptAtZero backend before) {size : UInt64}
    (wants : calling.returnSize = some size) :
    (dispatch backend calling.request before).1 = calling.answer (.ofBuffer 0 size) := by
  obtain ⟨call, running, evaluation, after, accepted, found, evaluated, missing, kept⟩ := zero
  have gives : evaluation.Gives calling.shape (.ofBuffer 0 size) := by
    unfold shape
    rw [wants]
    exact .buffer (.place missing kept)
  have handled := handle_eq_ok.mpr ⟨call, evaluation, _, accepted, evaluated, gives, rfl⟩
  rw [dispatch_of_ok (attend_eq_ok.mpr ⟨running, found, handled⟩)]

end Calling

theorem handle_evaluate_eq_ok {expression : String} {response : Response} :
    handle backend (.evaluate expression) before = (.ok response, after) ↔
      ∃ evaluation, backend.evaluate expression before = (.ok (.ok evaluation), after) ∧
        response = .expressionResult evaluation.display := by
  unfold handle
  simp only [bind_eq_ok, access_eq_ok, succeed_eq_ok, pure_eq_ok]
  constructor
  · rintro ⟨_, _, evaluated, evaluation, _, ⟨rfl, rfl⟩, rfl, rfl⟩
    exact ⟨evaluation, evaluated, rfl⟩
  · rintro ⟨evaluation, evaluated, rfl⟩
    exact ⟨_, _, evaluated, evaluation, _, ⟨rfl, rfl⟩, rfl, rfl⟩

theorem handle_allocate_eq_ok {size : UInt64} {response : Response} :
    handle backend (.allocate size) before = (.ok response, after) ↔
      ∃ evaluation address,
        backend.evaluate (allocationText size) before = (.ok (.ok evaluation), after) ∧
        evaluation.unsigned = some address ∧ address ≠ 0 ∧
        response = .memoryAllocated address := by
  unfold handle
  simp only [bind_eq_ok, access_eq_ok, succeed_eq_ok, expect_eq_ok, pure_eq_ok,
    Option.filter_eq_some_iff, bne_iff_ne]
  constructor
  · rintro ⟨_, _, evaluated, evaluation, _, ⟨rfl, rfl⟩, address, _, ⟨⟨value, nonzero⟩, rfl⟩,
      rfl, rfl⟩
    exact ⟨evaluation, address, evaluated, value, nonzero, rfl⟩
  · rintro ⟨evaluation, address, evaluated, value, nonzero, rfl⟩
    exact ⟨_, _, evaluated, evaluation, _, ⟨rfl, rfl⟩, address, _, ⟨⟨value, nonzero⟩, rfl⟩,
      rfl, rfl⟩

/-- Memory is never said to have been allocated at the address zero. -/
theorem isError_or_allocated (backend : Backend σ) (size : UInt64) (before : σ) :
    (dispatch backend (.allocate size) before).1.IsError ∨
      ∃ address, address ≠ 0 ∧
        (dispatch backend (.allocate size) before).1 = .memoryAllocated address := by
  rcases isError_or_handled backend (.allocate size) before with
    error | ⟨response, running, after, found, handled, dispatched⟩
  · exact .inl error
  obtain ⟨evaluation, address, -, -, nonzero, rfl⟩ := handle_allocate_eq_ok.mp handled
  rw [dispatched]
  exact .inr ⟨address, nonzero, rfl⟩

/-- Whatever the debugger is, a call is answered by an error or in the shape that it asks for, and
memory is allocated at an address that is not zero. So is an aggregate placed, unless the evaluator
itself keeps it at the address zero and has no other value for it. -/
theorem results_fit (backend : Backend σ) (before : σ) :
    (∀ calling : Calling,
      ((dispatch backend calling.request before).1.IsError ∨
        calling.Fits (fun address => address ≠ 0 ∨ calling.KeptAtZero backend before)
          (dispatch backend calling.request before).1) ∧
      (calling.KeptAtZero backend before → ∀ size, calling.returnSize = some size →
        (dispatch backend calling.request before).1 = calling.answer (.ofBuffer 0 size))) ∧
      ∀ size, (dispatch backend (.allocate size) before).1.IsError ∨
        ∃ address, address ≠ 0 ∧
          (dispatch backend (.allocate size) before).1 = .memoryAllocated address :=
  ⟨fun calling => ⟨calling.isError_or_fits backend before,
    fun zero _ wants => Calling.answer_of_keptAtZero zero wants⟩,
    fun size => isError_or_allocated backend size before⟩

/-- A call for a small aggregate. -/
def fetching : Calling where
  callee := 0x4100
  receiver := none
  arguments := []
  returnSize := some 8

/-- A debugger that has no value for this call, and keeps it at the address zero. -/
def keeper : Simulator :=
  Simulator.fresh.setUp
    [.expression
      ("struct ReturnBuffer_8 \x7b unsigned char bytes[8]; \x7d; auto __tether_result = "
        ++ "((struct ReturnBuffer_8 (*)(void))0x4100)(); &__tether_result")
      { loadAddress := some 0 }]

/-- The server is told to read the aggregate at the address zero. -/
theorem null_place_answered :
    (dispatch Simulator.backend fetching.request keeper).1 = .functionResult (.ofBuffer 0 8) ∧
      ¬ ((dispatch Simulator.backend fetching.request keeper).1.IsError ∨
        fetching.Fits (· ≠ 0) (dispatch Simulator.backend fetching.request keeper).1) := by
  have answered : (dispatch Simulator.backend fetching.request keeper).1
      = .functionResult (.ofBuffer 0 8) := by decide +kernel
  refine ⟨answered, ?_⟩
  rw [answered]
  rintro (⟨message, error⟩ | fits)
  · cases error
  · generalize same : Response.functionResult (.ofBuffer 0 8) = response at fits
    cases fits with
    | register => cases same
    | buffer _ _ nonzero =>
      cases same
      exact nonzero rfl

end DebugBridge
