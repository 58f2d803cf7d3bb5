import DebugBridge.Proofs.Debugger.Heap

/-!
# Allocations that fail

An allocation that fails maps nothing. It should not be noticed later, except in the record of the
expressions that have been evaluated. This is so unless as much memory is asked for as no allocation
can have: then the heap has moved on when the failure comes, and every later block lies behind the
one that there is not.

The expressions that have been recorded are only there to be looked at from outside. No event
depends on them, so what comes before them can be exchanged.

Results:
1. `Simulator.dispatch_recalling`, `Simulator.answers_recalling`: events do not look at the record.
2. `Simulator.Reached.heapFrom`: the heap never goes back before its base.
3. `SimulatedTarget.exists_allots`: what comes of an allocation.
4. `Simulator.failed_allocation_left`: what an allocation that fails leaves behind.
-/

namespace DebugBridge

open Handling

/-! ## Handling that does not look -/

namespace Handling

variable {σ α β : Type} {change : σ → σ}

/-- The handling does not depend on whether the debugger is changed before it or after it. -/
def Ignores (change : σ → σ) (handling : Handling σ α) : Prop :=
  ∀ state, handling (change state) = ((handling state).1, change (handling state).2)

theorem ignores_pure (a : α) : Ignores change (pure a) := fun _ => rfl

theorem ignores_throw (fault : EventFault) : Ignores change (throw fault : Handling σ α) :=
  fun _ => rfl

theorem ignores_expect (fault : EventFault) (value : Option α) :
    Ignores change (expect fault value) := by
  cases value with
  | none => exact ignores_throw fault
  | some a => exact ignores_pure a

theorem ignores_succeed (fault : String → EventFault) (result : Except String α) :
    Ignores change (succeed fault result) := by
  cases result with
  | error message => exact ignores_throw (fault message)
  | ok a => exact ignores_pure a

theorem ignores_built (result : Except CallFault α) : Ignores change (built result) := by
  cases result with
  | error fault => exact ignores_throw (.call fault)
  | ok a => exact ignores_pure a

theorem ignores_bind {handling : Handling σ α} (first : Ignores change handling)
    {next : α → Handling σ β} (later : ∀ a, Ignores change (next a)) :
    Ignores change (handling >>= next) := by
  intro state
  rw [bind_apply, bind_apply, first state]
  rcases handling state with ⟨fault | a, after⟩
  · rfl
  · exact later a after

/-- An access that does not look is part of a handling that does not. -/
theorem ignores_access {a : Access σ α}
    (same : ∀ state, a (change state) = ((a state).1, change (a state).2)) :
    Ignores change (access a) := by
  intro state
  unfold access
  rw [same]
  rcases a state with ⟨panic | value, after⟩ <;> rfl

end Handling

/-! ## The record -/

namespace SimulatedTarget

/-- The target with more expressions before those that have been recorded. -/
def recalling (past : List String) (target : SimulatedTarget) : SimulatedTarget :=
  { target with evaluated := past ++ target.evaluated }

variable {past : List String}

theorem recalling_recording (expression : String) (target : SimulatedTarget) :
    (target.recalling past).recording expression
      = (target.recording expression).recalling past := by
  unfold recalling recording
  rw [List.append_assoc]

/-- An evaluation does not depend on what has been recorded before. -/
def Unmindful (past : List String) (evaluating : Evaluating) : Prop :=
  ∀ target, evaluating (target.recalling past)
    = ((evaluating target).1, (evaluating target).2.recalling past)

theorem unmindful_allocate (size : UInt64) : Unmindful past (allocate size) := by
  intro target
  rw [allocate_apply, allocate_apply]
  by_cases high : UInt64.size ≤ target.heapNext.toNat + roundedSize size
  · rw [if_pos high, if_pos (by exact high)]
  rw [if_neg high, if_neg (by exact high)]
  obtain ⟨executable, base, process, expressions, panicking, functions, evaluated, heap⟩ := target
  cases process with
  | none => rfl
  | some process =>
    by_cases large : capacity ≤ size.toNat
    · simp only [recalling, if_pos large]
    · simp only [recalling, if_neg large]

theorem unmindful_call (text : CallText) : Unmindful past (call text) := by
  intro target
  unfold call
  rw [get_bind, get_bind]
  obtain ⟨executable, base, process, expressions, panicking, functions, evaluated, heap⟩ := target
  dsimp only [recalling]
  rcases functions.lookup text.address with _ | run | run <;> rcases text.bufferSize with _ | size
  · rfl
  · rfl
  · dsimp only
    cases run text.values <;> rfl
  · rfl
  · rfl
  · dsimp only
    rcases run text.values with panic | octets
    · rfl
    by_cases large : capacity ≤ size.toNat
    · simp only [if_pos large]
      rfl
    · simp only [if_neg large]
      cases process <;> rfl

theorem unmindful_evaluate (expression : String) : Unmindful past (evaluate expression) := by
  intro target
  rw [evaluate_apply, evaluate_apply, recalling_recording]
  by_cases panics : expression ∈ target.panicking
  · rw [if_pos panics, if_pos (by exact panics)]
  have same : (target.recalling past).expressions = target.expressions := rfl
  rw [if_neg panics, if_neg (by exact panics), same]
  cases target.expressions.lookup expression with
  | some evaluation => rfl
  | none =>
    rcases allocation? expression.toList with _ | message | size
    · cases CallText.read? expression.toList with
      | none => rfl
      | some text => exact unmindful_call text _
    · rfl
    · exact unmindful_allocate size _

end SimulatedTarget

namespace Simulator

variable {past : List String}

/-- The debugger with more expressions before those that have been recorded. -/
def recalling (past : List String) : Simulator → Simulator :=
  updateTarget (SimulatedTarget.recalling past)

/-- An access that only looks at the debugger and not at the record. -/
theorem ignores_view {α : Type} {view : Simulator → α}
    (same : ∀ target, view ⟨some (SimulatedTarget.recalling past target)⟩ = view ⟨some target⟩) :
    Ignores (recalling past) (access fun state => (.ok (view state), state)) := by
  refine ignores_access fun state => ?_
  obtain ⟨_ | target⟩ := state
  · rfl
  · exact congrArg (fun a => (Except.ok a, _)) (same target)

theorem ignores_evaluate (expression : String) :
    Ignores (recalling past) (access (backend.evaluate expression)) := by
  refine ignores_access fun state => ?_
  obtain ⟨_ | target⟩ := state
  · rfl
  · have unmindful : SimulatedTarget.Unmindful past (SimulatedTarget.evaluate expression) :=
      SimulatedTarget.unmindful_evaluate expression
    exact congrArg
      (fun evaluated => (evaluated.1, (⟨some evaluated.2⟩ : Simulator))) (unmindful target)

theorem ignores_writeMemory (address : UInt64) (data : List UInt8) :
    Ignores (recalling past) (access (backend.writeMemory address data)) := by
  refine ignores_access fun state => ?_
  obtain ⟨_ | ⟨executable, base, _ | process, rest⟩⟩ := state <;> rfl

theorem ignores_readMemory (address size : UInt64) :
    Ignores (recalling past) (access (backend.readMemory address size)) := by
  refine ignores_access fun state => ?_
  obtain ⟨_ | ⟨executable, base, _ | process, rest⟩⟩ := state <;> rfl

theorem ignores_selectedFrame : Ignores (recalling past) (selectedFrame backend) := by
  refine ignores_bind (ignores_view fun _ => rfl) fun thread => ?_
  cases thread with
  | none => exact ignores_pure _
  | some thread =>
    refine ignores_bind (ignores_view fun _ => rfl) fun frame => ?_
    cases frame with
    | none => exact ignores_pure _
    | some frame => exact ignores_pure _

theorem ignores_needFrame : Ignores (recalling past) (needFrame backend) := by
  refine ignores_bind ignores_selectedFrame fun selected => ?_
  cases selected with
  | ok frame => exact ignores_pure _
  | error fault => exact ignores_throw _

theorem ignores_executeCall (kind : CallKind) (call : NativeCall) :
    Ignores (recalling past) (executeCall backend kind call) := by
  refine ignores_bind (ignores_evaluate _) fun _ => ignores_bind (ignores_succeed _ _) fun _ => ?_
  unfold callResult
  cases call.shape with
  | register => exact ignores_bind (ignores_expect _ _) fun _ => ignores_pure _
  | buffer size => exact ignores_bind (ignores_expect _ _) fun _ => ignores_pure _

theorem ignores_handle (request : Request) : Ignores (recalling past) (handle backend request) := by
  cases request with
  | readMemory address size =>
    exact ignores_bind (ignores_readMemory address size) fun _ =>
      ignores_bind (ignores_succeed _ _) fun _ => ignores_pure _
  | writeMemory address data =>
    refine ignores_bind (ignores_writeMemory address data) fun _ =>
      ignores_bind (ignores_succeed _ _) fun written => ?_
    split
    · exact ignores_bind (ignores_throw _) fun _ => ignores_pure _
    · exact ignores_pure _
  | readRegister name =>
    exact ignores_bind ignores_needFrame fun _ =>
      ignores_bind (ignores_expect _ _) fun _ => ignores_pure _
  | readRegisterByIndex index =>
    exact ignores_bind ignores_needFrame fun _ =>
      ignores_bind (ignores_expect _ _) fun _ => ignores_pure _
  | frameInfo => exact ignores_bind ignores_needFrame fun _ => ignores_pure _
  | threadInfo =>
    exact ignores_bind (ignores_view fun _ => rfl) fun _ =>
      ignores_bind (ignores_expect _ _) fun _ => ignores_pure _
  | baseAddress =>
    exact ignores_bind (ignores_view fun _ => rfl) fun _ =>
      ignores_bind (ignores_expect _ _) fun _ => ignores_pure _
  | evaluate expression =>
    exact ignores_bind (ignores_evaluate expression) fun _ =>
      ignores_bind (ignores_succeed _ _) fun _ => ignores_pure _
  | variableType name =>
    refine ignores_bind ignores_selectedFrame fun selected => ?_
    cases selected with
    | ok frame => exact ignores_bind (ignores_view fun _ => rfl) fun _ => ignores_pure _
    | error fault => exact ignores_pure _
  | allocate size =>
    exact ignores_bind (ignores_evaluate _) fun _ => ignores_bind (ignores_succeed _ _) fun _ =>
      ignores_bind (ignores_expect _ _) fun _ => ignores_pure _
  | callMethod method receiver arguments returnSize =>
    exact ignores_bind (ignores_built _) fun _ =>
      ignores_bind (ignores_executeCall _ _) fun _ => ignores_pure _
  | callFunction function arguments returnSize =>
    exact ignores_bind (ignores_built _) fun _ =>
      ignores_bind (ignores_executeCall _ _) fun _ => ignores_pure _
  | unknown => exact ignores_throw _

theorem ignores_attend (request : Request) : Ignores (recalling past) (attend backend request) := by
  have attended : Ignores (recalling past) (do
      if !(← access backend.hasProcess) then throw .noProcess
      handle backend request) := by
    refine ignores_bind (ignores_view fun _ => rfl) fun hasProcess => ?_
    dsimp only
    split
    · exact ignores_bind (ignores_throw _) fun _ => ignores_handle request
    · exact ignores_handle request
  refine ignores_bind (ignores_view fun _ => rfl) fun hasTarget => ?_
  dsimp only
  split
  · exact ignores_bind (ignores_throw _) fun _ => attended
  · exact attended

/-- An event does not depend on what has been recorded before. -/
theorem dispatch_recalling (request : Request) (debugger : Simulator) :
    dispatch backend request (debugger.recalling past)
      = ((dispatch backend request debugger).1,
        (dispatch backend request debugger).2.recalling past) := by
  unfold dispatch
  rw [ignores_attend request debugger]
  rcases attend backend request debugger with ⟨fault | response, after⟩ <;> rfl

/-- The answers to events, one after the other. -/
def answers : List Request → Simulator → List Response
  | [], _ => []
  | request :: requests, debugger =>
    (dispatch backend request debugger).1 :: answers requests (dispatch backend request debugger).2

theorem answers_recalling (requests : List Request) (debugger : Simulator) :
    answers requests (debugger.recalling past) = answers requests debugger := by
  induction requests generalizing debugger with
  | nil => rfl
  | cons request requests ih => rw [answers, answers, dispatch_recalling, ih]

theorem asked_recalling (requests : List Request) (debugger : Simulator) :
    (debugger.recalling past).asked requests = (debugger.asked requests).recalling past := by
  induction requests generalizing debugger with
  | nil => rfl
  | cons request requests ih =>
    show asked requests (dispatch backend request (debugger.recalling past)).2 = _
    rw [dispatch_recalling]
    exact ih _

/-! ## Debuggers that can come about -/

/-- A new debugger, set up in steps and asked events, in whatever order. -/
inductive Reached : Simulator → Prop
  | fresh : Reached fresh
  | built {debugger : Simulator} (step : Setup) : Reached debugger → Reached (step.apply debugger)
  | asked {debugger : Simulator} (request : Request) : Reached debugger →
      Reached (dispatch backend request debugger).2

/-- The heap has a base, behind which it stays. So the address zero is never allocated. -/
def HeapFrom (base : UInt64) (debugger : Simulator) : Prop :=
  ∀ target, debugger.target = some target → base ≤ target.heapNext

variable {debugger : Simulator} {base : UInt64}

theorem HeapFrom.apply (heap : debugger.HeapFrom heapBase) (step : Setup) :
    (step.apply debugger).HeapFrom heapBase := by
  intro after applied
  obtain ⟨_ | target⟩ := debugger
  · cases step <;> cases applied
    exact UInt64.le_refl _
  · have behind := heap target rfl
    cases step <;> cases applied
    · exact UInt64.le_refl _
    all_goals exact behind

theorem HeapFrom.dispatch (heap : debugger.HeapFrom base) (request : Request) :
    (dispatch backend request debugger).2.HeapFrom base := by
  obtain ⟨_ | target⟩ := debugger
  · rw [dispatch_noTarget rfl]
    exact heap
  cases running : target.process with
  | none =>
    have present : (⟨some target⟩ : Simulator).target ≠ none := Option.some_ne_none target
    rw [dispatch_noProcess present running]
    exact heap
  | some process =>
    obtain ⟨after, process', left, -, step⟩ := exists_step running request
    rw [left]
    intro after' same
    cases same
    refine UInt64.le_trans (heap target rfl) ?_
    cases step with
    | still => exact UInt64.le_refl _
    | stored => exact UInt64.le_refl _
    | evaluated _ _ remaps => exact remaps.heapNext_le

theorem Reached.heapFrom (reached : debugger.Reached) : debugger.HeapFrom heapBase := by
  induction reached with
  | fresh =>
    intro target same
    cases same
    exact UInt64.le_refl _
  | built step _ ih => exact ih.apply step
  | asked request _ ih => exact ih.dispatch request

end Simulator

/-! ## Allocations -/

namespace SimulatedTarget

variable {target : SimulatedTarget} {process : SimulatedProcess} {size : UInt64}

/-- There is room on the heap for an allocation, but no allocation can be that large. -/
structure Overreaches (target : SimulatedTarget) (size : UInt64) : Prop where
  unregistered : target.expressions.lookup (allocationText size) = none
  calm : allocationText size ∉ target.panicking
  fits : target.heapAfter size < UInt64.size
  large : capacity ≤ size.toNat

/-- What comes of an allocation: the answer to it, and the target then. -/
inductive Allots (target : SimulatedTarget) (process : SimulatedProcess) (size : UInt64) :
    Response → SimulatedTarget → Prop
  | mapped : Allots target process size (.memoryAllocated target.heapNext)
      { target.recording (allocationText size) with
        process := some (process.map ⟨target.heapNext, .blank size.toNat, true⟩)
        heapNext := (target.heapAfter size).toUInt64 }
  /-- The expression of the allocation has a value of its own. -/
  | registered (address : UInt64) :
      Allots target process size (.memoryAllocated address) (target.recording (allocationText size))
  | refused (message : String) : ¬ target.Overreaches size →
      Allots target process size (.error message) (target.recording (allocationText size))
  | overreached : target.Overreaches size →
      Allots target process size (.error "Event handling error: capacity overflow")
        { target.recording (allocationText size) with
          heapNext := (target.heapAfter size).toUInt64 }

/-- The answer to an allocation, by what comes of its expression. -/
def allotment : Except Panic (Except String Evaluation) → Response
  | .error panic => .error (EventFault.panicked panic).message
  | .ok (.error message) => .error (EventFault.allocation message).message
  | .ok (.ok evaluation) =>
    match evaluation.unsigned.filter (· != 0) with
    | some address => .memoryAllocated address
    | none => .error (EventFault.allocation "malloc returned NULL").message

theorem dispatch_allocate (running : target.process = some process)
    {result : Except Panic (Except String Evaluation)} {after : SimulatedTarget}
    (evaluated : evaluate (allocationText size) target = (result, after)) :
    dispatch Simulator.backend (.allocate size) ⟨some target⟩
      = (allotment result, ⟨some after⟩) := by
  have asked : Simulator.backend.evaluate (allocationText size) ⟨some target⟩
      = (result, ⟨some after⟩) :=
    congrArg (Prod.map id fun target => (⟨some target⟩ : Simulator)) evaluated
  have attended := attend_running (running ▸ rfl : target.process.isSome = true) (.allocate size)
  rcases result with panic | message | evaluation
  · exact dispatch_of_error (attended.trans (bind_of_error (access_of_error asked) _))
  · exact dispatch_of_error (attended.trans (bind_of_ok (access_of_ok asked) _))
  · have valued := attended.trans (bind_of_ok (access_of_ok asked) _)
    have valued := valued.trans (bind_of_ok (a := evaluation) rfl _)
    cases found : evaluation.unsigned.filter (· != 0) with
    | some address =>
      simp only [found, allotment] at valued ⊢
      exact dispatch_of_ok valued
    | none =>
      simp only [found, allotment] at valued ⊢
      exact dispatch_of_error valued

/-- The ways in which an allocation comes out. -/
theorem exists_allots (running : target.process = some process) (positive : target.heapNext ≠ 0)
    (size : UInt64) : ∃ response after,
      dispatch Simulator.backend (.allocate size) ⟨some target⟩ = (response, ⟨some after⟩) ∧
        target.Allots process size response after := by
  have apply := evaluate_apply (allocationText size) target
  by_cases panics : allocationText size ∈ target.panicking
  · rw [if_pos panics] at apply
    exact ⟨_, _, dispatch_allocate running apply, .refused _ fun reaches => reaches.calm panics⟩
  rw [if_neg panics] at apply
  cases registered : target.expressions.lookup (allocationText size) with
  | some evaluation =>
    rw [registered] at apply
    refine ⟨_, _, dispatch_allocate running apply, ?_⟩
    unfold allotment
    dsimp only
    split
    · exact .registered _
    · refine .refused _ fun reaches => ?_
      cases registered.symm.trans reaches.unregistered
  | none =>
    rw [registered] at apply
    dsimp only at apply
    rw [allocation?_allocationText] at apply
    dsimp only at apply
    rw [allocate_apply] at apply
    split at apply
    · next high =>
      exact ⟨_, _, dispatch_allocate running apply,
        .refused _ fun reaches => Nat.not_lt_of_le high reaches.fits⟩
    next fits =>
    have running' : (target.recording (allocationText size)).process = some process := running
    simp only [running'] at apply
    split at apply
    · next large =>
      have reaches : target.Overreaches size := ⟨registered, panics, Nat.lt_of_not_le fits, large⟩
      refine ⟨_, _, dispatch_allocate running apply, ?_⟩
      rw [← running']
      exact .overreached reaches
    · refine ⟨_, _, dispatch_allocate running apply, ?_⟩
      have kept : (some target.heapNext).filter (· != 0) = some target.heapNext := by
        simpa using positive
      show Allots _ _ _ (match (some target.heapNext).filter (· != 0) with
        | some address => .memoryAllocated address
        | none => _) _
      rw [kept]
      exact .mapped

end SimulatedTarget

namespace Simulator

variable {debugger : Simulator}

/-- The debugger with another record of the expressions that have been evaluated. -/
def withRecord (record : List String) : Simulator → Simulator :=
  updateTarget fun target => { target with evaluated := record }

/-- One debugger is like another one, but one more expression has been recorded. Whatever both are
asked, that stays the only difference. -/
structure DiffersByRecord (text : String) (before after : Simulator) : Prop where
  answers : ∀ requests, answers requests after = answers requests before
  asked : ∀ requests, ∃ later,
    (before.asked requests).evaluated = before.evaluated ++ later ∧
      after.asked requests = (before.asked requests).withRecord (before.evaluated ++ text :: later)

theorem differsByRecord_recording (text : String) (target : SimulatedTarget) :
    DiffersByRecord text ⟨some target⟩ ⟨some (target.recording text)⟩ := by
  -- Both go on from a debugger in which nothing has been recorded.
  let blank : SimulatedTarget := { target with evaluated := [] }
  have before : (⟨some target⟩ : Simulator) = recalling target.evaluated ⟨some blank⟩ := by
    simp [blank, recalling, updateTarget, SimulatedTarget.recalling]
  have after : (⟨some (target.recording text)⟩ : Simulator)
      = recalling (target.evaluated ++ [text]) ⟨some blank⟩ := by
    simp [blank, recalling, updateTarget, SimulatedTarget.recalling, SimulatedTarget.recording]
  refine ⟨fun requests => ?_, fun requests => ?_⟩
  · rw [before, after, answers_recalling, answers_recalling]
  · obtain ⟨final, come, -⟩ :=
      @exists_asked blank (fun _ => True) (fun _ _ _ _ => trivial) trivial requests
    refine ⟨final.evaluated, ?_, ?_⟩
    · rw [before, asked_recalling, come]
      simp [blank, recalling, updateTarget, SimulatedTarget.recalling, evaluated]
    · rw [after, before, asked_recalling, asked_recalling, come]
      simp [blank, recalling, updateTarget, SimulatedTarget.recalling, evaluated, withRecord]

theorem Reached.positive {target : SimulatedTarget} (reached : Reached ⟨some target⟩) :
    target.heapNext ≠ 0 := by
  intro zero
  have behind := reached.heapFrom target rfl
  rw [zero] at behind
  exact absurd behind (by decide)

/-- An allocation that fails maps nothing. It leaves everything but the record as it is, and is not
noticed later, unless no allocation can be as large as it should be: then the heap has moved on. -/
theorem failed_allocation_left (reached : debugger.Reached) (size : UInt64)
    (failed : (dispatch backend (.allocate size) debugger).1.IsError) :
    debugger.process? = none ∧ (dispatch backend (.allocate size) debugger).2 = debugger ∨
      ∃ target process, debugger = ⟨some target⟩ ∧ target.process = some process ∧
        (¬ target.Overreaches size ∧
            (dispatch backend (.allocate size) debugger).2
              = ⟨some (target.recording (allocationText size))⟩ ∧
            DiffersByRecord (allocationText size) debugger
              (dispatch backend (.allocate size) debugger).2 ∨
          target.Overreaches size ∧
            dispatch backend (.allocate size) debugger
              = (.error "Event handling error: capacity overflow",
                ⟨some { target.recording (allocationText size) with
                  heapNext := (target.heapAfter size).toUInt64 }⟩)) := by
  obtain ⟨_ | target⟩ := debugger
  · rw [dispatch_noTarget rfl]
    exact .inl ⟨rfl, rfl⟩
  cases running : target.process with
  | none =>
    have present : (⟨some target⟩ : Simulator).target ≠ none := Option.some_ne_none target
    rw [dispatch_noProcess present running]
    exact .inl ⟨running, rfl⟩
  | some process =>
    obtain ⟨response, after, dispatched, allots⟩ :=
      SimulatedTarget.exists_allots running reached.positive size
    rw [dispatched] at failed ⊢
    refine .inr ⟨target, process, rfl, running, ?_⟩
    obtain ⟨message, failed⟩ := failed
    cases allots with
    | mapped => cases failed
    | registered address => cases failed
    | refused message fits =>
      exact .inl ⟨fits, rfl, differsByRecord_recording (allocationText size) target⟩
    | overreached reaches => exact .inr ⟨reaches, rfl⟩

/-- As many octets as no allocation can have. -/
def boundless : UInt64 := 0x8000000000000000

/-- An expression for an allocation that has a value which is no address. -/
def barren : Simulator :=
  Simulator.fresh.setUp [.expression "(void*)malloc(8)" {}]

theorem failed_allocation_left_barren :
    barren.Reached ∧ (dispatch backend (.allocate 8) barren).1.IsError ∧
      DiffersByRecord "(void*)malloc(8)" barren (dispatch backend (.allocate 8) barren).2 := by
  have reached : barren.Reached := .built (.expression "(void*)malloc(8)" {}) .fresh
  have failed : (dispatch backend (.allocate 8) barren).1.IsError :=
    ⟨"Memory allocation failed: malloc returned NULL", by decide +kernel⟩
  refine ⟨reached, failed, ?_⟩
  have text : allocationText 8 = "(void*)malloc(8)" := by decide +kernel
  rcases failed_allocation_left reached 8 failed with
    ⟨missing, -⟩ | ⟨target, process, same, -, ⟨-, -, differs⟩ | ⟨reaches, -⟩⟩
  · cases missing
  · rwa [text] at differs
  · exact absurd reaches.large (by decide)

/-- After an allocation that no memory can hold, the next block lies where the heap would go on
behind it, and not where the heap was. -/
theorem boundless_moves_heap :
    fresh.Reached ∧
      answers [.allocate boundless, .allocate 8] fresh
        = [.error "Event handling error: capacity overflow",
          .memoryAllocated (heapBase + boundless)] ∧
      answers [.allocate 8] fresh = [.memoryAllocated heapBase] ∧
      (dispatch backend (.allocate boundless) fresh).2.target.map (·.heapNext)
        = some (heapBase + boundless) :=
  ⟨.fresh, by decide +kernel, by decide +kernel, by decide +kernel⟩

end Simulator
end DebugBridge
