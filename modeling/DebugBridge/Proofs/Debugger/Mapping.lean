import DebugBridge.Proofs.Debugger.Footprint
import DebugBridge.Proofs.Debugger.Places

/-!
# What an event does to memory and to the heap

Two things put a region into memory: an allocation, at the place where the heap goes on, and the
result of an aggregate function, in the scratch region. Both come of an expression, so an event can
do so only with the expression that it evaluates. A write goes to a region that is there already,
and everything else leaves memory and the heap as they are.

A new region comes last. What is found in memory is found before it, unless the new region takes the
place of one that starts where it does.

Results:
1. `SimulatedProcess.memory?_map`, `SimulatedProcess.memory?_map_new`: what is read behind a
   mapping.
2. `SimulatedTarget.exists_remaps`: the ways in which an evaluation changes memory and the heap.
3. `Simulator.exists_step`: the ways in which an event does.
4. `Simulator.exists_asked`: what every event preserves, a run of events does.
-/

namespace DebugBridge

/-! ## Mapping a region -/

namespace SimulatedProcess

variable {process : SimulatedProcess} {address : UInt64} {region new : Region}

/-- A region is found as before when another one is mapped elsewhere. -/
theorem Found.map {front later : List Region} (found : process.Found address front region later)
    (elsewhere : region.start ≠ new.start) :
    (process.map new).Found address (front.filter (·.start != new.start)) region
      (later.filter (·.start != new.start) ++ [new]) where
  regions := by
    have kept : (region.start != new.start) = true := bne_iff_ne.mpr elsewhere
    unfold SimulatedProcess.map
    rw [found.regions, List.filter_append, List.filter_cons, if_pos kept, List.append_assoc,
      List.cons_append]
  before other present := found.before other (List.mem_filter.mp present).1
  inside := found.inside

theorem region?_map (found : process.region? address = some region)
    (elsewhere : region.start ≠ new.start) :
    (process.map new).region? address = some region := by
  obtain ⟨front, later, found⟩ := exists_found found
  exact (found.map elsewhere).region?

theorem memory?_map (found : process.region? address = some region)
    (elsewhere : region.start ≠ new.start) (size : UInt64) :
    (process.map new).memory? address size = process.memory? address size := by
  unfold memory?
  rw [region?_map found elsewhere, found]

section
variable (alone : ∀ region ∈ process.regions, region.contains new.start = true →
  region.start = new.start)
include alone

/-- The new region is found at its start, where no other contains that. -/
theorem found_map_new (nonempty : 0 < new.content.size) :
    (process.map new).Found new.start (process.regions.filter (·.start != new.start)) new [] where
  regions := rfl
  before other present := by
    obtain ⟨present, other'⟩ := List.mem_filter.mp present
    refine Bool.eq_false_iff.mpr fun contains => ?_
    exact bne_iff_ne.mp other' (alone other present contains)
  inside := Region.contains_start nonempty

/-- All of the new region is read there. -/
theorem memory?_map_new {size : UInt64} (whole : new.content.size = size.toNat)
    (nonempty : 0 < new.content.size) :
    (process.map new).memory? new.start size = some new.content.toList := by
  unfold memory?
  rw [(found_map_new alone nonempty).region?, ← whole]
  show new.content.slice? (new.start - new.start).toNat new.content.size = _
  rw [UInt64.sub_self]
  exact new.content.slice?_whole

end

theorem mem_regions_map :
    region ∈ (process.map new).regions ↔
      region ∈ process.regions ∧ region.start ≠ new.start ∨ region = new := by
  unfold SimulatedProcess.map
  rw [List.mem_append, List.mem_filter, bne_iff_ne, List.mem_singleton]

/-- Regions that start at different places do so with a new one. -/
theorem nodup_starts_map (distinct : (process.regions.map (·.start)).Nodup) (new : Region) :
    ((process.map new).regions.map (·.start)).Nodup := by
  unfold SimulatedProcess.map
  rw [List.map_append, List.nodup_append]
  refine ⟨distinct.sublist (List.filter_sublist.map _), List.pairwise_singleton _ _, ?_⟩
  intro start present start' new' same
  obtain ⟨other, kept, rfl⟩ := List.mem_map.mp present
  rw [List.map_cons, List.map_nil, List.mem_singleton] at new'
  exact bne_iff_ne.mp (List.mem_filter.mp kept).2 (same.trans new')

end SimulatedProcess

/-! ## Evaluations -/

namespace SimulatedTarget

/-- The place where the heap goes on behind an allocation. -/
def heapAfter (size : UInt64) (target : SimulatedTarget) : Nat :=
  target.heapNext.toNat + roundedSize size

/-- An allocation takes as much of the heap as it needs, and something even if it needs nothing. -/
theorem le_roundedSize (size : UInt64) : max size.toNat 1 ≤ roundedSize size := by
  unfold roundedSize
  omega

/-- The heap never goes back. -/
theorem heapNext_lt_of_fits {target : SimulatedTarget} {size : UInt64}
    (fits : target.heapAfter size < UInt64.size) :
    target.heapNext < (target.heapAfter size).toUInt64 := by
  have taken := le_roundedSize size
  rw [UInt64.lt_iff_toNat_lt, UInt64.toNat_ofNat_of_lt' fits]
  unfold heapAfter
  omega

/-- What comes of an evaluation, and what it makes of a process and of the place where the heap goes
on. -/
inductive Remaps (target : SimulatedTarget) (process : SimulatedProcess) (expression : String) :
    Except Panic (Except String Evaluation) → SimulatedProcess → UInt64 → Prop
  | still {result : Except Panic (Except String Evaluation)} :
      Remaps target process expression result process target.heapNext
  | allocated {size : UInt64} :
      allocation? expression.toList = some (.ok size) → target.heapAfter size < UInt64.size →
      size.toNat < capacity →
      Remaps target process expression (.ok (.ok (.ofUnsigned target.heapNext)))
        (process.map ⟨target.heapNext, .blank size.toNat, true⟩) (target.heapAfter size).toUInt64
  /-- The heap has moved on, but there is no memory of that size. -/
  | moved {size : UInt64} :
      allocation? expression.toList = some (.ok size) → target.heapAfter size < UInt64.size →
      capacity ≤ size.toNat →
      Remaps target process expression (.error tooLarge) process (target.heapAfter size).toUInt64
  /-- An aggregate has been put into the scratch region. -/
  | filled {text : CallText} {size : UInt64} {run : List CallValue → Except Panic (List UInt8)}
      {octets : List UInt8} :
      allocation? expression.toList = none → CallText.read? expression.toList = some text →
      text.bufferSize = some size →
      target.functions.lookup text.address = some (.aggregate run) →
      run text.values = .ok octets → size.toNat < capacity →
      Remaps target process expression (.ok (.ok (scratchEvaluation size)))
        (process.map ⟨Simulator.scratchAddress, (Extent.ofList octets).resize size.toNat, true⟩)
        target.heapNext

variable {target : SimulatedTarget} {process : SimulatedProcess} {expression : String}

/-- An evaluation comes to a result, leaves a process, and has done one of these. -/
def Remapped (target : SimulatedTarget) (process : SimulatedProcess) (expression : String)
    (evaluated : Except Panic (Except String Evaluation) × SimulatedTarget) : Prop :=
  ∃ process', evaluated.2.process = some process' ∧
    Remaps target process expression evaluated.1 process' evaluated.2.heapNext

theorem remapped_allocate (running : target.process = some process) {size : UInt64}
    (allocates : allocation? expression.toList = some (.ok size)) :
    target.Remapped process expression (allocate size (target.recording expression)) := by
  rw [allocate_apply]
  split
  · exact ⟨process, running, .still⟩
  next fits =>
  have fits : target.heapAfter size < UInt64.size := Nat.lt_of_not_le fits
  have running' : (target.recording expression).process = some process := running
  rw [running']
  dsimp only
  split
  · next large => exact ⟨process, rfl, .moved allocates fits large⟩
  · next small => exact ⟨_, rfl, .allocated allocates fits (Nat.lt_of_not_le small)⟩

theorem remapped_call (running : target.process = some process) {text : CallText}
    (other : allocation? expression.toList = none)
    (read : CallText.read? expression.toList = some text) :
    target.Remapped process expression
      (SimulatedTarget.call text (target.recording expression)) := by
  rcases call_cases text (target.recording expression) with
    same | ⟨_, run, size, octets, recorded, function, wants, ran, fits, called⟩
  · unfold Remapped
    rw [same]
    exact ⟨process, running, .still⟩
  · obtain rfl : process = _ := Option.some.inj (running.symm.trans recorded)
    rw [called]
    exact ⟨_, rfl, .filled other read wants function ran fits⟩

/-- The ways in which an evaluation changes memory and the heap. -/
theorem exists_remaps (running : target.process = some process) (expression : String) :
    target.Remapped process expression (evaluate expression target) := by
  have still (result : Except Panic (Except String Evaluation)) :
      target.Remapped process expression (result, target.recording expression) :=
    ⟨process, running, .still⟩
  rw [evaluate_apply]
  split
  · exact still _
  split
  · exact still _
  split
  · next allocates => exact remapped_allocate running allocates
  · exact still _
  next other =>
  split
  · next read => exact remapped_call running other read
  · exact still _

end SimulatedTarget

/-! ## Events -/

/-- The expression that an event makes the debugger evaluate, if it does so. -/
def Request.expression? : Request → Option String
  | .evaluate expression => some expression
  | .allocate size => some (allocationText size)
  | .callMethod method receiver arguments returnSize =>
    (Calling.build ⟨method, some receiver, arguments, returnSize⟩).toOption.map NativeCall.text
  | .callFunction function arguments returnSize =>
    (Calling.build ⟨function, none, arguments, returnSize⟩).toOption.map NativeCall.text
  | _ => none

theorem Calling.expression?_request (calling : Calling) :
    calling.request.expression? = calling.build.toOption.map NativeCall.text := by
  obtain ⟨callee, receiver, arguments, returnSize⟩ := calling
  cases receiver <;> rfl

/-- The events that evaluate an expression. -/
inductive Request.Evaluates : Request → String → Prop
  | expression {expression : String} : Evaluates (.evaluate expression) expression
  | allocation {size : UInt64} : Evaluates (.allocate size) (allocationText size)
  | call {calling : Calling} {call : NativeCall} : calling.build = .ok call →
      Evaluates calling.request call.text

theorem Request.evaluates_of_expression? {request : Request} {expression : String}
    (evaluates : request.expression? = some expression) : request.Evaluates expression := by
  have calls (calling : Calling) (called : calling.request.expression? = some expression) :
      calling.request.Evaluates expression := by
    rw [Calling.expression?_request] at called
    obtain ⟨call, built, rfl⟩ := Option.map_eq_some_iff.mp called
    exact .call (Result.eq_ok_of_toOption built)
  cases request with
  | evaluate expression' =>
    cases evaluates
    exact .expression
  | allocate size =>
    cases evaluates
    exact .allocation
  | callMethod method receiver arguments returnSize =>
    exact calls ⟨method, some receiver, arguments, returnSize⟩ evaluates
  | callFunction function arguments returnSize =>
    exact calls ⟨function, none, arguments, returnSize⟩ evaluates
  | _ => cases evaluates

/-- The expression of an allocation is read as one. -/
theorem allocation?_allocationText (size : UInt64) :
    SimulatedTarget.allocation? (allocationText size).toList = some (.ok size) := by
  have word : Numeral.readWord 10 (Numeral.decimal size.toNat) = .ok size :=
    Numeral.readWord_digits Numeral.readable_decimal size
  unfold SimulatedTarget.allocation? allocationText
  simp only [String.toList_ofList, List.append_assoc, Text.dropStart?_append, Text.dropEnd?_append,
    word, Option.bind_eq_bind, Option.bind_some]
  rfl

/-- The expression of a call is not. -/
theorem allocation?_callText (call : NativeCall) :
    SimulatedTarget.allocation? call.text.toList = none := by
  rw [NativeCall.text, String.toList_ofList, allocation?_chars]

namespace Simulator

/-- The heap has not gone on behind an address. -/
def HeapWithin (limit : UInt64) (debugger : Simulator) : Prop :=
  ∀ target, debugger.target = some target → target.heapNext ≤ limit

instance (limit : UInt64) (debugger : Simulator) : Decidable (debugger.HeapWithin limit) :=
  inferInstanceAs (Decidable (∀ target ∈ debugger.target, target.heapNext ≤ limit))

/-- Looking for the target and the process leaves the debugger as it is. -/
theorem process?_of_running {before after : Simulator} (running : backend.Running before after) :
    after = before ∧ ∃ process, before.process? = some process := by
  obtain ⟨between, target, process⟩ := running
  cases (congrArg Prod.snd target : before = between)
  cases (congrArg Prod.snd process : before = after)
  have present : before.process?.isSome = true := Except.ok.inj (congrArg Prod.fst process)
  exact ⟨rfl, Option.isSome_iff_exists.mp present⟩

/-- An event that is answered by anything but an error has found a process. -/
theorem exists_process_of_answered {debugger : Simulator} {request : Request} {response : Response}
    (answered : (dispatch backend request debugger).1 = response) (calm : ¬ response.IsError) :
    ∃ target process after, debugger = ⟨some target⟩ ∧ target.process = some process ∧
      handle backend request debugger = (.ok response, after) ∧
      (dispatch backend request debugger).2 = after := by
  rcases isError_or_handled backend request debugger with
    error | ⟨response', running, after, found, handled, dispatched⟩
  · exact absurd (answered ▸ error) calm
  obtain ⟨rfl, process, running⟩ := process?_of_running found
  obtain ⟨target, same⟩ := exists_target running
  rw [dispatched] at answered
  cases answered
  exact ⟨_, process, after, same, rfl, handled, congrArg Prod.snd dispatched⟩

/-- The debugger evaluates what its target does. -/
theorem exists_evaluated {target : SimulatedTarget} {expression : String}
    {result : Except Panic (Except String Evaluation)} {after : Simulator}
    (evaluated : backend.evaluate expression ⟨some target⟩ = (result, after)) :
    ∃ target', SimulatedTarget.evaluate expression target = (result, target') ∧
      after = ⟨some target'⟩ := by
  have came : (backend.evaluate expression ⟨some target⟩).1 = result := congrArg Prod.fst evaluated
  have left : (backend.evaluate expression ⟨some target⟩).2 = after := congrArg Prod.snd evaluated
  exact ⟨_, Prod.ext came rfl, left.symm⟩

variable {target : SimulatedTarget} {process : SimulatedProcess} {request : Request}

/-- What an event makes of a target that has a process. -/
inductive Step (target : SimulatedTarget) (process : SimulatedProcess) :
    Request → SimulatedTarget → SimulatedProcess → Prop
  | still {request : Request} : Step target process request target process
  | stored {address : UInt64} {data : List UInt8} {front later : List Region} {region : Region} :
      process.Found address front region later → region.writable = true →
      Step target process (.writeMemory address data)
        { target with
          process := some { process with regions := front ++ region.store address data :: later } }
        { process with regions := front ++ region.store address data :: later }
  | evaluated {request : Request} {expression : String}
      {result : Except Panic (Except String Evaluation)} {after : SimulatedTarget}
      {process' : SimulatedProcess} :
      request.Evaluates expression →
      SimulatedTarget.evaluate expression target = (result, after) →
      target.Remaps process expression result process' after.heapNext →
      Step target process request after process'

section
variable (running : target.process = some process)
include running

theorem process?_of_process : (⟨some target⟩ : Simulator).process? = some process := running

theorem state_of_evaluates {expression : String} (evaluates : request.Evaluates expression) :
    (dispatch backend request ⟨some target⟩).2
      = ⟨some (SimulatedTarget.evaluate expression target).2⟩ := by
  have running' := process?_of_process running
  cases evaluates with
  | expression => exact state_evaluate running' expression
  | allocation => exact state_allocate running' _
  | call built => exact state_calling running' built

/-- An event that evaluates nothing and writes nothing changes nothing. -/
theorem state_of_silent (silent : request.expression? = none)
    (reads : ∀ address data, request ≠ .writeMemory address data) :
    (dispatch backend request ⟨some target⟩).2 = ⟨some target⟩ := by
  have running' := process?_of_process running
  have touches := touches_dispatch running' request
  have calls (calling : Calling) (failing : calling.request.expression? = none)
      (calls : Calls calling ⟨some target⟩ (dispatch backend request ⟨some target⟩).2) :
      (dispatch backend request ⟨some target⟩).2 = ⟨some target⟩ := by
    refine calls.2 fun acceptable => ?_
    obtain ⟨call, built⟩ := Calling.build_isOk_iff.mpr acceptable
    rw [Calling.expression?_request, built] at failing
    cases failing
  cases request with
  | writeMemory address data => exact absurd rfl (reads address data)
  | evaluate expression => cases silent
  | allocate size => cases silent
  | callMethod method receiver arguments returnSize =>
    exact calls ⟨method, some receiver, arguments, returnSize⟩ silent touches
  | callFunction function arguments returnSize =>
    exact calls ⟨function, none, arguments, returnSize⟩ silent touches
  | _ => exact touches

theorem exists_step_writeMemory (address : UInt64) (data : List UInt8) :
    ∃ after process', (dispatch backend (.writeMemory address data) ⟨some target⟩).2
        = ⟨some after⟩ ∧ after.process = some process' ∧
      Step target process (.writeMemory address data) after process' := by
  have running' := process?_of_process running
  cases here : process.region? address with
  | none =>
    obtain ⟨response, dispatched, -⟩ := written_unmapped running' here data
    exact ⟨target, process, congrArg Prod.snd dispatched, running, .still⟩
  | some region =>
    cases writable : region.writable with
    | false =>
      obtain ⟨response, dispatched, -⟩ := written_readOnly running' here writable data
      exact ⟨target, process, congrArg Prod.snd dispatched, running, .still⟩
    | true =>
      obtain ⟨front, later, found⟩ := SimulatedProcess.exists_found here
      obtain ⟨response, dispatched, -⟩ := written_stored running' found writable data
      refine ⟨_, _, ?_, rfl, .stored found writable⟩
      rw [dispatched]
      show (⟨some { target with process := target.process.map _ }⟩ : Simulator) = _
      rw [running]
      rfl

/-- The ways in which an event changes memory and the heap. -/
theorem exists_step (request : Request) :
    ∃ after process', (dispatch backend request ⟨some target⟩).2 = ⟨some after⟩ ∧
      after.process = some process' ∧ Step target process request after process' := by
  cases found : request.expression? with
  | some expression =>
    have evaluates := Request.evaluates_of_expression? found
    obtain ⟨process', left, remaps⟩ := SimulatedTarget.exists_remaps running expression
    exact ⟨_, process', state_of_evaluates running evaluates, left, .evaluated evaluates rfl remaps⟩
  | none =>
    by_cases writes : ∃ address data, request = .writeMemory address data
    · obtain ⟨address, data, rfl⟩ := writes
      exact exists_step_writeMemory running address data
    · refine ⟨target, process, state_of_silent running found ?_, running, .still⟩
      exact fun address data same => writes ⟨address, data, same⟩

end

/-! ## Runs -/

/-- A run of events leaves a debugger without a target as it is. -/
theorem asked_noTarget {debugger : Simulator} (missing : debugger.target = none)
    (requests : List Request) : debugger.asked requests = debugger := by
  induction requests with
  | nil => rfl
  | cons request requests ih =>
    show asked requests (dispatch backend request debugger).2 = debugger
    rw [dispatch_noTarget missing]
    exact ih

/-- What every step preserves, a run of events does. -/
theorem exists_asked {holds : SimulatedTarget → Prop}
    (preserved : ∀ {target after : SimulatedTarget} {process process' : SimulatedProcess}
      {request : Request}, target.process = some process → after.process = some process' →
      Step target process request after process' → holds target → holds after)
    (initially : holds target) (requests : List Request) :
    ∃ after, asked requests ⟨some target⟩ = ⟨some after⟩ ∧ holds after := by
  induction requests generalizing target with
  | nil => exact ⟨target, rfl, initially⟩
  | cons request requests ih =>
    show ∃ after, asked requests (dispatch backend request ⟨some target⟩).2 = _ ∧ _
    cases running : target.process with
    | none =>
      have present : (⟨some target⟩ : Simulator).target ≠ none := Option.some_ne_none target
      rw [dispatch_noProcess present running]
      exact ih initially
    | some process =>
      obtain ⟨after, process', left, running', step⟩ := exists_step running request
      rw [left]
      exact ih (preserved running running' step initially)

end Simulator
end DebugBridge
