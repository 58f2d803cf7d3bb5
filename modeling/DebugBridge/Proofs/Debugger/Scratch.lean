import DebugBridge.Proofs.Debugger.Mapping

/-!
# An aggregate result stays readable

The result of an aggregate function lies in the scratch region, and the answer to the call names its
place. The server reads it with a later event, and other events may come in between. The result is
still there unless one of them has put another aggregate into its place or has written over it.

What carries the argument is that an address is looked up in the first region that contains it. The
scratch region has come last, so no region before it contains its address; regions that are mapped
later stand behind it, and none of them replaces it while the heap has not come up to its address.

Results:
1. `exists_outcome_of_answered`, `exists_octets_of_answered`: what the call has left in the scratch
   region.
2. `Request.Spares`, `Simulator.keeps_dispatch`: one event that spares the result.
3. `Simulator.aggregate_stays_readable`: a run of such events.
-/

namespace DebugBridge

open Simulator

/-! ## What keeps a result -/

namespace Extent

/-- Octets have the size that they are cut off or filled up to. -/
theorem size_resize (size : Nat) (extent : Extent) : (extent.resize size).size = size := by
  simp only [resize, Extent.size, List.length_take]
  omega

theorem toList_resize_ofList (octets : List UInt8) (size : Nat) :
    ((ofList octets).resize size).toList
      = octets.take size ++ List.replicate (size - octets.length) 0 := by
  rw [toList_resize, ← length_toList, toList_ofList]

end Extent

namespace SimulatedProcess

/-- The scratch region is found at its address, and begins with these octets. -/
def Keeps (process : SimulatedProcess) (size : UInt64) (octets : List UInt8) : Prop :=
  (∃ region, process.region? scratchAddress = some region ∧ region.start = scratchAddress) ∧
    process.memory? scratchAddress size = some octets

variable {process : SimulatedProcess} {size : UInt64} {octets : List UInt8}

/-- A result that has just been put into the scratch region can be read. -/
theorem keeps_map_scratch
    (alone : ∀ region ∈ process.regions, region.contains scratchAddress = true →
      region.start = scratchAddress)
    (nonempty : size ≠ 0) :
    (process.map ⟨scratchAddress, (Extent.ofList octets).resize size.toNat, true⟩).Keeps size
      (octets.take size.toNat ++ List.replicate (size.toNat - octets.length) 0) := by
  have whole : ((Extent.ofList octets).resize size.toNat).size = size.toNat :=
    Extent.size_resize _ _
  have positive : 0 < ((Extent.ofList octets).resize size.toNat).size := by
    rw [whole]
    exact Nat.pos_of_ne_zero fun zero => nonempty (UInt64.toNat_inj.mp zero)
  refine ⟨⟨_, (found_map_new alone positive).region?, rfl⟩, ?_⟩
  rw [← Extent.toList_resize_ofList]
  exact memory?_map_new alone whole positive

/-- A region that does not start at the scratch address does not take the place of a result. -/
theorem Keeps.map (keeps : process.Keeps size octets) {new : Region}
    (elsewhere : new.start ≠ scratchAddress) : (process.map new).Keeps size octets := by
  obtain ⟨⟨region, found, start⟩, mapped⟩ := keeps
  have apart : region.start ≠ new.start := start ▸ elsewhere.symm
  exact ⟨⟨region, region?_map found apart, start⟩,
    (memory?_map found apart size).trans mapped⟩

/-- Nor does a write to other addresses. -/
theorem Keeps.store (keeps : process.Keeps size octets) {address : UInt64} {data : List UInt8}
    {front later : List Region} {region : Region}
    (found : process.Found address front region later)
    (apart : Apart scratchAddress.toNat size.toNat address.toNat data.length) :
    { process with regions := front ++ region.store address data :: later }.Keeps size octets := by
  obtain ⟨⟨scratch, here, start⟩, mapped⟩ := keeps
  constructor
  · have outlined := outline_region? process scratchAddress
    rw [here, ← found.outlines_store data] at outlined
    obtain ⟨scratch', here', same⟩ :=
      Option.map_eq_some_iff.mp ((outline_region? { process with
        regions := front ++ region.store address data :: later } _).trans outlined.symm)
    exact ⟨scratch', here', (congrArg Prod.fst same).trans start⟩
  · rw [memory?_store_apart found, mapped]
    intro place lower upper lower'
    have clear := apart place lower'
    rw [List.length_take] at upper
    omega

end SimulatedProcess

/-! ## Events that spare a result -/

/-- The events after which a result can still be read at its place: every event that only looks, a
write to other addresses, an allocation that keeps the heap below the scratch region, a native
expression that neither allocates nor calls for an aggregate, and a call that wants no buffer or
fails. -/
def Request.Spares (place size : UInt64) (debugger : Simulator) (request : Request) : Prop :=
  match request with
  | .writeMemory address data => Apart place.toNat size.toNat address.toNat data.length
  | .allocate _ => (dispatch backend request debugger).2.HeapWithin scratchAddress
  | .evaluate expression =>
    (∀ size, SimulatedTarget.allocation? expression.toList ≠ some (.ok size)) ∧
      ∀ text, CallText.read? expression.toList = some text → text.bufferSize = none
  | .callMethod _ _ _ returnSize | .callFunction _ _ returnSize =>
    returnSize = none ∨ (dispatch backend request debugger).1.IsError
  | .readMemory _ _ | .readRegister _ | .readRegisterByIndex _ | .frameInfo | .threadInfo
  | .baseAddress | .variableType _ | .unknown => True

/-- Every event of a run spares the result, in the state in which it comes. -/
def Simulator.SparedBy (place size : UInt64) : List Request → Simulator → Prop
  | [], _ => True
  | request :: requests, debugger =>
    request.Spares place size debugger ∧
      SparedBy place size requests (dispatch backend request debugger).2

namespace Calling

variable {calling : Calling} {call : NativeCall} {target after : SimulatedTarget}

theorem spares_request {place size : UInt64} {debugger : Simulator} :
    calling.request.Spares place size debugger ↔
      calling.returnSize = none ∨ (dispatch backend calling.request debugger).1.IsError := by
  obtain ⟨callee, receiver, arguments, returnSize⟩ := calling
  cases receiver <;> rfl

theorem not_isError_answer (calling : Calling) (result : CallResult) :
    ¬ (calling.answer result).IsError := by
  unfold answer
  split <;> exact fun ⟨_, same⟩ => nomatch same

theorem answer_injective {result result' : CallResult}
    (same : calling.answer result = calling.answer result') : result = result' := by
  unfold answer at same
  split at same <;> cases same <;> rfl

/-- A call is read back with the callee and the size of its buffer. -/
theorem read_eq (built : calling.build = .ok call) {text : CallText}
    (read : CallText.read? call.chars = some text) :
    text = ⟨calling.callee, text.values, calling.returnSize⟩ := by
  obtain ⟨-, -, callee, -, size⟩ := build_eq_ok built
  obtain ⟨address, wants⟩ := CallText.of_read?_chars read
  rw [← callee, ← size, ← address, ← wants]

/-- A call that has come to a value was read by the process, unless it is registered with one. -/
theorem exists_read_of_evaluated (unregistered : target.expressions.lookup call.text = none)
    {evaluation : Evaluation}
    (evaluated : SimulatedTarget.evaluate call.text target = (.ok (.ok evaluation), after)) :
    call.text ∉ target.panicking ∧ ∃ text, CallText.read? call.chars = some text := by
  have chars : call.text.toList = call.chars := String.toList_ofList
  rw [SimulatedTarget.evaluate_apply] at evaluated
  split at evaluated
  · cases evaluated
  next calm =>
  rw [unregistered] at evaluated
  dsimp only at evaluated
  rw [allocation?_callText, chars] at evaluated
  dsimp only at evaluated
  cases read : CallText.read? call.chars with
  | none =>
    rw [read] at evaluated
    cases evaluated
  | some text => exact ⟨calm, text, rfl⟩

end Calling

/-! ## From the answer to the scratch region -/

section
variable {calling : Calling} {call : NativeCall} {target : SimulatedTarget} {place size : UInt64}
  {after : Simulator}

/-- A call that is not answered by an error has been read, and its answer is what has come of it. -/
theorem exists_outcome_of_answered (built : calling.build = .ok call)
    (unregistered : target.expressions.lookup call.text = none) {response : Response}
    (calm : ¬ response.IsError)
    (answered : dispatch backend calling.request ⟨some target⟩ = (response, after)) :
    ∃ values after', CallText.read? call.chars
        = some ⟨calling.callee, values, calling.returnSize⟩ ∧
      after = ⟨some after'⟩ ∧
      calling.Outcome values { target with evaluated := target.evaluated ++ [call.text] }
        response after' := by
  obtain ⟨target', process, between, same, running, handled, -⟩ :=
    exists_process_of_answered (congrArg Prod.fst answered) calm
  cases same
  obtain ⟨call', evaluation, -, built', evaluated, -⟩ := Calling.handle_eq_ok.mp handled
  cases built.symm.trans built'
  obtain ⟨_, come, -⟩ := exists_evaluated evaluated
  obtain ⟨calm, text, read⟩ := Calling.exists_read_of_evaluated unregistered come
  rw [Calling.read_eq built read] at read
  have chars : call.text.toList = call.chars := String.toList_ofList
  have called := evaluate_of_read? calm unregistered (allocation?_callText call) (chars ▸ read)
  obtain ⟨-, -, -, -, size⟩ := Calling.build_eq_ok built
  have running' : target.process.isSome = true := Option.isSome_of_eq_some running
  obtain ⟨response', after', dispatched, outcome⟩ :=
    outcome_of_call built running' (shape_eq size) called running'
  cases answered.symm.trans dispatched
  exact ⟨text.values, after', read, rfl, outcome⟩

/-- A call that is answered by the place of a buffer has run an aggregate function, and has put what
came of it into the scratch region. -/
theorem exists_octets_of_answered (built : calling.build = .ok call)
    (unregistered : target.expressions.lookup call.text = none)
    (answered : dispatch backend calling.request ⟨some target⟩
      = (calling.answer (.ofBuffer place size), after)) :
    ∃ run values octets process,
      target.functions.lookup calling.callee = some (.aggregate run) ∧
      CallText.read? call.chars = some ⟨calling.callee, values, some size⟩ ∧
      run values = .ok octets ∧ place = scratchAddress ∧ size ≠ 0 ∧
      target.process = some process ∧
      after = ⟨some { target with
        process := some (process.map
          ⟨scratchAddress, (Extent.ofList octets).resize size.toNat, true⟩)
        evaluated := target.evaluated ++ [call.text] }⟩ := by
  have nonzero := Calling.returnSize_ne_zero built
  have calm := calling.not_isError_answer (.ofBuffer place size)
  obtain ⟨values, after', read, rfl, outcome⟩ :=
    exists_outcome_of_answered built unregistered calm answered
  generalize same : calling.answer (.ofBuffer place size) = response at outcome calm
  cases outcome with
  | scalar => cases Calling.answer_injective same
  | aggregate function wants ran _ running =>
    cases Calling.answer_injective same
    rw [wants] at read nonzero
    exact ⟨_, values, _, _, function, read, ran, rfl, fun zero => nonzero (congrArg some zero),
      running, rfl⟩
  | tooLarge | scalarPanic | aggregatePanic | missing | scalarMismatch | aggregateMismatch =>
    exact absurd ⟨_, rfl⟩ calm

end

/-! ## Runs -/

namespace Simulator

variable {target after : SimulatedTarget} {process process' : SimulatedProcess} {size : UInt64}
  {octets : List UInt8} {debugger : Simulator}

/-- A call that wants a buffer is answered by the place of the buffer when it has been filled. -/
theorem not_spares_of_filled {calling : Calling} {call : NativeCall} {text : CallText}
    (running : target.process = some process) (built : calling.build = .ok call) {place : UInt64}
    (read : CallText.read? call.text.toList = some text) {wanted : UInt64}
    (wants : text.bufferSize = some wanted)
    (evaluated : SimulatedTarget.evaluate call.text target
      = (.ok (.ok (SimulatedTarget.scratchEvaluation wanted)), after)) :
    ¬ calling.request.Spares place size ⟨some target⟩ := by
  have chars : call.text.toList = call.chars := String.toList_ofList
  obtain ⟨-, -, -, -, same⟩ := Calling.build_eq_ok built
  rw [chars] at read
  rw [Calling.read_eq built read] at wants
  have wants : calling.returnSize = some wanted := wants
  have shape : call.shape = .buffer wanted := by rw [shape_eq same, Calling.shape, wants]
  have answered := dispatch_of_buffer built (Option.isSome_of_eq_some running) shape evaluated
  intro spares
  rcases Calling.spares_request.mp spares with none | error
  · cases wants.symm.trans none
  · rw [answered] at error
    exact calling.not_isError_answer _ error

theorem keeps_of_remaps {request : Request} {expression : String}
    {result : Except Panic (Except String Evaluation)}
    (running : target.process = some process) (evaluates : request.Evaluates expression)
    (evaluated : SimulatedTarget.evaluate expression target = (result, after))
    (left : (dispatch backend request ⟨some target⟩).2 = ⟨some after⟩)
    (remaps : target.Remaps process expression result process' after.heapNext)
    (spares : request.Spares scratchAddress size ⟨some target⟩)
    (keeps : process.Keeps size octets) : process'.Keeps size octets := by
  generalize heap : after.heapNext = next at remaps
  cases remaps with
  | still => exact keeps
  | moved => exact keeps
  | allocated allocates fits small =>
    cases evaluates with
    | expression => exact absurd allocates (spares.1 _)
    | call => cases allocates.symm.trans (allocation?_callText _)
    | allocation =>
      have within : after.heapNext ≤ scratchAddress :=
        spares after (congrArg Simulator.target left)
      have below :=
        UInt64.lt_of_lt_of_le (SimulatedTarget.heapNext_lt_of_fits fits) (heap ▸ within)
      exact keeps.map (UInt64.ne_of_lt below)
  | filled other read wants function ran fits =>
    cases evaluates with
    | expression => cases wants.symm.trans (spares.2 _ read)
    | allocation => cases other.symm.trans (allocation?_allocationText _)
    | call built => exact absurd spares (not_spares_of_filled running built read wants evaluated)

/-- An event that spares the result leaves it in its place. -/
theorem keeps_dispatch {request : Request} (running : debugger.process? = some process)
    (spares : request.Spares scratchAddress size debugger) (keeps : process.Keeps size octets) :
    ∃ process', (dispatch backend request debugger).2.process? = some process' ∧
      process'.Keeps size octets := by
  obtain ⟨target, rfl⟩ := exists_target running
  have running' : { target with process := some process }.process = some process := rfl
  obtain ⟨after, process', left, running', step⟩ := exists_step running' request
  rw [left]
  refine ⟨process', running', ?_⟩
  cases step with
  | still => exact keeps
  | stored found writable => exact keeps.store found spares
  | evaluated evaluates evaluated remaps =>
    exact keeps_of_remaps rfl evaluates evaluated left remaps spares keeps

theorem keeps_asked {requests : List Request} (running : debugger.process? = some process)
    (spared : debugger.SparedBy scratchAddress size requests) (keeps : process.Keeps size octets) :
    ∃ process', (debugger.asked requests).process? = some process' ∧
      process'.Keeps size octets := by
  induction requests generalizing debugger process with
  | nil => exact ⟨process, running, keeps⟩
  | cons request requests ih =>
    obtain ⟨spares, spared⟩ := spared
    obtain ⟨process', running', keeps'⟩ := keeps_dispatch running spares keeps
    exact ih running' spared keeps'

/-- When a call is answered by the place of a buffer, an aggregate function has been run on the
values that the call passes. What came of it, cut off or filled up with zeros to the size of the
buffer, is read at that place, then and after any run of events that spare it. -/
theorem aggregate_stays_readable {calling : Calling} {call : NativeCall} {place : UInt64}
    {after : Simulator} (built : calling.build = .ok call)
    (unregistered : target.expressions.lookup call.text = none)
    (alone : ∀ region ∈ regions ⟨some target⟩, region.contains scratchAddress = true →
      region.start = scratchAddress)
    (answered : dispatch backend calling.request ⟨some target⟩
      = (calling.answer (.ofBuffer place size), after)) :
    ∃ run values octets, target.functions.lookup calling.callee = some (.aggregate run) ∧
      CallText.read? call.chars = some ⟨calling.callee, values, some size⟩ ∧
      run values = .ok octets ∧
      ∀ requests, after.SparedBy place size requests →
        (dispatch backend (.readMemory place size) (after.asked requests)).1
          = .memoryData
            (octets.take size.toNat ++ List.replicate (size.toNat - octets.length) 0) := by
  obtain ⟨run, values, octets, process, function, read, ran, rfl, nonempty, running, rfl⟩ :=
    exists_octets_of_answered built unregistered answered
  rw [regions_eq (process?_of_process running)] at alone
  refine ⟨run, values, octets, function, read, ran, fun requests spared => ?_⟩
  obtain ⟨process', running', -, mapped⟩ :=
    keeps_asked rfl spared (SimulatedProcess.keeps_map_scratch alone nonempty)
  rw [dispatch_readMemory running', mapped]
  rfl

/-- A process with two functions, of which the first makes three octets. -/
def tailor : SimulatedTarget where
  executable := none
  baseAddress := none
  process := some ⟨firstRegions, none⟩
  expressions := []
  panicking := []
  functions :=
    [(0x4100, .aggregate fun _ => .ok [1, 2, 3]), (0x4200, .scalar fun _ => .ok 7)]
  evaluated := []
  heapNext := heapBase

/-- Eight octets are asked of it. They are read behind an allocation, a write to what has been
allocated, a call of each function of which the second fails, an expression that means nothing, and
a write right behind the result. -/
theorem aggregate_stays_readable_tailor :
    (dispatch backend fetching.request ⟨some tailor⟩).1
        = .functionResult (.ofBuffer scratchAddress 8) ∧
      (dispatch backend (.readMemory scratchAddress 8)
        ((dispatch backend fetching.request ⟨some tailor⟩).2.asked
          [.allocate 24, .writeMemory heapBase [9, 9], .callFunction 0x4200 [] none,
            .callMethod 0x4100 5 [⟨"x", .integer⟩] (some 8), .evaluate "x",
            .writeMemory (scratchAddress + 8) [9]])).1
        = .memoryData [1, 2, 3, 0, 0, 0, 0, 0] := by
  have answered : (dispatch backend fetching.request ⟨some tailor⟩).1
      = .functionResult (.ofBuffer scratchAddress 8) := by decide +kernel
  have whole : dispatch backend fetching.request ⟨some tailor⟩
      = (.functionResult (.ofBuffer scratchAddress 8),
        (dispatch backend fetching.request ⟨some tailor⟩).2) := by rw [← answered]
  have built : fetching.build = .ok ⟨0x4100, [], .buffer 8⟩ := rfl
  obtain ⟨run, values, octets, function, -, ran, reads⟩ :=
    aggregate_stays_readable built rfl (by decide +kernel) whole
  cases function
  cases ran
  refine ⟨answered, reads _ ?_⟩
  simp only [SparedBy, Request.Spares, and_true]
  refine ⟨?_, ?_, ?_, ?_, ?_, ?_⟩
  · decide +kernel
  · intro place
    simp [scratchAddress, heapBase]
    omega
  · exact .inl trivial
  · exact .inr ⟨"Invalid integer argument \"x\"", by decide +kernel⟩
  · have meaningless : CallText.read? "x".toList = none := by decide +kernel
    refine ⟨nofun, fun text read => ?_⟩
    cases meaningless.symm.trans read
  · intro place
    simp [scratchAddress]
    omega

end Simulator
end DebugBridge
