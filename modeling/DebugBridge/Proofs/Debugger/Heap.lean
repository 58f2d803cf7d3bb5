import DebugBridge.Proofs.Debugger.Mapping

/-!
# The rest of the heap is free

The heap of the simulated process only goes on. Every allocation takes the place at which it has
arrived, rounded up to sixteen octets, and nothing is ever given back. So for an allocation to be
new memory, what is left of the heap has to be free of regions. It stays free if it was free when
the debugger was set up: the stack and the scratch region lie behind the heap, and what has been
allocated lies before its rest.

What is set up by hand can spoil this in two ways: with a region inside the heap, and with a value
that is registered for the expression of an allocation.

* `Setup.SparesHeap`: what is set up does neither.
* `Arranged`: where regions lie with regard to the heap.
* `SimulatedTarget.Orderly`: the invariant.

Results:
1. `Simulator.orderly_setUp`: the heap is in order at first.
2. `SimulatedTarget.Orderly.step`, `Simulator.Orderly.asked`: events leave it in order.
-/

namespace DebugBridge

open Simulator

/-! ## Allocations by their text -/

namespace SimulatedTarget

/-- The text asks for an allocation, of whatever is said to be the size. -/
def IsAllocation (text : String) : Prop :=
  ∃ size, text.toList = "(void*)malloc(".toList ++ size ++ [')']

theorem allocation?_eq_none_iff {text : String} :
    allocation? text.toList = none ↔ ¬ IsAllocation text := by
  unfold allocation? IsAllocation
  simp only [Option.bind_eq_bind]
  constructor
  · rintro none ⟨size, written⟩
    rw [written, List.append_assoc, Text.dropStart?_append, Option.bind_some, Text.dropEnd?_append,
      Option.bind_some] at none
    cases word : Numeral.readWord 10 size <;> rw [word] at none <;> cases none
  · intro other
    cases start : Text.dropStart? "(void*)malloc(".toList text.toList with
    | none => rfl
    | some rest =>
      cases stop : Text.dropEnd? [')'] rest with
      | none => rw [Option.bind_some, stop, Option.bind_none]
      | some size =>
        refine absurd ⟨size, ?_⟩ other
        rw [Text.dropStart?_eq_some_iff.mp start, Text.dropEnd?_eq_some_iff.mp stop,
          List.append_assoc]

theorem isAllocation_of_eq_some {text : String} {size : Except String UInt64}
    (found : allocation? text.toList = some size) : IsAllocation text := by
  refine not_not.mp fun other => ?_
  cases found.symm.trans (allocation?_eq_none_iff.mpr other)

end SimulatedTarget

/-- The event asks for an allocation, of whatever is said to be the size. -/
def Request.IsAllocation : Request → Prop
  | .allocate _ => True
  | .evaluate text => SimulatedTarget.IsAllocation text
  | _ => False

theorem Request.Evaluates.isAllocation {request : Request} {text : String}
    (evaluates : request.Evaluates text) (allocation : request.IsAllocation) :
    SimulatedTarget.IsAllocation text := by
  cases evaluates with
  | expression => exact allocation
  | allocation => exact SimulatedTarget.isAllocation_of_eq_some (allocation?_allocationText _)
  | @call calling _ _ =>
    obtain ⟨callee, receiver, arguments, returnSize⟩ := calling
    cases receiver <;> cases allocation

/-- A step of setting up leaves the heap to allocations: it maps no octets there, and registers
nothing for an expression that allocates. -/
def Setup.SparesHeap : Setup → Prop
  | .region start octets _ =>
    Apart heapBase.toNat (stackBase.toNat - heapBase.toNat) start.toNat octets.length
  | .expression text _ | .expressionPanic text => ¬ SimulatedTarget.IsAllocation text
  | _ => True

/-- The scratch region lies behind the heap. -/
theorem stackBase_le_scratchAddress : stackBase.toNat ≤ scratchAddress.toNat := by decide

theorem Extent.size_blank (size : Nat) : (blank size).size = size :=
  Nat.zero_add size

theorem Region.exists_of_outlines {regions regions' : List Region} {region : Region}
    (same : regions'.map outline = regions.map outline) (present : region ∈ regions') :
    ∃ other ∈ regions, other.start = region.start ∧
      other.content.size = region.content.size := by
  have outlined : region.outline ∈ regions.map outline := same ▸ List.mem_map_of_mem present
  obtain ⟨other, present', eq⟩ := List.mem_map.mp outlined
  simp only [outline, Prod.mk.injEq] at eq
  exact ⟨other, present', eq.1, eq.2.1⟩

/-! ## The rest of the heap -/

/-- No region begins where another one does, and none reaches into what is left of the heap. -/
structure Arranged (regions : List Region) (heapNext : UInt64) : Prop where
  distinct : (regions.map (·.start)).Nodup
  free : ∀ region ∈ regions, Apart heapNext.toNat (stackBase.toNat - heapNext.toNat)
    region.start.toNat region.content.size

namespace Arranged

variable {regions regions' : List Region} {heapNext heapNext' : UInt64}

theorem mono (arranged : Arranged regions heapNext) (further : heapNext ≤ heapNext') :
    Arranged regions heapNext' where
  distinct := arranged.distinct
  free region present address := by
    have clear := arranged.free region present address
    rw [UInt64.le_iff_toNat_le] at further
    omega

theorem of_outlines (arranged : Arranged regions heapNext)
    (same : regions'.map Region.outline = regions.map Region.outline) :
    Arranged regions' heapNext where
  distinct := by
    have starts (list : List Region) :
        list.map (·.start) = (list.map Region.outline).map Prod.fst := by
      rw [List.map_map]
      rfl
    rw [starts, same, ← starts]
    exact arranged.distinct
  free region present := by
    obtain ⟨other, present', start, size⟩ := Region.exists_of_outlines same present
    rw [← start, ← size]
    exact arranged.free other present'

/-- Nothing lies where the heap goes on. -/
theorem not_contains (arranged : Arranged regions heapNext) (room : heapNext < stackBase)
    {region : Region} (present : region ∈ regions) : ¬ region.contains heapNext = true := by
  intro contains
  obtain ⟨lower, upper⟩ := Region.contains_iff.mp contains
  rw [UInt64.lt_iff_toNat_lt] at room
  have stop := arranged.free region present heapNext.toNat (Nat.le_refl _) (by omega) lower
  exact Nat.not_lt_of_le stop upper

theorem map {process : SimulatedProcess} (arranged : Arranged process.regions heapNext)
    {new : Region}
    (free : Apart heapNext.toNat (stackBase.toNat - heapNext.toNat) new.start.toNat
      new.content.size) : Arranged (process.map new).regions heapNext where
  distinct := SimulatedProcess.nodup_starts_map arranged.distinct new
  free region present := by
    rcases SimulatedProcess.mem_regions_map.mp present with ⟨present, -⟩ | rfl
    · exact arranged.free region present
    · exact free

end Arranged

namespace SimulatedTarget

/-- Allocations are made by the heap alone, and there is nothing in what is left of it. -/
structure Orderly (target : SimulatedTarget) : Prop where
  expressions : ∀ entry ∈ target.expressions, ¬ IsAllocation entry.1
  panicking : ∀ text ∈ target.panicking, ¬ IsAllocation text
  above : heapBase ≤ target.heapNext
  aligned : 16 ∣ target.heapNext.toNat
  arranged : Arranged (regions ⟨some target⟩) target.heapNext

/-- The heap has not been used yet. -/
def Untouched (target : SimulatedTarget) : Prop :=
  target.Orderly ∧ target.heapNext = heapBase

variable {target after : SimulatedTarget}

/-- What is true of the heap depends on these parts of the debugger only. -/
theorem Untouched.of_parts (untouched : target.Untouched)
    (expressions : ∀ entry ∈ after.expressions, ¬ IsAllocation entry.1)
    (panicking : ∀ text ∈ after.panicking, ¬ IsAllocation text)
    (heap : after.heapNext = target.heapNext)
    (arranged : Arranged (regions ⟨some after⟩) target.heapNext) : after.Untouched := by
  obtain ⟨orderly, base⟩ := untouched
  refine ⟨⟨expressions, panicking, ?_, ?_, ?_⟩, heap.trans base⟩
  · rw [heap]
    exact orderly.above
  · rw [heap]
    exact orderly.aligned
  · rw [heap]
    exact arranged

theorem untouched_fresh (fresh : Simulator.fresh.target = some target) : target.Untouched := by
  cases fresh
  refine ⟨⟨nofun, nofun, UInt64.le_refl _, by decide, ⟨by decide, ?_⟩⟩, rfl⟩
  -- The stack and the data lie behind the heap.
  have behind : ∀ region ∈ firstRegions, stackBase.toNat ≤ region.start.toNat := by decide
  intro region present address
  have behind := behind region present
  have base : heapBase.toNat ≤ stackBase.toNat := by decide
  omega

theorem regions_map_process {change : SimulatedProcess → SimulatedProcess}
    (keeps : ∀ process, (change process).regions = process.regions) (target : SimulatedTarget) :
    regions ⟨some { target with process := target.process.map change }⟩
      = regions ⟨some target⟩ := by
  unfold regions process?
  cases running : target.process with
  | none => simp [running]
  | some process => simp [running, keeps]

/-- No step of setting up makes use of the heap. -/
theorem untouched_apply {debugger : Simulator} {step : Setup} (spares : step.SparesHeap)
    (untouched : ∀ target, debugger.target = some target → target.Untouched)
    (applied : (step.apply debugger).target = some after) : after.Untouched := by
  obtain ⟨_ | target⟩ := debugger
  · cases step with
    | afresh => exact untouched_fresh applied
    | _ => cases applied
  have untouched := untouched target rfl
  have orderly := untouched.1
  have unmapped {change : SimulatedProcess → SimulatedProcess}
      (keeps : ∀ process, (change process).regions = process.regions) :
      { target with process := target.process.map change }.Untouched :=
    untouched.of_parts orderly.expressions orderly.panicking rfl
      (regions_map_process keeps target ▸ orderly.arranged)
  cases step with
  | afresh => exact untouched_fresh applied
  | withoutTarget => cases applied
  | withoutProcess =>
    cases applied
    exact untouched.of_parts orderly.expressions orderly.panicking rfl ⟨List.nodup_nil, nofun⟩
  | withoutModules | withoutExecutable | executable path | baseAddress address
  | function address behaviour =>
    cases applied
    exact untouched.of_parts orderly.expressions orderly.panicking rfl orderly.arranged
  | region start octets writable =>
    cases applied
    refine untouched.of_parts orderly.expressions orderly.panicking rfl ?_
    have arranged := orderly.arranged
    unfold regions process? at arranged ⊢
    dsimp only [Option.bind_eq_bind, Option.bind_some] at arranged ⊢
    cases running : target.process with
    | none => exact ⟨List.nodup_nil, nofun⟩
    | some process =>
      rw [running] at arranged
      exact arranged.map (untouched.2 ▸ spares)
  | expression text evaluation =>
    cases applied
    exact untouched.of_parts (List.forall_mem_cons.mpr ⟨spares, orderly.expressions⟩)
      orderly.panicking rfl orderly.arranged
  | expressionPanic text =>
    cases applied
    exact untouched.of_parts orderly.expressions
      (List.forall_mem_append.mpr ⟨orderly.panicking, List.forall_mem_singleton.mpr spares⟩) rfl
      orderly.arranged
  | _ =>
    -- The thread and the frame.
    cases applied
    exact unmapped fun _ => rfl

theorem untouched_setUp {steps : List Setup} (spares : ∀ step ∈ steps, step.SparesHeap)
    {debugger : Simulator}
    (untouched : ∀ target, debugger.target = some target → target.Untouched)
    (set : (debugger.setUp steps).target = some after) : after.Untouched := by
  induction steps generalizing debugger with
  | nil => exact untouched after set
  | cons step steps ih =>
    obtain ⟨spares, spares'⟩ := List.forall_mem_cons.mp spares
    exact ih spares' (fun _ => untouched_apply spares untouched) set

/-! ## Events -/

variable {process process' : SimulatedProcess} {request : Request}

/-- The size that an allocation takes is a multiple of sixteen. -/
theorem dvd_roundedSize (size : UInt64) : 16 ∣ roundedSize size := by
  unfold roundedSize
  omega

theorem toNat_heapAfter {size : UInt64} (fits : target.heapAfter size < UInt64.size) :
    (target.heapAfter size).toUInt64.toNat = target.heapNext.toNat + roundedSize size :=
  UInt64.toNat_ofNat_of_lt' fits

/-- A block ends where the heap goes on, or before. -/
theorem stop_le_heapAfter {size : UInt64} (fits : target.heapAfter size < UInt64.size) :
    target.heapNext.toNat + size.toNat ≤ (target.heapAfter size).toUInt64.toNat := by
  have taken := le_roundedSize size
  rw [toNat_heapAfter fits]
  omega

section
variable {expression : String} {result : Except Panic (Except String Evaluation)} {next : UInt64}
  (remaps : target.Remaps process expression result process' next)
include remaps

/-- The heap does not go back. -/
theorem Remaps.heapNext_le : target.heapNext ≤ next := by
  cases remaps with
  | still => exact UInt64.le_refl _
  | moved _ fits => exact UInt64.le_of_lt (heapNext_lt_of_fits fits)
  | allocated _ fits => exact UInt64.le_of_lt (heapNext_lt_of_fits fits)
  | filled => exact UInt64.le_refl _

theorem Remaps.aligned (aligned : 16 ∣ target.heapNext.toNat) : 16 ∣ next.toNat := by
  have taken (size : UInt64) (fits : target.heapAfter size < UInt64.size) :
      16 ∣ (target.heapAfter size).toUInt64.toNat := by
    rw [toNat_heapAfter fits]
    exact Nat.dvd_add aligned (dvd_roundedSize size)
  cases remaps with
  | still => exact aligned
  | moved _ fits => exact taken _ fits
  | allocated _ fits => exact taken _ fits
  | filled => exact aligned

/-- Whatever is mapped, what is left of the heap then stays free. -/
theorem Remaps.arranged (arranged : Arranged process.regions target.heapNext) :
    Arranged process'.regions next := by
  have further := remaps.heapNext_le
  cases remaps with
  | still => exact arranged
  | moved => exact arranged.mono further
  | allocated _ fits =>
    refine (arranged.mono further).map fun address behind _ _ => ?_
    rw [Extent.size_blank]
    exact Nat.le_trans (stop_le_heapAfter fits) behind
  | filled =>
    refine arranged.map fun address _ within reached => ?_
    have behind := Nat.le_trans stackBase_le_scratchAddress reached
    omega

end

/-- An event leaves the heap in order, and does not make it go back. -/
theorem Orderly.step (orderly : target.Orderly) (running : target.process = some process)
    (running' : after.process = some process') (step : Step target process request after process') :
    after.Orderly ∧ target.heapNext ≤ after.heapNext := by
  have arranged := orderly.arranged
  rw [regions_eq (process?_of_process running)] at arranged
  cases step with
  | still => exact ⟨orderly, UInt64.le_refl _⟩
  | stored found =>
    exact ⟨⟨orderly.expressions, orderly.panicking, orderly.above, orderly.aligned,
      arranged.of_outlines (found.outlines_store _)⟩, UInt64.le_refl _⟩
  | @evaluated _ expression _ _ _ _ evaluated remaps =>
    have kept : after.fixtures = target.fixtures := by
      have kept := (evaluate_keeps expression target).1
      rwa [evaluated] at kept
    have expressions : after.expressions = target.expressions := congrArg Fixtures.expressions kept
    have panicking : after.panicking = target.panicking := congrArg Fixtures.panicking kept
    have further := remaps.heapNext_le
    refine ⟨⟨expressions ▸ orderly.expressions, panicking ▸ orderly.panicking,
      UInt64.le_trans orderly.above further, remaps.aligned orderly.aligned, ?_⟩, further⟩
    rw [regions_eq (process?_of_process running')]
    exact remaps.arranged arranged

end SimulatedTarget

/-! ## Runs -/

namespace Simulator

/-- The heap is in order, if there is a target. -/
def Orderly (debugger : Simulator) : Prop :=
  ∀ target, debugger.target = some target → target.Orderly

variable {debugger : Simulator}

/-- A run leaves the heap in order, and does not make it go back. -/
theorem exists_asked_of_orderly {target : SimulatedTarget} (orderly : target.Orderly)
    (requests : List Request) : ∃ after, asked requests ⟨some target⟩ = ⟨some after⟩ ∧
      after.Orderly ∧ target.heapNext ≤ after.heapNext := by
  refine @exists_asked target (fun after => after.Orderly ∧ target.heapNext ≤ after.heapNext)
    ?_ ⟨orderly, UInt64.le_refl _⟩ requests
  intro before after process process' request running running' step ⟨orderly, further⟩
  obtain ⟨orderly', further'⟩ := orderly.step running running' step
  exact ⟨orderly', UInt64.le_trans further further'⟩

theorem Orderly.asked (orderly : debugger.Orderly) (requests : List Request) :
    (debugger.asked requests).Orderly := by
  intro after left
  obtain ⟨_ | target⟩ := debugger
  · rw [asked_noTarget rfl] at left
    cases left
  · obtain ⟨after', asked, orderly', -⟩ := exists_asked_of_orderly (orderly target rfl) requests
    rw [asked] at left
    cases left
    exact orderly'

theorem Orderly.distinct (orderly : debugger.Orderly) :
    (debugger.regions.map (·.start)).Nodup := by
  obtain ⟨_ | target⟩ := debugger
  · exact List.nodup_nil
  · exact (orderly target rfl).arranged.distinct

/-- The heap is in order once a debugger has been set up. -/
theorem orderly_setUp {steps : List Setup} (spares : ∀ step ∈ steps, step.SparesHeap) :
    (fresh.setUp steps).Orderly :=
  fun _ set =>
    (SimulatedTarget.untouched_setUp spares (fun _ => SimulatedTarget.untouched_fresh) set).1

end Simulator
end DebugBridge
