import DebugBridge.Proofs.Debugger.Heap

/-!
# Allocations stay apart

An allocation maps a block where the heap goes on, and the heap goes on behind it. So a block
begins behind every earlier one, where nothing has been mapped yet, and whatever is mapped later
lies behind it.

Results:
1. `SimulatedTarget.Owns.step`: a block and its surroundings stay as they are.
2. `Simulator.exists_allocated`: what an event that is answered by a block has done.
3. `Simulator.reads_of_isAllocation`: reading does not notice an allocation.
4. `Simulator.heap_kept`: all blocks of a run.
-/

namespace DebugBridge

open Simulator

/-! ## A block and its surroundings -/

/-- Every region but a block keeps apart from it. -/
def Beside (regions : List Region) (address size : UInt64) : Prop :=
  ∀ region ∈ regions, region.start = address ∧ region.content.size = size.toNat ∨
    Apart address.toNat size.toNat region.start.toNat region.content.size

namespace Beside

variable {regions regions' : List Region} {address size : UInt64}

theorem of_outlines (beside : Beside regions address size)
    (same : regions'.map Region.outline = regions.map Region.outline) :
    Beside regions' address size := by
  intro region present
  obtain ⟨other, present', start, size⟩ := Region.exists_of_outlines same present
  rw [← start, ← size]
  exact beside other present'

theorem map {process : SimulatedProcess} (beside : Beside process.regions address size)
    {new : Region}
    (behind : address.toNat + size.toNat ≤ new.start.toNat) :
    Beside (process.map new).regions address size := by
  intro region present
  rcases SimulatedProcess.mem_regions_map.mp present with ⟨present, -⟩ | rfl
  · exact beside region present
  · exact .inr fun place _ within reached => by omega

/-- What is left of the heap keeps apart from all regions. -/
theorem of_arranged {heapNext : UInt64} (arranged : Arranged regions heapNext)
    (behind : heapNext ≤ address) (inside : address.toNat + size.toNat ≤ stackBase.toNat) :
    Beside regions address size := by
  intro region present
  refine .inr fun place lower upper => arranged.free region present place ?_ ?_
  · exact Nat.le_trans (UInt64.le_iff_toNat_le.mp behind) lower
  · omega

end Beside

namespace SimulatedTarget

variable {target after : SimulatedTarget} {process process' : SimulatedProcess} {request : Request}

/-- The heap has gone on behind a block, and every other region keeps apart from it. -/
def Owns (target : SimulatedTarget) (address size : UInt64) : Prop :=
  address.toNat + size.toNat ≤ target.heapNext.toNat ∧ Beside (regions ⟨some target⟩) address size

/-- A block stays as it is, and whatever is mapped later keeps apart from it. -/
theorem Owns.step {address size : UInt64} (owns : target.Owns address size)
    (inside : address.toNat + size.toNat ≤ stackBase.toNat)
    (running : target.process = some process) (running' : after.process = some process')
    (step : Step target process request after process') : after.Owns address size := by
  obtain ⟨behind, beside⟩ := owns
  rw [regions_eq (process?_of_process running)] at beside
  rw [Owns, regions_eq (process?_of_process running')]
  cases step with
  | still => exact ⟨behind, beside⟩
  | stored found => exact ⟨behind, beside.of_outlines (found.outlines_store _)⟩
  | evaluated _ _ remaps =>
    refine ⟨Nat.le_trans behind (UInt64.le_iff_toNat_le.mp remaps.heapNext_le), ?_⟩
    generalize after.heapNext = next at remaps
    cases remaps with
    | still => exact beside
    | moved => exact beside
    | allocated => exact beside.map behind
    | filled => exact beside.map (Nat.le_trans inside stackBase_le_scratchAddress)

/-! ## Answers -/

/-- A block is mapped where the heap goes on, and the heap goes on behind it. -/
structure Allocated (target : SimulatedTarget) (process : SimulatedProcess) (size : UInt64)
    (after : SimulatedTarget) : Prop where
  fits : target.heapAfter size < UInt64.size
  mapped : after.process = some (process.map ⟨target.heapNext, .blank size.toNat, true⟩)
  heap : after.heapNext = (target.heapAfter size).toUInt64

theorem Allocated.owns {size : UInt64} (allocated : target.Allocated process size after)
    (orderly : target.Orderly) (running : target.process = some process)
    (inside : target.heapNext.toNat + size.toNat ≤ stackBase.toNat) :
    after.Owns target.heapNext size := by
  have arranged := orderly.arranged
  rw [regions_eq (process?_of_process running)] at arranged
  rw [Owns, regions_eq (process?_of_process allocated.mapped), allocated.heap]
  refine ⟨stop_le_heapAfter allocated.fits, fun region present => ?_⟩
  rcases SimulatedProcess.mem_regions_map.mp present with ⟨present, -⟩ | rfl
  · exact Beside.of_arranged arranged (UInt64.le_refl _) inside region present
  · exact .inl ⟨rfl, Extent.size_blank _⟩

/-- An allocation that comes to a value has mapped a block, and the value is its address. -/
theorem Orderly.allocated (orderly : target.Orderly) (running : target.process = some process)
    {text : String} {size : UInt64} (allocates : allocation? text.toList = some (.ok size))
    {evaluation : Evaluation}
    (evaluated : evaluate text target = (.ok (.ok evaluation), after)) :
    evaluation = .ofUnsigned target.heapNext ∧ target.Allocated process size after := by
  have allocation := isAllocation_of_eq_some allocates
  have unregistered : target.expressions.lookup text = none := by
    rw [List.lookup_eq_none_iff]
    intro entry present
    refine bne_iff_ne.mpr fun same => orderly.expressions entry present ?_
    rwa [← same]
  have calm : text ∉ target.panicking := fun present => orderly.panicking text present allocation
  rw [evaluate_apply, if_neg calm, unregistered] at evaluated
  dsimp only at evaluated
  rw [allocates] at evaluated
  dsimp only at evaluated
  rw [allocate_apply] at evaluated
  split at evaluated
  · cases evaluated
  next fits =>
  have running' : (target.recording text).process = some process := running
  rw [running'] at evaluated
  dsimp only at evaluated
  split at evaluated
  · cases evaluated
  · cases evaluated
    exact ⟨rfl, Nat.lt_of_not_le fits, rfl, rfl⟩

end SimulatedTarget

/-- A number can be told from its text. -/
theorem eq_of_toString_eq {m n : Nat} (same : toString m = toString n) : m = n := by
  have digits : Nat.toDigits 10 m = Nat.toDigits 10 n := by
    rw [← Nat.toList_repr, ← Nat.toList_repr]
    exact congrArg String.toList same
  calc
    m = Nat.ofDigitChars 10 (Nat.toDigits 10 m) 0 := Nat.ofDigitChars_ten_toDigits.symm
    _ = Nat.ofDigitChars 10 (Nat.toDigits 10 n) 0 := by rw [digits]
    _ = n := Nat.ofDigitChars_ten_toDigits

namespace Simulator

/-- An event is answered by a block of memory: it asks for one, or has the debugger evaluate an
expression that does. -/
inductive Allocates (debugger : Simulator) : Request → UInt64 → UInt64 → Prop
  | direct {size address : UInt64} :
      (dispatch backend (.allocate size) debugger).1 = .memoryAllocated address →
      Allocates debugger (.allocate size) address size
  | native {text : String} {size address : UInt64} :
      SimulatedTarget.allocation? text.toList = some (.ok size) →
      (dispatch backend (.evaluate text) debugger).1
        = .expressionResult (toString address.toNat) →
      Allocates debugger (.evaluate text) address size

variable {debugger : Simulator} {request : Request} {address size : UInt64}

/-- An event that is answered by a block has mapped it. -/
theorem exists_allocated (orderly : debugger.Orderly)
    (allocates : debugger.Allocates request address size) :
    ∃ target process after, debugger = ⟨some target⟩ ∧ target.process = some process ∧
      (dispatch backend request debugger).2 = ⟨some after⟩ ∧ target.heapNext = address ∧
      target.Allocated process size after := by
  cases allocates with
  | direct answered =>
    obtain ⟨target, process, after, rfl, running, handled, left⟩ :=
      exists_process_of_answered answered nofun
    obtain ⟨evaluation, address, evaluated, value, -, same⟩ := handle_allocate_eq_ok.mp handled
    obtain ⟨after, come, rfl⟩ := exists_evaluated evaluated
    obtain ⟨rfl, allocated⟩ :=
      (orderly target rfl).allocated running (allocation?_allocationText _) come
    cases same
    exact ⟨target, process, after, rfl, running, left, Option.some.inj value, allocated⟩
  | native allocates answered =>
    obtain ⟨target, process, after, rfl, running, handled, left⟩ :=
      exists_process_of_answered answered nofun
    obtain ⟨evaluation, evaluated, same⟩ := handle_evaluate_eq_ok.mp handled
    obtain ⟨after, come, rfl⟩ := exists_evaluated evaluated
    obtain ⟨rfl, allocated⟩ := (orderly target rfl).allocated running allocates come
    have shown : toString target.heapNext.toNat = toString address.toNat :=
      (Response.expressionResult.inj same).symm
    exact ⟨target, process, after, rfl, running, left,
      UInt64.toNat_inj.mp (eq_of_toString_eq shown), allocated⟩

/-! ## Runs -/

/-- The event at a place of a run is answered by a block of memory. -/
def AllocatesAt (debugger : Simulator) (requests : List Request) (i : Nat)
    (address size : UInt64) : Prop :=
  ∃ request, requests[i]? = some request ∧
    (debugger.asked (requests.take i)).Allocates request address size

variable {requests : List Request} {i j : Nat}

theorem asked_take_succ (debugger : Simulator) (present : requests[i]? = some request) :
    debugger.asked (requests.take (i + 1))
      = (dispatch backend request (debugger.asked (requests.take i))).2 := by
  rw [List.take_add_one, present, asked_append]
  rfl

theorem exists_asked_take (debugger : Simulator) (requests : List Request) (sooner : i ≤ j) :
    ∃ later, debugger.asked (requests.take j) = (debugger.asked (requests.take i)).asked later := by
  have front : (requests.take j).take i = requests.take i := by
    rw [List.take_take, Nat.min_eq_left sooner]
  refine ⟨(requests.take j).drop i, ?_⟩
  rw [← asked_append, ← front, List.take_append_drop]

/-- A run leaves a block and its surroundings as they are. -/
theorem exists_asked_of_owns {target : SimulatedTarget} (owns : target.Owns address size)
    (inside : address.toNat + size.toNat ≤ stackBase.toNat) (requests : List Request) :
    ∃ after, asked requests ⟨some target⟩ = ⟨some after⟩ ∧ after.Owns address size := by
  refine @exists_asked target (fun after => after.Owns address size) ?_ owns requests
  intro before after process process' request running running' step owns
  exact owns.step inside running running' step

/-- What is true of the heap throughout a run. -/
structure KeepsHeap (debugger : Simulator) (requests : List Request) : Prop where
  placed : ∀ i address size, debugger.AllocatesAt requests i address size →
    16 ∣ address.toNat ∧ heapBase ≤ address
  increasing : ∀ i j address size address' size', i < j →
    debugger.AllocatesAt requests i address size →
    debugger.AllocatesAt requests j address' size' → address < address'
  apart : ∀ i j address size address' size', i ≠ j →
    debugger.AllocatesAt requests i address size →
    debugger.AllocatesAt requests j address' size' →
    Apart address.toNat size.toNat address'.toNat size'.toNat
  beside : ∀ i address size, debugger.AllocatesAt requests i address size →
    ∀ k, Beside (debugger.asked (requests.take k)).regions address size
  /-- A block is read as zeros right after it has been allocated. -/
  zeroed : ∀ i address size, debugger.AllocatesAt requests i address size → size ≠ 0 →
    (dispatch backend (.readMemory address size) (debugger.asked (requests.take (i + 1)))).1
      = .memoryData (List.replicate size.toNat 0)
  distinct : ∀ k, ((debugger.asked (requests.take k)).regions.map (·.start)).Nodup
  /-- What could be read before an allocation is read after it. -/
  reads : ∀ i request, requests[i]? = some request → request.IsAllocation →
    ∀ address size data,
      (dispatch backend (.readMemory address size) (debugger.asked (requests.take i))).1
        = .memoryData data →
      (dispatch backend (.readMemory address size) (debugger.asked (requests.take (i + 1)))).1
        = .memoryData data

/-- A block of a run, with what is there before and after its allocation. -/
structure Block (debugger : Simulator) (requests : List Request) (i : Nat) (size : UInt64)
    (target : SimulatedTarget) (process : SimulatedProcess) (after : SimulatedTarget) : Prop where
  here : debugger.asked (requests.take i) = ⟨some target⟩
  running : target.process = some process
  orderly : target.Orderly
  allocated : target.Allocated process size after
  there : debugger.asked (requests.take (i + 1)) = ⟨some after⟩
  orderly' : after.Orderly
  within : after.heapNext ≤ stackBase

theorem heapNext_le_of_take {target after : SimulatedTarget} (orderly : target.Orderly)
    (sooner : i ≤ j) (here : debugger.asked (requests.take i) = ⟨some target⟩)
    (there : debugger.asked (requests.take j) = ⟨some after⟩) :
    target.heapNext ≤ after.heapNext := by
  obtain ⟨later, asked⟩ := exists_asked_take debugger requests sooner
  obtain ⟨after', asked', -, further⟩ := exists_asked_of_orderly orderly later
  rw [there, here, asked'] at asked
  cases asked
  exact further

section
variable (orderly : debugger.Orderly) (within : (debugger.asked requests).HeapWithin stackBase)
include orderly within

/-- The heap is within its bounds at every place of the run. -/
theorem within_of_take {after : SimulatedTarget}
    (there : debugger.asked (requests.take i) = ⟨some after⟩) : after.heapNext ≤ stackBase := by
  obtain ⟨later, asked⟩ : ∃ later,
      debugger.asked requests = (debugger.asked (requests.take i)).asked later :=
    ⟨requests.drop i, by rw [← asked_append, List.take_append_drop]⟩
  have orderly' : after.Orderly := orderly.asked _ after (congrArg Simulator.target there)
  obtain ⟨last, asked', -, further⟩ := exists_asked_of_orderly orderly' later
  rw [asked, there, asked'] at within
  exact UInt64.le_trans further (within last rfl)

theorem exists_block (allocates : debugger.AllocatesAt requests i address size) :
    ∃ target process after, target.heapNext = address ∧
      debugger.Block requests i size target process after := by
  obtain ⟨request, present, allocates⟩ := allocates
  obtain ⟨target, process, after, here, running, left, rfl, allocated⟩ :=
    exists_allocated (orderly.asked _) allocates
  have there := (asked_take_succ _ present).trans left
  exact ⟨target, process, after, rfl, {
    here, running, allocated, there
    orderly := orderly.asked _ target (congrArg Simulator.target here)
    orderly' := orderly.asked _ after (congrArg Simulator.target there)
    within := within_of_take orderly within there }⟩

end

namespace Block

variable {target after : SimulatedTarget} {process : SimulatedProcess}
  (block : debugger.Block requests i size target process after)
include block

theorem heapNext_lt : target.heapNext < after.heapNext := by
  rw [block.allocated.heap]
  exact SimulatedTarget.heapNext_lt_of_fits block.allocated.fits

theorem stop_le : target.heapNext.toNat + size.toNat ≤ after.heapNext.toNat := by
  rw [block.allocated.heap]
  exact SimulatedTarget.stop_le_heapAfter block.allocated.fits

theorem inside : target.heapNext.toNat + size.toNat ≤ stackBase.toNat :=
  Nat.le_trans block.stop_le (UInt64.le_iff_toNat_le.mp block.within)

/-- A block lies behind those that have been allocated before. -/
theorem heapNext_le_of_lt {target' after' : SimulatedTarget} {process' : SimulatedProcess}
    {size' : UInt64} (later : debugger.Block requests j size' target' process' after')
    (sooner : i < j) : after.heapNext ≤ target'.heapNext :=
  heapNext_le_of_take block.orderly' sooner block.there later.here

theorem apart {target' after' : SimulatedTarget} {process' : SimulatedProcess} {size' : UInt64}
    (other : debugger.Block requests j size' target' process' after') (different : i ≠ j) :
    Apart target.heapNext.toNat size.toNat target'.heapNext.toNat size'.toNat := by
  have stop := block.stop_le
  have stop' := other.stop_le
  intro place lower upper lower'
  rcases Nat.lt_or_gt_of_ne different with sooner | later
  · have := UInt64.le_iff_toNat_le.mp (block.heapNext_le_of_lt other sooner)
    omega
  · have := UInt64.le_iff_toNat_le.mp (other.heapNext_le_of_lt block later)
    omega

/-- At every place of the run, other regions keep apart from the block. -/
theorem beside (orderly : debugger.Orderly) (k : Nat) :
    Beside (debugger.asked (requests.take k)).regions target.heapNext size := by
  rcases Nat.lt_or_ge i k with later | sooner
  · have owns := block.allocated.owns block.orderly block.running block.inside
    obtain ⟨between, asked⟩ := exists_asked_take debugger requests later
    rw [asked, block.there]
    obtain ⟨last, asked', -, beside⟩ := exists_asked_of_owns owns block.inside between
    rw [asked']
    exact beside
  · intro region present
    cases here : debugger.asked (requests.take k) with
    | mk target' =>
      rw [here] at present
      cases target' with
      | none => cases present
      | some target' =>
        have orderly' := orderly.asked _ target' (congrArg Simulator.target here)
        exact Beside.of_arranged orderly'.arranged
          (heapNext_le_of_take orderly' sooner here block.here) block.inside region present

/-- Where the block is mapped there was nothing before. -/
theorem not_contains : ∀ region ∈ process.regions, ¬ region.contains target.heapNext = true := by
  have arranged := block.orderly.arranged
  rw [regions_eq (process?_of_process block.running)] at arranged
  exact fun region present =>
    arranged.not_contains (UInt64.lt_of_lt_of_le block.heapNext_lt block.within) present

theorem zeroed (nonempty : size ≠ 0) :
    (dispatch backend (.readMemory target.heapNext size)
        (debugger.asked (requests.take (i + 1)))).1
      = .memoryData (List.replicate size.toNat 0) := by
  have positive : 0 < (Extent.blank size.toNat).size := by
    rw [Extent.size_blank]
    exact Nat.pos_of_ne_zero fun zero => nonempty (UInt64.toNat_inj.mp zero)
  have mapped : (process.map ⟨target.heapNext, .blank size.toNat, true⟩).memory? target.heapNext
      size = some (Extent.blank size.toNat).toList :=
    SimulatedProcess.memory?_map_new
      (fun region present contains => absurd contains (block.not_contains region present))
      (Extent.size_blank _) positive
  rw [block.there, dispatch_readMemory (process?_of_process block.allocated.mapped), mapped,
    Extent.toList_blank]
  rfl

end Block

/-- What could be read before an allocation can be read after it. -/
theorem reads_of_isAllocation (orderly : debugger.Orderly)
    (within : (dispatch backend request debugger).2.HeapWithin stackBase)
    (allocation : request.IsAllocation) {data : List UInt8}
    (read : (dispatch backend (.readMemory address size) debugger).1 = .memoryData data) :
    (dispatch backend (.readMemory address size) (dispatch backend request debugger).2).1
      = .memoryData data := by
  obtain ⟨target, process, -, rfl, running, -, -⟩ := exists_process_of_answered read nofun
  obtain ⟨after, process', left, running', step⟩ := exists_step running request
  rw [left] at within ⊢
  rw [dispatch_readMemory (process?_of_process running)] at read
  rw [dispatch_readMemory (process?_of_process running')]
  suffices same : process'.memory? address size = process.memory? address size by
    rwa [same]
  have further := within after rfl
  have arranged := (orderly target rfl).arranged
  rw [regions_eq (process?_of_process running)] at arranged
  cases step with
  | still => rfl
  | stored => cases allocation
  | evaluated evaluates _ remaps =>
    generalize after.heapNext = next at remaps further
    cases remaps with
    | still => rfl
    | moved => rfl
    | filled other =>
      exact absurd (evaluates.isAllocation allocation)
        (SimulatedTarget.allocation?_eq_none_iff.mp other)
    | allocated _ fits =>
      have room := UInt64.lt_of_lt_of_le (SimulatedTarget.heapNext_lt_of_fits fits) further
      cases found : process.region? address with
      | none =>
        rw [SimulatedProcess.memory?, found] at read
        cases read
      | some region =>
        refine SimulatedProcess.memory?_map found (fun same => ?_) size
        have same : region.start = target.heapNext := same
        obtain ⟨front, later, here⟩ := SimulatedProcess.exists_found found
        refine arranged.not_contains room (List.mem_of_find?_eq_some found) ?_
        rw [← same]
        exact Region.contains_start (Region.nonempty_of_contains here.inside)

/-- Whatever a debugger has been set up with outside the heap, and whatever it is asked, as long as
the heap does not reach into the stack: every block is aligned, lies behind the earlier ones, keeps
apart from all other blocks and regions and is blank at first, no two regions begin at one place,
and no allocation disturbs a read. -/
theorem heap_kept {steps : List Setup} (spares : ∀ step ∈ steps, step.SparesHeap)
    {requests : List Request}
    (within : ((fresh.setUp steps).asked requests).HeapWithin stackBase) :
    (fresh.setUp steps).KeepsHeap requests := by
  have orderly := orderly_setUp spares
  refine ⟨?_, ?_, ?_, ?_, ?_, ?_, ?_⟩
  · intro i address size allocates
    obtain ⟨target, process, after, rfl, block⟩ := exists_block orderly within allocates
    exact ⟨block.orderly.aligned, block.orderly.above⟩
  · intro i j address size address' size' sooner allocates allocates'
    obtain ⟨target, process, after, rfl, block⟩ := exists_block orderly within allocates
    obtain ⟨target', process', after', rfl, block'⟩ := exists_block orderly within allocates'
    exact UInt64.lt_of_lt_of_le block.heapNext_lt (block.heapNext_le_of_lt block' sooner)
  · intro i j address size address' size' different allocates allocates'
    obtain ⟨target, process, after, rfl, block⟩ := exists_block orderly within allocates
    obtain ⟨target', process', after', rfl, block'⟩ := exists_block orderly within allocates'
    exact block.apart block' different
  · intro i address size allocates k
    obtain ⟨target, process, after, rfl, block⟩ := exists_block orderly within allocates
    exact block.beside orderly k
  · intro i address size allocates nonempty
    obtain ⟨target, process, after, rfl, block⟩ := exists_block orderly within allocates
    exact block.zeroed nonempty
  · intro k
    exact (orderly.asked _).distinct
  · intro i request present allocation address size data read
    have there := asked_take_succ (fresh.setUp steps) present
    rw [there]
    refine reads_of_isAllocation (orderly.asked _) ?_ allocation read
    rw [← there]
    exact fun after left => within_of_take orderly within (congrArg Simulator.mk left)

/-- A region right before the heap, an expression with a value, one that panics, and a function. -/
def bench : List Setup :=
  [.region (heapBase - 3) [1, 2, 3] true, .expression "x" (.ofUnsigned 7),
    .expressionPanic "broken()", .function 0x4100 (.aggregate fun _ => .ok [1, 2, 3])]

/-- Four allocations, one of them by an expression and one of the size zero, among other events. -/
def chores : List Request :=
  [.allocate 5, .evaluate "(void*)malloc(24)", .writeMemory heapBase [9, 9],
    .callFunction 0x4100 [] (some 8), .allocate 0, .evaluate "broken()", .allocate 16]

theorem heap_kept_bench :
    (fresh.setUp bench).KeepsHeap chores ∧
      (fresh.setUp bench).AllocatesAt chores 0 heapBase 5 ∧
      (fresh.setUp bench).AllocatesAt chores 1 (heapBase + 0x10) 24 ∧
      (fresh.setUp bench).AllocatesAt chores 4 (heapBase + 0x30) 0 ∧
      (fresh.setUp bench).AllocatesAt chores 6 (heapBase + 0x40) 16 := by
  have spares : ∀ step ∈ bench, step.SparesHeap := by
    unfold bench
    simp only [List.forall_mem_cons, List.not_mem_nil, false_imp_iff, implies_true, and_true]
    have stop : (heapBase - 3).toNat + [1, 2, 3].length = heapBase.toNat := by decide
    exact ⟨fun address lower _ _ => stop ▸ lower,
      SimulatedTarget.allocation?_eq_none_iff.mp rfl,
      SimulatedTarget.allocation?_eq_none_iff.mp rfl, trivial⟩
  exact ⟨heap_kept spares (by decide +kernel), ⟨_, rfl, .direct (by decide +kernel)⟩,
    ⟨_, rfl, .native (by decide +kernel) (by decide +kernel)⟩,
    ⟨_, rfl, .direct (by decide +kernel)⟩, ⟨_, rfl, .direct (by decide +kernel)⟩⟩

end Simulator
end DebugBridge
