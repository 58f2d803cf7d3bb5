import DebugBridge.Debugger.Simulator
import DebugBridge.Proofs.Debugger.Levels

/-!
# Memory is a store

Regions may overlap, be empty, lie at the end of all addresses or be read-only. An address is looked
up in the first region that contains it. A read has to fit into that region; a write is cut off at
its end. Ranges of addresses are ranges of natural numbers here: a region that begins near the last
address goes on behind it, and is read and written there as well.

What carries the argument is that a write keeps the start and the size of the region it goes to. So
every address is looked up in the same place as before, and only that region has to be looked into.

Results:
1. `Extent.slice?_overwrite_self`, `Extent.slice?_overwrite_apart`: octets that are overwritten.
2. `SimulatedProcess.writeMemory_of_writable`, `memory?_store_self`, `memory?_store_apart`: a write
   in the memory of a process, and the reads behind it.
3. `Simulator.dispatch_readMemory`, `Simulator.dispatch_writeMemory`: the answers to memory events.
4. `Simulator.memory_stores`: what a write does, what it leaves alone, and that what has been read
   can be written back.
-/

namespace DebugBridge

/-! ## Ranges of octets -/

/-- No address lies in both of two ranges, each given by its start and its size. -/
def Apart (start size start' size' : Nat) : Prop :=
  ∀ address, start ≤ address → address < start + size → start' ≤ address →
    start' + size' ≤ address

namespace Extent

variable {offset size : Nat} {octets : List UInt8} {extent : Extent}

theorem size_overwrite (inside : offset + octets.length ≤ extent.size) :
    (extent.overwrite offset octets).size = extent.size := by
  rw [← length_toList, toList_overwrite offset octets extent inside]
  simp only [List.length_append, List.length_take, List.length_drop, length_toList]
  omega

/-- What has been written is there. -/
theorem slice?_overwrite_self (inside : offset + octets.length ≤ extent.size) :
    (extent.overwrite offset octets).slice? offset octets.length = some octets := by
  rw [slice?_eq, size_overwrite inside, if_pos inside, toList_overwrite offset octets extent inside]
  have start : (extent.toList.take offset).length = offset :=
    List.length_take_of_le (by rw [length_toList]; omega)
  rw [List.append_assoc, List.drop_left' start, List.take_left]

/-- An octet that has not been written to is as it was. -/
theorem getElem?_toList_overwrite (inside : offset + octets.length ≤ extent.size) {i : Nat}
    (clear : i < offset ∨ offset + octets.length ≤ i) :
    (extent.overwrite offset octets).toList[i]? = extent.toList[i]? := by
  have start : (extent.toList.take offset).length = offset :=
    List.length_take_of_le (by rw [length_toList]; omega)
  rw [toList_overwrite offset octets extent inside]
  rcases clear with before | behind
  · rw [List.append_assoc, List.getElem?_append_left (by omega), List.getElem?_take_of_lt before]
  · have written : (extent.toList.take offset ++ octets).length = offset + octets.length := by
      rw [List.length_append, start]
    rw [List.getElem?_append_right (by omega), written, List.getElem?_drop,
      Nat.add_sub_of_le behind]

/-- A part that nothing has been written to is as it was. -/
theorem slice?_overwrite_apart (inside : offset + octets.length ≤ extent.size) {offset' : Nat}
    (apart : Apart offset octets.length offset' size) :
    (extent.overwrite offset octets).slice? offset' size = extent.slice? offset' size := by
  rw [slice?_eq, slice?_eq, size_overwrite inside]
  split
  · congr 1
    refine List.ext_getElem? fun i => ?_
    simp only [List.getElem?_take, List.getElem?_drop]
    split
    · next within =>
      have clear := apart (offset' + i)
      exact getElem?_toList_overwrite inside (by omega)
    · rfl
  · rfl

/-- All octets are a part. -/
theorem slice?_whole (extent : Extent) : extent.slice? 0 extent.size = some extent.toList := by
  rw [slice?_eq, Nat.zero_add, if_pos (Nat.le_refl _), List.drop_zero, ← length_toList,
    List.take_length]

theorem inside_of_slice? (found : extent.slice? offset size = some octets) :
    offset + size ≤ extent.size := by
  unfold slice? at found
  split at found
  · next inside => exact inside
  · cases found

theorem length_of_slice? (found : extent.slice? offset size = some octets) :
    octets.length = size := by
  have inside := inside_of_slice? found
  rw [slice?_eq, if_pos inside] at found
  cases found
  rw [List.length_take, List.length_drop, length_toList]
  omega

/-- Writing what is there already changes nothing. -/
theorem toList_overwrite_of_slice? (found : extent.slice? offset size = some octets) :
    (extent.overwrite offset octets).toList = extent.toList := by
  have length := length_of_slice? found
  have inside := inside_of_slice? found
  rw [toList_overwrite _ _ _ (by rwa [length]), length]
  rw [slice?_eq, if_pos inside] at found
  cases found
  rw [List.append_assoc, ← List.drop_drop, List.take_append_drop, List.take_append_drop]

end Extent

/-! ## Regions -/

namespace Region

variable {region : Region} {address : UInt64} {data : List UInt8}

/-- The address behind the last octet. A region can reach beyond the addresses that there are. -/
def stop (region : Region) : Nat :=
  region.start.toNat + region.content.size

theorem toNat_offset (inside : region.start.toNat ≤ address.toNat) :
    (address - region.start).toNat = address.toNat - region.start.toNat :=
  UInt64.toNat_sub_of_le _ _ (UInt64.le_iff_toNat_le.mpr inside)

theorem contains_iff : region.contains address = true ↔
    region.start.toNat ≤ address.toNat ∧ address.toNat < region.stop := by
  unfold contains stop
  rw [Bool.and_eq_true, decide_eq_true_iff, decide_eq_true_iff, UInt64.le_iff_toNat_le]
  refine and_congr_right fun inside => ?_
  rw [toNat_offset inside]
  omega

theorem contains_start (nonempty : 0 < region.content.size) :
    region.contains region.start = true :=
  contains_iff.mpr ⟨Nat.le_refl _, Nat.lt_add_of_pos_right nonempty⟩

theorem nonempty_of_contains (contains : region.contains address = true) :
    0 < region.content.size := by
  obtain ⟨lower, upper⟩ := contains_iff.mp contains
  unfold stop at upper
  omega

/-- How many octets there are from an address on. -/
def room (address : UInt64) (region : Region) : Nat :=
  region.stop - address.toNat

/-- All of a region but its octets. -/
def outline (region : Region) : UInt64 × Nat × Bool :=
  (region.start, region.content.size, region.writable)

/-- All that a reader can see of a region, and whether it can be written to. -/
def view (region : Region) : UInt64 × List UInt8 × Bool :=
  (region.start, region.content.toList, region.writable)

/-- The region with octets put at an address, as many as there is room for. -/
def store (address : UInt64) (data : List UInt8) (region : Region) : Region :=
  { region with
    content := region.content.overwrite (address - region.start).toNat
      (data.take (region.room address)) }

variable (inside : region.contains address = true)
include inside

theorem room_eq : region.room address = region.content.size - (address - region.start).toNat := by
  have ⟨lower, upper⟩ := contains_iff.mp inside
  rw [toNat_offset lower, room, stop]
  omega

theorem store_fits : (address - region.start).toNat + (data.take (region.room address)).length
    ≤ region.content.size := by
  have ⟨lower, upper⟩ := contains_iff.mp inside
  rw [toNat_offset lower, List.length_take, room]
  unfold stop at *
  omega

theorem size_store : (region.store address data).content.size = region.content.size :=
  Extent.size_overwrite (store_fits inside)

theorem contains_store (other : UInt64) :
    (region.store address data).contains other = region.contains other := by
  unfold contains
  rw [size_store inside]
  rfl

/-- What has been stored can be taken out again. -/
theorem slice?_store_self :
    (region.store address data).content.slice? (address - region.start).toNat
        (data.take (region.room address)).length
      = some (data.take (region.room address)) :=
  Extent.slice?_overwrite_self (store_fits inside)

/-- What lies apart from it stays as it is. -/
theorem slice?_store_apart {other : UInt64} (inside' : region.contains other = true) {size : Nat}
    (apart : Apart address.toNat (data.take (region.room address)).length other.toNat size) :
    (region.store address data).content.slice? (other - region.start).toNat size
      = region.content.slice? (other - region.start).toNat size := by
  refine Extent.slice?_overwrite_apart (store_fits inside) fun place => ?_
  have lower := (contains_iff.mp inside).1
  have lower' := (contains_iff.mp inside').1
  have clear := apart (region.start.toNat + place)
  rw [toNat_offset lower, toNat_offset lower']
  omega

end Region

/-! ## Memory of a process -/

namespace SimulatedProcess

variable {process : SimulatedProcess} {address : UInt64} {region : Region}

theorem updateRegion_append {front : List Region} (change : Region → Region)
    (before : ∀ region ∈ front, region.contains address = false)
    (inside : region.contains address = true) (later : List Region) :
    updateRegion address change (front ++ region :: later) = front ++ change region :: later := by
  induction front with
  | nil => exact if_pos inside
  | cons first front ih =>
    obtain ⟨outside, before⟩ := List.forall_mem_cons.mp before
    rw [List.cons_append, updateRegion, if_neg (by simp [outside]), ih before, List.cons_append]

/-- The region that an address is looked up in: the first that contains it. -/
structure Found (process : SimulatedProcess) (address : UInt64) (front : List Region)
    (region : Region) (later : List Region) : Prop where
  regions : process.regions = front ++ region :: later
  before : ∀ region ∈ front, region.contains address = false
  inside : region.contains address = true

theorem exists_found (found : process.region? address = some region) :
    ∃ front later, process.Found address front region later := by
  obtain ⟨inside, front, later, regions, before⟩ := List.find?_eq_some_iff_append.mp found
  exact ⟨front, later, regions, fun region present => by simpa using before region present, inside⟩

section
variable {front later : List Region} (found : process.Found address front region later)
include found

theorem Found.region? : process.region? address = some region :=
  List.find?_eq_some_iff_append.mpr ⟨found.inside, front, later, found.regions,
    fun region present => by simpa using found.before region present⟩

/-- The region with something stored is found in the place of the old one. -/
theorem Found.store (data : List UInt8) :
    { process with regions := front ++ region.store address data :: later }.Found address front
      (region.store address data) later :=
  ⟨rfl, found.before, (Region.contains_store found.inside address).trans found.inside⟩

variable {data : List UInt8} {size : UInt64}

/-- A write that has a region to go to. -/
theorem writeMemory_of_writable (writable : region.writable = true) (data : List UInt8) :
    process.writeMemory address data
      = (.ok (data.take (region.room address)).length,
        { process with regions := front ++ region.store address data :: later }) := by
  unfold writeMemory
  simp only [found.region?, writable, if_true]
  rw [← Region.room_eq found.inside, found.regions,
    updateRegion_append _ found.before found.inside]
  rfl

/-- What has been stored is read. -/
theorem memory?_store_self (whole : size.toNat = (data.take (region.room address)).length) :
    { process with regions := front ++ region.store address data :: later }.memory? address size
      = some (data.take (region.room address)) := by
  unfold memory?
  rw [(found.store data).region?, whole]
  exact Region.slice?_store_self found.inside

/-- What lies apart from it is read as before. -/
theorem memory?_store_apart {other : UInt64}
    (apart : Apart address.toNat (data.take (region.room address)).length other.toNat
      size.toNat) :
    { process with regions := front ++ region.store address data :: later }.memory? other size
      = process.memory? other size := by
  unfold memory? region?
  rw [found.regions, List.find?_append, List.find?_append, List.find?_cons, List.find?_cons,
    Region.contains_store found.inside]
  cases front.find? (·.contains other) with
  | some earlier => rfl
  | none =>
    cases inside : region.contains other with
    | false => rfl
    | true => exact Region.slice?_store_apart found.inside inside apart

/-- A region is not moved, resized or given other permissions when something is stored. -/
theorem Found.outlines_store (data : List UInt8) :
    (front ++ region.store address data :: later).map Region.outline
      = process.regions.map Region.outline := by
  have same : (region.store address data).outline = region.outline := by
    rw [Region.outline, Region.size_store found.inside]
    rfl
  rw [found.regions, List.map_append, List.map_append, List.map_cons, List.map_cons, same]

end

/-- Which region an address is looked up in can be told from the outlines of the regions. -/
theorem outline_region? (process : SimulatedProcess) (address : UInt64) :
    (process.region? address).map Region.outline
      = (process.regions.map Region.outline).find? fun (start, size, _) =>
          start ≤ address && (address - start).toNat < size := by
  rw [List.find?_map]
  rfl

/-- A read sees nothing of memory but what can be seen. -/
theorem memory?_eq_view (process : SimulatedProcess) (address size : UInt64) :
    process.memory? address size
      = ((process.regions.map Region.view).find? fun (start, octets, _) =>
          start ≤ address && (address - start).toNat < octets.length).bind fun (start, octets, _) =>
        let offset := (address - start).toNat
        if offset + size.toNat ≤ octets.length then some ((octets.drop offset).take size.toNat)
        else none := by
  unfold memory? region? Region.contains
  rw [List.find?_map]
  simp only [Function.comp_def, Region.view, Extent.length_toList, Extent.slice?_eq,
    Option.bind_map]
  rfl

theorem memory?_of_view {other : SimulatedProcess}
    (same : other.regions.map Region.view = process.regions.map Region.view)
    (address size : UInt64) : other.memory? address size = process.memory? address size := by
  rw [memory?_eq_view, memory?_eq_view, same]

end SimulatedProcess

/-! ## Memory events -/

namespace Simulator

variable {debugger : Simulator} {process : SimulatedProcess} {address size : UInt64}
  {data : List UInt8}

/-- The debugger with another process in place of its own. -/
def withProcess (process : SimulatedProcess) : Simulator → Simulator :=
  updateProcess fun _ => process

/-- The answer to a read at an address, by the octets that are mapped there. -/
def readAnswer (address : UInt64) (mapped : Option (List UInt8)) : Response :=
  mapped.elim (.error ("Memory read failed: memory read failed for "
    ++ String.ofList (Numeral.address address))) .memoryData

/-- The answer to a write of a number of octets, by what comes of it. -/
def writeAnswer (size : Nat) : Except String Nat → Response
  | .ok count =>
    if count = size then .memoryWritten else .error (EventFault.partialWrite count size).message
  | .error message => .error (EventFault.memoryWrite message).message

section
variable (running : debugger.process? = some process)
include running

theorem exists_target :
    ∃ target : SimulatedTarget, debugger = ⟨some { target with process := some process }⟩ := by
  obtain ⟨target⟩ := debugger
  cases target with
  | none => cases running
  | some target =>
    have held : target.process = some process := running
    exact ⟨target, by rw [← held]⟩

theorem backend_running : backend.Running debugger debugger := by
  obtain ⟨target, rfl⟩ := exists_target running
  exact ⟨_, rfl, rfl⟩

@[simp]
theorem process?_withProcess (other : SimulatedProcess) :
    (debugger.withProcess other).process? = some other := by
  obtain ⟨target, rfl⟩ := exists_target running
  rfl

@[simp]
theorem withProcess_self : debugger.withProcess process = debugger := by
  obtain ⟨target, rfl⟩ := exists_target running
  rfl

/-- A read is answered by what is mapped there. -/
theorem dispatch_readMemory (address size : UInt64) :
    dispatch backend (.readMemory address size) debugger
      = (readAnswer address (process.memory? address size), debugger) := by
  have shown : backend.readMemory address size debugger
      = (.ok (process.readMemory address size), debugger) := by
    obtain ⟨target, rfl⟩ := exists_target running
    rfl
  have attended := (attend_of_running (backend_running running) (.readMemory address size)).trans
    (Handling.bind_of_ok (Handling.access_of_ok shown) _)
  unfold SimulatedProcess.readMemory at attended
  cases found : process.memory? address size with
  | some data =>
    rw [found] at attended
    exact dispatch_of_ok attended
  | none =>
    rw [found] at attended
    exact dispatch_of_error attended

/-- A write is answered by how much of it has been stored. -/
theorem dispatch_writeMemory {result : Except String Nat} {after : SimulatedProcess}
    (written : process.writeMemory address data = (result, after)) :
    dispatch backend (.writeMemory address data) debugger
      = (writeAnswer data.length result, debugger.withProcess after) := by
  have shown : backend.writeMemory address data debugger
      = (.ok result, debugger.withProcess after) := by
    obtain ⟨target, rfl⟩ := exists_target running
    show (Except.ok (process.writeMemory address data).1,
      withProcess (process.writeMemory address data).2 _) = _
    rw [written]
  have attended := (attend_of_running (backend_running running) (.writeMemory address data)).trans
    (Handling.bind_of_ok (Handling.access_of_ok shown) _)
  cases result with
  | error message => exact dispatch_of_error attended
  | ok count =>
    have counted := attended.trans (Handling.bind_of_ok (a := count) rfl _)
    by_cases whole : count = data.length
    · rw [if_neg fun different => different whole] at counted
      rw [writeAnswer, if_pos whole]
      exact dispatch_of_ok counted
    · rw [if_pos whole] at counted
      rw [writeAnswer, if_neg whole]
      exact dispatch_of_error counted

end

/-! ## The store -/

/-- The mapped regions, in their order. -/
def regions (debugger : Simulator) : List Region :=
  match debugger.process? with
  | some process => process.regions
  | none => []

/-- The region that an address is looked up in. -/
def region? (address : UInt64) (debugger : Simulator) : Option Region :=
  debugger.regions.find? (·.contains address)

/-- Octets are read at an address, and reading them changes nothing. -/
def Holds (address : UInt64) (octets : List UInt8) (debugger : Simulator) : Prop :=
  ∀ size : UInt64, size.toNat = octets.length →
    dispatch backend (.readMemory address size) debugger = (.memoryData octets, debugger)

/-- The ways in which a write comes out: the answer, how many octets have been stored, and the
debugger afterwards. -/
inductive Written (debugger : Simulator) (address : UInt64) (data : List UInt8) :
    Response → Nat → Simulator → Prop
  | whole {region : Region} {after : Simulator} :
      debugger.region? address = some region → region.writable = true →
      address.toNat + data.length ≤ region.stop → Holds address data after →
      Written debugger address data .memoryWritten data.length after
  /-- The region ends behind what has been stored. -/
  | part {region : Region} {count : Nat} {after : Simulator} :
      debugger.region? address = some region → region.writable = true →
      region.stop = address.toNat + count → count < data.length →
      Holds address (data.take count) after →
      Written debugger address data (.error ("Memory write failed: wrote " ++ toString count
        ++ " of " ++ toString data.length ++ " bytes")) count after
  | unmapped :
      debugger.region? address = none →
      Written debugger address data (.error ("Memory write failed: memory write failed for "
        ++ String.ofList (Numeral.address address))) 0 debugger
  | readOnly {region : Region} :
      debugger.region? address = some region → region.writable = false →
      Written debugger address data (.error ("Memory write failed: memory at "
        ++ String.ofList (Numeral.address address) ++ " is not writable")) 0 debugger

/-- What a write leaves alone when a number of octets have been stored at an address. -/
structure Undisturbed (before after : Simulator) (address : UInt64) (count : Nat) : Prop where
  reads : ∀ other size : UInt64, Apart address.toNat count other.toNat size.toNat →
    (dispatch backend (.readMemory other size) after).1
      = (dispatch backend (.readMemory other size) before).1
  outlines : after.regions.map Region.outline = before.regions.map Region.outline
  readOnly : ∀ (index : Nat) (region : Region), before.regions[index]? = some region →
    region.writable = false → after.regions[index]? = some region

theorem undisturbed_self (debugger : Simulator) (address : UInt64) :
    Undisturbed debugger debugger address 0 :=
  ⟨fun _ _ _ => rfl, rfl, fun _ _ present _ => present⟩

section
variable (running : debugger.process? = some process)
include running

theorem regions_eq : debugger.regions = process.regions := by
  rw [regions, running]

theorem region?_eq (address : UInt64) : debugger.region? address = process.region? address := by
  rw [region?, regions_eq running]
  rfl

theorem holds_of_memory? {octets : List UInt8}
    (mapped : ∀ size : UInt64, size.toNat = octets.length →
      process.memory? address size = some octets) : Holds address octets debugger := by
  intro size whole
  rw [dispatch_readMemory running, mapped size whole]
  rfl

/-- Without a region that can be written to, nothing is. -/
theorem refused_of_error {message : String}
    (refused : process.writeMemory address data = (.error message, process)) :
    dispatch backend (.writeMemory address data) debugger
      = (.error ("Memory write failed: " ++ message), debugger) := by
  have dispatched := dispatch_writeMemory running refused
  rwa [withProcess_self running] at dispatched

theorem written_unmapped (missing : process.region? address = none) (data : List UInt8) :
    ∃ response, dispatch backend (.writeMemory address data) debugger = (response, debugger) ∧
      Written debugger address data response 0 debugger := by
  have refused : process.writeMemory address data
      = (.error ("memory write failed for " ++ String.ofList (Numeral.address address)),
        process) := by
    unfold SimulatedProcess.writeMemory
    rw [missing]
  exact ⟨_, refused_of_error running refused,
    .unmapped ((region?_eq running address).trans missing)⟩

theorem written_readOnly {region : Region} (found : process.region? address = some region)
    (readOnly : region.writable = false) (data : List UInt8) :
    ∃ response, dispatch backend (.writeMemory address data) debugger = (response, debugger) ∧
      Written debugger address data response 0 debugger := by
  have refused : process.writeMemory address data
      = (.error ("memory at " ++ String.ofList (Numeral.address address) ++ " is not writable"),
        process) := by
    unfold SimulatedProcess.writeMemory
    simp only [found, readOnly, Bool.false_eq_true, if_false]
  have dispatched := refused_of_error running refused
  rw [← String.append_assoc, ← String.append_assoc] at dispatched
  exact ⟨_, dispatched, .readOnly ((region?_eq running address).trans found) readOnly⟩

section
variable {front later : List Region} {region : Region}
  (found : process.Found address front region later) (writable : region.writable = true)
include found writable

/-- As much is stored as the region has room for. -/
theorem written_stored (data : List UInt8) :
    ∃ response, dispatch backend (.writeMemory address data) debugger
        = (response, debugger.withProcess
            { process with regions := front ++ region.store address data :: later }) ∧
      Written debugger address data response (data.take (region.room address)).length
        (debugger.withProcess
          { process with regions := front ++ region.store address data :: later }) := by
  have dispatched := dispatch_writeMemory running
    (SimulatedProcess.writeMemory_of_writable found writable data)
  have here : debugger.region? address = some region :=
    (region?_eq running address).trans found.region?
  have ⟨lower, upper⟩ := Region.contains_iff.mp found.inside
  have holds : Holds address (data.take (region.room address)) (debugger.withProcess
      { process with regions := front ++ region.store address data :: later }) :=
    holds_of_memory? (process?_withProcess running _) fun size whole =>
      SimulatedProcess.memory?_store_self found whole
  rcases Nat.lt_or_ge (region.room address) data.length with short | fits
  · have count : (data.take (region.room address)).length = region.room address :=
      List.length_take_of_le (Nat.le_of_lt short)
    rw [count, writeAnswer, if_neg (Nat.ne_of_lt short)] at dispatched
    rw [count]
    refine ⟨_, dispatched, .part here writable ?_ short holds⟩
    rw [Region.room]
    omega
  · rw [List.take_of_length_le fits] at dispatched holds ⊢
    rw [writeAnswer, if_pos rfl] at dispatched
    refine ⟨_, dispatched, .whole here writable ?_ holds⟩
    rw [Region.room] at fits
    omega

theorem undisturbed_stored (data : List UInt8) :
    Undisturbed debugger (debugger.withProcess
        { process with regions := front ++ region.store address data :: later })
      address (data.take (region.room address)).length where
  reads other size apart := by
    rw [dispatch_readMemory (process?_withProcess running _), dispatch_readMemory running,
      SimulatedProcess.memory?_store_apart found apart]
  outlines := by
    rw [regions_eq (process?_withProcess running _), regions_eq running]
    exact found.outlines_store data
  readOnly index other present readOnly := by
    rw [regions_eq (process?_withProcess running _)]
    rw [regions_eq running, found.regions] at present
    -- The region at the index of the one that has been written to can be written to.
    have elsewhere : index ≠ front.length := by
      rintro rfl
      rw [List.getElem?_append_right (Nat.le_refl _), Nat.sub_self] at present
      cases present
      rw [writable] at readOnly
      cases readOnly
    rw [← present]
    rcases Nat.lt_or_ge index front.length with before | behind
    · rw [List.getElem?_append_left before, List.getElem?_append_left before]
    · rw [List.getElem?_append_right behind, List.getElem?_append_right behind]
      obtain ⟨further, eq⟩ := Nat.exists_eq_add_one_of_ne_zero (Nat.sub_ne_zero_of_lt
        (Nat.lt_of_le_of_ne behind (Ne.symm elsewhere)))
      rw [eq]
      rfl

/-- Writing what has been read changes nothing that can be seen. -/
theorem rewritten_unseen {octets : List UInt8}
    (mapped : process.memory? address size = some octets) :
    ∃ other, dispatch backend (.writeMemory address octets) debugger
        = (.memoryWritten, debugger.withProcess other) ∧
      other.regions.map Region.view = process.regions.map Region.view := by
  have slice : region.content.slice? (address - region.start).toNat size.toNat = some octets := by
    unfold SimulatedProcess.memory? at mapped
    rw [found.region?] at mapped
    exact mapped
  have length := Extent.length_of_slice? slice
  have fits : octets.length ≤ region.room address := by
    have inside := Extent.inside_of_slice? slice
    rw [Region.room_eq found.inside]
    omega
  have dispatched := dispatch_writeMemory running
    (SimulatedProcess.writeMemory_of_writable found writable octets)
  rw [List.take_of_length_le fits, writeAnswer, if_pos rfl] at dispatched
  have same : (region.store address octets).view = region.view := by
    simp only [Region.view, Region.store, List.take_of_length_le fits,
      Extent.toList_overwrite_of_slice? slice]
  refine ⟨_, dispatched, ?_⟩
  rw [found.regions, List.map_append, List.map_append, List.map_cons, List.map_cons, same]

end
end

/-- A write stores as much as there is room for in the region that the address is looked up in, if
that can be written to, and the answer says how much that was. What has been stored is read back;
everything apart from it is read as before, and no region is moved, resized or given other
permissions. What has been read from a region that can be written to can be written back, and then
all of memory is as it was. -/
theorem memory_stores (running : debugger.process? = some process) (address : UInt64) :
    (∀ data, ∃ response count after,
        dispatch backend (.writeMemory address data) debugger = (response, after) ∧
        Written debugger address data response count after ∧
        Undisturbed debugger after address count) ∧
      ∀ size octets region, (dispatch backend (.readMemory address size) debugger).1
          = .memoryData octets → debugger.region? address = some region → region.writable = true →
        ∃ after, dispatch backend (.writeMemory address octets) debugger = (.memoryWritten, after) ∧
          after.regions.map Region.view = debugger.regions.map Region.view ∧
          ∀ other size, (dispatch backend (.readMemory other size) after).1
            = (dispatch backend (.readMemory other size) debugger).1 := by
  constructor
  · intro data
    cases here : process.region? address with
    | none =>
      obtain ⟨response, dispatched, written⟩ := written_unmapped running here data
      exact ⟨_, _, _, dispatched, written, undisturbed_self debugger address⟩
    | some region =>
      cases writable : region.writable with
      | false =>
        obtain ⟨response, dispatched, written⟩ := written_readOnly running here writable data
        exact ⟨_, _, _, dispatched, written, undisturbed_self debugger address⟩
      | true =>
        obtain ⟨front, later, found⟩ := SimulatedProcess.exists_found here
        obtain ⟨response, dispatched, written⟩ := written_stored running found writable data
        exact ⟨_, _, _, dispatched, written, undisturbed_stored running found writable data⟩
  · intro size octets region read here writable
    rw [dispatch_readMemory running] at read
    rw [region?_eq running] at here
    obtain ⟨front, later, found⟩ := SimulatedProcess.exists_found here
    cases mapped : process.memory? address size with
    | none =>
      rw [mapped] at read
      cases read
    | some octets' =>
      rw [mapped] at read
      cases read
      obtain ⟨after, dispatched, same⟩ := rewritten_unseen running found writable mapped
      have running' := process?_withProcess running after
      refine ⟨_, dispatched, ?_, fun other size => ?_⟩
      · rw [regions_eq running', regions_eq running, same]
      · rw [dispatch_readMemory running', dispatch_readMemory running,
          SimulatedProcess.memory?_of_view same]

/-- Two regions of which the later one begins inside the first, at the end of all addresses. The
later one is read-only, but where the first reaches, it is the first that counts. -/
def overlapping : Simulator :=
  Simulator.fresh.setUp
    [.region 0xFFFFFFFFFFFFFFF0 [1, 2, 3, 4, 5, 6, 7, 8] true,
      .region 0xFFFFFFFFFFFFFFF4 [9, 9, 9, 9, 9, 9] false]

theorem memory_stores_overlapping :
    ∃ process after, overlapping.process? = some process ∧
      dispatch backend (.writeMemory 0xFFFFFFFFFFFFFFF6 [70, 80, 90]) overlapping
        = (.error "Memory write failed: wrote 2 of 3 bytes", after) ∧
      dispatch backend (.readMemory 0xFFFFFFFFFFFFFFF6 2) after = (.memoryData [70, 80], after) ∧
      (dispatch backend (.readMemory 0xFFFFFFFFFFFFFFF0 6) after).1
        = .memoryData [1, 2, 3, 4, 5, 6] ∧
      (dispatch backend (.readMemory 0xFFFFFFFFFFFFFFF8 2) after).1 = .memoryData [9, 9] := by
  obtain ⟨process, running⟩ : ∃ process, overlapping.process? = some process := ⟨_, rfl⟩
  have here : overlapping.region? 0xFFFFFFFFFFFFFFF6
      = some ⟨0xFFFFFFFFFFFFFFF0, .ofList [1, 2, 3, 4, 5, 6, 7, 8], true⟩ := by decide +kernel
  obtain ⟨response, count, after, dispatched, written, undisturbed⟩ :=
    (memory_stores running 0xFFFFFFFFFFFFFFF6).1 [70, 80, 90]
  refine ⟨process, after, running, ?_⟩
  cases written with
  | whole found _ fits =>
    cases here.symm.trans found
    exact absurd fits (by decide)
  | unmapped missing => cases here.symm.trans missing
  | readOnly found readOnly =>
    cases here.symm.trans found
    cases readOnly
  | part found _ ends _ holds =>
    cases here.symm.trans found
    have two : count = 2 := Nat.add_left_cancel ends.symm
    subst two
    refine ⟨dispatched, holds 2 rfl, ?_, ?_⟩
    · rw [undisturbed.reads _ _ fun place => by simp; omega]
      decide +kernel
    · rw [undisturbed.reads _ _ fun place => by simp; omega]
      decide +kernel

end Simulator
end DebugBridge
