import DebugBridge.Proofs.Server.Work
import DebugBridge.Proofs.Wire.RoundTrip
import DebugBridge.Server.Probe

/-!
# What the probe engine asks and reports

Results:
1. `reportable_result`: a result with such entries as the engine makes can be sent.
2. `bounded_handle`: a command puts at most two requests, and its result can be sent.
-/

namespace DebugBridge.Probe

/-! ## Results -/

/-- Of a result that is sent as a completion: it is one that a program can hold, and it is read back
as it was. -/
structure Reportable (value : Json) : Prop where
  kept : value.isKept = true
  whole : value.isWhole = true
  shallow : value.depth ≤ 2

/-- What may stand in a result. -/
structure Entry (value : Json) : Prop where
  proper : value.isProper = true
  whole : value.isWhole = true
  flat : value.depth ≤ 1

theorem entry_string (s : String) : Entry (.string s) := ⟨rfl, rfl, Nat.zero_le 1⟩

theorem entry_natural (n : UInt64) : Entry (.natural n) := ⟨rfl, rfl, Nat.zero_le 1⟩

theorem entry_octets (data : List UInt8) : Entry (.octets data) :=
  ⟨Message.isLax_isProper.every_octets data, Message.isLax_isWhole.every_octets data,
    Message.depth_map_le (fun _ => Nat.le_refl 0) data⟩

theorem entry_optional (text : Option String) : Entry (.optional .string text) := by
  cases text with
  | none => exact ⟨rfl, rfl, Nat.zero_le 1⟩
  | some s => exact entry_string s

theorem reportable_result {members : List (String × Json)}
    (entries : ∀ member, member ∈ members → Entry member.2) : Reportable (result members) := by
  have proper := Message.isLax_isProper.every_object fun member h => (entries member h).proper
  have whole := Message.isLax_isWhole.every_object fun member h => (entries member h).whole
  have depth : (Json.object members).depth ≤ 2 :=
    Nat.succ_le_succ (Json.depthOfMembers_le_iff.mpr fun member h => (entries member h).flat)
  refine ⟨?_, Json.every_canonical (fun _ => rfl) (fun _ => rfl) whole,
    Nat.le_trans (Json.depth_canonical_le _) depth⟩
  have proper' : (result members).isProper = true :=
    Json.every_canonical (fun _ => rfl) (fun _ => rfl) proper
  rw [Json.isKept, proper', result, Json.isSorted_canonical, Bool.and_self]

theorem reportable_returned (value : Returned) : Reportable (returned value) := by
  cases value with
  | register value => exact reportable_result (by simp [entry_natural])
  | octets data => exact reportable_result (by simp [entry_octets])

/-! ## Commands -/

theorem bounded_carryOut (probe : Probe) (query : Query) :
    Task.Bounded Reportable 2 (probe.carryOut query) := by
  have asked : ∀ {α : Type} {request : Request} {extract : Response → Option α}
      {next : α → Task Json}, (∀ a, Task.Bounded Reportable 1 (next a)) →
      Task.Bounded Reportable 2 (Task.ask request extract >>= next) :=
    fun then' => Task.bounded_bind (Task.bounded_ask _ _) fun a _ => then' a
  have reported : ∀ {members : List (String × Json)},
      (∀ member, member ∈ members → Entry member.2) →
      Task.Bounded Reportable 1 (pure (result members)) :=
    fun entries => Task.bounded_pure (reportable_result entries) 1
  -- Only a call can lead to a second request, for the memory where the function has left its value.
  cases query with
  | register name => exact asked fun value => reported (by simp [entry_string, entry_natural])
  | memory address size =>
    exact asked fun data => reported (by simp [entry_natural, entry_octets])
  | frame => exact asked fun place => reported (by simp [entry_natural])
  | thread => exact asked fun thread => reported (by simp [entry_natural, entry_optional])
  | base => exact asked fun address => reported (by simp [entry_string, entry_natural])
  | typeOf name => exact asked fun typeName => reported (by simp [entry_string, entry_optional])
  | allocate size => exact asked fun address => reported (by simp [entry_natural])
  | native expression => exact asked fun value => reported (by simp [entry_string])
  | function address arguments returnSize =>
    exact Task.bounded_bind (Task.bounded_callFunction _ _ _) fun value _ =>
      Task.bounded_pure (reportable_returned value) 0
  | method address receiver arguments returnSize =>
    exact Task.bounded_bind (Task.bounded_callMethod _ _ _ _) fun value _ =>
      Task.bounded_pure (reportable_returned value) 0

theorem bounded_evaluate (probe : Probe) (command : Command) :
    Task.Bounded Reportable 2 (probe.evaluate command) := by
  unfold evaluate
  split
  · exact Task.bounded_throw _ _ 2
  split
  · exact Task.bounded_throw _ _ 2
  · exact bounded_carryOut probe _

/-- A command puts at most two requests, and what it reports can be sent. -/
theorem bounded_handle (probe : Probe) (command : Command) :
    Task.Bounded Reportable 2 (probe.handle command) := by
  unfold handle
  split
  · exact bounded_evaluate probe command
  · exact bounded_evaluate probe command
  · exact Task.bounded_pure ⟨rfl, rfl, by decide⟩ 2
  · exact Task.bounded_throw _ _ 2
  · exact Task.bounded_throw _ _ 2

end DebugBridge.Probe
