import DebugBridge.Proofs.Debugger.Answers

/-!
# What is missing makes an error, and nothing else does

A debugger is looked at level by level: its target, its process, the selected thread, the frame
selected in it. Each access finds the state that the one before it has left, so what an event sees
of a level is said together with the states in between. No access is supposed to panic; what it says
is left open.

* `Backend.Running`: there are a target and a process.
* `Backend.Selects`: the thread and the frame that are selected.
* `Backend.RefusesOnly`: the events that read a level are answered by an error when the level or
  what is looked for in it is missing, and only then.

Result: `refusesOnly_of_running`.
-/

namespace DebugBridge

namespace Handling

variable {σ α β : Type} {before after : σ}

theorem access_of_ok {a : Access σ α} {value : α} (shown : a before = (.ok value, after)) :
    access a before = (.ok value, after) := by
  unfold access
  rw [shown]

theorem bind_of_ok {handling : Handling σ α} {a : α} (done : handling before = (.ok a, after))
    (next : α → Handling σ β) : (handling >>= next) before = next a after := by
  rw [bind_apply, done]

theorem bind_of_error {handling : Handling σ α} {fault : EventFault}
    (failed : handling before = (.error fault, after)) (next : α → Handling σ β) :
    (handling >>= next) before = (.error fault, after) := by
  rw [bind_apply, failed]

theorem expect_apply (fault : EventFault) (value : Option α) (state : σ) :
    expect fault value state
      = match value with
        | some a => (.ok a, state)
        | none => (.error fault, state) := by
  cases value <;> rfl

end Handling

open Handling

/-- An answer that reports a failure. -/
def Response.IsError (response : Response) : Prop :=
  ∃ message, response = .error message

variable {σ : Type} {backend : Backend σ} {before between after : σ}

/-! ## Target and process -/

/-- The debugger has a target and a process. `after` is its state once that is known. -/
def Backend.Running (backend : Backend σ) (before after : σ) : Prop :=
  ∃ between, backend.hasTarget before = (.ok true, between) ∧
    backend.hasProcess between = (.ok true, after)

theorem attend_of_running (running : backend.Running before after) (request : Request) :
    attend backend request before = handle backend request after := by
  obtain ⟨between, target, process⟩ := running
  unfold attend
  rw [bind_of_ok (access_of_ok target)]
  exact bind_of_ok (access_of_ok process) _

/-- Without a target no event is looked at. -/
theorem attend_of_noTarget (missing : backend.hasTarget before = (.ok false, after))
    (request : Request) : attend backend request before = (.error .noTarget, after) := by
  unfold attend
  rw [bind_of_ok (access_of_ok missing)]
  rfl

/-- Nor is it without a process. -/
theorem attend_of_noProcess (target : backend.hasTarget before = (.ok true, between))
    (missing : backend.hasProcess between = (.ok false, after)) (request : Request) :
    attend backend request before = (.error .noProcess, after) := by
  unfold attend
  rw [bind_of_ok (access_of_ok target)]
  show (access backend.hasProcess >>= _) between = _
  rw [bind_of_ok (access_of_ok missing)]
  rfl

theorem dispatch_of_ok {request : Request} {response : Response}
    (attended : attend backend request before = (.ok response, after)) :
    dispatch backend request before = (response, after) := by
  unfold dispatch
  rw [attended]

theorem dispatch_of_error {request : Request} {fault : EventFault}
    (attended : attend backend request before = (.error fault, after)) :
    dispatch backend request before = (.error fault.message, after) := by
  unfold dispatch
  rw [attended]

/-! ## Thread and frame -/

/-- The thread and the frame that are selected, as an event sees them. The frame is looked at only
when there is a thread. -/
inductive Backend.Selects (backend : Backend σ) :
    σ → Option Thread → Option Frame → σ → Prop
  | noThread {before after : σ} :
      backend.thread before = (.ok none, after) → Selects backend before none none after
  | thread {before between after : σ} {thread : Thread} {frame : Option Frame} :
      backend.thread before = (.ok (some thread), between) →
      backend.frame between = (.ok frame, after) →
      Selects backend before (some thread) frame after

theorem selectedFrame_of_frame {thread : Option Thread} {frame : Frame}
    (selects : backend.Selects before thread (some frame) after) :
    selectedFrame backend before = (.ok (.ok frame), after) := by
  cases selects with
  | thread sees shows =>
    unfold selectedFrame
    rw [bind_of_ok (access_of_ok sees)]
    exact bind_of_ok (access_of_ok shows) _

/-- Without a frame it is known which level is missing. -/
theorem selectedFrame_of_none {thread : Option Thread}
    (selects : backend.Selects before thread none after) :
    ∃ fault, selectedFrame backend before = (.ok (.error fault), after) := by
  cases selects with
  | noThread sees =>
    refine ⟨.noThread, ?_⟩
    unfold selectedFrame
    rw [bind_of_ok (access_of_ok sees)]
    rfl
  | thread sees shows =>
    refine ⟨.noFrame, ?_⟩
    unfold selectedFrame
    rw [bind_of_ok (access_of_ok sees)]
    exact bind_of_ok (access_of_ok shows) _

theorem needFrame_of_frame {thread : Option Thread} {frame : Frame}
    (selects : backend.Selects before thread (some frame) after) :
    needFrame backend before = (.ok frame, after) :=
  bind_of_ok (selectedFrame_of_frame selects) _

theorem needFrame_of_none {thread : Option Thread}
    (selects : backend.Selects before thread none after) :
    ∃ fault, needFrame backend before = (.error fault, after) := by
  obtain ⟨fault, selected⟩ := selectedFrame_of_none selects
  exact ⟨fault, bind_of_ok selected _⟩

/-! ## Events that read a level -/

/-- When the events that read a level are answered by an error, in a debugger that has a target and
a process. -/
structure Backend.RefusesOnly (backend : Backend σ) (before running : σ) : Prop where
  variableType : ∀ {thread frame between}, backend.Selects running thread frame between →
    ∀ name, (frame.isSome = true →
      ∃ typeName after, backend.variableType name between = (.ok typeName, after)) →
    ¬ (dispatch backend (.variableType name) before).1.IsError
  threadInfo : ∀ {thread after}, backend.thread running = (.ok thread, after) →
    ((dispatch backend .threadInfo before).1.IsError ↔ thread = none)
  frameInfo : ∀ {thread frame after}, backend.Selects running thread frame after →
    ((dispatch backend .frameInfo before).1.IsError ↔ thread = none ∨ frame = none)
  /-- No register of any set has the name. -/
  readRegister : ∀ {thread frame after}, backend.Selects running thread frame after →
    ∀ name, (dispatch backend (.readRegister name) before).1.IsError
      ↔ thread = none ∨ frame = none ∨ ∃ shown, frame = some shown ∧
        ∀ set ∈ shown.registerSets, ∀ register ∈ set.registers, register.name ≠ name
  /-- The sets one after the other have no register at the position. -/
  readRegisterByIndex : ∀ {thread frame after}, backend.Selects running thread frame after →
    ∀ index, (dispatch backend (.readRegisterByIndex index) before).1.IsError
      ↔ thread = none ∨ frame = none ∨ ∃ shown, frame = some shown ∧
        (shown.registerSets.map (·.registers)).flatten[index.toNat]? = none
  baseAddress : ∀ {base after}, backend.baseAddress running = (.ok base, after) →
    ((dispatch backend .baseAddress before).1.IsError ↔ base = none)

/-- An event is answered by an error when its handling fails. -/
theorem isError_of_error {running : σ} (found : backend.Running before running)
    {request : Request} {fault : EventFault}
    (handled : handle backend request running = (.error fault, after)) :
    (dispatch backend request before).1.IsError := by
  rw [dispatch_of_error ((attend_of_running found request).trans handled)]
  exact ⟨fault.message, rfl⟩

theorem not_isError_of_ok {running : σ} (found : backend.Running before running)
    {request : Request} {response : Response}
    (handled : handle backend request running = (.ok response, after))
    (other : ∀ message, response ≠ .error message) :
    ¬ (dispatch backend request before).1.IsError := by
  rw [dispatch_of_ok ((attend_of_running found request).trans handled)]
  rintro ⟨message, same⟩
  exact other message same

section
variable {running : σ} (found : backend.Running before running)
include found

theorem threadInfo_isError_iff {thread : Option Thread}
    (sees : backend.thread running = (.ok thread, after)) :
    (dispatch backend .threadInfo before).1.IsError ↔ thread = none := by
  have handled : handle backend .threadInfo running
      = (Handling.expect .noThread thread >>= fun thread =>
        pure (.threadInfo thread.id (thread.name.filter (· != "")))) after :=
    bind_of_ok (access_of_ok sees) _
  cases thread with
  | none => exact ⟨fun _ => rfl, fun _ => isError_of_error found handled⟩
  | some thread =>
    refine ⟨fun error => ?_, nofun⟩
    exact absurd error (not_isError_of_ok found handled (by simp))

theorem baseAddress_isError_iff {base : Option UInt64}
    (sees : backend.baseAddress running = (.ok base, after)) :
    (dispatch backend .baseAddress before).1.IsError ↔ base = none := by
  have handled : handle backend .baseAddress running
      = (Handling.expect .noModules base >>= fun address => pure (.baseAddress address)) after :=
    bind_of_ok (access_of_ok sees) _
  cases base with
  | none => exact ⟨fun _ => rfl, fun _ => isError_of_error found handled⟩
  | some base =>
    refine ⟨fun error => ?_, nofun⟩
    exact absurd error (not_isError_of_ok found handled (by simp))

/-- An event that needs the frame fails without one. With one it is known what it comes to. -/
theorem isError_iff_of_needFrame {request : Request} {thread : Option Thread}
    {frame : Option Frame} {next : Frame → Handling σ Response}
    (needs : handle backend request = (needFrame backend >>= next))
    (selects : backend.Selects running thread frame after) {lacking : Frame → Prop}
    (given : ∀ frame, ((∃ fault, next frame after = (.error fault, after)) ∧ lacking frame) ∨
      ((∃ response, next frame after = (.ok response, after) ∧
        ∀ message, response ≠ .error message) ∧ ¬ lacking frame)) :
    (dispatch backend request before).1.IsError
      ↔ thread = none ∨ frame = none ∨ ∃ shown, frame = some shown ∧ lacking shown := by
  cases frame with
  | none =>
    obtain ⟨fault, needed⟩ := needFrame_of_none selects
    have handled : handle backend request running = (.error fault, after) := by
      rw [needs, bind_of_error needed]
    exact ⟨fun _ => .inr (.inl rfl), fun _ => isError_of_error found handled⟩
  | some frame =>
    have present : thread ≠ none := by
      rintro rfl
      cases selects
    have handled : handle backend request running = next frame after := by
      rw [needs, bind_of_ok (needFrame_of_frame selects)]
    rcases given frame with ⟨⟨fault, fails⟩, lacks⟩ | ⟨⟨response, succeeds, other⟩, has⟩
    · exact ⟨fun _ => .inr (.inr ⟨frame, rfl, lacks⟩),
        fun _ => isError_of_error found (handled.trans fails)⟩
    · refine ⟨fun error => ?_, ?_⟩
      · exact absurd error (not_isError_of_ok found (handled.trans succeeds) other)
      · rintro (none | none | ⟨shown, same, lacks⟩)
        · exact absurd none present
        · cases none
        · cases same
          exact absurd lacks has

end

/-- In every debugger that has a target and a process, these events fail just when what they read
is missing. -/
theorem refusesOnly_of_running {running : σ} (found : backend.Running before running) :
    backend.RefusesOnly before running where
  variableType {thread frame between} selects name calm := by
    cases frame with
    | none =>
      obtain ⟨fault, selected⟩ := selectedFrame_of_none selects
      exact not_isError_of_ok found (bind_of_ok selected _) (by simp)
    | some frame =>
      obtain ⟨typeName, after, shown⟩ := calm rfl
      have handled : handle backend (.variableType name) running
          = (access (backend.variableType name) >>= fun typeName =>
            pure (.variableType typeName)) between :=
        bind_of_ok (selectedFrame_of_frame selects) _
      rw [bind_of_ok (access_of_ok shown)] at handled
      exact not_isError_of_ok found handled (by simp)
  threadInfo sees := threadInfo_isError_iff found sees
  frameInfo {thread frame after} selects := by
    have needed : (dispatch backend .frameInfo before).1.IsError
        ↔ thread = none ∨ frame = none ∨ ∃ shown, frame = some shown ∧ False :=
      isError_iff_of_needFrame found rfl selects
        fun frame => .inr ⟨⟨_, rfl, by simp⟩, not_false⟩
    simpa using needed
  readRegister {thread frame after} selects name := by
    refine isError_iff_of_needFrame found rfl selects fun frame => ?_
    rw [bind_apply, expect_apply]
    cases present : frame.registers.find? (·.name == name) with
    | none =>
      refine .inl ⟨⟨_, rfl⟩, fun set inSets register inSet same => ?_⟩
      have absent := List.find?_eq_none.mp present register
        (List.mem_flatMap.mpr ⟨set, inSets, inSet⟩)
      exact absent (beq_iff_eq.mpr same)
    | some register =>
      refine .inr ⟨⟨_, rfl, by simp⟩, fun unnamed => ?_⟩
      obtain ⟨set, inSets, inSet⟩ := List.mem_flatMap.mp (List.mem_of_find?_eq_some present)
      have named := List.find?_some present
      exact unnamed set inSets register inSet (beq_iff_eq.mp named)
  readRegisterByIndex {thread frame after} selects index := by
    refine isError_iff_of_needFrame found rfl selects fun frame => ?_
    have registers : (frame.registerSets.map (·.registers)).flatten = frame.registers :=
      List.flatMap_def.symm
    rw [bind_apply, expect_apply, registers]
    cases present : frame.registers[index.toNat]? with
    | none => exact .inl ⟨⟨_, rfl⟩, rfl⟩
    | some register => exact .inr ⟨⟨_, rfl, by simp⟩, nofun⟩
  baseAddress sees := baseAddress_isError_iff found sees

end DebugBridge
