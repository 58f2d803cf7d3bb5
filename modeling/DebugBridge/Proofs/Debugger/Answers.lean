import DebugBridge.Debugger.Dispatch

/-!
# Every event is answered in its category

What an event's handling returns is known from its last step, whatever the debugger did before. So
the rules for `Returns` disregard states and faults; a fault makes an error, which answers any
event.

Result: `dispatch_answers`.
-/

namespace DebugBridge

namespace Handling

variable {σ α β : Type}

/-- If a handling comes to its end without a fault, its value has the property. -/
def Returns (handling : Handling σ α) (property : α → Prop) : Prop :=
  ∀ before a after, handling before = (.ok a, after) → property a

theorem returns_pure {property : α → Prop} {a : α} (h : property a) :
    Returns (pure a : Handling σ α) property := by
  intro before a' after eq
  cases eq
  exact h

theorem returns_throw (fault : EventFault) (property : α → Prop) :
    Returns (throw fault : Handling σ α) property := by
  intro before a after eq
  cases eq

theorem bind_apply (handling : Handling σ α) (next : α → Handling σ β) (state : σ) :
    (handling >>= next) state
      = match handling state with
        | (.ok a, after) => next a after
        | (.error fault, after) => (.error fault, after) := by
  simp only [bind, ExceptT.bind, ExceptT.mk, StateT.bind]
  obtain ⟨result, after⟩ := handling state
  cases result <;> rfl

/-- Only the last step matters. -/
theorem returns_bind {property : β → Prop} {handling : Handling σ α} {next : α → Handling σ β}
    (h : ∀ a, Returns (next a) property) : Returns (handling >>= next) property := by
  intro before b after eq
  rw [bind_apply] at eq
  split at eq
  · exact h _ _ _ _ eq
  · cases eq

end Handling

open Handling

variable {σ : Type}

/-- What the handling of an event returns is an answer to it. -/
theorem handle_answers (backend : Backend σ) (request : Request) :
    Returns (handle backend request) fun response => response.answers request = true := by
  cases request with
  | readMemory address size =>
    exact returns_bind fun _ => returns_bind fun _ => returns_pure rfl
  | writeMemory address data =>
    refine returns_bind fun _ => returns_bind fun written => ?_
    split
    · exact returns_bind fun _ => returns_pure rfl
    · exact returns_pure rfl
  | readRegister name => exact returns_bind fun _ => returns_bind fun _ => returns_pure rfl
  | readRegisterByIndex index =>
    exact returns_bind fun _ => returns_bind fun _ => returns_pure rfl
  | frameInfo => exact returns_bind fun _ => returns_pure rfl
  | threadInfo => exact returns_bind fun _ => returns_bind fun _ => returns_pure rfl
  | baseAddress => exact returns_bind fun _ => returns_bind fun _ => returns_pure rfl
  | evaluate expression => exact returns_bind fun _ => returns_bind fun _ => returns_pure rfl
  | variableType name =>
    refine returns_bind fun selected => ?_
    cases selected with
    | ok frame => exact returns_bind fun _ => returns_pure rfl
    | error fault => exact returns_pure rfl
  | allocate size =>
    exact returns_bind fun _ => returns_bind fun _ => returns_bind fun _ => returns_pure rfl
  | callMethod method receiver arguments returnSize =>
    exact returns_bind fun _ => returns_bind fun _ => returns_pure rfl
  | callFunction function arguments returnSize =>
    exact returns_bind fun _ => returns_bind fun _ => returns_pure rfl
  | unknown => exact returns_throw _ _

theorem attend_answers (backend : Backend σ) (request : Request) :
    Returns (attend backend request) fun response => response.answers request = true := by
  have attended : Returns (do
      if !(← access backend.hasProcess) then throw .noProcess
      handle backend request) fun response => response.answers request = true := by
    refine returns_bind fun hasProcess => ?_
    dsimp only
    split
    · exact returns_bind fun _ => handle_answers backend request
    · exact handle_answers backend request
  refine returns_bind fun hasTarget => ?_
  dsimp only
  split
  · exact returns_bind fun _ => attended
  · exact attended

/-- Every event is answered, by an error if by nothing else. -/
theorem dispatch_answers (backend : Backend σ) (request : Request) (state : σ) :
    (dispatch backend request state).1.answers request = true := by
  unfold dispatch
  split
  · next response after eq => exact attend_answers backend request _ _ _ eq
  · rfl

end DebugBridge
