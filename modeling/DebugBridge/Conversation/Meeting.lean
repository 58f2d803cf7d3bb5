import DebugBridge.Conversation.Turn
import DebugBridge.Wire.Pipe

/-!
Two parties over a pair of connections.

Either party may take its next turn whenever it can: sending never waits, receiving waits for a
message or for the other end to be gone, and a party that has ended drops its end. `step?` is one
turn of one side; a meeting goes on as long as some side can take one.
-/

namespace DebugBridge

/-- The states of two parties and of what lies between them. -/
structure Meeting (α β : Type) where
  left : α
  right : β
  pair : Pair

namespace Meeting

variable {α β γ : Type}

/-- Two parties that have not begun. -/
def start (left : α) (right : β) : Meeting α β := ⟨left, right, .fresh⟩

/-- One turn of a party at an end of the pair; `none` when it has to wait, or is gone. -/
def turn? (side : Side) (turn : γ → Turn γ) (party : γ) (pair : Pair) : Option (γ × Pair) :=
  if pair.isOpen side then
    match turn party with
    | .send message next =>
      match pair.send side message with
      | .ok pair => some (next (.ok ()), pair)
      | .error fault => some (next (.error fault), pair)
    | .receive next => (pair.receive? side).map fun (incoming, pair) => (next incoming, pair)
    | .ended => some (party, pair.drop side)
  else none

/-- One turn of a side. -/
def step? (turnLeft : α → Turn α) (turnRight : β → Turn β) (side : Side) (meeting : Meeting α β) :
    Option (Meeting α β) :=
  match side with
  | .left =>
    (turn? .left turnLeft meeting.left meeting.pair).map fun (left, pair) =>
      ⟨left, meeting.right, pair⟩
  | .right =>
    (turn? .right turnRight meeting.right meeting.pair).map fun (right, pair) =>
      ⟨meeting.left, right, pair⟩

/-- Turns until no side can take one, at most as many as the first argument says. When both sides
can, the right one comes first. -/
def run (turnLeft : α → Turn α) (turnRight : β → Turn β) :
    Nat → Meeting α β → Meeting α β
  | 0, meeting => meeting
  | count + 1, meeting =>
    match step? turnLeft turnRight .right meeting with
    | some meeting => run turnLeft turnRight count meeting
    | none =>
      match step? turnLeft turnRight .left meeting with
      | some meeting => run turnLeft turnRight count meeting
      | none => meeting

end Meeting
end DebugBridge
