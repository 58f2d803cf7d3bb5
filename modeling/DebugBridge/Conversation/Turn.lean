import DebugBridge.Wire.Report

/-!
Whose turn it is.

A party to a conversation is a state and a function that says what the party does in a state: it
sends a message, it waits for one, or it has ended. What the party does next depends on how sending
went, or on what came in. `run` lets a party talk over a line that never makes it wait.
-/

namespace DebugBridge

/-- What a party does in a state. -/
inductive Turn (α : Type) where
  | send (message : Message) (next : Except TransportFault Unit → α)
  | receive (next : Incoming → α)
  | ended

/-- A line to another party, with states `ν`. -/
structure Line (ν : Type) where
  send : Message → ν → Except TransportFault Unit × ν
  receive : ν → Incoming × ν

namespace Turn

variable {α ν : Type}

/-- One turn of a party at its end of a line; `none` once it has ended. -/
def step? (line : Line ν) (turn : α → Turn α) (party : α) (state : ν) : Option (α × ν) :=
  match turn party with
  | .send message next =>
    let (outcome, state) := line.send message state
    some (next outcome, state)
  | .receive next =>
    let (incoming, state) := line.receive state
    some (next incoming, state)
  | .ended => none

/-- Turns of a party until it has ended, at most as many as the first argument says. -/
def run (line : Line ν) (turn : α → Turn α) : Nat → α → ν → α × ν
  | 0, party, state => (party, state)
  | count + 1, party, state =>
    match step? line turn party state with
    | some (party, state) => run line turn count party state
    | none => (party, state)

end Turn

/-! ## A party that has said everything -/

/-- A line whose other end has sent all that it will ever send. It keeps what is sent to that end,
which may be gone. -/
structure Mailbox where
  incoming : Source
  attended : Bool
  sent : List Message
deriving Repr

namespace Mailbox

def ofChunks (chunks : List (List UInt8)) (attended : Bool) : Mailbox :=
  ⟨.ofChunks chunks, attended, []⟩

def send (message : Message) (mailbox : Mailbox) : Except TransportFault Unit × Mailbox :=
  if mailbox.attended then (.ok (), { mailbox with sent := mailbox.sent ++ [message] })
  else (.error .disconnected, mailbox)

/-- The next message, read with the default limit. -/
def receive (mailbox : Mailbox) : Incoming × Mailbox :=
  let (taken, _, source) := mailbox.incoming.takeLine (defaultLimit.toNat + 1)
  (messageOf defaultLimit taken, { mailbox with incoming := source })

def line : Line Mailbox := ⟨send, receive⟩

/-- How many messages can come in, at most, counting the end of the stream as one: each takes an
octet. -/
def bound (mailbox : Mailbox) : Nat :=
  mailbox.incoming.octets.length + 1

end Mailbox
end DebugBridge
