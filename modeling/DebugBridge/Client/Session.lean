import DebugBridge.Client.Outcome
import DebugBridge.Conversation.Turn
import DebugBridge.Debugger.Dispatch

/-!
One session, as the client holds it.

The client names a binary and waits until the server has accepted it. Then it carries out commands
one at a time: it sends the command, answers every event that comes in with its debugger, and takes
the first result or error for the outcome. Any other message, a line that is no message and the end
of the stream break the session; a broken session stays broken, and no command is even sent in it.
-/

namespace DebugBridge

/-- Why a session cannot be opened, or why it broke. `broken` answers every command after that. -/
inductive SessionFault where
  | closed
  | transport (fault : TransportFault)
  | protocol (violation : String)
  | rejected (reason : String)
  | broken
deriving DecidableEq, Repr

namespace SessionFault

def message : SessionFault → String
  | .closed => "server closed the connection"
  | .transport fault => fault.message
  | .protocol violation => "protocol violation: " ++ violation
  | .rejected reason => "server rejected binary: " ++ reason
  | .broken => "session is no longer usable after an earlier failure"

def ofTransport : TransportFault → SessionFault
  | .closed => .closed
  | fault => .transport fault

end SessionFault

/-- How an attempt at a command ended. -/
abbrev Attempt := Except SessionFault Outcome

namespace Client

/-- Where a session stands. -/
inductive Phase where
  /-- About to name the binary. -/
  | greeting
  /-- The server has to accept the binary. -/
  | awaitingAck
  /-- The session could not be opened. -/
  | refused (fault : SessionFault)
  /-- Ready for a command. -/
  | idle
  /-- A command is running. -/
  | awaiting
  /-- About to answer an event. -/
  | answering (response : Response)
  | broken
deriving DecidableEq, Repr

/-- Whether a session that has been opened can carry commands. -/
def Phase.isUsable : Phase → Bool
  | .idle | .awaiting | .answering _ => true
  | _ => false

/-- A session and what it is to do: the commands that have not been sent yet, and what came of the
others, each with the debugger as it was then. -/
structure Session (σ : Type) where
  binary : Path
  phase : Phase
  debugger : σ
  remaining : List Command
  attempts : List (Attempt × σ)

namespace Session

variable {σ : Type}

/-- A session to be opened. -/
def start (binary : Path) (debugger : σ) (commands : List Command) : Session σ :=
  ⟨binary, .greeting, debugger, commands, []⟩

/-- An open session that is to carry out commands. -/
def resume (binary : Path) (debugger : σ) (commands : List Command) : Session σ :=
  ⟨binary, .idle, debugger, commands, []⟩

/-- Why the session could not be opened, if it could not. -/
def refusal? (session : Session σ) : Option SessionFault :=
  match session.phase with
  | .refused fault => some fault
  | _ => none

/-- What came of every command. Those that a broken session has not sent fail without being sent. -/
def results (session : Session σ) : List (Attempt × σ) :=
  session.attempts
    ++ session.remaining.map fun _ => (.error .broken, session.debugger)

/-! ## Opening -/

/-- What the answer to the naming of the binary leads to. -/
def acknowledged : Incoming → Phase
  | .ok .initAck => .idle
  | .ok (.error reason) => .refused (.rejected reason)
  | .ok message => .refused (.protocol ("expected InitAck, got " ++ message.kind))
  | .error fault => .refused (.ofTransport fault)

/-! ## Commands -/

/-- Ends the running command. -/
def settle (attempt : Attempt) (session : Session σ) : Session σ :=
  { session with
    phase := if attempt.isOk then .idle else .broken
    attempts := session.attempts ++ [(attempt, session.debugger)] }

/-- Answers an event, or ends the running command. -/
def received (backend : Backend σ) (session : Session σ) : Incoming → Session σ
  | .ok (.event request) =>
    let (response, debugger) := dispatch backend request session.debugger
    { session with phase := .answering response, debugger := debugger }
  | .ok (.complete result) => session.settle (.ok (.complete result))
  | .ok (.error error) => session.settle (.ok (.failed error))
  | .ok message =>
    let violation := "unexpected " ++ message.kind ++ " while awaiting a response"
    session.settle (.error (.protocol violation))
  | .error fault => session.settle (.error (.ofTransport fault))

/-- Waits for the server once something has been sent while a command runs. -/
def awaitServer (session : Session σ) : Except TransportFault Unit → Session σ
  | .ok () => { session with phase := .awaiting }
  | .error fault => session.settle (.error (.ofTransport fault))

/-! ## Turns -/

/-- What the client does in a session. -/
def turn (backend : Backend σ) (session : Session σ) : Turn (Session σ) :=
  match session.phase with
  | .greeting =>
    .send (.init session.binary.text) fun
      | .ok () => { session with phase := .awaitingAck }
      | .error fault => { session with phase := .refused (.ofTransport fault) }
  | .awaitingAck => .receive fun incoming => { session with phase := acknowledged incoming }
  | .idle =>
    match session.remaining with
    | [] => .ended
    | command :: rest => .send (.command command) { session with remaining := rest }.awaitServer
  | .awaiting => .receive (session.received backend)
  | .answering response => .send (.eventResponse response) session.awaitServer
  | .refused _ => .ended
  | .broken => .ended

/-- A session with a server that has said everything. Beside the greeting and the commands, no more
than two turns go by for each message that can come in. -/
def converse (backend : Backend σ) (session : Session σ) (mailbox : Mailbox) :
    Session σ × Mailbox :=
  Turn.run Mailbox.line (turn backend) (2 * mailbox.bound + session.remaining.length + 1) session
    mailbox

end Session
end Client
end DebugBridge
