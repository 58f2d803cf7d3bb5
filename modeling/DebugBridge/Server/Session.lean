import DebugBridge.Conversation.Turn
import DebugBridge.Server.Work

/-!
One session, as the server holds it.

The session begins with the handshake: the client names a binary, and the engine for it is attached
or the binary is refused. Then the client's commands are carried out one after the other, until it
goes away or asks the server to stop. A line that is no message is answered by an error and
disregarded, except where an answer to an event is awaited.

A session ends by an exit, or by the report of a failure that leaves the connection unusable. Once
an exchange with the client has failed, the session ends with a failure whatever the engine makes of
it.
-/

namespace DebugBridge

/-- What carries out commands. Its states `ε` are bound to the binary named in the handshake. -/
structure Engine (ε : Type) where
  /-- The engine for the binary at a path. -/
  attach : (path : String) → Except Report ε
  /-- The result of a command, and the engine after it. -/
  handle : ε → Command → Work (Except Report Json × ε)

/-- Why a session ended without failure: the client went away, its binary was refused, or it asked
the server to stop. -/
inductive Exit where
  | disconnected
  | rejected
  | shutdown
deriving DecidableEq, Repr

namespace Server

abbrev Ending := Except Report Exit

/-- What a session waits for: the handshake, a command, or the answer to a request. -/
inductive Stage (ε : Type) where
  | greeting
  | idle (engine : ε)
  | asking (kind : CommandKind) (request : Request)
      (resume : Reply → Work (Except Report Json × ε))

/-- What follows the sending of a message. -/
inductive Next (ε : Type) where
  | stage (stage : Stage ε)
  | finish (ending : Ending) (engine : Option ε)

inductive Phase (ε : Type) where
  | receiving (stage : Stage ε)
  | sending (message : Message) (next : Next ε)
  | ended (ending : Ending) (engine : Option ε)

/-- A session, with the path of the binary once the client has named one. -/
structure Session (ε : Type) where
  phase : Phase ε
  binary : Option String

namespace Session

variable {ε : Type}

def start : Session ε := ⟨.receiving .greeting, none⟩

/-- How the session ended, if it has. -/
def ending? (session : Session ε) : Option Ending :=
  match session.phase with
  | .ended ending _ => some ending
  | _ => none

/-- The engine in the state in which the session left it. -/
def engine? (session : Session ε) : Option ε :=
  match session.phase with
  | .ended _ engine => engine
  | _ => none

end Session

variable {ε : Type}

/-! ## Commands -/

/-- The message that ends a command. -/
def conclusion : Except Report Json → Message
  | .ok result => .complete result
  | .error report => .error report.text

/-- Goes on with the work on a command. -/
def proceed (kind : CommandKind) : Work (Except Report Json × ε) → Phase ε
  | .done (result, engine) => .sending (conclusion result) (.stage (.idle engine))
  | .ask request resume => .sending (.event request) (.stage (.asking kind request resume))

/-- The report that ends the session when an exchange has failed. A result is of no use then. -/
def failure (kind : CommandKind) (result : Except Report Json) : Report :=
  let report : Report :=
    match result with
    | .ok _ => ⟨"engine ignored a failed event exchange", []⟩
    | .error report => report
  report.wrap ("running " ++ kind.name)

/-- Gives up the connection on which a command runs. -/
def abandon (kind : CommandKind) (work : Work (Except Report Json × ε)) : Phase ε :=
  let (result, engine) := work.abandoned
  .ended (.error (failure kind result)) (some engine)

/-! ## Receiving -/

/-- What the server says of a line that is no message. -/
def complaint (fault : TransportFault) : Message :=
  .error ("malformed message: " ++ fault.message)

/-- Deals with a failure to receive what a stage waits for, when it is not an answer. -/
def missed (awaited : String) (stage : Stage ε) (engine : Option ε) (fault : TransportFault) :
    Phase ε :=
  if fault = .closed then .ended (.ok .disconnected) engine
  else if fault.isRecoverable then .sending (complaint fault) (.stage stage)
  else .ended (.error ((Report.ofTransport fault).wrap ("awaiting " ++ awaited))) engine

/-- Does what the client asks for and stops. -/
def stop (engine : Option ε) : Phase ε :=
  .sending (.complete .null) (.finish (.ok .shutdown) engine)

/-- Attaches the engine for a binary, or refuses the binary. -/
def bindBinary (engine : Engine ε) (path : String) : Phase ε :=
  match engine.attach path with
  | .ok attached => .sending .initAck (.stage (.idle attached))
  | .error report => .sending (.error report.text) (.finish (.ok .rejected) none)

/-- Deals with the first message of a session. -/
def greeted (engine : Engine ε) : Message → Phase ε
  | .init path => bindBinary engine path
  | .command ⟨.shutdown, _⟩ => stop none
  | message =>
    let violation := "protocol violation: expected Init, got " ++ message.kind
    .sending (.error violation) (.finish (.error ⟨violation, []⟩) none)

/-- Deals with a message that should be a command. -/
def commanded (engine : Engine ε) (attached : ε) : Message → Phase ε
  | .command ⟨.shutdown, _⟩ => stop (some attached)
  | .command command => proceed command.kind (engine.handle attached command)
  | message =>
    let violation :=
      "protocol violation: unexpected " ++ message.kind ++ " while awaiting a command"
    .ended (.error ⟨violation, []⟩) (some attached)

/-- Goes on with the work when the reply to its request is known. -/
def replied (kind : CommandKind) (resume : Reply → Work (Except Report Json × ε)) :
    Reply → Phase ε
  | .ok response => proceed kind (resume (.ok response))
  | .error fault => abandon kind (resume (.error fault))

/-- Deals with what came in. -/
def Stage.received (engine : Engine ε) : Stage ε → Incoming → Phase ε
  | .greeting, .ok message => greeted engine message
  | .greeting, .error fault => missed "Init" .greeting none fault
  | .idle attached, .ok message => commanded engine attached message
  | .idle attached, .error fault => missed "a command" (.idle attached) (some attached) fault
  | .asking kind request resume, incoming => replied kind resume (request.reply incoming)

/-- The binary that an incoming message names. -/
def Stage.named? : Stage ε → Incoming → Option String
  | .greeting, .ok (.init path) => some path
  | _, _ => none

/-! ## Sending -/

def Stage.engine? : Stage ε → Option ε
  | .idle engine => some engine
  | _ => none

/-- What follows when a message could not be sent. A session that ends by a violation of the
protocol ends so whether or not the client can be told. -/
def Next.unsent (fault : TransportFault) : Next ε → Phase ε
  | .stage (.asking kind _ resume) => abandon kind (resume (.error (.notSent fault)))
  | .stage awaited => .ended (.error (.ofTransport fault)) awaited.engine?
  | .finish (.error report) engine => .ended (.error report) engine
  | .finish (.ok _) engine => .ended (.error (.ofTransport fault)) engine

def Next.sent : Next ε → Phase ε
  | .stage awaited => .receiving awaited
  | .finish ending engine => .ended ending engine

def Next.after (next : Next ε) : Except TransportFault Unit → Phase ε
  | .ok () => next.sent
  | .error fault => next.unsent fault

/-! ## Turns -/

namespace Session

/-- What the server does in a session. -/
def turn (engine : Engine ε) (session : Session ε) : Turn (Session ε) :=
  match session.phase with
  | .receiving stage =>
    .receive fun incoming =>
      ⟨stage.received engine incoming, session.binary.or (stage.named? incoming)⟩
  | .sending message next =>
    .send message fun outcome => { session with phase := next.after outcome }
  | .ended .. => .ended

/-- A session with a client that has said everything. No more than two turns go by for each message
that can come in. -/
def serve (engine : Engine ε) (mailbox : Mailbox) : Session ε × Mailbox :=
  Turn.run Mailbox.line (turn engine) (2 * mailbox.bound + 1) start mailbox

end Session
end Server
end DebugBridge
