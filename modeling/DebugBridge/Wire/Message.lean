import DebugBridge.Wire.Event

/-!
Messages: what one line of a session says.
-/

namespace DebugBridge

/-- The commands a server understands. -/
inductive CommandKind where
  | eval
  | print
  | methods
  | functions
  | shutdown
deriving DecidableEq, Repr, Inhabited

def CommandKind.name : CommandKind → String
  | .eval => "eval"
  | .print => "print"
  | .methods => "methods"
  | .functions => "functions"
  | .shutdown => "shutdown"

structure Command where
  kind : CommandKind
  arguments : List String
deriving DecidableEq, Repr, Inhabited

/-- The first argument, which is the expression of the commands that take one. -/
def Command.expression? (command : Command) : Option String :=
  command.arguments.head?

/-- One line of a session.

`init` binds the connection to a binary and `initAck` accepts it. `command` is answered by
`complete` or `error`; while it runs, the server may send `event` and wait for `eventResponse`. An
`error` also answers an `init` that is rejected. -/
inductive Message where
  | init (binaryPath : String)
  | initAck
  | command (command : Command)
  | event (request : Request)
  | eventResponse (response : Response)
  | complete (result : Json)
  | error (text : String)
deriving DecidableEq, Repr

namespace Message

/-- The name that the `type` member gives. -/
def kind : Message → String
  | .init _ => "Init"
  | .initAck => "InitAck"
  | .command _ => "Command"
  | .event _ => "Event"
  | .eventResponse _ => "EventResponse"
  | .complete _ => "Complete"
  | .error _ => "Error"

end Message
end DebugBridge
