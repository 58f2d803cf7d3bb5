import DebugBridge.Cli.Execution
import DebugBridge.Conversation.Host

/-!
The program.

It has no sockets to work with: no server can be reached from it, and `serve` serves one client, on
standard input and output.
-/

namespace DebugBridge.Program

/-- Whether a path names something that can be read as a file. -/
def isReadable (path : String) : IO Bool := do
  try
    let handle ← IO.FS.Handle.mk path .read
    let _ ← handle.read 1
    return true
  catch _ => return false

/-- The next message from a stream of which some chunks have been read. -/
partial def receive (input : IO.FS.Stream) (source : Source) : IO (Incoming × Source) := do
  let (taken, reason, rest) := source.takeLine (defaultLimit.toNat + 1)
  if reason = .everything then
    let chunk ← input.read 65536
    if !chunk.isEmpty then
      return ← receive input ⟨source.current, source.behind ++ [chunk.toList]⟩
  return (messageOf defaultLimit taken, rest)

/-- The probe engine, which is told of one path whether it names a file. -/
def engineFor (incoming : Incoming) : IO (Engine Probe) := do
  match incoming with
  | .ok (.init path) =>
    let readable ← isReadable path
    return Probe.engine fun other => other == path && readable
  | _ => return Probe.engine fun _ => false

/-- A session with the client at standard input and output. -/
partial def converse (input output : IO.FS.Stream) (session : Server.Session Probe)
    (source : Source) : IO (Option Server.Ending) := do
  match session.turn (Probe.engine fun _ => false) with
  | .ended => return session.ending?
  | .send message next =>
    output.write message.encode.toByteArray
    output.flush
    converse input output (next (.ok ())) source
  | .receive _ =>
    let (incoming, source) ← receive input source
    match session.turn (← engineFor incoming) with
    | .receive next => converse input output (next incoming) source
    | _ => return none

/-- The exit code for the way in which a session has ended. -/
def exitCode : Option Server.Ending → UInt32
  | some (.ok _) => 0
  | _ => 1

/-- A host from which nothing can be reached. -/
def host : Host where
  isFile _ := false
  routed := false
  installed := []
  launcher := .idle
  bound := false
  links := []
  launches := 0

end DebugBridge.Program

open DebugBridge DebugBridge.Program in
def main (arguments : List String) : IO UInt32 := do
  let environment : Cli.Environment :=
    ⟨← IO.getEnv "TETHER_HOST", ← IO.getEnv "TETHER_PORT"⟩
  match Cli.invocation environment arguments with
  | .perform .serve _ =>
    exitCode <$> converse (← IO.getStdin) (← IO.getStdout) Server.Session.start (.ofChunks [])
  | invocation =>
    let serve (_ : Settings) (host : Host) := (Cli.failure, host)
    let (ending, _) := Cli.run Host.network serve environment invocation host
    IO.print ending.printed
    if invocation = .misused then IO.eprint (Cli.helpText environment .program)
    return ending.code
