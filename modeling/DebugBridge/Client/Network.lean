import DebugBridge.Client.Session

/-!
What a client needs of the network and of the machine that it runs on.

`Network ν κ` says how the world, of which `ν` are the states, behaves towards one client: whether
something can be reached at the server's address, what starting a server comes to, and how its
connections `κ` behave. Nothing is assumed of it. A failure that the system reports comes in the
system's words.
-/

namespace DebugBridge

structure Network (ν κ : Type) where
  /-- Looks whether something accepts connections at the server's address. -/
  probe : ν → Bool × ν
  /-- Starts a server, without waiting until it can be reached. -/
  launch : ν → Except String Unit × ν
  /-- Lets the pause between two probes go by. -/
  wait : ν → ν
  /-- Connects to the server's address. -/
  connect : ν → Except String κ × ν
  /-- The client's end of a connection. -/
  line : κ → Line ν
  close : κ → ν → ν

/-- A debugger with nothing selected. -/
def Backend.absent : Backend Unit where
  hasTarget := pure false
  executable := pure none
  hasProcess := pure false
  baseAddress := pure none
  thread := pure none
  frame := pure none
  variableType _ := pure none
  readMemory _ _ := pure (.error "process exited")
  writeMemory _ _ := pure (.error "process exited")
  evaluate _ := pure (.error "process exited")

namespace Network

variable {ν κ : Type} (network : Network ν κ)

/-- Opens a session on a new connection; a connection on which none can be opened is closed. Opening
takes two turns and no debugger. -/
def openSession (connection : κ) (binary : Path) (state : ν) : Except SessionFault Unit × ν :=
  let (session, state) :=
    Turn.run (network.line connection) (Client.Session.turn .absent) 2 (.start binary () []) state
  match session.refusal? with
  | none => (.ok (), state)
  | some fault => (.error fault, network.close connection state)

/-- What the answer to the wish that the server stop means. -/
def stopped : Incoming → Except Report Unit
  | .ok (.complete _) => .ok ()
  | .ok (.error error) => .error ⟨"server refused shutdown: " ++ error, []⟩
  | .ok message => .error ⟨"unexpected " ++ message.kind ++ " in reply to shutdown", []⟩
  | .error fault => .error (.ofTransport fault)

/-- Asks the server to stop, on a connection of its own, and waits until it says that it will. -/
def requestShutdown (state : ν) : Except Report Unit × ν :=
  match network.connect state with
  | (.error text, state) =>
    (.error ((Report.ofTransport (.io text)).wrap "connecting to server"), state)
  | (.ok connection, state) =>
    let line := network.line connection
    match line.send (.command ⟨.shutdown, []⟩) state with
    | (.error fault, state) => (.error (.ofTransport fault), network.close connection state)
    | (.ok (), state) =>
      let (incoming, state) := line.receive state
      (stopped incoming, network.close connection state)

end Network
end DebugBridge
