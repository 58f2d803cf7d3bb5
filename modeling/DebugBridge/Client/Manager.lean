import DebugBridge.Client.Network
import DebugBridge.Client.Rendering
import DebugBridge.Client.Settings
import DebugBridge.Client.Subcommand

/-!
The session that a debugger keeps with the server.

A manager holds at most one session, bound to the binary that was selected when it was opened. A
command for the same binary goes to that session; for another binary the session is closed before a
new one is opened. A server that cannot be reached is started, once per attempt, and looked for a
bounded number of times. A session that breaks is given up, so the next command opens a new one.

The manager and the state of the network change together; `Manager` keeps both.
-/

namespace DebugBridge

/-- Whether a server accepts connections, and at which address. -/
inductive ServerStatus where
  | running (address : String)
  | notRunning (address : String)
deriving DecidableEq, Repr

def ServerStatus.text : ServerStatus → String
  | .running address => "Server is running at " ++ address
  | .notRunning address => "Server is not running at " ++ address

/-- Why a command could not be carried out. -/
inductive ManagerFault where
  | noTarget
  | noExecutable
  | launch (text : String)
  | unavailable (address : String) (attempts : Nat)
  | connect (address : String)
  | session (fault : SessionFault)
deriving DecidableEq, Repr

def ManagerFault.message : ManagerFault → String
  | .noTarget => "No target selected"
  | .noExecutable => "No executable in target"
  | .launch text => "failed to start server: " ++ text
  | .unavailable address attempts =>
    "server at " ++ address ++ " not reachable after " ++ toString attempts ++ " attempts"
  | .connect address => "connecting to server at " ++ address
  | .session fault => fault.message

/-- An open session: the binary that it is bound to, and its connection. -/
structure HeldSession (κ : Type) where
  binary : Path
  connection : κ
deriving DecidableEq, Repr

structure Manager (ν κ : Type) where
  settings : Settings
  held : Option (HeldSession κ)
  network : ν

namespace Manager

variable {ν κ σ : Type} (world : Network ν κ)

def start (settings : Settings) (network : ν) : Manager ν κ := ⟨settings, none, network⟩

/-! ## The server -/

/-- Whether a server can be reached; no session is opened. -/
def status (manager : Manager ν κ) : ServerStatus × Manager ν κ :=
  let (reachable, network) := world.probe manager.network
  let address := manager.settings.address
  (if reachable then .running address else .notRunning address, { manager with network })

/-- Looks for a server until one is found, at most as often as the first argument says and one time
more, with a pause before every time but the first. -/
def poll : Nat → ν → Bool × ν
  | count, state =>
    match world.probe state with
    | (true, state) => (true, state)
    | (false, state) =>
      match count with
      | 0 => (false, state)
      | count + 1 => poll count (world.wait state)

/-- How often a server that has been started is looked for: at least once. -/
def attempts (settings : Settings) : Nat :=
  max settings.startupAttempts.toNat 1

/-- Makes sure that a server can be reached, and starts one if none can. -/
def ensureServer (manager : Manager ν κ) : Except ManagerFault Unit × Manager ν κ :=
  match world.probe manager.network with
  | (true, network) => (.ok (), { manager with network })
  | (false, network) =>
    match world.launch network with
    | (.error text, network) => (.error (.launch text), { manager with network })
    | (.ok (), network) =>
      let tries := attempts manager.settings
      match poll world (tries - 1) network with
      | (true, network) => (.ok (), { manager with network })
      | (false, network) =>
        (.error (.unavailable manager.settings.address tries), { manager with network })

/-! ## Sessions -/

/-- Gives the session up, if there is one. -/
def close (manager : Manager ν κ) : Manager ν κ :=
  match manager.held with
  | none => manager
  | some held =>
    { manager with held := none, network := world.close held.connection manager.network }

/-- Connects to a server and opens a session for a binary. -/
def bindBinary (binary : Path) (manager : Manager ν κ) :
    Except ManagerFault (HeldSession κ) × Manager ν κ :=
  match manager.ensureServer world with
  | (.error fault, manager) => (.error fault, manager)
  | (.ok (), manager) =>
    match world.connect manager.network with
    | (.error _, network) =>
      (.error (.connect manager.settings.address), { manager with network })
    | (.ok connection, network) =>
      match world.openSession connection binary network with
      | (.error fault, network) => (.error (.session fault), { manager with network })
      | (.ok (), network) =>
        let held := ⟨binary, connection⟩
        (.ok held, { manager with held := some held, network })

/-- The held session if it is for the same binary. -/
def matching? (binary : Path) (manager : Manager ν κ) : Option (HeldSession κ) :=
  manager.held.filter fun held => Path.same held.binary binary

/-- The session for a binary: the one that is held, or a new one in its place. -/
def session (binary : Path) (manager : Manager ν κ) :
    Except ManagerFault (HeldSession κ) × Manager ν κ :=
  match manager.matching? binary with
  | some held => (.ok held, manager)
  | none => (manager.close world).bindBinary world binary

/-! ## Commands -/

/-- The executable of the selected target; `none` when looking for it panics. -/
def selected? (backend : Backend σ) (debugger : σ) : Option (Except ManagerFault Path × σ) :=
  match backend.hasTarget debugger with
  | (.error _, _) => none
  | (.ok false, debugger) => some (.error .noTarget, debugger)
  | (.ok true, debugger) =>
    match backend.executable debugger with
    | (.error _, _) => none
    | (.ok none, debugger) => some (.error .noExecutable, debugger)
    | (.ok (some binary), debugger) => some (.ok binary, debugger)

/-- What is there when a call returns. -/
structure Returned (ν κ σ α : Type) where
  value : α
  manager : Manager ν κ
  debugger : σ

/-- Has a command carried out in an open session, in at most as many turns as `patience` says; a
session that breaks is given up. -/
def runIn (backend : Backend σ) (patience : Nat) (held : HeldSession κ) (command : Command)
    (manager : Manager ν κ) (debugger : σ) :
    Option (Returned ν κ σ (Except ManagerFault Outcome)) :=
  let (session, network) :=
    Turn.run (world.line held.connection) (Client.Session.turn backend) patience
      (.resume held.binary debugger [command]) manager.network
  let manager := { manager with network }
  match session.attempts with
  | (.ok outcome, debugger) :: _ => some ⟨.ok outcome, manager, debugger⟩
  | (.error fault, debugger) :: _ =>
    some ⟨.error (.session fault), manager.close world, debugger⟩
  | [] => none

/-- Has a command carried out for the selected target. There is no answer when the debugger panics
before the command is sent, and when the command goes on for longer than `patience` turns. -/
def execute (backend : Backend σ) (patience : Nat) (command : Command) (manager : Manager ν κ)
    (debugger : σ) : Option (Returned ν κ σ (Except ManagerFault Outcome)) :=
  match selected? backend debugger with
  | none => none
  | some (.error fault, debugger) => some ⟨.error fault, manager, debugger⟩
  | some (.ok binary, debugger) =>
    match manager.session world binary with
    | (.error fault, manager) => some ⟨.error fault, manager, debugger⟩
    | (.ok held, manager) => manager.runIn world backend patience held command debugger

/-! ## Lines -/

/-- The text for what came of a command. -/
def shown (kind : CommandKind) : Except ManagerFault Outcome → String
  | .ok outcome => outcome.render kind
  | .error fault => "Command failed: " ++ fault.message

/-- The text for a line that is no subcommand. -/
def complaint : SubcommandFault → String
  | .empty => Subcommand.usage
  | fault => "Error: " ++ fault.message ++ "\n" ++ Subcommand.usage

/-- Carries out what a user has typed, and gives the text to show. -/
def runLine (backend : Backend σ) (patience : Nat) (line : String) (manager : Manager ν κ)
    (debugger : σ) : Option (Returned ν κ σ String) :=
  match Subcommand.parse line with
  | .error fault => some ⟨complaint fault, manager, debugger⟩
  | .ok subcommand =>
    match subcommand.command? with
    | none =>
      let (status, manager) := manager.status world
      some ⟨status.text, manager, debugger⟩
    | some command =>
      (manager.execute world backend patience command debugger).map fun returned =>
        ⟨shown command.kind returned.value, returned.manager, returned.debugger⟩

end Manager
end DebugBridge
