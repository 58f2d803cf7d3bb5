import DebugBridge.Cli.Help
import DebugBridge.Client.Manager

/-!
What an invocation does.

Everything but the running of a server is settled here, given the network.
-/

namespace DebugBridge.Cli

/-- How the program ends: its exit code, and what it has printed on standard output. -/
structure Ending where
  code : UInt32
  printed : String
deriving DecidableEq, Repr

/-- The ending of an invocation that is not understood. -/
def misuse : Ending := ⟨2, ""⟩

/-- The ending of an action that fails. -/
def failure : Ending := ⟨1, ""⟩

variable {ν κ : Type} (world : Network ν κ)

/-- Tells whether a server can be reached. -/
def showStatus (settings : Settings) (state : ν) : Ending × ν :=
  let (status, manager) := (Manager.start settings state).status world
  (⟨0, status.text ++ "\n"⟩, manager.network)

/-- Asks a server that can be reached to stop. -/
def stopServer (settings : Settings) (state : ν) : Ending × ν :=
  match (Manager.start settings state).status world with
  | (.notRunning address, manager) =>
    (⟨0, (ServerStatus.notRunning address).text ++ "\n"⟩, manager.network)
  | (.running address, manager) =>
    match world.requestShutdown manager.network with
    | (.ok (), state) => (⟨0, "Server at " ++ address ++ " stopped\n"⟩, state)
    | (.error _, state) => (failure, state)

/-- What an invocation does; `serve` is what comes of running a server. -/
def run (serve : Settings → ν → Ending × ν) (environment : Environment)
    (invocation : Invocation) (state : ν) : Ending × ν :=
  match invocation with
  | .help topic => (⟨0, helpText environment topic⟩, state)
  | .version => (⟨0, versionText ++ "\n"⟩, state)
  | .misused => (misuse, state)
  | .perform .serve settings => serve settings state
  | .perform .stop settings => stopServer world settings state
  | .perform .status settings => showStatus world settings state

end DebugBridge.Cli
