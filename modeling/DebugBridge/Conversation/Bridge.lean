import DebugBridge.Client.Session
import DebugBridge.Conversation.Meeting
import DebugBridge.Server.Probe

/-!
A client and a server with the probe engine, connected in memory.
-/

namespace DebugBridge.Bridge

variable {σ : Type}

/-- Both ends of a bridge. -/
abbrev State (σ : Type) := Meeting (Client.Session σ) (Server.Session Probe)

/-- How many turns the whole conversation takes, at most. A command takes two, is answered in two,
and the probe engine puts at most two requests, each of which takes two turns and is answered in
two; the rest are those of the handshake and of the ends. -/
def turns (commands : Nat) : Nat :=
  12 * commands + 8

/-- A client opens a session for a binary, has commands carried out in it, and leaves. -/
def run (backend : Backend σ) (isFile : String → Bool) (binary : Path) (debugger : σ)
    (commands : List Command) : State σ :=
  Meeting.run (Client.Session.turn backend) (Server.Session.turn (Probe.engine isFile))
    (turns commands.length)
    (.start (.start binary debugger commands) .start)

end DebugBridge.Bridge
