import DebugBridge.Client.Network
import DebugBridge.Conversation.Meeting
import DebugBridge.Server.Probe

/-!
A network of one address.

A server with the probe engine may be bound to the address, from the beginning or because it was
started. Each connection to it has a session of its own. The server stops when it is asked to in any
of its sessions; the others go on. On a host without a route, connections do not get through even to
a server that is bound.
-/

namespace DebugBridge

/-- What starting a server comes to: a failure, nothing, a server at the address, or the start of a
program, which never becomes a server here. -/
inductive Launcher where
  | refuse (text : String)
  | idle
  | bind
  | program (name : String)
deriving DecidableEq, Repr

/-- A connection: the server's session, and what lies between it and the client, who is on the
left. -/
structure Link where
  session : Server.Session Probe
  pair : Pair

namespace Link

def fresh : Link := ⟨.start, .fresh⟩

/-- Turns of the server until it has to wait, at most as many as the second argument says. -/
def serve (engine : Engine Probe) : Nat → Link → Link
  | 0, link => link
  | count + 1, link =>
    match Meeting.turn? .right (Server.Session.turn engine) link.session link.pair with
    | some (session, pair) => serve engine count ⟨session, pair⟩
    | none => link

/-- Turns of the server until it has to wait. For each message that has come in it takes no more
than two, and then it may drop its end. -/
def settle (engine : Engine Probe) (link : Link) : Link :=
  link.serve engine (2 * (link.pair.fromLeft.unread.length + 1) + 2)

/-- Whether the server was asked to stop here. -/
def stopped (link : Link) : Bool :=
  match link.session.ending? with
  | some (.ok .shutdown) => true
  | _ => false

end Link

structure Host where
  isFile : String → Bool
  /-- Whether connections get through. -/
  routed : Bool
  /-- The programs that are found by their names. -/
  installed : List String
  launcher : Launcher
  /-- Whether a server is bound to the address. -/
  bound : Bool
  links : List Link
  launches : Nat

namespace Host

/-- The system's words for a connection that does not get through. -/
def unreachable : String := "Network is unreachable (os error 101)"

/-- The system's words for a connection that nobody accepts. -/
def refused : String := "Connection refused (os error 111)"

def engine (host : Host) : Engine Probe := Probe.engine host.isFile

/-- The paths that clients have named, in the order of their connections. -/
def binaries (host : Host) : List String :=
  host.links.filterMap (·.session.binary)

def probe (host : Host) : Bool × Host := (host.routed && host.bound, host)

def launch (host : Host) : Except String Unit × Host :=
  let host := { host with launches := host.launches + 1 }
  match host.launcher with
  | .refuse text => (.error text, host)
  | .idle => (.ok (), host)
  | .bind =>
    if host.bound then (.error "binding server socket", host)
    else (.ok (), { host with bound := true })
  | .program name =>
    if name ∈ host.installed then (.ok (), host)
    else (.error (name ++ " not found in PATH: cannot find binary path"), host)

def connect (host : Host) : Except String Nat × Host :=
  if !host.routed then (.error unreachable, host)
  else if !host.bound then (.error refused, host)
  else (.ok host.links.length, { host with links := host.links ++ [.fresh] })

/-- The host with a connection changed, once the server has done there what it can. A server that is
asked to stop gives up the address; one that was asked before has done so already. -/
def update (number : Nat) (link : Link) (host : Host) : Host :=
  let settled := link.settle host.engine
  { host with
    links := host.links.set number settled
    bound := host.bound && (link.stopped || !settled.stopped) }

def send (number : Nat) (message : Message) (host : Host) : Except TransportFault Unit × Host :=
  match host.links[number]? with
  | none => (.error .disconnected, host)
  | some link =>
    match link.pair.send .left message with
    | .error fault => (.error fault, host)
    | .ok pair => (.ok (), host.update number { link with pair })

/-- The server has done what it can, so there is either something to receive or nothing will ever
come. -/
def receive (number : Nat) (host : Host) : Incoming × Host :=
  match host.links[number]? with
  | none => (.error .closed, host)
  | some link =>
    match link.pair.receive? .left with
    | none => (.error .closed, host)
    | some (incoming, pair) => (incoming, host.update number { link with pair })

def close (number : Nat) (host : Host) : Host :=
  match host.links[number]? with
  | none => host
  | some link => host.update number { link with pair := link.pair.drop .left }

/-- The network that a client on the host sees. -/
def network : Network Host Nat where
  probe := probe
  launch := launch
  wait := id
  connect := connect
  line number := ⟨send number, receive number⟩
  close := close

end Host
end DebugBridge
