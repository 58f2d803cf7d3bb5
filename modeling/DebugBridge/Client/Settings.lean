import DebugBridge.Text.Blank
import DebugBridge.Text.Quoted

/-!
Where the server lives, and how hard to try starting it.

Host, port and server program may be given by environment variables; everything else is fixed.
-/

namespace DebugBridge

structure Settings where
  host : String := "127.0.0.1"
  port : UInt16 := 9001
  /-- How long one attempt to reach the server may take, in milliseconds. -/
  probeTimeout : Nat := 1000
  /-- How often a server that has been started is looked for. -/
  startupAttempts : UInt32 := 10
  /-- The pause between two such attempts, in milliseconds. -/
  startupPause : Nat := 500
  /-- The program that is started when no server can be reached. -/
  program : String := "tether"
deriving DecidableEq, Repr

inductive SettingsFault where
  | emptyHost
  | badPort (text : String) (fault : Numeral.Fault)
deriving DecidableEq, Repr

def SettingsFault.chain : SettingsFault → List String
  | .emptyHost => ["TETHER_HOST is set but empty"]
  | .badPort text fault => ["parsing TETHER_PORT=" ++ Text.quoted text, fault.message]

namespace Settings

/-- A port number: decimal, and below `2 ^ 16`. -/
def readPort (text : List Char) : Except Numeral.Fault UInt16 :=
  (Numeral.readUnsigned 10 UInt16.size text).map Nat.toUInt16

/-- The settings that variables give. Blanks around host and port do not count, and a blank program
is as good as none. -/
def ofVariables (lookup : String → Option String) : Except SettingsFault Settings := do
  let defaults : Settings := {}
  let host ←
    match lookup "TETHER_HOST" with
    | none => .ok defaults.host
    | some text =>
      let host := Text.trim text.toList
      if host.isEmpty then .error .emptyHost else .ok (String.ofList host)
  let port ←
    match lookup "TETHER_PORT" with
    | none => .ok defaults.port
    | some text => (readPort (Text.trim text.toList)).mapError (.badPort text)
  let program :=
    match lookup "TETHER_SERVER" with
    | none => defaults.program
    | some text => if (Text.trim text.toList).isEmpty then defaults.program else text
  .ok { defaults with host := host, port := port, program := program }

/-- The address of the server. -/
def address (settings : Settings) : String :=
  settings.host ++ ":" ++ toString settings.port.toNat

end Settings
end DebugBridge
