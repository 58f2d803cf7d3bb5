import DebugBridge.Cli.Arguments
import DebugBridge.Text.Terminal

/-!
The texts that the program shows about itself.

Help is set for a terminal: headings are bold and underlined, names of actions and options are bold.
Help on the options quotes the environment, and a value of several lines is indented to the column
of the descriptions. What is printed is the plain text, so a sequence in a value is not printed, and
one that the value leaves open takes the text up to the next name with it.
-/

namespace DebugBridge.Cli

open Text.Terminal (bold boldUnderlined)

def versionText : String := "tether 0.1.0"

def Action.summary : Action → String
  | .serve => "Run the server in the foreground until it is asked to stop"
  | .stop => "Ask a running server to stop"
  | .status => "Report whether a server is reachable"

def helpSummary : String := "Print this message or the help of the given subcommand(s)"

/-- The column at which options are described. -/
def descriptionColumn : Nat := 21

/-- Each line feed followed by blanks up to the column of the descriptions. -/
def indented (text : String) : String :=
  String.ofList <| text.toList.flatMap fun c =>
    if c = '\n' then '\n' :: List.replicate descriptionColumn ' ' else [c]

/-- A variable with its value, which is empty when it is not set. -/
def variableText (name : String) (value : Option String) : String :=
  "[env: " ++ name ++ "=" ++ indented (value.getD "") ++ "]"

/-- The options for host and port, with what the environment says of them. -/
def settingLines (environment : Environment) : List String :=
  let host := variableText "TETHER_HOST" environment.host ++ " [default: 127.0.0.1]"
  let port := variableText "TETHER_PORT" environment.port ++ " [default: 9001]"
  [ "      " ++ bold "--host" ++ " <HOST>  Address the server listens on " ++ host,
    "      " ++ bold "--port" ++ " <PORT>  " ++ port ]

/-- An option that takes no value. -/
def flagLine (short long summary : String) : String :=
  "  " ++ bold short ++ ", " ++ bold long ++ summary

def helpLine : String := flagLine "-h" "--help" "         Print help"

def versionLine : String := flagLine "-V" "--version" "      Print version"

/-- A name and what it stands for, in a column. -/
def commandLine (name summary : String) : String :=
  "  " ++ bold name ++ String.ofList (List.replicate (8 - name.length) ' ') ++ summary

def usageLine (names arguments : String) : String :=
  boldUnderlined "Usage:" ++ " " ++ bold names ++ " " ++ arguments

def programHelp (environment : Environment) : List String :=
  [ "Bridge between a debug-info server and a live debugger", "",
    usageLine "tether" "[OPTIONS] <COMMAND>", "", boldUnderlined "Commands:" ]
  ++ Action.all.map (fun action => commandLine action.name action.summary)
  ++ [commandLine "help" helpSummary, "", boldUnderlined "Options:"]
  ++ settingLines environment ++ [helpLine, versionLine]

def actionHelp (environment : Environment) (action : Action) : List String :=
  [ action.summary, "", usageLine ("tether " ++ action.name) "[OPTIONS]", "",
    boldUnderlined "Options:" ]
  ++ settingLines environment ++ [helpLine]

def helpHelp : List String :=
  [ helpSummary, "", usageLine "tether help" "[COMMAND]...", "", boldUnderlined "Arguments:",
    "  [COMMAND]...  Print help for the subcommand(s)" ]

def helpLines (environment : Environment) : Topic → List String
  | .program => programHelp environment
  | .action action => actionHelp environment action
  | .help => helpHelp

/-- The help on a topic as it is printed, every line ended. -/
def helpText (environment : Environment) (topic : Topic) : String :=
  Text.Terminal.plain (String.join ((helpLines environment topic).map (· ++ "\n")))

end DebugBridge.Cli
