import DebugBridge.Client.Settings

/-!
The arguments of the program.

An invocation names one action. Host and port may be given by options before and behind the name of
the action, once in each place; those behind it count more, then those before it, then the variables
of the environment, then what is fixed. An option's value follows it, or stands behind an equals
sign. Reading goes from left to right: help or the version is shown as soon as it is asked for,
unless what stands before is wrong. The value of an option that follows it is looked at when the
next option begins, or when everything else has been read.

A port in the environment must be a port wherever no option gives one in its place.
-/

namespace DebugBridge.Cli

/-- What the program can be asked to do. -/
inductive Action where
  | serve
  | stop
  | status
deriving DecidableEq, Repr

namespace Action

def all : List Action := [.serve, .stop, .status]

def name : Action → String
  | .serve => "serve"
  | .stop => "stop"
  | .status => "status"

def ofName? (name : String) : Option Action :=
  all.find? fun action => action.name == name

end Action

/-- What help can be shown about. -/
inductive Topic where
  | program
  | action (action : Action)
  | help
deriving DecidableEq, Repr

/-- What an invocation comes to. `misused` is one that is not understood. -/
inductive Invocation where
  | help (topic : Topic)
  | version
  | misused
  | perform (action : Action) (settings : Settings)
deriving DecidableEq, Repr

/-- The options that take a value. -/
inductive Setting where
  | host
  | port
deriving DecidableEq, Repr

def Setting.ofName? : String → Option Setting
  | "host" => some .host
  | "port" => some .port
  | _ => none

/-- What has been read in one place: the values of options, and an option whose value has not been
looked at or not been read. -/
structure Options where
  host : Option String := none
  port : Option UInt16 := none
  pending : Option (Setting × Option String) := none
deriving DecidableEq, Repr

/-- Why reading ends early. -/
abbrev Reading (α : Type) := Except Invocation α

/-- A port as an option or the environment gives it. Of numbers with a minus sign only zero is
one. -/
def readPort? (text : String) : Option UInt16 :=
  match Settings.readPort text.toList with
  | .ok port => some port
  | .error _ => if Numeral.readNegative? text.toList = some 0 then some 0 else none

namespace Options

def setHost (text : String) (options : Options) : Reading Options :=
  if options.host.isSome then .error .misused else .ok { options with host := some text }

def setPort (text : String) (options : Options) : Reading Options :=
  match options.port, readPort? text with
  | none, some port => .ok { options with port := some port }
  | _, _ => .error .misused

/-- Takes the value of an option. No option is given twice in one place. -/
def set (setting : Setting) (text : String) (options : Options) : Reading Options :=
  match setting with
  | .host => options.setHost text
  | .port => options.setPort text

/-- Looks at the value of the option before. -/
def resolve (options : Options) : Reading Options :=
  match options.pending with
  | none => .ok options
  | some (_, none) => .error .misused
  | some (setting, some text) => { options with pending := none }.set setting text

/-- Whether the next argument is a value, unless it begins an option. -/
def awaitsValue (options : Options) : Bool :=
  match options.pending with
  | some (_, none) => true
  | _ => false

/-- Takes an argument as the value of the option before. -/
def supply (text : String) (options : Options) : Options :=
  { options with pending := options.pending.map fun (setting, _) => (setting, some text) }

/-- Takes an option that begins with two dashes; `topic` is what help is shown about. -/
def long (topic : Topic) (option : List Char) (options : Options) : Reading Options := do
  let options ← options.resolve
  match Text.splitOnce ['='] option with
  | some (name, value) =>
    match Setting.ofName? (String.ofList name) with
    | some setting => options.set setting (String.ofList value)
    | none => .error .misused
  | none =>
    let name := String.ofList option
    if name = "help" then .error (.help topic)
    else if name = "version" ∧ topic = .program then .error .version
    else
      match Setting.ofName? name with
      | some setting => .ok { options with pending := some (setting, none) }
      | none => .error .misused

/-- Takes letters behind one dash. The first ends the reading, whatever it is. -/
def short (topic : Topic) (letters : List Char) (options : Options) : Reading Options := do
  let _ ← options.resolve
  match letters with
  | 'h' :: _ => .error (.help topic)
  | 'V' :: _ => if topic = .program then .error .version else .error .misused
  | _ => .error .misused

end Options

/-- The variables of the environment that count. -/
structure Environment where
  host : Option String
  port : Option String
deriving DecidableEq, Repr

/-- Makes sure of the port that the environment gives in a place where no option does. -/
def Environment.check (environment : Environment) (options : Options) : Reading Unit :=
  match options.port, environment.port with
  | none, some text => if (readPort? text).isSome then .ok () else .error .misused
  | _, _ => .ok ()

/-- The options behind the name of an action. After two dashes nothing may come. -/
def readBehind (action : Action) : Options → List String → Reading Options
  | options, [] => options.resolve
  | options, argument :: rest =>
    match argument.toList with
    | ['-', '-'] => do
      let options ← options.resolve
      if rest.isEmpty then .ok options else .error .misused
    | '-' :: '-' :: option => do readBehind action (← options.long (.action action) option) rest
    | '-' :: letter :: letters => do
      readBehind action (← options.short (.action action) (letter :: letters)) rest
    | _ => if options.awaitsValue then readBehind action (options.supply argument) rest
      else .error .misused

/-- What help is asked for by names. -/
def helpOn : List String → Invocation
  | [] => .help .program
  | [name] =>
    if name = "help" then .help .help
    else
      match Action.ofName? name with
      | some action => .help (.action action)
      | none => .misused
  | _ => .misused

/-- The action that a name and the arguments behind it stand for, given the options before it. -/
def perform (environment : Environment) (before : Options) (action : Action)
    (arguments : List String) : Reading Invocation := do
  let behind ← readBehind action {} arguments
  environment.check behind
  let before ← before.resolve
  environment.check before
  let defaults : Settings := {}
  let host := behind.host.or (before.host.or environment.host)
  let port := behind.port.or (before.port.or (environment.port.bind readPort?))
  return .perform action
    { defaults with host := host.getD defaults.host, port := port.getD defaults.port }

/-- The arguments from the beginning, or behind the options that have been read. -/
def readBefore (environment : Environment) : Options → List String → Reading Invocation
  | _, [] => .error .misused
  | options, argument :: rest =>
    match argument.toList with
    | ['-', '-'] => .error .misused
    | '-' :: '-' :: option => do readBefore environment (← options.long .program option) rest
    | '-' :: letter :: letters => do
      readBefore environment (← options.short .program (letter :: letters)) rest
    | _ =>
      if options.awaitsValue then readBefore environment (options.supply argument) rest
      else if argument = "help" then .ok (helpOn rest)
      else
        match Action.ofName? argument with
        | some action => perform environment options action rest
        | none => .error .misused

/-- What an invocation with arguments comes to. -/
def invocation (environment : Environment) (arguments : List String) : Invocation :=
  match readBefore environment {} arguments with
  | .ok invocation => invocation
  | .error invocation => invocation

end DebugBridge.Cli
