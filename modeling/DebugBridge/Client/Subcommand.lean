import DebugBridge.Text.Blank
import DebugBridge.Text.Quoted
import DebugBridge.Wire.Message

/-!
What a user can type.

The first word of a line names the subcommand, in full or by its first letter. The expression of a
subcommand that takes one is the rest of the line without the blanks around it, as one argument;
`functions` takes every word of the rest as an argument of its own, and `status` takes nothing.
-/

namespace DebugBridge

inductive Subcommand where
  | eval (expression : String)
  | print (expression : String)
  | methods (expression : String)
  | functions (patterns : List String)
  | status
deriving DecidableEq, Repr

inductive SubcommandFault where
  | empty
  | unknown (name : String)
  | missingExpression (kind : CommandKind)
deriving DecidableEq, Repr

def SubcommandFault.message : SubcommandFault → String
  | .empty => "missing subcommand"
  | .unknown name => "unknown subcommand " ++ Text.quoted name
  | .missingExpression kind => kind.name ++ " requires an expression"

namespace Subcommand

/-- The first word of a line, and the rest without the blanks around it. -/
def splitName (line : List Char) : List Char × List Char :=
  let line := Text.trim line
  match Text.splitAtBlank line with
  | some (name, rest) => (name, Text.trim rest)
  | none => (line, [])

/-- The expression of a command that needs one. -/
def expression (kind : CommandKind) (rest : List Char) : Except SubcommandFault String :=
  if rest.isEmpty then .error (.missingExpression kind) else .ok (String.ofList rest)

def parse (line : String) : Except SubcommandFault Subcommand :=
  let (name, rest) := splitName line.toList
  let name := String.ofList name
  if name = "" then .error .empty
  else if name = "eval" ∨ name = "e" then (expression .eval rest).map .eval
  else if name = "print" ∨ name = "p" then (expression .print rest).map .print
  else if name = "methods" ∨ name = "m" then (expression .methods rest).map .methods
  else if name = "functions" ∨ name = "f" then
    .ok (.functions ((Text.words rest).map String.ofList))
  else if name = "status" ∨ name = "s" then .ok .status
  else .error (.unknown name)

/-- The command to send; `status` is settled without a server. -/
def command? : Subcommand → Option Command
  | .eval expression => some ⟨.eval, [expression]⟩
  | .print expression => some ⟨.print, [expression]⟩
  | .methods expression => some ⟨.methods, [expression]⟩
  | .functions patterns => some ⟨.functions, patterns⟩
  | .status => none

/-- What is shown for a line that names no subcommand. -/
def usage : String :=
  String.intercalate "\n" [
    "Usage: tether <subcommand> [args...]",
    "Available commands:",
    "  eval|e <expression>       Evaluate an expression",
    "  print|p <expression>      Pretty print an expression",
    "  methods|m <expression>    List the methods of a type or expression",
    "  functions|f [pattern]     List all functions or search by pattern",
    "  status|s                  Show whether the server is running"]

end Subcommand
end DebugBridge
