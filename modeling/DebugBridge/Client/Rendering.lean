import DebugBridge.Client.Outcome
import DebugBridge.Json.Shape
import DebugBridge.Wire.Message

/-!
How the outcome of a command is shown.

Two results have a shape of their own: the methods of a type and a list of functions. A result of
another shape is shown member by member if it is an object, and as it is otherwise.
-/

namespace DebugBridge

/-! ## Results with a shape -/

/-- A method of a type. A synthetic one is computed by a helper and not found in the program. -/
structure MethodEntry where
  name : String
  signature : String
  description : Option String
  callable : Bool
  synthetic : Bool
deriving DecidableEq, Repr

structure MethodListing where
  typeName : String
  entries : List MethodEntry
deriving DecidableEq, Repr

structure FunctionEntry where
  name : String
  signature : String
  callable : Bool
  modulePath : List String
deriving DecidableEq, Repr

namespace MethodEntry

def shape : Json.Shape MethodEntry :=
  Json.Fields.record
    (mk <$> .required "name" .string <*> .required "signature" .string
      <*> .defaulted "description" (.optional .string) none <*> .defaulted "callable" .bool false
      <*> .defaulted "is_synthetic" .bool false)
    "MethodInfo"

end MethodEntry

namespace MethodListing

def shape : Json.Shape MethodListing :=
  Json.Fields.record
    (mk <$> .required "type_name" .string <*> .required "methods" (.list MethodEntry.shape))
    "MethodList"

end MethodListing

namespace FunctionEntry

def shape : Json.Shape FunctionEntry :=
  Json.Fields.record
    (mk <$> .required "name" .string <*> .required "signature" .string
      <*> .defaulted "callable" .bool false <*> .defaulted "module_path" (.list .string) [])
    "FunctionInfo"

/-- The name behind the modules it is in. -/
def qualifiedName (entry : FunctionEntry) : String :=
  String.intercalate "::" (entry.modulePath ++ [entry.name])

end FunctionEntry

/-! ## Text -/

namespace Outcome

def callableMark (callable : Bool) : String :=
  if callable then " (callable)" else " (not callable)"

def methodLine (entry : MethodEntry) : String :=
  "\n  - " ++ entry.signature ++ callableMark entry.callable

def syntheticLine (entry : MethodEntry) : String :=
  "\n  - " ++ entry.signature

/-- Methods of the program first, in order, then the synthetic ones under a heading. -/
def renderMethods (listing : MethodListing) : String :=
  let regular := listing.entries.filter (!·.synthetic)
  let synthetic := listing.entries.filter (·.synthetic)
  let header := "Methods for " ++ listing.typeName ++ ":"
  let body := if regular.isEmpty then "\n  (no methods found)"
    else String.join (regular.map methodLine)
  let helpers := if synthetic.isEmpty then ""
    else "\n\nSynthetic methods (debug helpers):" ++ String.join (synthetic.map syntheticLine)
  header ++ body ++ helpers

def functionLine (entry : FunctionEntry) : String :=
  "\n  " ++ entry.qualifiedName ++ ": " ++ entry.signature ++ callableMark entry.callable

def renderFunctions (entries : List FunctionEntry) : String :=
  if entries.isEmpty then "No functions found"
  else
    "Found " ++ toString entries.length ++ " function(s):"
      ++ String.join (entries.map functionLine)

/-- A string as it is, anything else as JSON. -/
def scalar : Json → String
  | .string s => s
  | value => value.text

/-- An object member by member, anything else as a scalar. -/
def renderValue : Json → String
  | .object members =>
    String.intercalate "\n" (members.map fun (key, value) => key ++ ": " ++ scalar value)
  | value => scalar value

/-- The text of a result that has the shape its command calls for. -/
def renderShaped? (kind : CommandKind) (result : Json) : Option String :=
  match kind with
  | .methods => (MethodListing.shape result).toOption.map renderMethods
  | .functions => (Json.Shape.list FunctionEntry.shape result).toOption.map renderFunctions
  | _ => none

def render (kind : CommandKind) : Outcome → String
  | .complete result => (renderShaped? kind result).getD (renderValue result)
  | .failed error => "Error: " ++ error

end Outcome
end DebugBridge
