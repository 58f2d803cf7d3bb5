import DebugBridge.Json.Tagged
import DebugBridge.Wire.Message

/-!
Messages from lines.

The `type` of a message is read with the text itself; the rest of the message is shaped when all of
it has been read. Events carry a second tag, `event`, among the members that are left. A tag of an
event may also be its number in the list of names.
-/

namespace DebugBridge

open Json (Shape ShapeFault Fields Body)

/-- The meaning of a name out of a list of known ones. -/
def lookUpName {α : Type} (known : List (String × α)) (name : String) : Except ShapeFault α :=
  match known.lookup name with
  | some a => .ok a
  | none => .error (.unknownVariant name (known.map Prod.fst))

/-! ## Arguments and results of calls -/

def ArgumentKind.ofName (name : String) : ArgumentKind :=
  match name with
  | "Pointer" => .pointer
  | "Integer" => .integer
  | "Bool" => .bool
  | "Float" => .float
  | _ => .other

def ArgumentKind.shape : Shape ArgumentKind :=
  .nameOf fun name => .ok (ofName name)

def Argument.shape : Shape Argument :=
  Fields.record
    (Argument.mk <$> .required "value" .string <*> .required "arg_type" ArgumentKind.shape)
    "MethodArgument"

def CallResult.registerFields : Fields CallResult :=
  .register <$> .required "value" .word <*> .required "return_type" .string

def CallResult.bufferFields : Fields CallResult :=
  .buffer <$> .required "address" .word <*> .required "size" .size
    <*> .required "return_type" .string

def CallResult.shape : Shape CallResult := fun value => do
  let (name, content) ← Shape.named value
  let (fields : Fields CallResult) ←
    lookUpName [("SimpleValue", registerFields), ("ComplexPointer", bufferFields)] name
  match content with
  | some content =>
    fields.shapeAs ("struct variant MethodCallResult::" ++ name) "struct variant" content
  | none => .error (.invalidType .unitVariant "struct variant")

/-! ## Events -/

/-- How the rest of a tagged choice is read: not at all, or as a record. -/
inductive Content (α : Type) where
  | nothing (a : α)
  | fields (record : Fields α)

/-- The content of a choice called `name`. Members beside a choice without content are passed over,
items are not. -/
def Content.ofBody {α : Type} (content : Content α) (name : String) (body : Body) :
    Except ShapeFault α :=
  match content with
  | .fields record => record.ofBody ("struct variant " ++ name) body
  | .nothing a =>
    match body with
    | .members _ => .ok a
    | .items [] => .ok a
    | .items values => .error (.invalidLength values.length "0 elements in sequence")

namespace Request

/-- The known events by name, in the order that numbers them. -/
def contents : List (String × Content Request) :=
  [ ("ReadMemory",
      .fields (.readMemory <$> .required "address" .word <*> .required "size" .size)),
    ("WriteMemory",
      .fields (.writeMemory <$> .required "address" .word <*> .required "data" (.list .octet))),
    ("ReadRegister", .fields (.readRegister <$> .required "name" .string)),
    ("ReadRegisterByIndex", .fields (.readRegisterByIndex <$> .required "index" .size)),
    ("GetFrameInfo", .nothing .frameInfo),
    ("GetThreadInfo", .nothing .threadInfo),
    ("GetBaseAddress", .nothing .baseAddress),
    ("EvaluateLLDBExpression", .fields (.evaluate <$> .required "expr" .string)),
    ("GetVariableType", .fields (.variableType <$> .required "name" .string)),
    ("AllocateMemory", .fields (.allocate <$> .required "size" .size)),
    ("ExecuteMethod",
      .fields (.callMethod <$> .required "method_address" .word
        <*> .required "base_address" .word <*> .required "args" (.list Argument.shape)
        <*> .nullable "return_type_size" .size)),
    ("ExecuteFunction",
      .fields (.callFunction <$> .required "function_address" .word
        <*> .required "args" (.list Argument.shape) <*> .nullable "return_type_size" .size)) ]

/-- Any other name is an event this side does not know. -/
def variant (name : String) : String × Content Request :=
  match contents.lookup name with
  | some content => (name, content)
  | none => ("Unknown", .nothing .unknown)

/-- The tag of an event: a name, or the number of one. -/
def tag : Shape (String × Content Request)
  | .string name => .ok (variant name)
  | .number (.natural n) => .ok ((contents[n.toNat]?).getD ("Unknown", .nothing .unknown))
  | value => Shape.mismatch value "variant identifier"

def ofContent (content : String × Content Request) (body : Body) : Except ShapeFault Request :=
  content.2.ofBody ("EventRequest::" ++ content.1) body

/-- An event among the members of a message. -/
def ofMembers (members : List (String × Json)) : Except ShapeFault Request := do
  let (content, others) ← Json.splitTag "event" tag none members
  ofContent content (.members others)

/-- An event alone in a text. -/
def ofText (text : List UInt8) : Except Json.Fault Request :=
  Json.Read.readText "event" "EventRequest" (fun name => .ok (variant name)) ofContent text

end Request

namespace Response

/-- The answers by name, in the order that numbers them. -/
def contents : List (String × Content Response) :=
  [ ("MemoryData", .fields (.memoryData <$> .required "data" (.list .octet))),
    ("MemoryWritten", .nothing .memoryWritten),
    ("RegisterData", .fields (.registerData <$> .required "value" .word)),
    ("FrameInfo",
      .fields (.frameInfo <$> .required "pc" .word <*> .required "sp" .word
        <*> .required "fp" .word)),
    ("ThreadInfo",
      .fields (.threadInfo <$> .required "tid" .word <*> .nullable "name" .string)),
    ("BaseAddress", .fields (.baseAddress <$> .required "address" .word)),
    ("ExpressionResult", .fields (.expressionResult <$> .required "value" .string)),
    ("VariableTypeResult", .fields (.variableType <$> .nullable "type_name" .string)),
    ("MemoryAllocated", .fields (.memoryAllocated <$> .required "address" .word)),
    ("MethodResult", .fields (.methodResult <$> .required "result" CallResult.shape)),
    ("FunctionResult", .fields (.functionResult <$> .required "result" CallResult.shape)),
    ("Error", .fields (.error <$> .required "message" .string)) ]

def variant (name : String) : Except ShapeFault (String × Content Response) := do
  let content ← lookUpName contents name
  .ok (name, content)

/-- The tag of an answer: a name, or the number of one. -/
def tag : Shape (String × Content Response)
  | .string name => variant name
  | .number (.natural n) =>
    match contents[n.toNat]? with
    | some entry => .ok entry
    | none => .error (.invalidValue (.number (.natural n)) "variant index 0 <= i < 12")
  | value => Shape.mismatch value "variant identifier"

def ofContent (content : String × Content Response) (body : Body) : Except ShapeFault Response :=
  content.2.ofBody ("EventResponse::" ++ content.1) body

/-- An answer among the members of a message. -/
def ofMembers (members : List (String × Json)) : Except ShapeFault Response := do
  let (content, others) ← Json.splitTag "event" tag none members
  ofContent content (.members others)

/-- An answer alone in a text. -/
def ofText (text : List UInt8) : Except Json.Fault Response :=
  Json.Read.readText "event" "EventResponse" variant ofContent text

end Response

/-! ## Messages -/

def CommandKind.shape : Shape CommandKind :=
  .nameOf (lookUpName
    [("eval", .eval), ("print", .print), ("methods", .methods), ("functions", .functions),
      ("shutdown", .shutdown)])

def Command.fields : Fields Command :=
  Command.mk <$> .required "cmd" CommandKind.shape <*> .defaulted "args" (.list .string) []

/-- A result in its canonical form. -/
def resultShape : Shape Json := fun value => .ok value.canonical

namespace Message

/-- How the rest of a message is read when its type is known. Events have to be objects, because
their own tag is one of the members. -/
def readers : List (String × (Body → Except ShapeFault Message)) :=
  let events {α : Type} (type : String) (wrap : α → Message)
      (ofMembers : List (String × Json) → Except ShapeFault α) : Body → Except ShapeFault Message
    | .members members => (ofMembers members).map wrap
    | .items _ => .error (.invalidType .sequence ("struct variant Message::" ++ type))
  [ ("Init",
      (Content.fields (.init <$> .required "binary_path" .string)).ofBody "Message::Init"),
    ("InitAck", (Content.nothing .initAck).ofBody "Message::InitAck"),
    ("Command", fun body => (Command.fields.ofBody "struct Command" body).map .command),
    ("Event", events "Event" .event Request.ofMembers),
    ("EventResponse", events "EventResponse" .eventResponse Response.ofMembers),
    ("Complete",
      (Content.fields (.complete <$> .required "result" resultShape)).ofBody "Message::Complete"),
    ("Error", (Content.fields (.error <$> .required "error" .string)).ofBody "Message::Error") ]

/-- The message of a line, given without the end of the line. -/
def decode (line : List UInt8) : Except Json.Fault Message :=
  Json.Read.readText "type" "Message" (lookUpName readers) (fun read body => read body) line

end Message
end DebugBridge
