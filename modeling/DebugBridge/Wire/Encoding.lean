import DebugBridge.Json.Writer
import DebugBridge.Text.Utf8
import DebugBridge.Wire.Message

/-!
Messages as lines.

The members of a message stand in a fixed order: its type, the name of its event if it has one, and
its fields as declared. A field without a value is written as null, never left out. A line is the
text in UTF-8 and a line feed; text inside strings is escaped, so the line feed at the end is the
only one.
-/

namespace DebugBridge

def ArgumentKind.name : ArgumentKind → String
  | .pointer => "Pointer"
  | .integer => "Integer"
  | .bool => "Bool"
  | .float => "Float"
  | .other => "Other"

def Argument.toJson (argument : Argument) : Json :=
  .object [("value", .string argument.value), ("arg_type", .string argument.kind.name)]

def CallResult.toJson : CallResult → Json
  | .register value returnType =>
    .object [("SimpleValue",
      .object [("value", .natural value), ("return_type", .string returnType)])]
  | .buffer address size returnType =>
    .object [("ComplexPointer",
      .object [("address", .natural address), ("size", .natural size),
        ("return_type", .string returnType)])]

/-- The fields of an event, without its name. -/
def Request.fields : Request → List (String × Json)
  | .readMemory address size => [("address", .natural address), ("size", .natural size)]
  | .writeMemory address data => [("address", .natural address), ("data", .octets data)]
  | .readRegister name => [("name", .string name)]
  | .readRegisterByIndex index => [("index", .natural index)]
  | .frameInfo => []
  | .threadInfo => []
  | .baseAddress => []
  | .evaluate expression => [("expr", .string expression)]
  | .variableType name => [("name", .string name)]
  | .allocate size => [("size", .natural size)]
  | .callMethod method receiver arguments returnSize =>
    [("method_address", .natural method), ("base_address", .natural receiver),
      ("args", .array (arguments.map Argument.toJson)),
      ("return_type_size", .optional .natural returnSize)]
  | .callFunction function arguments returnSize =>
    [("function_address", .natural function), ("args", .array (arguments.map Argument.toJson)),
      ("return_type_size", .optional .natural returnSize)]
  | .unknown => []

def Request.members (request : Request) : List (String × Json) :=
  ("event", .string request.name) :: request.fields

/-- The fields of an answer, without its name. -/
def Response.fields : Response → List (String × Json)
  | .memoryData data => [("data", .octets data)]
  | .memoryWritten => []
  | .registerData value => [("value", .natural value)]
  | .frameInfo pc sp fp => [("pc", .natural pc), ("sp", .natural sp), ("fp", .natural fp)]
  | .threadInfo tid name => [("tid", .natural tid), ("name", .optional .string name)]
  | .baseAddress address => [("address", .natural address)]
  | .expressionResult value => [("value", .string value)]
  | .variableType typeName => [("type_name", .optional .string typeName)]
  | .memoryAllocated address => [("address", .natural address)]
  | .methodResult result => [("result", result.toJson)]
  | .functionResult result => [("result", result.toJson)]
  | .error message => [("message", .string message)]

def Response.members (response : Response) : List (String × Json) :=
  ("event", .string response.name) :: response.fields

/-- An answer alone, outside of a message. -/
def Response.text (response : Response) : String :=
  (Json.object response.members).text

namespace Message

/-- The members of a message after its type. -/
def fields : Message → List (String × Json)
  | .init binaryPath => [("binary_path", .string binaryPath)]
  | .initAck => []
  | .command given =>
    [("cmd", .string given.kind.name), ("args", .array (given.arguments.map .string))]
  | .event request => request.members
  | .eventResponse response => response.members
  | .complete result => [("result", result)]
  | .error text => [("error", .string text)]

def toJson (message : Message) : Json :=
  .object (("type", .string message.kind) :: message.fields)

/-- The message as text, without the end of its line. -/
def text (message : Message) : String :=
  message.toJson.text

/-- The octets of the message without the line feed. -/
def payload (message : Message) : List UInt8 :=
  (message.toJson.writeOnto []).reverse

/-- The message as one line, line feed included. -/
def encode (message : Message) : List UInt8 :=
  (10 :: message.toJson.writeOnto []).reverse

end Message
end DebugBridge
