import DebugBridge.Debugger.Simulator
import DebugBridge.Debugger.Dispatch
import DebugBridge.Call.Expression
import DebugBridge.Client.Rendering
import DebugBridge.Client.Settings
import DebugBridge.Client.Subcommand
import DebugBridge.Wire.Pipe
import DebugBridge.Server.Session
import DebugBridge.Server.Task
import DebugBridge.Server.Probe
import DebugBridge.Files.Directory
import DebugBridge.Client.Session
import DebugBridge.Conversation.Bridge
import DebugBridge.Client.Manager
import DebugBridge.Conversation.Host
import DebugBridge.Main
import DebugBridge.Proofs.Number.Shortest
import DebugBridge.Proofs.Json.Token
import DebugBridge.Proofs.Json.Canonical
import DebugBridge.Proofs.Json.RoundTrip
import DebugBridge.Proofs.Json.Proper
import DebugBridge.Proofs.Wire.Shapes
import DebugBridge.Proofs.Json.Tagged
import DebugBridge.Proofs.Wire.RoundTrip
import DebugBridge.Proofs.Conversation.Transcript
import DebugBridge.Proofs.Client.Transcript
import DebugBridge.Proofs.Server.Transcript
import DebugBridge.Proofs.Wire.Exchange
import DebugBridge.Proofs.Conversation.Meeting
import DebugBridge.Proofs.Debugger.Answers
import DebugBridge.Proofs.Server.Probe
import DebugBridge.Proofs.Conversation.Transparency
import DebugBridge.Proofs.Wire.Framing
import DebugBridge.Proofs.Server.Conduct
import DebugBridge.Proofs.Conversation.Delivery
import DebugBridge.Proofs.Conversation.Chronicle
import DebugBridge.Proofs.Conversation.Situation
import DebugBridge.Proofs.Conversation.Arrival
import DebugBridge.Proofs.Conversation.TurnTaking
import DebugBridge.Proofs.Conversation.Passage
import DebugBridge.Proofs.Json.Trailing
import DebugBridge.Proofs.Server.Recovery
import DebugBridge.Proofs.Client.Observation
import DebugBridge.Proofs.Client.Upkeep
import DebugBridge.Proofs.Client.OneSession
import DebugBridge.Proofs.Conversation.Settling
import DebugBridge.Proofs.Conversation.Errand
import DebugBridge.Proofs.Client.Caching
import DebugBridge.Proofs.Number.Reading
import DebugBridge.Proofs.Text.Cutting
import DebugBridge.Proofs.Call.Arguments
import DebugBridge.Proofs.Call.ReadBack
import DebugBridge.Proofs.Debugger.Calls
import DebugBridge.Proofs.Debugger.Levels
import DebugBridge.Proofs.Server.Attendance
import DebugBridge.Proofs.Debugger.Memory
import DebugBridge.Proofs.Debugger.Footprint
import DebugBridge.Proofs.Server.Expressions
import DebugBridge.Proofs.Server.Inquiry
import DebugBridge.Proofs.Wire.Ending
import DebugBridge.Proofs.Number.Literal
import DebugBridge.Proofs.Call.Rendering
import DebugBridge.Proofs.Text.Spacing
import DebugBridge.Proofs.Server.Grammar
import DebugBridge.Proofs.Json.Spelling
import DebugBridge.Proofs.Json.Unordered
import DebugBridge.Proofs.Json.Rearranging
import DebugBridge.Proofs.Wire.Tolerance
import DebugBridge.Proofs.Debugger.Places
import DebugBridge.Proofs.Call.Acceptance
import DebugBridge.Proofs.Debugger.Mapping
import DebugBridge.Proofs.Debugger.Scratch
import DebugBridge.Proofs.Debugger.Heap
import DebugBridge.Proofs.Debugger.Blocks
import DebugBridge.Proofs.Debugger.Shortage
import DebugBridge.Proofs.Client.Subcommand
import DebugBridge.Proofs.Client.Startup
import DebugBridge.Proofs.Client.Thrift
import DebugBridge.Proofs.Json.Records
import DebugBridge.Proofs.Client.Rendering
import DebugBridge.Proofs.Wire.Limits
import DebugBridge.Proofs.Files.Path
