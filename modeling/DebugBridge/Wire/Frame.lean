import DebugBridge.Wire.Decoding

/-!
Lines out of a stream of octets.

The octets arrive in chunks. A line ends at a line feed; the line feed and one carriage return
before it do not belong to it. A line may have at most as many octets as the reader's limit says: of
a longer one, the reader takes one octet more than the limit and reports it, and the rest of it is
read as if it were the next line. What is left at the end of the stream is dropped.

To send no octets leaves no chunk. An empty chunk, which only a bare write puts into a stream, looks
like its end to whoever reads it.
-/

namespace DebugBridge

/-! ## Faults -/

/-- What can go wrong between two peers. `io` is a failure of the stream itself, in its own
words. -/
inductive TransportFault where
  | closed
  | io (text : String)
  | tooLong (limit : UInt64)
  | malformed (line : List UInt8) (fault : Json.Fault)
deriving DecidableEq, Repr

namespace TransportFault

def message : TransportFault → String
  | .closed => "connection closed"
  | .io text => "I/O error: " ++ text
  | .tooLong limit => "message size exceeds maximum allowed " ++ toString limit.toNat
  | .malformed line fault =>
    "malformed message " ++ Text.quoted (String.ofList (Utf8.decodeLossy line)) ++ ": "
      ++ fault.message

/-- The fault with what caused it, the outermost first. -/
def chain : TransportFault → List String
  | .io text => [message (.io text), text]
  | .malformed line fault => [message (.malformed line fault), fault.message]
  | fault => [fault.message]

/-- Whether the stream can still be read: a malformed line has been taken whole. -/
def isRecoverable : TransportFault → Bool
  | .malformed .. => true
  | _ => false

/-- What a writer is told when nobody will read. -/
def disconnected : TransportFault :=
  .io "channel disconnected"

end TransportFault

/-- What one attempt to read a message gives. -/
abbrev Incoming := Except TransportFault Message

/-! ## Chunks -/

/-- Octets that have arrived: what is left of the chunk being read, and the chunks behind it. -/
structure Source where
  current : List UInt8
  behind : List (List UInt8)
deriving DecidableEq, Repr, Inhabited

namespace Source

/-- What has arrived when the chunks have been sent one after the other. -/
def ofChunks (chunks : List (List UInt8)) : Source :=
  ⟨[], chunks.filter fun chunk => !chunk.isEmpty⟩

/-- Everything that can still be read, empty chunks disregarded. -/
def octets (source : Source) : List UInt8 :=
  source.current ++ source.behind.flatten

/-- The next chunk takes the place of an exhausted one. -/
def fill : Source → Source
  | ⟨[], chunk :: behind⟩ => ⟨chunk, behind⟩
  | source => source

/-- One read into a buffer: at most the rest of the current chunk. -/
def read (size : Nat) (source : Source) : List UInt8 × Source :=
  let filled := source.fill
  (filled.current.take size, { filled with current := filled.current.drop size })

end Source

/-- The octets up to and with the first line feed, and those after it. -/
def splitLine? (octets : List UInt8) : Option (List UInt8 × List UInt8) :=
  (octets.findIdx? (· == 10)).map fun place => octets.splitAt (place + 1)

/-- Why taking a line ended: at its line feed, at the limit, at an empty chunk, or because all that
had arrived was taken. -/
inductive Taken where
  | line
  | limit
  | emptyChunk
  | everything
deriving DecidableEq, Repr

/-- Takes octets up to and with a line feed, at most `limit` of them, from a chunk of which
`current` is left and the chunks behind it. -/
def takeLine (limit : Nat) (current : List UInt8) (behind : List (List UInt8)) :
    List UInt8 × Taken × Source :=
  let (start, after) := current.splitAt limit
  match splitLine? start with
  | some (line, rest) => (line, .line, ⟨rest ++ after, behind⟩)
  | none =>
    if limit ≤ start.length then (start, .limit, ⟨after, behind⟩)
    else
      match behind with
      | [] => (current, .everything, ⟨[], []⟩)
      | [] :: behind => (current, .emptyChunk, ⟨[], behind⟩)
      | (o :: chunk) :: behind =>
        let (later, reason, source) := takeLine (limit - current.length) (o :: chunk) behind
        (current ++ later, reason, source)

/-- Takes a line from a source; an exhausted chunk is replaced first. -/
def Source.takeLine (limit : Nat) (source : Source) : List UInt8 × Taken × Source :=
  if limit = 0 then ([], .limit, source)
  else
    match source with
    | ⟨[], [] :: behind⟩ => ([], .emptyChunk, ⟨[], behind⟩)
    | ⟨[], chunk :: behind⟩ => DebugBridge.takeLine limit chunk behind
    | ⟨current, behind⟩ => DebugBridge.takeLine limit current behind

/-! ## Messages -/

/-- A line without the carriage return that may stand at its end. -/
def dropReturn (line : List UInt8) : List UInt8 :=
  match line.reverse with
  | 13 :: rest => rest.reverse
  | _ => line

/-- The longest line that a reader takes unless told otherwise: 64 MiB. -/
def defaultLimit : UInt64 := 64 * 1024 * 1024

/-- The message in octets that have been taken for a line. -/
def messageOf (limit : UInt64) (taken : List UInt8) : Incoming :=
  match taken.getLast? with
  | some 10 =>
    let line := dropReturn taken.dropLast
    (Message.decode line).mapError (.malformed line)
  | _ => if limit.toNat < taken.length then .error (.tooLong limit) else .error .closed

/-- Reads one message. The reader takes at most one octet more than a line may have, which is why
the largest limit cannot be used: there is no number above it. -/
def readMessage (limit : UInt64) (source : Source) : Option (Incoming × Source) :=
  if limit.toNat + 1 < UInt64.size then
    let (taken, _, source) := source.takeLine (limit.toNat + 1)
    some (messageOf limit taken, source)
  else none

/-- All that is read from a source up to the first time the connection seems closed; the last is
left out. The first argument bounds the number of messages. -/
def messagesWithin (limit : UInt64) : Nat → Source → Option (List Incoming)
  | 0, _ => some []
  | count + 1, source =>
    match readMessage limit source with
    | none => none
    | some (.error .closed, _) => some []
    | some (incoming, source) => (messagesWithin limit count source).map (incoming :: ·)

/-- Every message takes at least one octet, so there are no more than octets. -/
def messages (limit : UInt64) (source : Source) : Option (List Incoming) :=
  messagesWithin limit (source.octets.length + 1) source

end DebugBridge
