import DebugBridge.Wire.Encoding
import DebugBridge.Wire.Frame

/-!
Streams in memory, and two connections over a pair of them.

A pipe carries chunks one way. A read waits while nothing has been written and the writing end is
open, which is the answer `none` here; when the writing end is closed, the reader still gets all
that was written, and then the end of the stream. Writing fails once the reading end is closed.

A `Pair` is two pipes in opposite directions, one for what each end sends.
-/

namespace DebugBridge

structure Pipe where
  source : Source
  writerOpen : Bool
  readerOpen : Bool
deriving DecidableEq, Repr

namespace Pipe

def empty : Pipe := ⟨⟨[], []⟩, true, true⟩

/-- The octets that have been written and not read. -/
def unread (pipe : Pipe) : List UInt8 :=
  pipe.source.octets

/-- Adds a chunk. -/
def write (chunk : List UInt8) (pipe : Pipe) : Except TransportFault Pipe :=
  if pipe.readerOpen then
    .ok { pipe with source := ⟨pipe.source.current, pipe.source.behind ++ [chunk]⟩ }
  else .error .disconnected

/-- Whether a read has to wait: the current chunk is exhausted and no other has come. -/
def waits (pipe : Pipe) : Bool :=
  pipe.writerOpen && pipe.source.current.isEmpty && pipe.source.behind.isEmpty

/-- One read into a buffer of the given size. -/
def read? (size : Nat) (pipe : Pipe) : Option (List UInt8 × Pipe) :=
  if pipe.waits then none
  else
    let (taken, source) := pipe.source.read size
    some (taken, { pipe with source := source })

/-- What can be read without waiting: the rest of the current chunk, or the next chunk. -/
def look? (pipe : Pipe) : Option (List UInt8 × Pipe) :=
  if pipe.waits then none
  else
    let source := pipe.source.fill
    some (source.current, { pipe with source := source })

/-- Takes octets that have been looked at. -/
def consume (count : Nat) (pipe : Pipe) : List UInt8 × Pipe :=
  let current := pipe.source.current
  (current.take count, { pipe with source := ⟨current.drop count, pipe.source.behind⟩ })

/-- Octets up to and with a line feed, at most `limit` of them. -/
def takeLine? (limit : Nat) (pipe : Pipe) : Option (List UInt8 × Pipe) :=
  match pipe.source.takeLine limit with
  | (taken, reason, source) =>
    if reason = .everything ∧ pipe.writerOpen = true then none
    else some (taken, { pipe with source := source })

/-- Octets up to and with a line feed, however many. -/
def line? (pipe : Pipe) : Option (List UInt8 × Pipe) :=
  pipe.takeLine? (pipe.unread.length + 1)

/-- One message, read with the default limit. -/
def receive? (pipe : Pipe) : Option (Incoming × Pipe) :=
  (pipe.takeLine? (defaultLimit.toNat + 1)).map fun (taken, pipe) =>
    (messageOf defaultLimit taken, pipe)

/-- Writes a message as one chunk. -/
def send (message : Message) (pipe : Pipe) : Except TransportFault Pipe :=
  pipe.write message.encode

def closeWriter (pipe : Pipe) : Pipe := { pipe with writerOpen := false }

def closeReader (pipe : Pipe) : Pipe := { pipe with readerOpen := false }

end Pipe

/-- The two ends of a pair of connections. -/
inductive Side where
  | left
  | right
deriving DecidableEq, Repr

/-- Two connections to each other: what the left end sends, and what the right end sends. -/
structure Pair where
  fromLeft : Pipe
  fromRight : Pipe
deriving DecidableEq, Repr

namespace Pair

def fresh : Pair := ⟨.empty, .empty⟩

/-- The pipe that an end writes to. -/
def outgoing (pair : Pair) : Side → Pipe
  | .left => pair.fromLeft
  | .right => pair.fromRight

/-- The pipe that an end reads from. -/
def incoming (pair : Pair) : Side → Pipe
  | .left => pair.fromRight
  | .right => pair.fromLeft

def setOutgoing (pair : Pair) (pipe : Pipe) : Side → Pair
  | .left => { pair with fromLeft := pipe }
  | .right => { pair with fromRight := pipe }

def setIncoming (pair : Pair) (pipe : Pipe) : Side → Pair
  | .left => { pair with fromRight := pipe }
  | .right => { pair with fromLeft := pipe }

/-- Whether an end still exists. -/
def isOpen (pair : Pair) (side : Side) : Bool :=
  (pair.outgoing side).writerOpen

def send (side : Side) (message : Message) (pair : Pair) : Except TransportFault Pair :=
  ((pair.outgoing side).send message).map fun pipe => pair.setOutgoing pipe side

/-- The next message for an end; `none` while there is none and the other end exists. -/
def receive? (side : Side) (pair : Pair) : Option (Incoming × Pair) :=
  (pair.incoming side).receive?.map fun (incoming, pipe) =>
    (incoming, pair.setIncoming pipe side)

/-- Closes both pipes of an end on its side. -/
def drop (side : Side) (pair : Pair) : Pair :=
  let pair := pair.setOutgoing (pair.outgoing side).closeWriter side
  pair.setIncoming (pair.incoming side).closeReader side

end Pair
end DebugBridge
