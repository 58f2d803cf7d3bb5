import DebugBridge.Text.Utf8

/-!
Paths.

A path is a string of octets, which need not be text. It is cut at its slashes into segments. Two
paths are the same when their components are: repeated slashes, a slash at the end and a dot inside
do not count, but a dot at the beginning of a relative path does, and two dots are never resolved.
-/

namespace DebugBridge

structure Path where
  octets : List UInt8
deriving DecidableEq, Repr

namespace Path

/-- The path that a text names. -/
def ofText (text : String) : Path := ⟨Utf8.encode text.toList⟩

/-- The text for a path, with U+FFFD for what is no text in it. -/
def text (path : Path) : String := String.ofList (Utf8.decodeLossy path.octets)

/-- The path that is named when a path is given by its text. -/
def spelt (path : Path) : Path := ofText path.text

/-- The parts of a path between its slashes; there is always one. -/
def segments : List UInt8 → List (List UInt8)
  | [] => [[]]
  | o :: rest =>
    if o = 0x2F then [] :: segments rest
    else
      match segments rest with
      | [] => [[o]]
      | segment :: later => (o :: segment) :: later

/-- A component of a path: the root, a dot at the beginning, two dots, or a name. -/
inductive Component where
  | root
  | here
  | parent
  | name (name : List UInt8)
deriving DecidableEq, Repr

/-- The segment that is a dot, and the one that is two. -/
def dot : List UInt8 := [0x2E]

def dots : List UInt8 := [0x2E, 0x2E]

/-- What a segment is that does not begin a path. -/
def Component.ofSegment? (segment : List UInt8) : Option Component :=
  if segment = [] ∨ segment = dot then none
  else if segment = dots then some .parent
  else some (.name segment)

/-- What the first segment of a path is. The segment before a slash that begins the path is
empty. -/
def Component.ofFirst? (absolute : Bool) (segment : List UInt8) : Option Component :=
  if absolute then some .root
  else if segment = dot then some .here
  else ofSegment? segment

/-- Whether a path begins at the root. -/
def isAbsolute (path : Path) : Bool :=
  path.octets.head? == some 0x2F

def components (path : Path) : List Component :=
  match segments path.octets with
  | [] => []
  | first :: rest =>
    (Component.ofFirst? path.isAbsolute first).toList ++ rest.filterMap Component.ofSegment?

/-- Whether two paths have the same components. -/
def same (left right : Path) : Bool :=
  left.components == right.components

end Path
end DebugBridge
