import DebugBridge.Files.Path

/-!
Which paths name regular files.

A directory is given by its entries. A relative path is followed from the directory segment by
segment: an empty segment and a dot stay where they are, two dots go back, a name goes on to the
entry of that name. Nothing can follow a regular file, not even a slash. What lies outside of the
directory is not known, so an absolute path and one that leaves the directory name nothing. All the
names in a directory are text.
-/

namespace DebugBridge

/-- What a name in a directory stands for. -/
inductive Entry where
  | file
  | directory (entries : List (String × Entry))
deriving Repr

namespace Entry

def isFile : Entry → Bool
  | .file => true
  | .directory _ => false

/-- Follows segments from an entry; `above` are the directories that it lies in, the nearest
first. -/
def follow (above : List Entry) (entry : Entry) : List (List UInt8) → Option Entry
  | [] => some entry
  | segment :: rest =>
    match entry with
    | .file => none
    | .directory entries =>
      if segment = [] ∨ segment = Path.dot then follow above entry rest
      else if segment = Path.dots then
        match above with
        | [] => none
        | parent :: above => follow above parent rest
      else
        match entries.find? fun (name, _) => (Path.ofText name).octets == segment with
        | some (_, next) => follow (entry :: above) next rest
        | none => none

/-- The number of octets that a path must stay below. -/
def pathLimit : Nat := 4096

/-- Whether a path names a regular file in or below a directory. -/
def hasFile (directory : Entry) (path : Path) : Bool :=
  if path.isAbsolute then false
  else if pathLimit ≤ path.octets.length then false
  else
    match follow [] directory (Path.segments path.octets) with
    | some entry => entry.isFile
    | none => false

end Entry
end DebugBridge
