import DebugBridge.Json.Reader
import DebugBridge.Json.Shape

/-!
A whole text that is a tagged choice.

The text is an object with a member that names the choice, or an array whose first item does. The
name is looked up as soon as it is read, so a text with an unknown name is refused for that,
whatever follows the name. Everything else about the choice waits until the whole object or array
has been read. `readText` then shapes the rest, and only after that looks for octets behind the
value.
-/

namespace DebugBridge.Json.Read

/-- The name of a choice. What is not a string is described as far as its first token goes. -/
def tagName {ν : Type} (variant : String → Except ShapeFault ν) : Reader ν := fun text =>
  let wrong {α : Type} (found : Found) (rest : Octets) : Except Stop α :=
    misshapen (.invalidType found "variant identifier") rest
  match skipSpace text with
  | [] => breach .endInValue []
  | o :: rest =>
    if o = octet '"' then do
      let (name, rest) ← string rest
      match variant name with
      | .ok v => .ok (v, rest)
      | .error fault => misshapen fault rest
    else if o = octet '[' then wrong .sequence (o :: rest)
    else if o = octet '\x7b' then wrong .map (o :: rest)
    else do
      let (value, rest) ← valueWith none (o :: rest)
      wrong value.found rest

/-- What is known of a tagged object while its members are read: the choice, once it has been named,
and the other members in reverse. -/
structure Gathered (ν : Type) where
  variant : Option ν
  before : List (String × Json)

/-- A member of a tagged object. A second tag is an error as soon as its key has been read; a brace
right behind the key is still taken to belong to the object. -/
def taggedMember {ν : Type} (tag : String) (variant : String → Except ShapeFault ν)
    (value : Reader Json) (gathered : Gathered ν) (key : String) : Reader (Gathered ν) :=
  fun text =>
    if key = tag then
      match gathered.variant with
      | some _ =>
        match skipSpace text with
        | o :: rest =>
          misshapen (.duplicateField tag) (if o = octet '\x7d' then rest else o :: rest)
        | [] => misshapen (.duplicateField tag) []
      | none => do
        let rest ← colon text
        let (v, rest) ← tagName variant rest
        .ok (⟨some v, gathered.before⟩, rest)
    else do
      let (before, rest) ← plainMember value gathered.before key text
      .ok (⟨gathered.variant, before⟩, rest)

/-- A tagged choice: its name and the inside of the object or array without the name. `name` is what
the choice is called when something else stands in its place. -/
def tagged {ν : Type} (tag name : String) (variant : String → Except ShapeFault ν) :
    Reader (ν × Body) := fun text =>
  let value := Read.value (depthLimit - 1)
  match skipSpace text with
  | [] => breach .endInValue []
  | o :: rest =>
    if o = octet '\x7b' then do
      let (gathered, rest) ←
        members (taggedMember tag variant value) (rest.length + 1) true ⟨none, []⟩ rest
      match gathered.variant with
      | some v => .ok ((v, .members gathered.before.reverse), rest)
      | none => misshapen (.missingField tag) rest
    else if o = octet '[' then
      match skipSpace rest with
      | [] => breach .endInList []
      | next :: rest =>
        if next = octet ']' then misshapen (.missingField tag) rest
        else do
          let (v, rest) ← tagName variant (next :: rest)
          let (list, rest) ← items value (rest.length + 1) false rest
          .ok ((v, .items list), rest)
    else do
      let (v, rest) ← valueWith none (o :: rest)
      misshapen (.invalidType v.found ("internally tagged enum " ++ name)) rest

/-- A whole text that is a tagged choice, shaped by `shape`. -/
def readText {ν α : Type} (tag name : String) (variant : String → Except ShapeFault ν)
    (shape : ν → Body → Except ShapeFault α) (text : Octets) : Except Fault α :=
  match tagged tag name variant text with
  | .error stop => .error (stop.fault text)
  | .ok ((v, body), rest) =>
    match shape v body with
    | .error fault => .error (.shape fault none)
    | .ok a =>
      match atEnd rest with
      | .error stop => .error (stop.fault text)
      | .ok () => .ok a

end DebugBridge.Json.Read
