import DebugBridge.Json.Fault

/-!
Reading values of a known shape.

A `Shape α` turns a JSON value into an `α`. `Fields α` describes a record by its fields in order,
and reads it from an object or from an array: in an object fields are found by name, unknown members
are passed over and a field may not be repeated; in an array fields stand in order.

Of several faults in an object the first in the order of its members is reported, and missing fields
only after that, in the order in which the record declares them.
-/

namespace DebugBridge.Json

abbrev Shape (α : Type) := Json → Except ShapeFault α

/-! ## Simple shapes -/

namespace Shape

def mismatch {α : Type} (value : Json) (expected : String) : Except ShapeFault α :=
  .error (.invalidType value.found expected)

def string : Shape String
  | .string s => .ok s
  | value => mismatch value "a string"

def bool : Shape Bool
  | .bool b => .ok b
  | value => mismatch value "a boolean"

/-- A natural number below a limit, described by a name. -/
def naturalBelow (limit : Nat) (name : String) : Shape UInt64
  | .number (.natural n) =>
    if n.toNat < limit then .ok n else .error (.invalidValue (.number (.natural n)) name)
  | .number (.negative m) => .error (.invalidValue (.number (.negative m)) name)
  | value => mismatch value name

/-- An address or a register value. -/
def word : Shape UInt64 := naturalBelow UInt64.size "u64"

/-- A size or an index. -/
def size : Shape UInt64 := naturalBelow UInt64.size "usize"

def octet : Shape UInt8 := fun value =>
  (naturalBelow UInt8.size "u8" value).map UInt64.toUInt8

def list {α : Type} (item : Shape α) : Shape (List α)
  | .array values => values.mapM item
  | value => mismatch value "a sequence"

/-- A value or null. -/
def optional {α : Type} (some : Shape α) : Shape (Option α)
  | .null => .ok none
  | value => (some value).map Option.some

/-- The content of a choice that carries nothing. -/
def unit : Shape Unit
  | .null => .ok ()
  | .object [] => .ok ()
  | value => mismatch value "unit"

/-- A choice by name: the name alone, or an object whose only key is the name. -/
def named : Shape (String × Option Json)
  | .string name => .ok (name, none)
  | .object [(name, content)] => .ok (name, some content)
  | .object _ => .error (.invalidValue .map "map with a single key")
  | value => mismatch value "string or map"

/-- A choice of names that carry nothing. -/
def nameOf {α : Type} (meaning : String → Except ShapeFault α) : Shape α := fun value => do
  let (name, content) ← named value
  let a ← meaning name
  match content with
  | none => .ok a
  | some content => do
    unit content
    .ok a

end Shape

/-! ## Records -/

/-- The inside of a record: members of an object, or items of an array. -/
inductive Body where
  | members (list : List (String × Json))
  | items (list : List Json)
deriving DecidableEq, Repr

/-- The fields of a record, in order. -/
structure Fields (α : Type) where
  /-- The name of every field, with a test of its value. -/
  slots : List (String × (Json → Except ShapeFault Unit))
  /-- The record from members of which each known one has passed its test. -/
  fromMembers : List (String × Json) → Except ShapeFault α
  /-- The record from the front of a list of items, given the fault to report when it is too
  short. -/
  fromItems : ShapeFault → List Json → Except ShapeFault (α × List Json)

namespace Fields

/-- A field. `absent` is its value in an object that leaves it out, `cut` its value in an array that
ends before it. -/
def field {α : Type} (name : String) (shape : Shape α) (absent cut : Option α) : Fields α where
  slots := [(name, fun value => (shape value).map fun _ => ())]
  fromMembers members :=
    match members.lookup name with
    | some value => shape value
    | none => match absent with
      | some a => .ok a
      | none => .error (.missingField name)
  fromItems short
    | value :: rest => (shape value).map (·, rest)
    | [] => match cut with
      | some a => .ok (a, [])
      | none => .error short

/-- A field that has to be there. -/
def required {α : Type} (name : String) (shape : Shape α) : Fields α :=
  field name shape none none

/-- A field that may be null, or left out of an object. -/
def nullable {α : Type} (name : String) (shape : Shape α) : Fields (Option α) :=
  field name (.optional shape) (some none) none

/-- A field with a value for when it is left out. -/
def defaulted {α : Type} (name : String) (shape : Shape α) (value : α) : Fields α :=
  field name shape (some value) (some value)

protected def map {α β : Type} (f : α → β) (fields : Fields α) : Fields β where
  slots := fields.slots
  fromMembers members := (fields.fromMembers members).map f
  fromItems short values := (fields.fromItems short values).map fun (a, rest) => (f a, rest)

/-- The fields of one record before those of another. -/
protected def seq {α β : Type} (first : Fields (α → β)) (second : Fields α) : Fields β where
  slots := first.slots ++ second.slots
  fromMembers members := do
    let f ← first.fromMembers members
    let a ← second.fromMembers members
    .ok (f a)
  fromItems short values := do
    let (f, rest) ← first.fromItems short values
    let (a, rest) ← second.fromItems short rest
    .ok (f a, rest)

instance : Functor Fields where
  map := Fields.map

instance : Seq Fields where
  seq f a := Fields.seq f (a ())

/-- Tests the known members in the order of the text; `before` are the fields that have been
seen. -/
def check (slots : List (String × (Json → Except ShapeFault Unit))) :
    (before : List String) → List (String × Json) → Except ShapeFault Unit
  | _, [] => .ok ()
  | before, (name, value) :: rest =>
    match slots.lookup name with
    | none => check slots before rest
    | some test =>
      if name ∈ before then .error (.duplicateField name)
      else do
        test value
        check slots (name :: before) rest

/-- A count of elements in words. -/
def elements (count : Nat) : String :=
  if count = 1 then "1 element" else toString count ++ " elements"

/-- The record from the inside of an object or array; `name` says what it is. -/
def ofBody {α : Type} (fields : Fields α) (name : String) : Body → Except ShapeFault α
  | .members members => do
    check fields.slots [] members
    fields.fromMembers members
  | .items values => do
    let short := ShapeFault.invalidLength values.length
      (name ++ " with " ++ elements fields.slots.length)
    let (a, rest) ← fields.fromItems short values
    if rest.isEmpty then .ok a
    else .error (.invalidLength values.length
      (elements (values.length - rest.length) ++ " in sequence"))

/-- The record from a value. `expected` is said of a value that is no container. -/
def shapeAs {α : Type} (fields : Fields α) (name expected : String) : Shape α
  | .object members => fields.ofBody name (.members members)
  | .array values => fields.ofBody name (.items values)
  | value => Shape.mismatch value expected

/-- A record with a name of its own. -/
def record {α : Type} (fields : Fields α) (name : String) : Shape α :=
  fields.shapeAs ("struct " ++ name) ("struct " ++ name)

end Fields

/-! ## Tagged choices inside a value -/

/-- The name that one member gives to a choice, with the other members in order. -/
def splitTag {ν : Type} (tag : String) (variant : Shape ν) :
    Option ν → List (String × Json) → Except ShapeFault (ν × List (String × Json))
  | none, [] => .error (.missingField tag)
  | some v, [] => .ok (v, [])
  | seen, (key, value) :: rest =>
    if key = tag then
      match seen with
      | some _ => .error (.duplicateField tag)
      | none => do
        let v ← variant value
        splitTag tag variant (some v) rest
    else do
      let (v, others) ← splitTag tag variant seen rest
      .ok (v, (key, value) :: others)

end DebugBridge.Json
