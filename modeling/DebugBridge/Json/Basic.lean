import DebugBridge.Number.Binary64

/-!
JSON values.

An object keeps its members in the order in which they stand in the text, repeated keys included:
what a repeated key means is for the reader of a shape to say. `canonical` is the form in which a
result is kept and written, with sorted keys of which the last occurrence counts.

* `eq_of_same`, `same_refl`: the comparison `same` decides equality.
-/

namespace DebugBridge

/-- A number: a natural number below `2 ^ 64`, a negative one given by its magnitude of at most
`2 ^ 63`, or a double. -/
inductive Json.Number where
  | natural (n : UInt64)
  | negative (magnitude : UInt64)
  | binary (x : Binary64)
deriving DecidableEq, Repr

inductive Json where
  | null
  | bool (b : Bool)
  | number (n : Json.Number)
  | string (s : String)
  | array (items : List Json)
  | object (members : List (String × Json))
deriving Repr

namespace Json

instance : Inhabited Json := ⟨.null⟩

def natural (n : UInt64) : Json := .number (.natural n)

/-- Octets as an array of small numbers. -/
def octets (data : List UInt8) : Json :=
  .array (data.map fun octet => .natural octet.toUInt64)

def optional {α : Type} (write : α → Json) : Option α → Json
  | none => .null
  | some a => write a

/-! ## Equality -/

mutual
def same : Json → Json → Bool
  | .null, .null => true
  | .bool a, .bool b => a == b
  | .number a, .number b => a == b
  | .string a, .string b => a == b
  | .array a, .array b => sameItems a b
  | .object a, .object b => sameMembers a b
  | _, _ => false

def sameItems : List Json → List Json → Bool
  | [], [] => true
  | a :: as, b :: bs => same a b && sameItems as bs
  | _, _ => false

def sameMembers : List (String × Json) → List (String × Json) → Bool
  | [], [] => true
  | (k, a) :: as, (l, b) :: bs => k == l && same a b && sameMembers as bs
  | _, _ => false
end

mutual
theorem eq_of_same {a b : Json} (equal : same a b = true) : a = b := by
  cases a <;> cases b <;> simp only [same, beq_iff_eq, Bool.false_eq_true] at equal
  case null.null => rfl
  case array.array => rw [eq_of_sameItems equal]
  case object.object => rw [eq_of_sameMembers equal]
  all_goals rw [equal]

theorem eq_of_sameItems {a b : List Json} (equal : sameItems a b = true) : a = b := by
  cases a <;> cases b <;>
    simp only [sameItems, Bool.and_eq_true, Bool.false_eq_true] at equal
  case nil.nil => rfl
  case cons.cons => rw [eq_of_same equal.1, eq_of_sameItems equal.2]

theorem eq_of_sameMembers {a b : List (String × Json)} (equal : sameMembers a b = true) :
    a = b := by
  cases a with
  | nil => cases b <;> simp_all [sameMembers]
  | cons first as =>
    obtain ⟨k, v⟩ := first
    cases b with
    | nil => simp [sameMembers] at equal
    | cons second bs =>
      obtain ⟨l, w⟩ := second
      simp only [sameMembers, Bool.and_eq_true, beq_iff_eq] at equal
      rw [equal.1.1, eq_of_same equal.1.2, eq_of_sameMembers equal.2]
end

mutual
theorem same_refl (a : Json) : same a a = true := by
  cases a <;> simp only [same, beq_self_eq_true]
  case array items => exact sameItems_refl items
  case object members => exact sameMembers_refl members

theorem sameItems_refl (a : List Json) : sameItems a a = true := by
  cases a with
  | nil => rfl
  | cons item rest => simp only [sameItems, same_refl item, sameItems_refl rest, Bool.and_self]

theorem sameMembers_refl (a : List (String × Json)) : sameMembers a a = true := by
  cases a with
  | nil => rfl
  | cons first rest =>
    obtain ⟨key, value⟩ := first
    simp only [sameMembers, beq_self_eq_true, same_refl value, sameMembers_refl rest,
      Bool.and_self]
end

instance : DecidableEq Json := fun a b =>
  if equal : same a b = true then .isTrue (eq_of_same equal)
  else .isFalse fun h => equal (h ▸ same_refl a)

/-! ## Canonical form -/

/-- A member put into members sorted by key. It takes the place of one with the same key. -/
def insertMember (key : String) (value : Json) : List (String × Json) → List (String × Json)
  | [] => [(key, value)]
  | (k, v) :: rest =>
    if key = k then (key, value) :: rest
    else if key < k then (key, value) :: (k, v) :: rest
    else (k, v) :: insertMember key value rest

/-- Members sorted by key; of a repeated key the last value counts. -/
def sortMembers (members : List (String × Json)) : List (String × Json) :=
  members.foldl (fun sorted member => insertMember member.1 member.2 sorted) []

mutual
/-- Every object inside with its members sorted. -/
def canonical : Json → Json
  | .array items => .array (canonicalItems items)
  | .object members => .object (sortMembers (canonicalMembers members))
  | value => value

def canonicalItems : List Json → List Json
  | [] => []
  | item :: rest => canonical item :: canonicalItems rest

def canonicalMembers : List (String × Json) → List (String × Json)
  | [] => []
  | (key, value) :: rest => (key, canonical value) :: canonicalMembers rest
end

end Json
end DebugBridge
