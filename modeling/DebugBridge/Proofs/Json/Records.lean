import DebugBridge.Proofs.Json.Unordered

/-!
# What a record is made of

A record is read from an object by the names of its fields, and from an array by their order. The
two are one: an array stands for the members that give its items the names of the fields in order.
What a record is made of is then a matter of looking up names (`record_eq_ok_iff`), and for each
field of what is found under its name.

This holds for records whose fields have different names and the same default in objects and in
arrays; `Lawful` says so without the fields, and is put together as the records are.
-/

namespace DebugBridge.Json

/-! ## Simple shapes -/

namespace Shape

variable {α : Type}

theorem string_eq_ok_iff {value : Json} {s : String} : string value = .ok s ↔ value = .string s := by
  cases value <;> simp [string, mismatch]

theorem bool_eq_ok_iff {value : Json} {b : Bool} : bool value = .ok b ↔ value = .bool b := by
  cases value <;> simp [bool, mismatch]

theorem optional_string_eq_ok_iff {value : Json} {text : Option String} :
    optional string value = .ok text ↔ value = Json.optional .string text := by
  cases value <;> cases text <;> simp [optional, string, mismatch, Json.optional, Except.map]

theorem list_eq_ok_iff {item : Shape α} {value : Json} {list : List α} :
    Shape.list item value = .ok list
      ↔ ∃ values, value = .array values ∧ List.Forall₂ (fun v a => item v = .ok a) values list := by
  cases value with
  | array values =>
    refine Result.mapM_eq_ok_iff.trans ⟨fun each => ⟨values, rfl, each⟩, ?_⟩
    rintro ⟨values', same, each⟩
    cases same
    exact each
  | _ => simp [Shape.list, mismatch]

theorem list_string_eq_ok_iff {value : Json} {list : List String} :
    Shape.list string value = .ok list ↔ value = .array (list.map .string) := by
  simp only [list_eq_ok_iff, string_eq_ok_iff]
  have written : ∀ values, List.Forall₂ (fun v a => v = Json.string a) values list
      ↔ values = list.map .string := fun values => by
    rw [← List.forall₂_map_right_iff (R := Eq), List.forall₂_eq_eq_eq]
  simp only [written, exists_eq_right]

end Shape

/-! ## Names -/

theorem lookup_isSome_iff {γ : Type} {members : List (String × γ)} {name : String} :
    (members.lookup name).isSome = true ↔ name ∈ members.map Prod.fst := by
  induction members with
  | nil => simp
  | cons member members ih =>
    obtain ⟨key, value⟩ := member
    rw [List.lookup_cons, List.map_cons, List.mem_cons]
    by_cases same : name = key
    · simp [same]
    · have other : (name == key) = false := by simpa using same
      simp [other, ih, same]

theorem lookup_zip_eq_none {names : List String} {name : String} (absent : name ∉ names)
    (items : List Json) : (names.zip items).lookup name = none := by
  rw [← Option.not_isSome_iff_eq_none, lookup_isSome_iff]
  intro present
  obtain ⟨member, inside, rfl⟩ := List.mem_map.mp present
  exact absent (List.of_mem_zip inside).1

theorem zip_append_names (names more : List String) (items : List Json) :
    (names ++ more).zip items = names.zip items ++ more.zip (items.drop names.length) := by
  induction names generalizing items with
  | nil => rfl
  | cons name names ih =>
    cases items with
    | nil => simp
    | cons item items => simp [ih]

/-! ## Fields -/

namespace Fields

variable {α β : Type}

def names (fields : Fields α) : List String :=
  fields.slots.map Prod.fst

/-- The record looks at nothing but its fields, a member that is used has passed its test, and an
array is read as the members that its items are under the names of the fields. -/
structure Lawful (fields : Fields α) : Prop where
  isLocal : fields.Local
  tested : ∀ members a, fields.fromMembers members = .ok a →
    ∀ name test value, (name, test) ∈ fields.slots → members.lookup name = some value →
      test value = .ok ()
  positional : ∀ short items a rest, fields.fromItems short items = .ok (a, rest)
    ↔ fields.fromMembers (fields.names.zip items) = .ok a ∧ rest = items.drop fields.names.length

theorem lawful_field (name : String) (shape : Shape α) (absent : Option α) :
    (field name shape absent absent).Lawful where
  isLocal := local_field
  tested := by
    intro members a made name' test value slot found
    cases List.mem_singleton.mp slot
    simp only [field, found] at made
    simp only [made, Result.map_ok]
  positional := by
    intro short items a rest
    cases items with
    | nil => cases absent <;> simp [field, names, eq_comm]
    | cons item items =>
      have here : (field name shape absent absent).fromMembers ([name].zip (item :: items))
          = shape item := by
        simp [field]
      have items' : (field name shape absent absent).fromItems short (item :: items)
          = (shape item).map (·, items) := rfl
      have single : (field name shape absent absent).names = [name] := rfl
      rw [single, here, items', Result.map_eq_ok]
      simp [eq_comm]

theorem lawful_required (name : String) (shape : Shape α) : (required name shape).Lawful :=
  lawful_field name shape none

theorem lawful_defaulted (name : String) (shape : Shape α) (a : α) :
    (defaulted name shape a).Lawful :=
  lawful_field name shape (some a)

theorem Lawful.map {fields : Fields α} (lawful : fields.Lawful) (f : α → β) :
    (f <$> fields).Lawful where
  isLocal := local_map lawful.isLocal f
  tested := by
    intro members b made
    obtain ⟨a, made, -⟩ := Result.map_eq_ok.mp made
    exact lawful.tested members a made
  positional := by
    intro short items b rest
    have items' : (f <$> fields).fromItems short items
        = (fields.fromItems short items).map fun taken => (f taken.1, taken.2) := rfl
    have members' : (f <$> fields).fromMembers (fields.names.zip items)
        = (fields.fromMembers (fields.names.zip items)).map f := rfl
    have same : (f <$> fields).names = fields.names := rfl
    rw [same, items', members', Result.map_eq_ok, Result.map_eq_ok]
    constructor
    · rintro ⟨⟨a, rest'⟩, taken, done⟩
      cases done
      obtain ⟨made, rfl⟩ := (lawful.positional ..).mp taken
      exact ⟨⟨a, made, rfl⟩, rfl⟩
    · rintro ⟨⟨a, made, rfl⟩, rfl⟩
      exact ⟨(a, _), (lawful.positional ..).mpr ⟨made, rfl⟩, rfl⟩

theorem Lawful.seq {first : Fields (α → β)} {second : Fields α} (lawful : first.Lawful)
    (lawful' : second.Lawful) (apart : ∀ name ∈ first.names, name ∉ second.names) :
    (first <*> second).Lawful where
  isLocal := local_seq lawful.isLocal lawful'.isLocal
  tested := by
    intro members b made name test value slot found
    obtain ⟨f, makes, made⟩ := Result.bind_eq_ok.mp made
    obtain ⟨a, makes', -⟩ := Result.bind_eq_ok.mp made
    rcases List.mem_append.mp slot with slot | slot
    · exact lawful.tested members f makes name test value slot found
    · exact lawful'.tested members a makes' name test value slot found
  positional := by
    intro short items b rest
    have both : (first <*> second).names = first.names ++ second.names := List.map_append
    have left : first.fromMembers ((first <*> second).names.zip items)
        = first.fromMembers (first.names.zip items) := by
      refine lawful.isLocal _ _ fun name isField => ?_
      have inside : name ∈ first.names := lookup_isSome_iff.mp isField
      rw [both, zip_append_names, List.lookup_append, lookup_zip_eq_none (apart name inside),
        Option.or_none]
    have right : second.fromMembers ((first <*> second).names.zip items)
        = second.fromMembers (second.names.zip (items.drop first.names.length)) := by
      refine lawful'.isLocal _ _ fun name isField => ?_
      have inside : name ∈ second.names := lookup_isSome_iff.mp isField
      rw [both, zip_append_names, List.lookup_append,
        lookup_zip_eq_none fun inside' => apart name inside' inside, Option.none_or]
    have members' : (first <*> second).fromMembers ((first <*> second).names.zip items)
        = (first.fromMembers ((first <*> second).names.zip items) >>= fun f =>
          second.fromMembers ((first <*> second).names.zip items) >>= fun a => .ok (f a)) := rfl
    have items' : (first <*> second).fromItems short items
        = (first.fromItems short items >>= fun taken =>
          second.fromItems short taken.2 >>= fun taken' => .ok (taken.1 taken'.1, taken'.2)) := rfl
    rw [members', left, right, items']
    simp only [Result.bind_eq_ok]
    constructor
    · rintro ⟨⟨f, between⟩, taken, ⟨a, rest'⟩, taken', done⟩
      cases done
      obtain ⟨made, rfl⟩ := (lawful.positional ..).mp taken
      obtain ⟨made', rfl⟩ := (lawful'.positional ..).mp taken'
      refine ⟨⟨f, made, a, made', rfl⟩, ?_⟩
      rw [List.drop_drop, both, List.length_append]
    · rintro ⟨⟨f, made, a, made', done⟩, rfl⟩
      cases done
      refine ⟨(f, _), (lawful.positional ..).mpr ⟨made, rfl⟩, (a, _),
        (lawful'.positional ..).mpr ⟨made', rfl⟩, ?_⟩
      rw [List.drop_drop, both, List.length_append]

/-! ## Records -/

/-- The members that a value presents to a record with these fields: those of an object, of which
none is a field for the second time, or the items of an array, of which there are not too many. -/
inductive Presents (names : List String) : Json → List (String × Json) → Prop
  | object {members : List (String × Json)} :
      ((members.map Prod.fst).filter (· ∈ names)).Nodup → Presents names (.object members) members
  | array {items : List Json} : items.length ≤ names.length →
      Presents names (.array items) (names.zip items)

/-- The check of an object's members looks for repeated fields, if a record can be made. -/
theorem Lawful.check_eq_ok_iff {fields : Fields α} (lawful : fields.Lawful)
    {members : List (String × Json)} {a : α} (made : fields.fromMembers members = .ok a) :
    check fields.slots [] members = .ok ()
      ↔ ((members.map Prod.fst).filter (· ∈ fields.names)).Nodup := by
  have fieldsAmong : (members.map Prod.fst).filter (· ∈ fields.names)
      = (known fields.slots members).map Prod.fst := by
    rw [List.filter_map, known]
    refine congrArg (List.map Prod.fst) (List.filter_congr fun member _ => ?_)
    rw [Bool.eq_iff_iff, lookup_isSome_iff]
    exact decide_eq_true_iff
  rw [fieldsAmong, Fields.check_eq_ok_iff]
  refine ⟨And.left, fun distinct => ⟨distinct, ?_⟩⟩
  rintro ⟨name, value⟩ present
  refine ⟨List.not_mem_nil, fun test slot => ?_⟩
  have isField : (fields.slots.lookup name).isSome = true := by rw [slot]; rfl
  have found : members.lookup name = some value := by
    rwa [lookup_known isField, lookup_eq_some_iff_mem distinct]
  exact lawful.tested members a made name test value (mem_of_lookup slot) found

/-- A record is made of what its fields find under their names. -/
theorem Lawful.record_eq_ok_iff {fields : Fields α} (lawful : fields.Lawful) {name : String}
    {value : Json} {a : α} :
    fields.record name value = .ok a
      ↔ ∃ members, Presents fields.names value members ∧ fields.fromMembers members = .ok a := by
  constructor
  · intro made
    cases value with
    | object members =>
      obtain ⟨_, checked, made⟩ := Result.bind_eq_ok.mp made
      exact ⟨members, .object ((lawful.check_eq_ok_iff made).mp checked), made⟩
    | array items =>
      obtain ⟨⟨a', rest⟩, taken, made⟩ := Result.bind_eq_ok.mp made
      obtain ⟨made', rfl⟩ := (lawful.positional ..).mp taken
      dsimp only at made
      split at made
      · next short =>
        cases made
        exact ⟨_, .array (List.drop_eq_nil_iff.mp (List.isEmpty_iff.mp short)), made'⟩
      · cases made
    | _ => cases made
  · rintro ⟨members, presents, made⟩
    cases presents with
    | object distinct =>
      exact Result.bind_eq_ok.mpr ⟨(), (lawful.check_eq_ok_iff made).mpr distinct, made⟩
    | @array items short =>
      refine Result.bind_eq_ok.mpr ⟨(a, _), (lawful.positional ..).mpr ⟨made, rfl⟩, ?_⟩
      exact if_pos (List.isEmpty_iff.mpr (List.drop_eq_nil_iff.mpr short))

section Members

variable {members : List (String × Json)}

theorem fromMembers_required {name : String} {shape : Shape α} {a : α} :
    (required name shape).fromMembers members = .ok a
      ↔ ∃ value, members.lookup name = some value ∧ shape value = .ok a := by
  simp only [required, field]
  cases members.lookup name <;> simp

/-- A default is what the shape makes of a value that may stand in for the member. -/
theorem fromMembers_defaulted {name : String} {shape : Shape α} {a stand : α} {value : Json}
    (stands : shape value = .ok stand) :
    (defaulted name shape stand).fromMembers members = .ok a
      ↔ shape ((members.lookup name).getD value) = .ok a := by
  simp only [defaulted, field]
  cases members.lookup name <;> simp [stands]

theorem fromMembers_string {name s : String} :
    (required name Shape.string).fromMembers members = .ok s
      ↔ members.lookup name = some (.string s) := by
  simp only [fromMembers_required, Shape.string_eq_ok_iff, exists_eq_right]

theorem fromMembers_bool {name : String} {stand b : Bool} :
    (defaulted name Shape.bool stand).fromMembers members = .ok b
      ↔ (members.lookup name).getD (.bool stand) = .bool b := by
  have stands : Shape.bool (.bool stand) = .ok stand := rfl
  rw [fromMembers_defaulted stands, Shape.bool_eq_ok_iff]

theorem fromMembers_optional_string {name : String} {text : Option String} :
    (defaulted name (Shape.optional .string) none).fromMembers members = .ok text
      ↔ (members.lookup name).getD .null = Json.optional .string text := by
  have stands : Shape.optional .string .null = .ok none := rfl
  rw [fromMembers_defaulted stands, Shape.optional_string_eq_ok_iff]

theorem fromMembers_list_string {name : String} {list : List String} :
    (defaulted name (Shape.list .string) []).fromMembers members = .ok list
      ↔ (members.lookup name).getD (.array []) = .array (list.map .string) := by
  have stands : Shape.list .string (.array []) = .ok [] := rfl
  rw [fromMembers_defaulted stands, Shape.list_string_eq_ok_iff]

theorem fromMembers_map {fields : Fields α} {f : α → β} {b : β} :
    (f <$> fields).fromMembers members = .ok b
      ↔ ∃ a, fields.fromMembers members = .ok a ∧ f a = b :=
  Result.map_eq_ok

theorem fromMembers_seq {first : Fields (α → β)} {second : Fields α} {b : β} :
    (first <*> second).fromMembers members = .ok b
      ↔ ∃ f, first.fromMembers members = .ok f
        ∧ ∃ a, second.fromMembers members = .ok a ∧ f a = b := by
  refine Result.bind_eq_ok.trans (exists_congr fun f => and_congr_right fun _ => ?_)
  exact Result.bind_eq_ok.trans (by simp)

end Members

end Fields

end DebugBridge.Json
