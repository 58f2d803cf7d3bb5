import DebugBridge.Client.Rendering
import DebugBridge.Proofs.Json.Records

/-!
# What is shown of a result

`IsListing` and `AreFunctions` say of a JSON value, member by member, that it is a list of methods
or of functions, and which: names and signatures have to be there, everything else may be left out,
and whatever else is there does not count. Each is what the shape of that kind recognises
(`isListing_iff`, `areFunctions_iff`), so a value is shown as a list exactly when it is one, with a
line for each entry.
-/

namespace DebugBridge

open Json (Shape Fields)
open Json.Fields (Presents)

variable {members : List (String × Json)} {value : Json}

/-! ## Methods -/

namespace MethodEntry

def fields : Fields MethodEntry :=
  mk <$> .required "name" .string <*> .required "signature" .string
    <*> .defaulted "description" (.optional .string) none <*> .defaulted "callable" .bool false
    <*> .defaulted "is_synthetic" .bool false

theorem lawful : fields.Lawful := by
  refine (((((Fields.lawful_required ..).map mk).seq (Fields.lawful_required ..) ?_).seq
    (Fields.lawful_defaulted ..) ?_).seq (Fields.lawful_defaulted ..) ?_).seq
    (Fields.lawful_defaulted ..) ?_
  all_goals decide

/-- Members that say what a method is. -/
structure Given (members : List (String × Json)) (entry : MethodEntry) : Prop where
  name : members.lookup "name" = some (.string entry.name)
  signature : members.lookup "signature" = some (.string entry.signature)
  description :
    (members.lookup "description").getD .null = Json.optional .string entry.description
  callable : (members.lookup "callable").getD (.bool false) = .bool entry.callable
  synthetic : (members.lookup "is_synthetic").getD (.bool false) = .bool entry.synthetic

theorem fromMembers_eq_ok_iff {entry : MethodEntry} :
    fields.fromMembers members = .ok entry ↔ Given members entry := by
  simp only [fields, Fields.fromMembers_seq, Fields.fromMembers_map, Fields.fromMembers_string,
    Fields.fromMembers_bool, Fields.fromMembers_optional_string]
  constructor
  · rintro ⟨_, ⟨_, ⟨_, ⟨_, ⟨_, name, rfl⟩, _, signature, rfl⟩, _, description, rfl⟩, _, callable,
      rfl⟩, _, synthetic, rfl⟩
    exact ⟨name, signature, description, callable, synthetic⟩
  · rintro ⟨name, signature, description, callable, synthetic⟩
    exact ⟨_, ⟨_, ⟨_, ⟨_, ⟨_, name, rfl⟩, _, signature, rfl⟩, _, description, rfl⟩, _, callable,
      rfl⟩, _, synthetic, rfl⟩

end MethodEntry

/-- A value that says what a method is. -/
def IsMethod (value : Json) (entry : MethodEntry) : Prop :=
  ∃ members, Presents ["name", "signature", "description", "callable", "is_synthetic"] value members
    ∧ MethodEntry.Given members entry

theorem isMethod_iff {entry : MethodEntry} :
    IsMethod value entry ↔ MethodEntry.shape value = .ok entry := by
  refine Iff.trans ?_ MethodEntry.lawful.record_eq_ok_iff.symm
  simp only [MethodEntry.fromMembers_eq_ok_iff]
  rfl

namespace MethodListing

def fields : Fields MethodListing :=
  mk <$> .required "type_name" .string <*> .required "methods" (.list MethodEntry.shape)

theorem lawful : fields.Lawful :=
  ((Fields.lawful_required ..).map mk).seq (Fields.lawful_required ..) (by decide)

/-- Members that say what the methods of a type are. -/
structure Given (members : List (String × Json)) (listing : MethodListing) : Prop where
  typeName : members.lookup "type_name" = some (.string listing.typeName)
  entries : ∃ values, members.lookup "methods" = some (.array values)
    ∧ List.Forall₂ IsMethod values listing.entries

theorem fromMembers_eq_ok_iff {listing : MethodListing} :
    fields.fromMembers members = .ok listing ↔ Given members listing := by
  simp only [fields, Fields.fromMembers_seq, Fields.fromMembers_map, Fields.fromMembers_required,
    Shape.string_eq_ok_iff, exists_eq_right, Shape.list_eq_ok_iff, ← isMethod_iff]
  constructor
  · rintro ⟨_, ⟨_, typeName, rfl⟩, entries, ⟨_, found, values, rfl, each⟩, rfl⟩
    exact ⟨typeName, values, found, each⟩
  · rintro ⟨typeName, values, found, each⟩
    exact ⟨_, ⟨_, typeName, rfl⟩, _, ⟨_, found, values, rfl, each⟩, rfl⟩

end MethodListing

/-- A value that says what the methods of a type are. -/
def IsListing (value : Json) (listing : MethodListing) : Prop :=
  ∃ members, Presents ["type_name", "methods"] value members
    ∧ MethodListing.Given members listing

theorem isListing_iff {listing : MethodListing} :
    IsListing value listing ↔ MethodListing.shape value = .ok listing := by
  refine Iff.trans ?_ MethodListing.lawful.record_eq_ok_iff.symm
  simp only [MethodListing.fromMembers_eq_ok_iff]
  rfl

/-! ## Functions -/

namespace FunctionEntry

def fields : Fields FunctionEntry :=
  mk <$> .required "name" .string <*> .required "signature" .string
    <*> .defaulted "callable" .bool false <*> .defaulted "module_path" (.list .string) []

theorem lawful : fields.Lawful := by
  refine ((((Fields.lawful_required ..).map mk).seq (Fields.lawful_required ..) ?_).seq
    (Fields.lawful_defaulted ..) ?_).seq (Fields.lawful_defaulted ..) ?_
  all_goals decide

/-- Members that say what a function is. -/
structure Given (members : List (String × Json)) (entry : FunctionEntry) : Prop where
  name : members.lookup "name" = some (.string entry.name)
  signature : members.lookup "signature" = some (.string entry.signature)
  callable : (members.lookup "callable").getD (.bool false) = .bool entry.callable
  modulePath :
    (members.lookup "module_path").getD (.array []) = .array (entry.modulePath.map .string)

theorem fromMembers_eq_ok_iff {entry : FunctionEntry} :
    fields.fromMembers members = .ok entry ↔ Given members entry := by
  simp only [fields, Fields.fromMembers_seq, Fields.fromMembers_map, Fields.fromMembers_string,
    Fields.fromMembers_bool, Fields.fromMembers_list_string]
  constructor
  · rintro ⟨_, ⟨_, ⟨_, ⟨_, name, rfl⟩, _, signature, rfl⟩, _, callable, rfl⟩, _, modulePath, rfl⟩
    exact ⟨name, signature, callable, modulePath⟩
  · rintro ⟨name, signature, callable, modulePath⟩
    exact ⟨_, ⟨_, ⟨_, ⟨_, name, rfl⟩, _, signature, rfl⟩, _, callable, rfl⟩, _, modulePath, rfl⟩

/-- The modules a function is in come before its name, each with a mark behind it. -/
theorem qualifiedName_eq_foldr (entry : FunctionEntry) :
    entry.qualifiedName
      = entry.modulePath.foldr (fun module' name => module' ++ "::" ++ name) entry.name := by
  rw [qualifiedName]
  induction entry.modulePath with
  | nil => exact String.intercalate_singleton
  | cons first later ih =>
    obtain ⟨next, rest, split⟩ : ∃ next rest, later ++ [entry.name] = next :: rest :=
      List.exists_cons_of_ne_nil (by simp)
    rw [List.cons_append, split, String.intercalate_cons_cons, ← split, ih, List.foldr_cons]

end FunctionEntry

/-- A value that says what a function is. -/
def IsFunction (value : Json) (entry : FunctionEntry) : Prop :=
  ∃ members, Presents ["name", "signature", "callable", "module_path"] value members
    ∧ FunctionEntry.Given members entry

theorem isFunction_iff {entry : FunctionEntry} :
    IsFunction value entry ↔ FunctionEntry.shape value = .ok entry := by
  refine Iff.trans ?_ FunctionEntry.lawful.record_eq_ok_iff.symm
  simp only [FunctionEntry.fromMembers_eq_ok_iff]
  rfl

/-- A value that says what each of some functions is. -/
def AreFunctions (value : Json) (entries : List FunctionEntry) : Prop :=
  ∃ values, value = .array values ∧ List.Forall₂ IsFunction values entries

theorem areFunctions_iff {entries : List FunctionEntry} :
    AreFunctions value entries ↔ Shape.list FunctionEntry.shape value = .ok entries := by
  simp only [Shape.list_eq_ok_iff, ← isFunction_iff]
  rfl

/-! ## What is shown -/

namespace Outcome

/-- A result of a shape is shown as it, and another one in the same way for all kinds of command. -/
theorem shown_of_isListing {listing : MethodListing} (is : IsListing value listing) :
    (complete value).render .methods = renderMethods listing := by
  rw [render, renderShaped?, isListing_iff.mp is]
  rfl

theorem shown_of_areFunctions {entries : List FunctionEntry} (are : AreFunctions value entries) :
    (complete value).render .functions = renderFunctions entries := by
  rw [render, renderShaped?, areFunctions_iff.mp are]
  rfl

theorem shown_of_no_listing (none' : ∀ listing, ¬ IsListing value listing) :
    (complete value).render .methods = renderValue value := by
  rw [render, renderShaped?]
  cases made : MethodListing.shape value with
  | error fault => rfl
  | ok listing => exact absurd (isListing_iff.mpr made) (none' listing)

theorem shown_of_no_functions (none' : ∀ entries, ¬ AreFunctions value entries) :
    (complete value).render .functions = renderValue value := by
  rw [render, renderShaped?]
  cases made : Shape.list FunctionEntry.shape value with
  | error fault => rfl
  | ok entries => exact absurd (areFunctions_iff.mpr made) (none' entries)

/-- The methods of the program and the synthetic ones are all methods, each group in order. -/
theorem filter_synthetic_perm (entries : List MethodEntry) :
    (entries.filter (!·.synthetic) ++ entries.filter (·.synthetic)).Perm entries :=
  List.perm_append_comm.trans (List.filter_append_perm (·.synthetic) entries)

/-- A result that lists methods is shown as its methods, those of the program first and each group
in order, and one that lists functions as its functions. Every other result is shown in the same way
for all commands. -/
theorem render_shows :
    (∀ value listing, IsListing value listing → ∃ regular synthetic,
      regular.Sublist listing.entries ∧ (∀ entry ∈ regular, entry.synthetic = false)
        ∧ synthetic.Sublist listing.entries ∧ (∀ entry ∈ synthetic, entry.synthetic = true)
        ∧ (regular ++ synthetic).Perm listing.entries
        ∧ (complete value).render .methods
          = "Methods for " ++ listing.typeName ++ ":"
            ++ (if regular = [] then "\n  (no methods found)"
              else String.join (regular.map fun entry => "\n  - " ++ entry.signature
                ++ if entry.callable then " (callable)" else " (not callable)"))
            ++ (if synthetic = [] then ""
              else "\n\nSynthetic methods (debug helpers):"
                ++ String.join (synthetic.map fun entry => "\n  - " ++ entry.signature)))
      ∧ (∀ value entries, AreFunctions value entries →
        (complete value).render .functions
          = if entries = [] then "No functions found"
            else "Found " ++ toString entries.length ++ " function(s):"
              ++ String.join (entries.map fun entry => "\n  "
                ++ entry.modulePath.foldr (fun module' name => module' ++ "::" ++ name) entry.name
                ++ ": " ++ entry.signature
                ++ if entry.callable then " (callable)" else " (not callable)"))
      ∧ (∀ value, (∀ listing, ¬ IsListing value listing) →
        (complete value).render .methods = renderValue value)
      ∧ (∀ value, (∀ entries, ¬ AreFunctions value entries) →
        (complete value).render .functions = renderValue value)
      ∧ (∀ value kind, kind ≠ .methods → kind ≠ .functions →
        (complete value).render kind = renderValue value)
      ∧ ∀ error kind, (failed error).render kind = "Error: " ++ error := by
  refine ⟨fun value listing is => ?_, fun value entries are => ?_,
    fun value => shown_of_no_listing, fun value => shown_of_no_functions, ?_,
    fun error kind => rfl⟩
  · refine ⟨listing.entries.filter (!·.synthetic), listing.entries.filter (·.synthetic),
      List.filter_sublist, fun entry present => ?_, List.filter_sublist,
      fun entry present => (List.mem_filter.mp present).2, filter_synthetic_perm _, ?_⟩
    · simpa using (List.mem_filter.mp present).2
    · rw [shown_of_isListing is, renderMethods]
      simp only [List.isEmpty_iff]
      rfl
  · have lines : functionLine = fun entry : FunctionEntry => "\n  "
        ++ entry.modulePath.foldr (fun module' name => module' ++ "::" ++ name) entry.name
        ++ ": " ++ entry.signature
        ++ if entry.callable then " (callable)" else " (not callable)" := by
      funext entry
      rw [functionLine, FunctionEntry.qualifiedName_eq_foldr]
      rfl
    rw [shown_of_areFunctions are, renderFunctions, lines]
    simp only [List.isEmpty_iff]
  · intro value kind noMethods noFunctions
    cases kind with
    | methods => exact absurd rfl noMethods
    | functions => exact absurd rfl noFunctions
    | _ => rfl

/-- A type with a method that is only computed, one that says nothing but its name and signature,
and members that are not looked at. -/
def point : Json :=
  .object [("methods", .array [
      .object [("callable", .bool true), ("is_synthetic", .bool true), ("name", .string "as_hex"),
        ("signature", .string "as_hex()")],
      .object [("name", .string "len"), ("signature", .string "fn len()"),
        ("source", .string "lib.rs")]]),
    ("type_name", .string "Point"), ("version", .null)]

/-- What it says. -/
def pointListing : MethodListing :=
  ⟨"Point", [⟨"as_hex", "as_hex()", none, true, true⟩, ⟨"len", "fn len()", none, false, false⟩]⟩

theorem isListing_point : IsListing point pointListing :=
  ⟨_, .object (by decide), rfl, _, rfl,
    .cons ⟨_, .object (by decide), rfl, rfl, rfl, rfl, rfl⟩
      (.cons ⟨_, .object (by decide), rfl, rfl, rfl, rfl, rfl⟩ .nil)⟩

theorem render_shows_point :
    (complete point).render .methods = "Methods for Point:\n  - fn len() (not callable)\n\n"
        ++ "Synthetic methods (debug helpers):\n  - as_hex()"
      ∧ (∃ regular synthetic : List MethodEntry, (∀ entry ∈ regular, entry.synthetic = false)
        ∧ (∀ entry ∈ synthetic, entry.synthetic = true)
        ∧ (regular ++ synthetic).Perm pointListing.entries)
      ∧ (complete (.array [])).render .functions = "No functions found"
      ∧ (complete (.string "Point")).render .methods = "Point" := by
  refine ⟨by decide, ?_, render_shows.2.1 (.array []) [] ⟨[], rfl, .nil⟩,
    render_shows.2.2.1 (.string "Point") ?_⟩
  · obtain ⟨regular, synthetic, -, regular', -, synthetic', all, -⟩ :=
      render_shows.1 point pointListing isListing_point
    exact ⟨regular, synthetic, regular', synthetic', all⟩
  · rintro listing ⟨_, ⟨⟩, -⟩

end Outcome
end DebugBridge
