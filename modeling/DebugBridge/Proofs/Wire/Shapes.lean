import DebugBridge.Proofs.Json.Tagged
import DebugBridge.Proofs.Json.Unordered
import DebugBridge.Wire.Decoding
import DebugBridge.Wire.Encoding

/-!
# Written shapes are recognised

The members that are written for an event, an answer or a message, given to the function that makes
one from members. Between the two lie the defaults, the second tag of events and the named choices
inside of fields, so each kind is looked at by itself.

Results:
1. `Request.ofMembers_members`, `Response.ofMembers_members`: events and answers.
2. `Message.exists_reader`: messages. The reader that the `type` of a message leads to makes the
   message of its members.
3. `Message.resultIs_of_made`: whatever else is recognised, a result is the canonical form of a
   value that was there.
-/

namespace DebugBridge

open Json (Shape Fields Body)

/-! ## Values of fields -/

theorem word_natural (n : UInt64) : Shape.word (.natural n) = .ok n := by
  simp [Shape.word, Shape.naturalBelow, Json.natural, n.toNat_lt]

theorem size_natural (n : UInt64) : Shape.size (.natural n) = .ok n := by
  simp [Shape.size, Shape.naturalBelow, Json.natural, n.toNat_lt]

theorem octet_natural (o : UInt8) : Shape.octet (.natural o.toUInt64) = .ok o := by
  simp [Shape.octet, Shape.naturalBelow, Json.natural, o.toNat_lt]

theorem list_octets (data : List UInt8) : Shape.list .octet (.octets data) = .ok data :=
  Result.mapM_map fun o _ => octet_natural o

theorem list_strings (list : List String) :
    Shape.list .string (.array (list.map .string)) = .ok list :=
  Result.mapM_map fun _ _ => rfl

theorem optional_size (size : Option UInt64) :
    Shape.optional .size (.optional .natural size) = .ok size := by
  cases size with
  | none => rfl
  | some n =>
    show (Shape.size (.natural n)).map some = _
    rw [size_natural]
    rfl

theorem optional_string (text : Option String) :
    Shape.optional .string (.optional .string text) = .ok text := by
  cases text <;> rfl

/-! ## Records -/

attribute [local simp] Functor.map Seq.seq Fields.map Fields.seq Fields.required Fields.nullable
  Fields.defaulted Fields.field Fields.check Fields.ofBody Fields.shapeAs Fields.record
  List.lookup_cons word_natural size_natural list_octets list_strings optional_size optional_string
  Shape.string Shape.named Shape.nameOf lookUpName Json.splitTag Content.ofBody

theorem Argument.shape_toJson (argument : Argument) :
    Argument.shape argument.toJson = .ok argument := by
  obtain ⟨value, kind⟩ := argument
  cases kind <;>
    simp [Argument.shape, Argument.toJson, ArgumentKind.shape, ArgumentKind.name,
      ArgumentKind.ofName]

theorem list_arguments (list : List Argument) :
    Shape.list Argument.shape (.array (list.map Argument.toJson)) = .ok list :=
  Result.mapM_map fun argument _ => argument.shape_toJson

theorem CallResult.shape_toJson (result : CallResult) :
    CallResult.shape result.toJson = .ok result := by
  cases result with
  | register value returnType =>
    simp [CallResult.shape, CallResult.toJson, CallResult.registerFields]
  | buffer address size returnType =>
    simp [CallResult.shape, CallResult.toJson, CallResult.bufferFields]

attribute [local simp] list_arguments CallResult.shape_toJson

/-- An event is recognised among the members that are written for it. -/
theorem Request.ofMembers_members (request : Request) :
    Request.ofMembers request.members = .ok request := by
  cases request <;>
    simp [Request.ofMembers, Request.members, Request.name, Request.fields, Request.tag,
      Request.variant, Request.contents, Request.ofContent]

/-- An answer is recognised among the members that are written for it. -/
theorem Response.ofMembers_members (response : Response) :
    Response.ofMembers response.members = .ok response := by
  cases response <;>
    simp [Response.ofMembers, Response.members, Response.name, Response.fields, Response.tag,
      Response.variant, Response.contents, Response.ofContent]

attribute [local simp] Request.ofMembers_members Response.ofMembers_members

theorem CommandKind.shape_name (kind : CommandKind) :
    CommandKind.shape (.string kind.name) = .ok kind := by
  cases kind <;> simp [CommandKind.shape, CommandKind.name]

/-! ## Messages -/

/-- A test of the result that a message carries, if it carries one. -/
def Message.resultIs (test : Json → Bool) : Message → Bool
  | .complete result => test result
  | _ => true

/-- The reader for the type of a message makes the message of its members. Results are in canonical
form after it, so they have to be before. -/
theorem Message.exists_reader {message : Message}
    (sorted : message.resultIs Json.isSorted = true) :
    ∃ read, lookUpName Message.readers message.kind = .ok read
      ∧ read (.members message.fields) = .ok message := by
  cases message with
  | init binaryPath =>
    exact ⟨_, by simp [Message.kind, Message.readers]; rfl, by simp [Message.fields]⟩
  | initAck =>
    exact ⟨_, by simp [Message.kind, Message.readers]; rfl, by simp⟩
  | command given =>
    exact ⟨_, by simp [Message.kind, Message.readers]; rfl,
      by simp [Message.fields, Command.fields, CommandKind.shape_name]⟩
  | event request =>
    exact ⟨_, by simp [Message.kind, Message.readers]; rfl, by simp [Message.fields]⟩
  | eventResponse response =>
    exact ⟨_, by simp [Message.kind, Message.readers]; rfl, by simp [Message.fields]⟩
  | complete result =>
    exact ⟨_, by simp [Message.kind, Message.readers]; rfl,
      by simp [Message.fields, resultShape, Json.canonical_eq_self sorted]⟩
  | error text =>
    exact ⟨_, by simp [Message.kind, Message.readers]; rfl, by simp [Message.fields]⟩

/-! ## What a record is made of -/

/-- A record that is made from another one is made from the same body. -/
theorem ofBody_map {α β : Type} {f : α → β} {fields : Fields α} {name : String} {body : Body}
    {b : β} (made : (f <$> fields).ofBody name body = .ok b) :
    ∃ a, fields.ofBody name body = .ok a ∧ b = f a := by
  cases body with
  | members list =>
    obtain ⟨_, checked, made⟩ := Result.bind_eq_ok.mp made
    obtain ⟨a, found, rfl⟩ := Result.map_eq_ok.mp made
    refine ⟨a, ?_, rfl⟩
    exact Result.bind_eq_ok.mpr ⟨_, checked, found⟩
  | items list =>
    obtain ⟨⟨b', behind⟩, made, ended⟩ := Result.bind_eq_ok.mp made
    obtain ⟨⟨a, behind'⟩, found, same⟩ := Result.map_eq_ok.mp made
    cases same
    dsimp only at ended
    split at ended
    · next isEmpty =>
      cases ended
      refine ⟨a, Result.bind_eq_ok.mpr ⟨_, found, ?_⟩, rfl⟩
      dsimp only
      rw [if_pos isEmpty]
    · cases ended

/-- The only field of a record has been shaped from a value that was there. -/
theorem ofBody_required {α : Type} {field : String} {shape : Shape α} {name : String} {body : Body}
    {a : α} (made : (Fields.required field shape).ofBody name body = .ok a) :
    ∃ value, value ∈ Json.Read.bodyValues body ∧ shape value = .ok a := by
  cases body with
  | members list =>
    obtain ⟨_, -, made⟩ := Result.bind_eq_ok.mp made
    simp only [Fields.required, Fields.field] at made
    split at made
    · next value found =>
      exact ⟨value, List.mem_map.mpr ⟨_, Json.Fields.mem_of_lookup found, rfl⟩, made⟩
    · cases made
  | items list =>
    cases list with
    | nil => cases made
    | cons value rest =>
      obtain ⟨⟨a', behind⟩, made, ended⟩ := Result.bind_eq_ok.mp made
      obtain ⟨a'', shaped, same⟩ := Result.map_eq_ok.mp made
      cases same
      dsimp only at ended
      split at ended
      · cases ended
        exact ⟨value, List.mem_cons_self, shaped⟩
      · cases ended

/-- A choice without content makes nothing but itself. -/
theorem ofBody_nothing {α : Type} {a made : α} {name : String} {body : Body}
    (done : (Content.nothing a).ofBody name body = .ok made) : made = a := by
  cases body with
  | members list => exact (Except.ok.inj done).symm
  | items list =>
    cases list with
    | nil => exact (Except.ok.inj done).symm
    | cons value rest => cases done

/-- Only completions carry a result, and it is the canonical form of a value in the message. -/
theorem Message.resultIs_of_made {test : Json → Bool} {name : String}
    {read : Body → Except Json.ShapeFault Message} {body : Body} {message : Message}
    (known : lookUpName Message.readers name = .ok read) (made : read body = .ok message)
    (inside : ∀ value, value ∈ Json.Read.bodyValues body → test value.canonical = true) :
    message.resultIs test = true := by
  have member : read ∈ Message.readers.map Prod.snd := by
    unfold lookUpName at known
    split at known
    · next found =>
      cases known
      exact List.mem_map.mpr ⟨_, Json.Fields.mem_of_lookup found, rfl⟩
    · cases known
  simp only [Message.readers, List.map_cons, List.map_nil, List.mem_cons, List.not_mem_nil,
    or_false] at member
  -- The seven types, in the order of the table; the last but one is that of completions.
  rcases member with rfl | rfl | rfl | rfl | rfl | rfl | rfl
  · obtain ⟨_, -, rfl⟩ := ofBody_map made
    rfl
  · rw [ofBody_nothing made]
    rfl
  · obtain ⟨_, -, rfl⟩ := Result.map_eq_ok.mp made
    rfl
  · cases body with
    | members list =>
      obtain ⟨_, -, rfl⟩ := Result.map_eq_ok.mp made
      rfl
    | items list => cases made
  · cases body with
    | members list =>
      obtain ⟨_, -, rfl⟩ := Result.map_eq_ok.mp made
      rfl
    | items list => cases made
  · obtain ⟨result, field, rfl⟩ := ofBody_map made
    obtain ⟨value, present, shaped⟩ := ofBody_required field
    cases shaped
    exact inside value present
  · obtain ⟨_, -, rfl⟩ := ofBody_map made
    rfl

end DebugBridge
