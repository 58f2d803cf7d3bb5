import DebugBridge.Proofs.Json.Rearranging
import DebugBridge.Proofs.Wire.Shapes

/-!
# What a message does not depend on

A line that is an object says the same message whatever the order of its members, the white space
between its tokens and the members that mean nothing to it. So a newer peer may add members of its
own. A message looks for its tag, an event for a second one, and what is left is either a record,
which looks its fields up, or nothing at all.

Results:
1. `Request.ofMembers_perm`, `Response.ofMembers_perm`: events and answers.
2. `Message.reader_perm`: the members of a message behind its type.
3. `Message.decode_tolerates`: lines.
-/

namespace DebugBridge

open Json (Shape ShapeFault Fields Body)

/-! ## Records -/

namespace Json.Fields

variable {α β γ : Type} {p : α → Prop}

/-- A record that looks at its fields only, and makes what has a property. -/
structure Makes (fields : Fields α) (p : α → Prop) : Prop where
  isLocal : fields.Local
  holds : ∀ members a, fields.fromMembers members = .ok a → p a

theorem makes_field {name : String} {shape : Shape α} {absent cut : Option α}
    (all : ∀ a, p a) : (field name shape absent cut).Makes p :=
  ⟨local_field, fun _ a _ => all a⟩

theorem makes_map {f : β → α} {fields : Fields β} (makes : fields.Makes fun b => p (f b)) :
    (f <$> fields).Makes p where
  isLocal := local_map makes.isLocal f
  holds := by
    intro members a made
    obtain ⟨b, found, rfl⟩ := Result.map_eq_ok.mp made
    exact makes.holds members b found

theorem makes_seq {first : Fields (β → α)} {second : Fields β}
    (makes : first.Makes fun f => ∀ b, p (f b)) (isLocal : second.Local) :
    (first <*> second).Makes p where
  isLocal := local_seq makes.isLocal isLocal
  holds := by
    intro members a made
    obtain ⟨f, found, later⟩ := Result.bind_eq_ok.mp made
    obtain ⟨b, -, same⟩ := Result.bind_eq_ok.mp later
    cases same
    exact makes.holds members f found b

end Json.Fields

/-! ## Contents -/

/-- A content that looks at no members but those that what it makes has as its keys. -/
def Content.Tolerant {α : Type} (keys : α → List String) : Content α → Prop
  | .nothing _ => True
  | .fields record => record.Makes fun a => ∀ name, name ∈ record.slots.map Prod.fst → name ∈ keys a

section

variable {α : Type} {keys : α → List String} {members members' extra : List (String × Json)} {a : α}

theorem Content.ofBody_perm {content : Content α} (tolerant : content.Tolerant keys) {name : String}
    (made : content.ofBody name (.members members) = .ok a)
    (order : members'.Perm (members ++ extra))
    (free : ∀ entry : String × Json, entry ∈ extra → entry.1 ∉ keys a) :
    content.ofBody name (.members members') = .ok a := by
  cases content with
  | nothing => exact made
  | fields record =>
    have shaped : record.ofBody ("struct variant " ++ name) (.members members) = .ok a := made
    obtain ⟨_, -, found⟩ := Result.bind_eq_ok.mp made
    exact Fields.ofBody_perm tolerant.isLocal shaped order fun entry present isField =>
      free entry present (tolerant.holds members a found entry.1 isField)

/-- A choice that a member names, with a content for what is left. -/
theorem choice_perm {tag label : String} {variant : Shape (String × Content α)}
    (tolerant : ∀ value content, variant value = .ok content → content.2.Tolerant keys)
    (made : (do
      let (content, others) ← Json.splitTag tag variant none members
      content.2.ofBody (label ++ content.1) (.members others)) = .ok a)
    (order : members'.Perm (members ++ extra))
    (free : ∀ entry : String × Json, entry ∈ extra → entry.1 ∉ tag :: keys a) :
    (do
      let (content, others) ← Json.splitTag tag variant none members'
      content.2.ofBody (label ++ content.1) (.members others)) = .ok a := by
  obtain ⟨⟨content, others⟩, split, made⟩ := Result.bind_eq_ok.mp made
  obtain ⟨value, known, -, -⟩ := Json.splitTag_eq_ok_iff.mp split
  obtain ⟨others', split', order'⟩ := Json.splitTag_perm split order fun entry present same =>
    free entry present (same ▸ List.mem_cons_self)
  rw [split', Result.ok_bind]
  exact Content.ofBody_perm (tolerant value content known) made order' fun entry present isKey =>
    free entry present (List.mem_cons_of_mem tag isKey)

end

/-! ## Events and answers -/

open Json.Fields (makes_field makes_map makes_seq local_field local_map local_seq)

theorem Request.contents_tolerant : ∀ entry, entry ∈ Request.contents →
    entry.2.Tolerant fun request : Request => request.fields.map Prod.fst := by
  simp only [Request.contents, List.forall_mem_cons]
  refine ⟨?_, ?_, ?_, ?_, trivial, trivial, trivial, ?_, ?_, ?_, ?_, ?_,
    List.forall_mem_nil _⟩
  · exact makes_seq (makes_map (makes_field fun _ _ _ h => h)) local_field
  · exact makes_seq (makes_map (makes_field fun _ _ _ h => h)) local_field
  · exact makes_map (makes_field fun _ _ h => h)
  · exact makes_map (makes_field fun _ _ h => h)
  · exact makes_map (makes_field fun _ _ h => h)
  · exact makes_map (makes_field fun _ _ h => h)
  · exact makes_map (makes_field fun _ _ h => h)
  · exact makes_seq (makes_seq (makes_seq (makes_map (makes_field fun _ _ _ _ _ h => h))
      local_field) local_field) local_field
  · exact makes_seq (makes_seq (makes_map (makes_field fun _ _ _ _ h => h)) local_field)
      local_field

theorem Response.contents_tolerant : ∀ entry, entry ∈ Response.contents →
    entry.2.Tolerant fun response : Response => response.fields.map Prod.fst := by
  simp only [Response.contents, List.forall_mem_cons]
  refine ⟨?_, trivial, ?_, ?_, ?_, ?_, ?_, ?_, ?_, ?_, ?_, ?_,
    List.forall_mem_nil _⟩
  · exact makes_map (makes_field fun _ _ h => h)
  · exact makes_map (makes_field fun _ _ h => h)
  · exact makes_seq (makes_seq (makes_map (makes_field fun _ _ _ _ h => h)) local_field)
      local_field
  · exact makes_seq (makes_map (makes_field fun _ _ _ h => h)) local_field
  · exact makes_map (makes_field fun _ _ h => h)
  · exact makes_map (makes_field fun _ _ h => h)
  · exact makes_map (makes_field fun _ _ h => h)
  · exact makes_map (makes_field fun _ _ h => h)
  · exact makes_map (makes_field fun _ _ h => h)
  · exact makes_map (makes_field fun _ _ h => h)
  · exact makes_map (makes_field fun _ _ h => h)

theorem mem_of_lookUpName {α : Type} {known : List (String × α)} {name : String} {a : α}
    (found : lookUpName known name = .ok a) : (name, a) ∈ known := by
  unfold lookUpName at found
  split at found
  · next listed =>
    cases found
    exact Fields.mem_of_lookup listed
  · cases found

theorem Request.tag_tolerant {value : Json} {content : String × Content Request}
    (known : Request.tag value = .ok content) :
    content.2.Tolerant fun request : Request => request.fields.map Prod.fst := by
  unfold Request.tag at known
  split at known
  · cases known
    unfold Request.variant
    split
    · next found => exact Request.contents_tolerant _ (Fields.mem_of_lookup found)
    · trivial
  · next n =>
    cases known
    cases found : Request.contents[n.toNat]? with
    | none => trivial
    | some entry => exact Request.contents_tolerant entry (List.mem_of_getElem? found)
  · cases known

theorem Response.tag_tolerant {value : Json} {content : String × Content Response}
    (known : Response.tag value = .ok content) :
    content.2.Tolerant fun response : Response => response.fields.map Prod.fst := by
  unfold Response.tag at known
  split at known
  · obtain ⟨content, listed, known⟩ := Result.bind_eq_ok.mp known
    cases known
    exact Response.contents_tolerant _ (mem_of_lookUpName listed)
  · split at known
    · next found =>
      cases known
      exact Response.contents_tolerant _ (List.mem_of_getElem? found)
    · cases known
  · cases known

section

variable {members members' extra : List (String × Json)}

theorem Request.ofMembers_perm {request : Request}
    (made : Request.ofMembers members = .ok request) (order : members'.Perm (members ++ extra))
    (free : ∀ entry : String × Json, entry ∈ extra → entry.1 ∉ request.members.map Prod.fst) :
    Request.ofMembers members' = .ok request :=
  choice_perm (fun _ _ => Request.tag_tolerant) made order free

theorem Response.ofMembers_perm {response : Response}
    (made : Response.ofMembers members = .ok response) (order : members'.Perm (members ++ extra))
    (free : ∀ entry : String × Json, entry ∈ extra → entry.1 ∉ response.members.map Prod.fst) :
    Response.ofMembers members' = .ok response :=
  choice_perm (fun _ _ => Response.tag_tolerant) made order free

/-! ## Messages -/

namespace Message

/-- The members of a message behind its type. -/
theorem reader_perm {type : String} {read : Body → Except ShapeFault Message} {message : Message}
    (known : lookUpName readers type = .ok read) (made : read (.members members) = .ok message)
    (order : members'.Perm (members ++ extra))
    (free : ∀ entry : String × Json, entry ∈ extra → entry.1 ∉ message.fields.map Prod.fst) :
    read (.members members') = .ok message := by
  -- Three of the types have a single field.
  have single : ∀ {α : Type} {field label : String} {shape : Shape α} {make : α → Message},
      (∀ a, (make a).fields.map Prod.fst = [field]) →
      (Content.fields (make <$> Fields.required field shape)).ofBody label (.members members)
        = .ok message →
      (Content.fields (make <$> Fields.required field shape)).ofBody label (.members members')
        = .ok message := by
    intro α field label shape make keys made
    have tolerant : (Content.fields (make <$> Fields.required field shape)).Tolerant
        fun message : Message => message.fields.map Prod.fst := by
      refine makes_map (makes_field fun a name isField => ?_)
      show name ∈ (make a).fields.map Prod.fst
      rw [keys a]
      exact isField
    exact Content.ofBody_perm tolerant made order free
  have listed := mem_of_lookUpName known
  simp only [readers, List.mem_cons, Prod.mk.injEq, List.not_mem_nil, or_false] at listed
  -- The seven types, in the order of the table.
  rcases listed with ⟨-, rfl⟩ | ⟨-, rfl⟩ | ⟨-, rfl⟩ | ⟨-, rfl⟩ | ⟨-, rfl⟩ | ⟨-, rfl⟩ | ⟨-, rfl⟩
  · exact single (fun _ => rfl) made
  · exact made
  · obtain ⟨command, shaped, rfl⟩ := Result.map_eq_ok.mp made
    have isLocal : Command.fields.Local := local_seq (local_map local_field Command.mk) local_field
    exact Result.map_eq_ok.mpr ⟨command, Fields.ofBody_perm isLocal shaped order free, rfl⟩
  · obtain ⟨request, found, rfl⟩ := Result.map_eq_ok.mp made
    exact Result.map_eq_ok.mpr ⟨request, Request.ofMembers_perm found order free, rfl⟩
  · obtain ⟨response, found, rfl⟩ := Result.map_eq_ok.mp made
    exact Result.map_eq_ok.mpr ⟨response, Response.ofMembers_perm found order free, rfl⟩
  · exact single (fun _ => rfl) made
  · exact single (fun _ => rfl) made

/-- The keys that mean something in an object that says the message: its type, the name of its event
if it has one, and the fields of its variant. -/
def keys (message : Message) : List String :=
  "type" :: message.fields.map Prod.fst

/-- An event that this side does not know has no fields, so nothing else in it means anything. -/
example : (Message.event .unknown).keys = ["type", "event"] := rfl

/-- The members of a line that says a message, in another order and among others. -/
theorem decode_perm {line line' : List UInt8} {message : Message}
    {list list' extra : List Json.Read.Member} (object : Json.Read.IsObject line list)
    (decoded : decode line = .ok message) (object' : Json.Read.IsObject line' list')
    (order : list'.Perm (list ++ extra))
    (admitted : ∀ member, member ∈ extra → ∃ name, member.Admitted name ∧ name ∉ message.keys) :
    decode line' = .ok message := by
  refine Json.Read.readText_perm object decoded object' order (message.fields.map Prod.fst)
    (fun member present => ?_) fun type read others others' more known made order' free =>
      reader_perm known made order' free
  obtain ⟨name, isMember, free⟩ := admitted member present
  obtain ⟨isType, isField⟩ := not_or.mp (mt List.mem_cons.mpr free)
  exact ⟨name, isMember, isType, isField⟩

open Json.Read (BeginsObject IsObject PartsAt isSpace)

/-- A line that is an object says its message in any order of its members, with any white space
between its tokens and with any more members that mean nothing to the message. A line that says
nothing says nothing in any order of its members either. -/
theorem decode_tolerates :
    (∀ line message, decode line = .ok message → BeginsObject line →
      (∃ list, IsObject line list)
      ∧ (∀ list, IsObject line list →
          ∀ extra : List Json.Read.Member,
            (∀ member, member ∈ extra → ∃ name, member.Admitted name ∧ name ∉ message.keys) →
          ∀ line' list', IsObject line' list' → list'.Perm (list ++ extra) →
            decode line' = .ok message)
      ∧ ∀ front back blanks, line = front ++ back → PartsAt front back →
          (∀ o, o ∈ blanks → isSpace o = true) → decode (front ++ (blanks ++ back)) = .ok message)
    ∧ ∀ line list, IsObject line list → (∀ message, decode line ≠ .ok message) →
        ∀ line' list', IsObject line' list' → list'.Perm list →
          ∀ message, decode line' ≠ .ok message := by
  have none' : ∀ {message : Message}, ∀ member : Json.Read.Member, member ∈ [] →
      ∃ name, member.Admitted name ∧ name ∉ message.keys :=
    fun _ present => absurd present List.not_mem_nil
  refine ⟨fun line message decoded begins => ?_, fun line list object refused line' list' object'
    order message decoded => ?_⟩
  · obtain ⟨list, _, _, _, object, -⟩ := Json.Read.readText_follow begins decoded
    refine ⟨⟨list, object⟩, fun list object extra admitted line' list' object' order =>
      decode_perm object decoded object' order admitted, ?_⟩
    rintro front back blanks rfl parted blank
    exact decode_perm object decoded (object.insert parted blank) (by simp) none'
  · -- A message in the other order would also be there in this one.
    have back : list.Perm (list' ++ []) := by simpa using order.symm
    exact refused message (decode_perm object' decoded object back none')

/-- A member by the texts of its key and its value. -/
def memberOf (key value : String) : Json.Read.Member :=
  ⟨Utf8.encode key.toList, Json.Read.tokens (Utf8.encode value.toList)⟩

/-- A thread without a name. -/
def threadMembers : List Json.Read.Member :=
  [memberOf "\"type\"" "\"EventResponse\"", memberOf "\"event\"" "\"ThreadInfo\"",
    memberOf "\"tid\"" "7"]

def threadLine : List UInt8 :=
  Utf8.encode "\x7b\"type\":\"EventResponse\",\"event\":\"ThreadInfo\",\"tid\":7\x7d".toList

/-- A member of a newer peer. That the name of an event stands inside of it means nothing. -/
def newerMember : Json.Read.Member :=
  memberOf "\"more\"" "[true,\x7b\"event\":2\x7d]"

def newerLine : List UInt8 :=
  Utf8.encode (" \x7b\"tid\" : 7,\"more\":[true ,\x7b\"event\":2\x7d],"
    ++ "\t\"event\":\"ThreadInfo\" , \"type\":\"EventResponse\"\x7d\r").toList

theorem newerMember_admitted : newerMember.Admitted "more" := by
  refine ⟨⟨Utf8.encode "more\"".toList, by decide +kernel, ?_⟩,
    Utf8.encode "[true,\x7b\"event\":2\x7d]".toList,
    .array [.bool true, .object [("event", .natural 2)]], [], ?_, rfl, rfl⟩
  · exact Result.eq_ok_of_toOption (by decide +kernel)
  · exact Result.eq_ok_of_toOption (by decide +kernel)

/-- An event of which a field is missing, with its members in either order. -/
def partMembers : List Json.Read.Member :=
  [memberOf "\"type\"" "\"Event\"", memberOf "\"event\"" "\"ReadRegister\""]

def partLine : List UInt8 :=
  Utf8.encode "\x7b\"type\":\"Event\",\"event\":\"ReadRegister\"\x7d".toList

def swappedLine : List UInt8 :=
  Utf8.encode "\x7b\"event\":\"ReadRegister\",\"type\":\"Event\"\x7d".toList

theorem decode_tolerates_newer :
    decode newerLine = .ok (.eventResponse (.threadInfo 7 none))
      ∧ decode (threadLine.take 8 ++ ([9, 32] ++ threadLine.drop 8))
        = .ok (.eventResponse (.threadInfo 7 none))
      ∧ ∀ message, decode swappedLine ≠ .ok message := by
  have decoded : decode threadLine = .ok (.eventResponse (.threadInfo 7 none)) :=
    Result.eq_ok_of_toOption (by decide +kernel)
  have object : IsObject threadLine threadMembers := by decide +kernel
  obtain ⟨-, rearranged, spaced⟩ := decode_tolerates.1 threadLine _ decoded object.begins
  refine ⟨?_, ?_, ?_⟩
  · refine rearranged threadMembers object [newerMember] ?_ newerLine
      [memberOf "\"tid\"" "7", newerMember, memberOf "\"event\"" "\"ThreadInfo\"",
        memberOf "\"type\"" "\"EventResponse\""] (by decide +kernel) (by decide +kernel)
    exact List.forall_mem_singleton.mpr ⟨"more", newerMember_admitted, by decide⟩
  · have blank : ∀ o, o ∈ [9, 32] → isSpace o = true :=
      List.forall_mem_cons.mpr ⟨rfl, List.forall_mem_singleton.mpr rfl⟩
    exact spaced (threadLine.take 8) (threadLine.drop 8) [9, 32]
      (List.take_append_drop 8 threadLine).symm ⟨by decide +kernel, by decide +kernel⟩ blank
  · have refused : (decode partLine).toOption = none := by decide +kernel
    refine decode_tolerates.2 partLine partMembers (by decide +kernel) ?_ swappedLine
      partMembers.reverse (by decide +kernel) (List.reverse_perm partMembers)
    intro message said
    rw [said] at refused
    cases refused

end Message

end

end DebugBridge
