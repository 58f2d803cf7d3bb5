import DebugBridge.Proofs.Json.Writing
import DebugBridge.Proofs.Wire.Shapes

/-!
# Messages read back

A message is written and read as the same message. Of a message that completes a command this holds
as long as its result contains no double and nests no deeper than a reader goes: a double is written
with the fewest digits that read back, and that it does is another matter.

Results:
1. `Message.decode_encode`: messages of which all of that is known.
2. `Message.kept_of_decode`: of a message that has been read it is known, so it can be written and
   read once more.
-/

namespace DebugBridge

open Json.Read (Readable depthLimit)

/-- What every result that a program holds is: its numbers are in the range of their form, and the
members of its objects are sorted. -/
def Json.isKept (value : Json) : Bool :=
  value.isProper && value.isSorted

namespace Message

/-! ## What is written for a message -/

/-- The type is the only member of that name. -/
theorem fields_ne_type (message : Message) :
    ∀ member, member ∈ message.fields → member.1 ≠ "type" := by
  cases message with
  | event request => cases request <;> simp [fields, Request.members, Request.fields]
  | eventResponse response => cases response <;> simp [fields, Response.members, Response.fields]
  | _ => simp [fields]

/-- A test that only numbers can fail, and natural numbers cannot. -/
structure IsLax (test : Json → Bool) : Prop where
  rest : ∀ value, (∀ n, value ≠ .number n) → test value = true
  natural : ∀ n, test (Json.natural n) = true

section Lax

variable {test : Json → Bool}

theorem IsLax.every_string (lax : IsLax test) (s : String) : (Json.string s).every test = true :=
  lax.rest _ (by simp)

theorem IsLax.every_natural (lax : IsLax test) (n : UInt64) :
    (Json.natural n).every test = true :=
  lax.natural n

theorem IsLax.every_array (lax : IsLax test) {items : List Json}
    (inside : ∀ item, item ∈ items → item.every test = true) :
    (Json.array items).every test = true := by
  rw [Json.every, lax.rest _ (by simp), Json.everyItem_iff.mpr inside, Bool.and_self]

theorem IsLax.every_object (lax : IsLax test) {members : List (String × Json)}
    (inside : ∀ member, member ∈ members → member.2.every test = true) :
    (Json.object members).every test = true := by
  rw [Json.every, lax.rest _ (by simp), Json.everyMember_iff.mpr inside, Bool.and_self]

theorem IsLax.every_octets (lax : IsLax test) (data : List UInt8) :
    (Json.octets data).every test = true := by
  refine lax.every_array fun item present => ?_
  obtain ⟨octet, -, rfl⟩ := List.mem_map.mp present
  exact lax.every_natural _

theorem IsLax.every_optional (lax : IsLax test) {α : Type} {write : α → Json}
    (each : ∀ a, (write a).every test = true) (value : Option α) :
    (Json.optional write value).every test = true := by
  cases value with
  | none => exact lax.rest .null (by simp)
  | some a => exact each a

theorem IsLax.every_arguments (lax : IsLax test) (arguments : List Argument) :
    (Json.array (arguments.map Argument.toJson)).every test = true := by
  refine lax.every_array fun item present => ?_
  obtain ⟨argument, -, rfl⟩ := List.mem_map.mp present
  exact lax.every_object (by simp [lax.every_string])

theorem IsLax.every_callResult (lax : IsLax test) (result : CallResult) :
    result.toJson.every test = true := by
  cases result <;>
    exact lax.every_object (by simp [lax.every_object, lax.every_natural, lax.every_string])

/-- Nothing in a message but its result can fail such a test. -/
theorem IsLax.every_fields (lax : IsLax test) {message : Message}
    (passed : message.resultIs (Json.every test) = true) :
    ∀ member, member ∈ message.fields → member.2.every test = true := by
  cases message with
  | init binaryPath => simp [fields, lax.every_string]
  | initAck => simp [fields]
  | command given =>
    have arguments : (Json.array (given.arguments.map .string)).every test = true := by
      refine lax.every_array fun item present => ?_
      obtain ⟨argument, -, rfl⟩ := List.mem_map.mp present
      exact lax.every_string argument
    simp [fields, lax.every_string, arguments]
  | event request =>
    cases request <;>
      simp [fields, Request.members, Request.fields, lax.every_string, lax.every_natural,
        lax.every_octets, lax.every_arguments, lax.every_optional lax.every_natural]
  | eventResponse response =>
    cases response <;>
      simp [fields, Response.members, Response.fields, lax.every_string, lax.every_natural,
        lax.every_octets, lax.every_callResult, lax.every_optional lax.every_string]
  | complete result =>
    intro member present
    rw [List.mem_singleton.mp present]
    exact passed
  | error text => simp [fields, lax.every_string]

end Lax

theorem isLax_isProper : IsLax fun | .number n => n.isProper | _ => true where
  rest value other := by cases value <;> first | rfl | exact absurd rfl (other _)
  natural _ := rfl

theorem isLax_isWhole : IsLax fun | .number (.binary _) => false | _ => true where
  rest value other := by cases value <;> first | rfl | exact absurd rfl (other _)
  natural _ := rfl

theorem depth_map_le {α : Type} {write : α → Json} {bound : Nat}
    (each : ∀ a, (write a).depth ≤ bound) (list : List α) :
    (Json.array (list.map write)).depth ≤ bound + 1 := by
  refine Nat.succ_le_succ (Json.depthOfItems_le_iff.mpr fun item present => ?_)
  obtain ⟨a, -, rfl⟩ := List.mem_map.mp present
  exact each a

theorem depth_optional_le {α : Type} {write : α → Json} {bound : Nat}
    (each : ∀ a, (write a).depth ≤ bound) (value : Option α) :
    (Json.optional write value).depth ≤ bound := by
  cases value with
  | none => exact Nat.zero_le bound
  | some a => exact each a

theorem depth_callResult_le (result : CallResult) : result.toJson.depth ≤ 2 := by
  cases result <;> exact Nat.le_refl 2

/-- Only results nest deep. -/
theorem depth_fields_le {message : Message} {bound : Nat} (room : 2 ≤ bound)
    (shallow : message.resultIs (fun result => decide (result.depth ≤ bound)) = true) :
    ∀ member, member ∈ message.fields → member.2.depth ≤ bound := by
  have flat : ∀ {value : Json}, value.depth ≤ 2 → value.depth ≤ bound :=
    fun h => Nat.le_trans h room
  have string : ∀ s, (Json.string s).depth ≤ bound := fun s => Nat.zero_le bound
  have natural : ∀ n, (Json.natural n).depth ≤ bound := fun n => Nat.zero_le bound
  have octets : ∀ data, (Json.octets data).depth ≤ bound :=
    fun data => flat (Nat.le_succ_of_le (depth_map_le (fun _ => Nat.le_refl 0) data))
  have strings : ∀ list : List String, (Json.array (list.map .string)).depth ≤ bound :=
    fun list => flat (Nat.le_succ_of_le (depth_map_le (fun _ => Nat.le_refl 0) list))
  have arguments : ∀ list : List Argument, (Json.array (list.map Argument.toJson)).depth ≤ bound :=
    fun list => flat (depth_map_le (fun _ => Nat.le_refl 1) list)
  have results : ∀ result : CallResult, result.toJson.depth ≤ bound :=
    fun result => flat (depth_callResult_le result)
  cases message with
  | init binaryPath => simp [fields, string]
  | initAck => simp [fields]
  | command given => simp [fields, string, strings]
  | event request =>
    cases request <;>
      simp [fields, Request.members, Request.fields, string, natural, octets, arguments,
        depth_optional_le natural]
  | eventResponse response =>
    cases response <;>
      simp [fields, Response.members, Response.fields, string, natural, octets, results,
        depth_optional_le string]
  | complete result =>
    intro member present
    rw [List.mem_singleton.mp present]
    exact of_decide_eq_true shallow
  | error text => simp [fields, string]

theorem depth_toJson_le {message : Message}
    (shallow : message.resultIs (fun result => decide (result.depth ≤ depthLimit - 1)) = true) :
    message.toJson.depth ≤ depthLimit := by
  refine Nat.succ_le_succ (Json.depthOfMembers_le_iff.mpr fun member present => ?_)
  rcases List.mem_cons.mp present with rfl | present
  · exact Nat.zero_le _
  · exact depth_fields_le (by decide) shallow member present

/-! ## Reading -/

theorem resultIs_of_kept {message : Message} (kept : message.resultIs Json.isKept = true) :
    message.resultIs Json.isProper = true ∧ message.resultIs Json.isSorted = true := by
  cases message with
  | complete result => exact Bool.and_eq_true_iff.mp kept
  | _ => exact ⟨rfl, rfl⟩

/-- The octets of a message are those of its text. -/
theorem payload_eq_encode (message : Message) :
    message.payload = Utf8.encode message.toJson.chars := by
  rw [payload, Json.writeOnto_eq, List.append_nil, List.reverse_reverse]

theorem encode_eq (message : Message) : message.encode = message.payload ++ [10] :=
  List.reverse_cons

/-- A message as it is written, and white space behind it. -/
theorem decode_written {message : Message} (kept : message.resultIs Json.isKept = true)
    (whole : message.resultIs Json.isWhole = true) (shallow : message.toJson.depth ≤ depthLimit)
    {rest : List UInt8} (blank : Json.Read.skipSpace rest = []) :
    decode (message.payload ++ rest) = .ok message := by
  obtain ⟨proper, sorted⟩ := resultIs_of_kept kept
  obtain ⟨read, known, made⟩ := exists_reader sorted
  rw [payload_eq_encode]
  refine Json.Read.readText_chars known message.fields_ne_type
    (isLax_isWhole.every_fields whole) (fun member present => ?_) made blank
  have inside := Json.depthOfMembers_le_iff.mp
    (Nat.le_of_succ_le_succ shallow : Json.depthOfMembers _ ≤ depthLimit - 1)
  exact ⟨inside member (List.mem_cons_of_mem _ present),
    isLax_isProper.every_fields proper member present⟩

theorem decode_payload {message : Message} (kept : message.resultIs Json.isKept = true)
    (whole : message.resultIs Json.isWhole = true)
    (shallow : message.toJson.depth ≤ depthLimit) : decode message.payload = .ok message := by
  have back := decode_written kept whole shallow (show Json.Read.skipSpace [] = [] from rfl)
  rwa [List.append_nil] at back

/-- What is known of a message that has been read. -/
theorem kept_of_decode {line : List UInt8} {message : Message}
    (decoded : decode line = .ok message) :
    message.resultIs Json.isKept = true ∧ message.toJson.depth ≤ depthLimit := by
  have result : ∀ {test : Json → Bool},
      (∀ value, Readable (depthLimit - 1) value → test value.canonical = true) →
      message.resultIs test = true := by
    intro test inside
    unfold decode Json.Read.readText at decoded
    split at decoded
    · cases decoded
    next found =>
    split at decoded
    · cases decoded
    next made =>
    split at decoded
    · cases decoded
    · cases decoded
      -- Values are brought into canonical form after they have been read, which keeps the test.
      obtain ⟨⟨name, known⟩, readable⟩ := Json.Read.tagged_readable found
      exact resultIs_of_made known made fun value present => inside value (readable value present)
  refine ⟨result fun value readable => ?_, ?_⟩
  · rw [Json.isKept, (Json.Read.readable_canonical readable).2, Json.isSorted_canonical value,
      Bool.and_self]
  · exact depth_toJson_le (result fun value readable =>
      decide_eq_true (Json.Read.readable_canonical readable).1)

/-- A message is written on one line, line feed at its end. -/
theorem lineFeed_not_mem_payload (message : Message) : 10 ∉ message.payload := by
  rw [payload_eq_encode]
  exact Json.Read.lineFeed_not_mem message.toJson

/-- A message is written as one line, from which it is read back with or without the line feed. A
message that has been read can be written and read once more. -/
theorem decode_encode :
    (∀ message : Message, message.resultIs Json.isKept = true →
      message.resultIs Json.isWhole = true → message.toJson.depth ≤ 127 →
      message.encode = message.payload ++ [10] ∧ 10 ∉ message.payload
        ∧ decode message.payload = .ok message ∧ decode message.encode = .ok message)
    ∧ ∀ line message, decode line = .ok message → message.resultIs Json.isWhole = true →
      decode message.payload = .ok message ∧ decode message.encode = .ok message := by
  have back : ∀ message : Message, message.resultIs Json.isKept = true →
      message.resultIs Json.isWhole = true → message.toJson.depth ≤ 127 →
      decode message.payload = .ok message ∧ decode message.encode = .ok message := by
    intro message kept whole shallow
    refine ⟨decode_payload kept whole shallow, ?_⟩
    rw [encode_eq]
    exact decode_written kept whole shallow rfl
  refine ⟨fun message kept whole shallow =>
      ⟨message.encode_eq, message.lineFeed_not_mem_payload, ?_⟩,
    fun line message decoded whole => ?_⟩
  · exact back message kept whole shallow
  · obtain ⟨kept, shallow⟩ := kept_of_decode decoded
    exact back message kept whole shallow

/-- A result with the largest and the least number, and a key that has to be escaped. -/
def extremeResult : Json :=
  .object [("a\"\n", .array [.natural 18446744073709551615,
      .number (.negative 9223372036854775808), .null, .bool true]),
    ("b", .string "π\u0001\\")]

/-- The same completion as a list, its members out of order and one of them repeated. -/
def listedCompletion : List UInt8 :=
  Utf8.encode ("[\"Complete\", \x7b\"b\":1, \"a\\\"\\n\":[18446744073709551615,"
    ++ "-9223372036854775808,null,true], \"b\":\"π\\u0001\\\\\"\x7d]").toList

theorem decode_encode_extremeResult :
    decode (complete extremeResult).encode = .ok (.complete extremeResult)
      ∧ decode listedCompletion = .ok (.complete extremeResult)
      ∧ decode (complete extremeResult).payload = .ok (.complete extremeResult) := by
  have listed : decode listedCompletion = .ok (.complete extremeResult) :=
    Result.eq_ok_of_toOption (by decide +kernel)
  exact ⟨(decode_encode.1 _ (by decide) (by decide) (by decide)).2.2.2, listed,
    (decode_encode.2 _ _ listed (by decide)).1⟩

end Message
end DebugBridge
