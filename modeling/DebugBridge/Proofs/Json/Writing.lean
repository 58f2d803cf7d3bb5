import DebugBridge.Json.Writer
import DebugBridge.Proofs.Text.Utf8

/-!
# Values written octet by octet

What `writeOnto` puts in front of the octets that it is given are the octets of the text, in
reverse. So whatever else is to be said of a written value is said of `chars`.

Results:
1. `writeOnto_eq`: what is written.
2. `two_mul_length_le`: how long an array is, at least.
-/

namespace DebugBridge.Json

open Utf8 (encode)

mutual
theorem writeOnto_eq (written : List UInt8) (value : Json) :
    value.writeOnto written = (encode value.chars).reverse ++ written := by
  cases value with
  | array items =>
    rw [writeOnto, writeItemsOnto_eq, chars]
    simp only [Utf8.encode_append, Utf8.encode_cons, List.reverse_append, List.append_assoc]
    rfl
  | object members =>
    rw [writeOnto, writeMembersOnto_eq, chars]
    simp only [Utf8.encode_append, Utf8.encode_cons, List.reverse_append, List.append_assoc]
    rfl
  | _ => exact Utf8.encodeOnto_eq written _

theorem writeItemsOnto_eq (written : List UInt8) (items : List Json) :
    writeItemsOnto written items = (encode (itemsChars items)).reverse ++ written := by
  cases items with
  | nil => rfl
  | cons item rest =>
    cases rest with
    | nil => exact writeOnto_eq written item
    | cons next rest =>
      rw [writeItemsOnto, writeItemsOnto_eq, writeOnto_eq, itemsChars]
      simp only [Utf8.encode_append, Utf8.encode_cons, List.reverse_append, List.append_assoc]
      rfl

theorem writeMembersOnto_eq (written : List UInt8) (members : List (String × Json)) :
    writeMembersOnto written members = (encode (membersChars members)).reverse ++ written := by
  cases members with
  | nil => rfl
  | cons first rest =>
    obtain ⟨key, value⟩ := first
    cases rest with
    | nil =>
      rw [writeMembersOnto, writeOnto_eq, Utf8.encodeOnto_eq, membersChars]
      simp only [Utf8.encode_append, Utf8.encode_cons, List.reverse_append, List.append_assoc]
      rfl
    | cons next rest =>
      rw [writeMembersOnto, writeMembersOnto_eq, writeOnto_eq, Utf8.encodeOnto_eq, membersChars]
      simp only [Utf8.encode_append, Utf8.encode_cons, List.reverse_append, List.append_assoc]
      rfl
end

/-- Every item but the last is followed by a comma. -/
theorem two_mul_length_le {items : List Json} (shown : ∀ item, item ∈ items → item.chars ≠ []) :
    2 * items.length ≤ (itemsChars items).length + 1 := by
  induction items with
  | nil => exact Nat.zero_le _
  | cons item rest ih =>
    obtain ⟨here, later⟩ := List.forall_mem_cons.mp shown
    have one := List.length_pos_iff.mpr here
    cases rest with
    | nil =>
      rw [itemsChars, List.length_singleton]
      omega
    | cons next rest =>
      have ih := ih later
      rw [itemsChars]
      simp only [List.length_append, List.length_cons] at ih ⊢
      omega

end DebugBridge.Json
