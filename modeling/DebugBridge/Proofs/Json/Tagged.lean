import DebugBridge.Proofs.Json.Proper
import DebugBridge.Proofs.Json.RoundTrip
import DebugBridge.Json.Tagged

/-!
# Tagged choices

A tagged choice is written with its name in the first member. The reader takes the name wherever it
stands, and also takes arrays, so more can be read than is written.

Results:
1. `tagged_chars`, `readText_chars`: a written choice is read back.
2. `tagged_readable`: the parts of whatever choice has been read, whose name has been looked up.
-/

namespace DebugBridge.Json.Read

open Utf8 (encode)

/-! ## Written choices -/

variable {ν : Type} {tag name : String} {variant : String → Except ShapeFault ν}

theorem tagName_string {kind : String} {v : ν} (known : variant kind = .ok v) (rest : Octets) :
    tagName variant (encode (stringChars kind) ++ rest) = .ok (v, rest) := by
  have read := string_escaped kind rest
  rw [stringChars, encode_between (by decide) (by decide), tagName, skipSpace_cons (by decide)]
  simp only [if_true, read, Result.ok_bind, known]

theorem readsMember_tag {kind : String} {v : ν} (known : variant kind = .ok v)
    (value : Reader Json) (before : List (String × Json)) :
    ReadsMember (taggedMember tag variant value) ⟨none, before⟩ (tag, .string kind)
      ⟨some v, before⟩ := by
  intro rest _
  simp only [taggedMember, if_true, colon,
    skipSpace_cons (show isSpace (octet ':') = false by decide), Result.ok_bind, chars,
    tagName_string known rest]

/-- Any other member is kept. -/
theorem readsMember_other {reader : Reader Json} {member : String × Json} (other : member.1 ≠ tag)
    (reads : ∀ rest, EndsNumber rest →
      reader (encode member.2.chars ++ rest) = .ok (member.2, rest)) (gathered : Gathered ν) :
    ReadsMember (taggedMember tag variant reader) gathered member
      ⟨gathered.variant, member :: gathered.before⟩ := by
  intro rest ends
  have plain := readsMember_plain reads gathered.before rest ends
  simp only [taggedMember, if_neg other, plain, Result.ok_bind]

theorem foldl_gathered (v : ν) (list before : List (String × Json)) :
    list.foldl (fun gathered member => ⟨gathered.variant, member :: gathered.before⟩)
      (⟨some v, before⟩ : Gathered ν) = ⟨some v, list.reverse ++ before⟩ := by
  induction list generalizing before with
  | nil => rfl
  | cons member list ih => rw [List.foldl_cons, ih, List.reverse_cons, List.append_assoc]; rfl

/-- A choice with its name first is read as its name and the members behind it. -/
theorem tagged_chars {kind : String} {v : ν} (known : variant kind = .ok v)
    {list : List (String × Json)} (others : ∀ member, member ∈ list → member.1 ≠ tag)
    (whole : ∀ member, member ∈ list → member.2.isWhole = true)
    (readable : ∀ member, member ∈ list → Readable (depthLimit - 1) member.2) (rest : Octets) :
    tagged tag name variant (encode (chars (.object ((tag, .string kind) :: list))) ++ rest)
      = .ok ((v, .members list), rest) := by
  have inside := members_first
    (readsMember_tag known (Read.value (depthLimit - 1)) ([] : List (String × Json))) list
    (fun member h => readsMember_other (others member h) fun rest ends =>
      value_chars (whole member h) (readable member h).2 _ (readable member h).1 ends)
    _ (length_lt_membersChars (tag, .string kind) list rest) rest
  rw [chars, encode_between (by decide) (by decide), tagged, skipSpace_cons (by decide)]
  simp only [if_true, inside, foldl_gathered, Result.ok_bind, List.append_nil,
    List.reverse_reverse]

/-- The same for a whole text, behind which there may be white space. -/
theorem readText_chars {α : Type} {shape : ν → Body → Except ShapeFault α} {kind : String} {v : ν}
    (known : variant kind = .ok v) {list : List (String × Json)}
    (others : ∀ member, member ∈ list → member.1 ≠ tag)
    (whole : ∀ member, member ∈ list → member.2.isWhole = true)
    (readable : ∀ member, member ∈ list → Readable (depthLimit - 1) member.2) {a : α}
    (made : shape v (.members list) = .ok a) {rest : Octets} (blank : skipSpace rest = []) :
    readText tag name variant shape
      (encode (chars (.object ((tag, .string kind) :: list))) ++ rest) = .ok a := by
  have ended : atEnd rest = .ok () := by rw [atEnd, blank]
  simp only [readText, tagged_chars known others whole readable rest, made, ended]

/-! ## What has been read -/

/-- The name of a choice has been looked up. -/
theorem tagName_variant {ν : Type} {variant : String → Except ShapeFault ν} {text rest : Octets}
    {v : ν} (read : tagName variant text = .ok (v, rest)) : ∃ name, variant name = .ok v := by
  unfold tagName at read
  split at read
  · cases read
  split at read
  · obtain ⟨⟨name, behind⟩, -, read⟩ := Result.bind_eq_ok.mp read
    dsimp only at read
    split at read
    · next found =>
      cases read
      exact ⟨name, found⟩
    · cases read
  split at read
  · cases read
  split at read
  · cases read
  · obtain ⟨_, -, read⟩ := Result.bind_eq_ok.mp read
    cases read

/-- What is known of a tagged object while its members are read. -/
def Gathers {ν : Type} (variant : String → Except ShapeFault ν) (bound : Nat)
    (gathered : Gathered ν) : Prop :=
  (∀ v, gathered.variant = some v → ∃ name, variant name = .ok v)
    ∧ ∀ member, member ∈ gathered.before → Readable bound member.2

theorem taggedMember_gathers {ν : Type} {tag : String} {variant : String → Except ShapeFault ν}
    {bound : Nat} {gathered next : Gathered ν} {key : String} {text rest : Octets}
    (start : Gathers variant bound gathered)
    (read : taggedMember tag variant (Read.value bound) gathered key text = .ok (next, rest)) :
    Gathers variant bound next := by
  unfold taggedMember at read
  split at read
  · split at read
    · split at read
      · cases read
      · cases read
    · obtain ⟨behind, -, read⟩ := Result.bind_eq_ok.mp read
      obtain ⟨⟨v, behind'⟩, named, read⟩ := Result.bind_eq_ok.mp read
      cases read
      -- The tag gives the choice its name and leaves the other members as they are.
      refine ⟨fun v' same => ?_, start.2⟩
      cases same
      exact tagName_variant named
  · obtain ⟨⟨before, behind⟩, one, read⟩ := Result.bind_eq_ok.mp read
    cases read
    exact ⟨start.1,
      of_plainMember (fun text v rest => value_readable bound text rest v) start.2 one⟩

/-- The values inside of a record. -/
def bodyValues : Body → List Json
  | .members list => list.map Prod.snd
  | .items list => list

/-- A tagged choice that has been read. -/
theorem tagged_readable {ν : Type} {tag name : String} {variant : String → Except ShapeFault ν}
    {text rest : Octets} {v : ν} {body : Body}
    (read : tagged tag name variant text = .ok ((v, body), rest)) :
    (∃ name, variant name = .ok v)
      ∧ ∀ value, value ∈ bodyValues body → Readable (depthLimit - 1) value := by
  unfold tagged at read
  split at read
  · cases read
  split at read
  · obtain ⟨⟨gathered, behind⟩, all, read⟩ := Result.bind_eq_ok.mp read
    have gathers : Gathers variant (depthLimit - 1) gathered :=
      of_members (fun _ _ _ _ _ start => taggedMember_gathers start)
        ⟨fun v h => absurd h (by simp), fun _ h => absurd h List.not_mem_nil⟩ all
    dsimp only at read
    split at read
    · next named =>
      cases read
      refine ⟨gathers.1 _ named, fun value h => ?_⟩
      obtain ⟨member, present, rfl⟩ := List.mem_map.mp h
      exact gathers.2 member (List.mem_reverse.mp present)
    · cases read
  split at read
  · split at read
    · cases read
    split at read
    · cases read
    · obtain ⟨⟨v', behind⟩, named, read⟩ := Result.bind_eq_ok.mp read
      obtain ⟨⟨list, behind'⟩, all, read⟩ := Result.bind_eq_ok.mp read
      cases read
      exact ⟨tagName_variant named,
        of_items (fun text v rest => value_readable _ text rest v) all⟩
  · obtain ⟨_, -, read⟩ := Result.bind_eq_ok.mp read
    cases read

end DebugBridge.Json.Read
