import DebugBridge.Json.Tagged
import DebugBridge.Proofs.Json.Spelling
import DebugBridge.Proofs.Json.Unordered

/-!
# Tagged texts in any order

An object is read as a tagged choice exactly when its members, each read by itself, are split into
the tag and a body that has the right shape. The reader works through the members of the text one
after the other and keeps the tag apart (`takeTag`); `splitTag` looks at members that are all there;
both come to the same.

Results:
1. `tag_handles`, `foldlM_takeTag`: the members of a tagged choice one by one.
2. `readText_object_iff`: whole texts.
3. `readText_perm`: the same choice is read from the same members in any order and spacing, and
   among any others that its shape does not look at.
-/

namespace DebugBridge.Json

/-! ## Tagged texts -/

namespace Read

variable {ν : Type} {tag name : String} {variant : String → Except ShapeFault ν}

/-- A tag that can only be a name. -/
def nameOnly (variant : String → Except ShapeFault ν) : Shape ν
  | .string name => variant name
  | value => Shape.mismatch value "variant identifier"

theorem nameOnly_eq_ok {value : Json} {v : ν} (known : nameOnly variant value = .ok v) :
    ∃ name, value = .string name ∧ variant name = .ok v := by
  cases value with
  | string name => exact ⟨name, rfl, known⟩
  | _ => cases known

/-- What becomes of the members of a tagged choice one by one. -/
def takeTag (tag : String) (variant : String → Except ShapeFault ν) (gathered : Gathered ν)
    (member : String × Json) : Option (Gathered ν) :=
  if member.1 = tag then
    match gathered.variant, nameOnly variant member.2 with
    | none, .ok v => some ⟨some v, gathered.before⟩
    | _, _ => none
  else some ⟨gathered.variant, member :: gathered.before⟩

/-- Member by member the tag is split off. -/
theorem foldlM_takeTag {seen : Option ν} {v : ν} {before after entries : List (String × Json)} :
    entries.foldlM (takeTag tag variant) ⟨seen, before⟩ = some ⟨some v, after⟩
      ↔ ∃ others, splitTag tag (nameOnly variant) seen entries = .ok (v, others)
          ∧ after = others.reverse ++ before := by
  induction entries generalizing seen before with
  | nil =>
    cases seen <;> simp [splitTag, eq_comm]
  | cons entry entries ih =>
    obtain ⟨key, value⟩ := entry
    rw [List.foldlM_cons, takeTag]
    by_cases isTag : key = tag
    · rw [if_pos isTag]
      cases seen with
      | some w =>
        simp only [splitTag, if_pos isTag]
        constructor
        · intro done
          cases done
        · rintro ⟨_, done, -⟩
          cases done
      | none =>
        simp only [splitTag, if_pos isTag]
        cases known : nameOnly variant value with
        | error fault =>
          constructor
          · intro done
            cases done
          · rintro ⟨_, done, -⟩
            cases done
        | ok w => exact ih
    · rw [if_neg isTag, splitTag_other isTag]
      have later : entries.foldlM (takeTag tag variant) ⟨seen, (key, value) :: before⟩
            = some ⟨some v, after⟩
          ↔ ∃ others, splitTag tag (nameOnly variant) seen entries = .ok (v, others)
              ∧ after = others.reverse ++ (key, value) :: before := ih
      refine later.trans ?_
      constructor
      · rintro ⟨others, split, rfl⟩
        exact ⟨(key, value) :: others, by rw [split]; rfl, by simp⟩
      · rintro ⟨others, split, rfl⟩
        obtain ⟨⟨v', others'⟩, inner, done⟩ := Result.map_eq_ok.mp split
        cases done
        exact ⟨others', inner, by simp⟩

theorem takes_string_value {inside : Octets} {s : String} (read : string inside = .ok (s, []))
    (depth : Nat) : Takes (value depth) [octet '"' :: inside] (.string s) := by
  cases depth with
  | zero => exact takes_string read
  | succ depth => exact takes_string read

/-- A value is a string only when it is written as one. -/
theorem of_valueWith_string {nested : Option (Reader Json)} {text rest : Octets} {s : String}
    (read : valueWith nested text = .ok (.string s, rest)) :
    ∃ behind, skipSpace text = octet '"' :: behind ∧ string behind = .ok (s, rest) := by
  unfold valueWith at read
  split at read
  · cases read
  next begins =>
  iterate 5
    split at read
    · obtain ⟨_, -, read⟩ := Result.bind_eq_ok.mp read
      cases read
  split at read
  · next quote =>
    subst quote
    obtain ⟨⟨s', rest'⟩, found, read⟩ := Result.bind_eq_ok.mp read
    cases read
    exact ⟨_, begins, found⟩
  iterate 2
    split at read
    · split at read
      · cases read
      · obtain ⟨_, -, read⟩ := Result.bind_eq_ok.mp read
        cases read
  · cases read

theorem of_value_string {depth : Nat} {text rest : Octets} {s : String}
    (read : value depth text = .ok (.string s, rest)) :
    ∃ behind, skipSpace text = octet '"' :: behind ∧ string behind = .ok (s, rest) := by
  cases depth with
  | zero => exact of_valueWith_string read
  | succ depth => exact of_valueWith_string read

/-- The name of a choice is a string. -/
theorem tagName_eq_ok_iff {text rest : Octets} {v : ν} :
    tagName variant text = .ok (v, rest)
      ↔ ∃ behind name, skipSpace text = octet '"' :: behind ∧ string behind = .ok (name, rest)
          ∧ variant name = .ok v := by
  constructor
  · intro read
    unfold tagName at read
    dsimp only at read
    split at read
    · cases read
    next begins =>
    split at read
    · next quote =>
      subst quote
      obtain ⟨⟨name, behind⟩, found, read⟩ := Result.bind_eq_ok.mp read
      dsimp only at read
      split at read
      · next known =>
        cases read
        exact ⟨_, name, begins, found, known⟩
      · cases read
    split at read
    · cases read
    split at read
    · cases read
    · obtain ⟨_, -, read⟩ := Result.bind_eq_ok.mp read
      cases read
  · rintro ⟨behind, name, begins, found, known⟩
    rw [tagName, begins]
    dsimp only
    rw [if_pos rfl, found, Result.ok_bind]
    simp only [known]

/-- The tag is the value of a member, and the other members are kept. -/
theorem tag_handles (depth : Nat) :
    Handles (value depth) (taggedMember tag variant (value depth)) (takeTag tag variant) where
  follows := by
    intro gathered key text next rest read ends
    unfold taggedMember at read
    split at read
    · next isTag =>
      split at read
      · split at read <;> cases read
      next unseen =>
      obtain ⟨behind, isColon, read⟩ := Result.bind_eq_ok.mp read
      obtain ⟨⟨v, behind'⟩, named, read⟩ := Result.bind_eq_ok.mp read
      cases read
      obtain ⟨behind', name, begins, found, known⟩ := tagName_eq_ok_iff.mp named
      obtain ⟨inside, cut, again⟩ := tokens_string begins found
      refine ⟨[octet '"' :: inside], .string name,
        ⟨valueEnd_token rfl inside, takes_string_value again depth⟩, ?_, ?_⟩
      · rw [tokens_colon isColon, cut]
        rfl
      · rw [takeTag, if_pos isTag, unseen]
        simp only [nameOnly, known]
    · next other =>
      obtain ⟨⟨before, behind⟩, found, read⟩ := Result.bind_eq_ok.mp read
      cases read
      obtain ⟨part, v, holds, cut, taken⟩ :=
        (plain_handles (value_follows depth)).follows found ends
      cases taken
      exact ⟨part, v, holds, cut, if_neg other⟩
  takes := by
    intro gathered key part v next taken holds text later cut
    unfold takeTag at taken
    split at taken
    · next isTag =>
      split at taken
      · next unseen known =>
        cases taken
        obtain ⟨name, rfl, known⟩ := nameOnly_eq_ok known
        obtain ⟨behind, isColon, cut⟩ := colon_take cut
        obtain ⟨rest, found, same⟩ := holds.2 _ _ cut
        obtain ⟨behind', begins, found⟩ := of_value_string found
        refine ⟨rest, ?_, same⟩
        rw [taggedMember, if_pos isTag, unseen]
        dsimp only
        rw [isColon, Result.ok_bind, tagName_eq_ok_iff.mpr ⟨behind', name, begins, found, known⟩]
        rfl
      · cases taken
    · next other =>
      cases taken
      have plain : Takes (plainMember (value depth) gathered.before key) ([octet ':'] :: part)
          ((key, v) :: gathered.before) := (plain_handles (value_follows depth)).takes rfl holds
      obtain ⟨rest, found, same⟩ := plain text later cut
      refine ⟨rest, ?_, same⟩
      rw [taggedMember, if_neg other, found]
      rfl

/-- The text begins with an object. -/
def BeginsObject (text : Octets) : Prop :=
  ∃ behind, skipSpace text = octet '\x7b' :: behind

/-- The text is an object with these members, however they are spaced. This asks for quotes, marks
and matching brackets only: every object of the grammar has its members in this way, and so has
every object that a reader takes (`exists_isObject`). -/
def IsObject (text : Octets) (list : List Member) : Prop :=
  (∀ member, member ∈ list → member.IsFormed) ∧ tokens text = objectTokens list

instance (text : Octets) (list : List Member) : Decidable (IsObject text list) :=
  inferInstanceAs (Decidable (_ ∧ _))

theorem IsObject.begins {text : Octets} {list : List Member} (object : IsObject text list) :
    BeginsObject text :=
  have ⟨behind, begins, _⟩ := of_tokens_mark (o := octet '\x7b') rfl object.2
  ⟨behind, begins⟩

/-- Whatever the reader of values takes for an object is one. -/
theorem exists_isObject {depth : Nat} {text rest : Octets} {v : Json} (object : BeginsObject text)
    (read : value depth text = .ok (v, rest)) (ends : tokens rest = []) :
    ∃ list, IsObject text list := by
  obtain ⟨behind, begins⟩ := object
  cases depth with
  | zero =>
    rw [value, valueWith, begins] at read
    cases read
  | succ depth =>
    rw [value, valueWith, begins] at read
    obtain ⟨⟨reversed, rest'⟩, found, read⟩ := Result.bind_eq_ok.mp read
    cases read
    obtain ⟨list, entries, each, -, cut⟩ :=
      members_follow (plain_handles (value_follows depth)) found
    have whole := tokens_object begins cut
    rw [ends, List.append_nil] at whole
    exact ⟨list, isFormed_of_members each, whole⟩

/-- White space between its tokens is no part of an object. -/
theorem IsObject.insert {front back blanks : Octets} {list : List Member}
    (object : IsObject (front ++ back) list) (parted : PartsAt front back)
    (blank : ∀ o, o ∈ blanks → isSpace o = true) : IsObject (front ++ (blanks ++ back)) list :=
  ⟨object.1, (tokens_insert parted blank).trans object.2⟩

/-- The tagged choice that is read from an object is what its members come to. -/
theorem tagged_follow {text rest : Octets} (object : BeginsObject text) {v : ν} {body : Body}
    (read : tagged tag name variant text = .ok ((v, body), rest)) :
    ∃ list entries others,
      List.Forall₂ (Member.Holds (value (depthLimit - 1))) list entries
        ∧ splitTag tag (nameOnly variant) none entries = .ok (v, others)
        ∧ body = .members others ∧ tokens text = objectTokens list ++ tokens rest := by
  obtain ⟨behind, begins⟩ := object
  unfold tagged at read
  rw [begins] at read
  dsimp only at read
  rw [if_pos rfl] at read
  obtain ⟨⟨gathered, rest'⟩, found, read⟩ := Result.bind_eq_ok.mp read
  obtain ⟨list, entries, each, folded, cut⟩ := members_follow (tag_handles _) found
  dsimp only at read
  split at read
  · next named =>
    cases read
    obtain ⟨seen, before⟩ := gathered
    obtain rfl : seen = some v := named
    obtain ⟨others, split, rfl⟩ := foldlM_takeTag.mp folded
    exact ⟨list, entries, others, each, split, by simp, tokens_object begins cut⟩
  · cases read

theorem tagged_take {list : List Member} {entries : List (String × Json)}
    (each : List.Forall₂ (Member.Holds (value (depthLimit - 1))) list entries) {v : ν}
    {others : List (String × Json)}
    (split : splitTag tag (nameOnly variant) none entries = .ok (v, others)) {text : Octets}
    {later : List Octets} (cut : tokens text = objectTokens list ++ later) :
    ∃ rest, tagged tag name variant text = .ok ((v, .members others), rest)
      ∧ tokens rest = later := by
  have folded : entries.foldlM (takeTag tag variant) ⟨none, []⟩
      = some ⟨some v, others.reverse⟩ := foldlM_takeTag.mpr ⟨others, split, by simp⟩
  obtain ⟨behind, rest, begins, found, same⟩ :=
    members_of_object (tag_handles (depthLimit - 1)) each folded cut
  refine ⟨rest, ?_, same⟩
  rw [tagged, begins]
  dsimp only
  rw [if_pos rfl, found, Result.ok_bind]
  simp

theorem atEnd_eq_ok_iff {text : Octets} : atEnd text = .ok () ↔ tokens text = [] := by
  constructor
  · intro ends
    unfold atEnd at ends
    split at ends
    · next blank => exact tokens_of_blank blank
    · cases ends
  · intro nothing
    rw [atEnd, of_tokens_nil nothing]

variable {α : Type} {shape : ν → Body → Except ShapeFault α}

/-- A whole text that is read as a tagged object, by its members. -/
theorem readText_follow {text : Octets} (object : BeginsObject text) {a : α}
    (read : readText tag name variant shape text = .ok a) :
    ∃ list entries v others, IsObject text list
      ∧ List.Forall₂ (Member.Holds (value (depthLimit - 1))) list entries
      ∧ splitTag tag (nameOnly variant) none entries = .ok (v, others)
      ∧ shape v (.members others) = .ok a := by
  unfold readText at read
  split at read
  · cases read
  next found =>
  split at read
  · cases read
  next shaped =>
  split at read
  · cases read
  next ends =>
  cases read
  obtain ⟨list, entries, others, each, split, rfl, cut⟩ := tagged_follow object found
  rw [atEnd_eq_ok_iff.mp ends, List.append_nil] at cut
  exact ⟨list, entries, _, others, ⟨isFormed_of_members each, cut⟩, each, split, shaped⟩

/-- An object is read as a tagged choice when its members can be read, one is the tag and the others
have the right shape. -/
theorem readText_object_iff {text : Octets} {list : List Member} (object : IsObject text list)
    {a : α} :
    readText tag name variant shape text = .ok a
      ↔ ∃ entries v others,
          List.Forall₂ (Member.Holds (value (depthLimit - 1))) list entries
            ∧ splitTag tag (nameOnly variant) none entries = .ok (v, others)
            ∧ shape v (.members others) = .ok a := by
  constructor
  · intro read
    obtain ⟨list', entries, v, others, object', each, split, shaped⟩ :=
      readText_follow object.begins read
    obtain rfl := objectTokens_inj object.1 object'.1 (object.2.symm.trans object'.2)
    exact ⟨entries, v, others, each, split, shaped⟩
  · rintro ⟨entries, v, others, each, split, shaped⟩
    have cut := object.2
    rw [← List.append_nil (objectTokens list)] at cut
    have taken : ∃ rest, tagged tag name variant text = .ok ((v, .members others), rest)
        ∧ tokens rest = [] := tagged_take each split cut
    obtain ⟨rest, found, nothing⟩ := taken
    simp only [readText, found, shaped, atEnd_eq_ok_iff.mpr nothing]

/-! ## Other orders and more members -/

/-- The member can be read wherever it stands: its key is this name, and its value is any value that
the reader takes for a part of an object. -/
def Member.Admitted (member : Member) (name : String) : Prop :=
  member.Named name
    ∧ ∃ text v rest, Read.value (depthLimit - 1) text = .ok (v, rest) ∧ atEnd rest = .ok ()
        ∧ Read.tokens text = member.value

theorem Member.exists_holds {member : Member} {name : String} (admitted : member.Admitted name) :
    ∃ v, member.Holds (Read.value (depthLimit - 1)) (name, v) := by
  obtain ⟨named, text, v, rest, read, ends, same⟩ := admitted
  have nothing := atEnd_eq_ok_iff.mp ends
  have ended : Ends isRun rest := by
    have blank := List.dropWhile_eq_nil_iff.mp (of_tokens_nil nothing)
    have blanks := ends_blanks blank (ends_nil isRun)
    rwa [List.append_nil] at blanks
  obtain ⟨part, formed, cut, takes⟩ := value_follows _ _ _ _ read ended
  rw [nothing, List.append_nil, same] at cut
  subst cut
  exact ⟨v, named, formed, takes⟩

/-- More members are read as more entries. -/
theorem exists_entries {extra : List Member} {free : String → Prop}
    (admitted : ∀ member, member ∈ extra → ∃ name, member.Admitted name ∧ free name) :
    ∃ more, List.Forall₂ (Member.Holds (value (depthLimit - 1))) extra more
      ∧ ∀ entry : String × Json, entry ∈ more → free entry.1 := by
  induction extra with
  | nil => exact ⟨[], .nil, fun entry present => absurd present List.not_mem_nil⟩
  | cons member extra ih =>
    obtain ⟨⟨name, here, isFree⟩, others⟩ := List.forall_mem_cons.mp admitted
    obtain ⟨v, holds⟩ := Member.exists_holds here
    obtain ⟨more, each, allFree⟩ := ih others
    exact ⟨(name, v) :: more, .cons holds each, List.forall_mem_cons.mpr ⟨isFree, allFree⟩⟩

/-- A tagged choice that an object is read as is also read from its members in another order and
among more members, if its shape does not mind. -/
theorem readText_perm {text text' : Octets} {list list' extra : List Member} {a : α}
    (object : IsObject text list) (read : readText tag name variant shape text = .ok a)
    (object' : IsObject text' list') (order : list'.Perm (list ++ extra)) (keys : List String)
    (admitted : ∀ member, member ∈ extra →
      ∃ name, member.Admitted name ∧ name ≠ tag ∧ name ∉ keys)
    (unminding : ∀ kind v others others' more, variant kind = .ok v →
      shape v (.members others) = .ok a → others'.Perm (others ++ more) →
      (∀ entry : String × Json, entry ∈ more → entry.1 ∉ keys) →
      shape v (.members others') = .ok a) :
    readText tag name variant shape text' = .ok a := by
  obtain ⟨entries, v, others, each, split, shaped⟩ := (readText_object_iff object).mp read
  obtain ⟨more, eachMore, free⟩ := exists_entries admitted
  obtain ⟨entries', each', order'⟩ :=
    List.perm_comp_forall₂ order (List.rel_append each eachMore)
  obtain ⟨others', split', order''⟩ :=
    splitTag_perm split order' fun entry present => (free entry present).1
  obtain ⟨_, isTag, -, -⟩ := splitTag_eq_ok_iff.mp split
  obtain ⟨kind, -, known⟩ := nameOnly_eq_ok isTag
  exact (readText_object_iff object').mpr ⟨entries', v, others', each', split',
    unminding kind v others others' more known shaped order''
      fun entry present => (free entry present).2⟩

end Read

end DebugBridge.Json
