import DebugBridge.Proofs.Json.Canonical
import DebugBridge.Proofs.Json.Token
import DebugBridge.Proofs.Number.Shortest

/-!
# Values read back

A written value, followed by anything that does not go on with a number, is read as that value.

The writer puts commas between neighbours, the reader looks for them in front of all parts but the
first. So a list of parts is first brought into the reader's form (`behindCommas`). What `items` and
`members` make of such a list is stated for any reader of the parts, because messages are read by
readers of their own.

Results:
1. `items_first`, `members_first`: containers, given that their parts are read.
2. `value_chars`: values, as deep as the reader may go.
3. `lineFeed_not_mem`: a written value stays on one line.
-/

namespace DebugBridge.Json.Read

open Utf8 (encode)

/-! ## White space and ends -/

theorem skipSpace_cons {o : UInt8} (visible : isSpace o = false) (rest : Octets) :
    skipSpace (o :: rest) = o :: rest := by
  simp [skipSpace, visible]

theorem endsNumber_cons {o : UInt8} (digit : isDigit o = false) (point : o ≠ octet '.')
    (mark : isExponentMark o = false) (rest : Octets) : EndsNumber (o :: rest) := by
  intro o' later h
  obtain ⟨rfl, -⟩ := List.cons.inj h
  exact ⟨digit, point, mark⟩

theorem endsNumber_bracket (rest : Octets) : EndsNumber (octet ']' :: rest) :=
  endsNumber_cons (by decide) (by decide) (by decide) rest

theorem endsNumber_brace (rest : Octets) : EndsNumber (octet '\x7d' :: rest) :=
  endsNumber_cons (by decide) (by decide) (by decide) rest

/-- An ASCII character in front of a text. -/
theorem encode_ascii_cons {c : Char} (ascii : c.toNat < 0x80) (chars : List Char) :
    encode (c :: chars) = octet c :: encode chars := by
  rw [Utf8.encode_cons, Utf8.encodeChar_ascii ascii]
  rfl

/-- A text between two ASCII characters. -/
theorem encode_between {first last : Char} (ascii : first.toNat < 0x80) (ascii' : last.toNat < 0x80)
    (chars : List Char) (rest : Octets) :
    encode (first :: chars ++ [last]) ++ rest
      = octet first :: (encode chars ++ octet last :: rest) := by
  rw [List.cons_append, encode_ascii_cons ascii, Utf8.encode_append, encode_ascii_cons ascii']
  simp

/-! ## Parts behind commas -/

/-- The parts of a container behind the first one, each with its comma. -/
def behindCommas {α : Type} (write : α → List Char) (list : List α) : List Char :=
  list.flatMap fun a => ',' :: write a

theorem behindCommas_cons {α : Type} (write : α → List Char) (a : α) (list : List α) :
    behindCommas write (a :: list) = ',' :: (write a ++ behindCommas write list) := by
  simp [behindCommas]

theorem mem_behindCommas {α : Type} {write : α → List Char} {list : List α} {c : Char}
    (present : c ∈ behindCommas write list) : c = ',' ∨ ∃ a, a ∈ list ∧ c ∈ write a := by
  obtain ⟨a, h, inside⟩ := List.mem_flatMap.mp present
  exact (List.mem_cons.mp inside).imp_right fun inside => ⟨a, h, inside⟩

/-- Every part takes up at least one octet. -/
theorem length_le_behindCommas {α : Type} (write : α → List Char) (list : List α) :
    list.length ≤ (encode (behindCommas write list)).length := by
  induction list with
  | nil => exact Nat.le_refl _
  | cons a list ih =>
    rw [behindCommas_cons, encode_ascii_cons (by decide), Utf8.encode_append]
    simp only [List.length_cons, List.length_append]
    omega

theorem endsNumber_behindCommas {α : Type} (write : α → List Char) (list : List α) {rest : Octets}
    (ends : EndsNumber rest) : EndsNumber (encode (behindCommas write list) ++ rest) := by
  cases list with
  | nil => exact ends
  | cons a list =>
    rw [behindCommas_cons, encode_ascii_cons (by decide), List.cons_append]
    exact endsNumber_cons (by decide) (by decide) (by decide) _

/-- A member as it stands in a text. -/
def memberChars (member : String × Json) : List Char :=
  stringChars member.1 ++ ':' :: member.2.chars

theorem itemsChars_cons (item : Json) (rest : List Json) :
    itemsChars (item :: rest) = item.chars ++ behindCommas chars rest := by
  induction rest generalizing item with
  | nil => simp [itemsChars, behindCommas]
  | cons next rest ih => rw [itemsChars, ih, behindCommas_cons]

theorem membersChars_cons (member : String × Json) (rest : List (String × Json)) :
    membersChars (member :: rest) = memberChars member ++ behindCommas memberChars rest := by
  obtain ⟨key, value⟩ := member
  induction rest generalizing key value with
  | nil => simp [membersChars, behindCommas, memberChars]
  | cons next rest ih =>
    obtain ⟨key', value'⟩ := next
    rw [membersChars, ih, behindCommas_cons]
    simp [memberChars]

/-! ## Arrays -/

/-- A reader finds a value in octets, and knows from the first of them that an item begins. -/
structure Reads {α : Type} (reader : Reader α) (octets : Octets) (a : α) : Prop where
  begins : ∃ o later, octets = o :: later ∧ isSpace o = false ∧ o ≠ octet ']'
  reads : ∀ rest, EndsNumber rest → reader (octets ++ rest) = .ok (a, rest)

theorem items_later {reader : Reader Json} (list : List Json)
    (parts : ∀ item, item ∈ list → Reads reader (encode item.chars) item) (steps : Nat)
    (enough : list.length < steps) (rest : Octets) :
    items reader steps false (encode (behindCommas chars list) ++ octet ']' :: rest)
      = .ok (list, rest) := by
  induction list generalizing steps with
  | nil =>
    obtain ⟨steps, rfl⟩ := Nat.exists_eq_add_one_of_ne_zero (Nat.ne_zero_of_lt enough)
    rfl
  | cons item list ih =>
    obtain ⟨steps, rfl⟩ := Nat.exists_eq_add_one_of_ne_zero (Nat.ne_zero_of_lt enough)
    have later := ih (fun item h => parts item (List.mem_cons_of_mem _ h)) steps
      (by simpa using enough)
    obtain ⟨⟨o, tail, written, visible, notEnd⟩, reads⟩ := parts item List.mem_cons_self
    have first := reads _ (endsNumber_behindCommas chars list (endsNumber_bracket rest))
    rw [written, List.cons_append] at first
    rw [behindCommas_cons, encode_ascii_cons (by decide), Utf8.encode_append, written,
      List.cons_append, List.append_assoc, List.cons_append, items, skipSpace_cons (by decide)]
    simp only [skipSpace_cons visible, notEnd, first, later, Result.ok_bind, if_false]
    rfl

theorem items_first {reader : Reader Json} (list : List Json)
    (parts : ∀ item, item ∈ list → Reads reader (encode item.chars) item) (steps : Nat)
    (enough : list.length < steps) (rest : Octets) :
    items reader steps true (encode (itemsChars list) ++ octet ']' :: rest)
      = .ok (list, rest) := by
  obtain ⟨steps, rfl⟩ := Nat.exists_eq_add_one_of_ne_zero (Nat.ne_zero_of_lt enough)
  cases list with
  | nil => rfl
  | cons item list =>
    have later := items_later list (fun item h => parts item (List.mem_cons_of_mem _ h)) steps
      (by simpa using enough) rest
    obtain ⟨⟨o, tail, written, visible, notEnd⟩, reads⟩ := parts item List.mem_cons_self
    have first := reads _ (endsNumber_behindCommas chars list (endsNumber_bracket rest))
    rw [written, List.cons_append] at first
    rw [itemsChars_cons, Utf8.encode_append, written, List.append_assoc, List.cons_append, items,
      skipSpace_cons visible]
    simp only [notEnd, first, later, Result.ok_bind, if_false, if_true]

/-! ## Objects -/

/-- The octets of a member: its quoted key, a colon and the value. -/
theorem encode_memberChars (member : String × Json) (rest : Octets) :
    encode (memberChars member) ++ rest
      = octet '"' :: (encode (member.1.toList.flatMap escapeChar)
          ++ octet '"' :: octet ':' :: (encode member.2.chars ++ rest)) := by
  rw [memberChars, stringChars, Utf8.encode_append, List.append_assoc,
    encode_between (by decide) (by decide), encode_ascii_cons (by decide), List.cons_append]

/-- What a reader of members makes of a member. -/
def ReadsMember {σ : Type} (reader : σ → String → Reader σ) (state : σ) (member : String × Json)
    (next : σ) : Prop :=
  ∀ rest, EndsNumber rest →
    reader state member.1 (octet ':' :: (encode member.2.chars ++ rest)) = .ok (next, rest)

theorem members_later {σ : Type} {reader : σ → String → Reader σ}
    {effect : σ → String × Json → σ} (list : List (String × Json))
    (parts : ∀ member, member ∈ list → ∀ state,
      ReadsMember reader state member (effect state member))
    (steps : Nat) (enough : list.length < steps) (state : σ) (rest : Octets) :
    members reader steps false state
        (encode (behindCommas memberChars list) ++ octet '\x7d' :: rest)
      = .ok (list.foldl effect state, rest) := by
  induction list generalizing steps state with
  | nil =>
    obtain ⟨steps, rfl⟩ := Nat.exists_eq_add_one_of_ne_zero (Nat.ne_zero_of_lt enough)
    rfl
  | cons member list ih =>
    obtain ⟨steps, rfl⟩ := Nat.exists_eq_add_one_of_ne_zero (Nat.ne_zero_of_lt enough)
    have later := ih (fun member h => parts member (List.mem_cons_of_mem _ h)) steps
      (by simpa using enough) (effect state member)
    have first := parts member List.mem_cons_self state _
      (endsNumber_behindCommas memberChars list (endsNumber_brace rest))
    rw [behindCommas_cons, encode_ascii_cons (by decide), Utf8.encode_append, List.cons_append,
      List.append_assoc, encode_memberChars, members, skipSpace_cons (by decide)]
    simp only [skipSpace_cons (show isSpace (octet '"') = false by decide), string_escaped, first,
      later, Result.ok_bind, if_true, List.foldl_cons]
    rfl

theorem members_first {σ : Type} {reader : σ → String → Reader σ}
    {effect : σ → String × Json → σ} {member : String × Json} {state next : σ}
    (first : ReadsMember reader state member next) (list : List (String × Json))
    (parts : ∀ member, member ∈ list → ∀ state,
      ReadsMember reader state member (effect state member))
    (steps : Nat) (enough : list.length + 1 < steps) (rest : Octets) :
    members reader steps true state
        (encode (membersChars (member :: list)) ++ octet '\x7d' :: rest)
      = .ok (list.foldl effect next, rest) := by
  obtain ⟨steps, rfl⟩ := Nat.exists_eq_add_one_of_ne_zero (Nat.ne_zero_of_lt enough)
  have later := members_later list parts steps (by omega) next rest
  have read := first _ (endsNumber_behindCommas memberChars list (endsNumber_brace rest))
  rw [membersChars_cons, Utf8.encode_append, List.append_assoc, encode_memberChars, members,
    skipSpace_cons (by decide)]
  simp only [string_escaped, read, later, Result.ok_bind, if_true]
  rfl

/-- A text has more octets than an object has members in it. -/
theorem length_lt_membersChars (member : String × Json) (list : List (String × Json))
    (rest : Octets) :
    list.length + 1
      < (encode (membersChars (member :: list)) ++ octet '\x7d' :: rest).length + 1 := by
  have later := length_le_behindCommas memberChars list
  rw [membersChars_cons, Utf8.encode_append]
  simp only [List.length_cons, List.length_append]
  omega

theorem members_empty {σ : Type} {reader : σ → String → Reader σ} (state : σ) (steps : Nat)
    (enough : 0 < steps) (rest : Octets) :
    members reader steps true state (encode (membersChars []) ++ octet '\x7d' :: rest)
      = .ok (state, rest) := by
  obtain ⟨steps, rfl⟩ := Nat.exists_eq_add_one_of_ne_zero (Nat.ne_zero_of_lt enough)
  rfl

/-! ## Values -/

/-- A decimal begins with a digit. -/
theorem decimal_begins (n : Nat) :
    ∃ o later, encode (Numeral.decimal n) = o :: later ∧ isDigit o = true := by
  have digits : ∀ c, c ∈ Numeral.decimal n → IsDecimalDigit c := fun c h => Numeral.mem_decimal h
  cases h : Numeral.decimal n with
  | nil => exact absurd h (Numeral.decimal_ne_nil n)
  | cons c chars =>
    rw [h] at digits
    exact ⟨octet c, chars.map octet, encode_digits digits,
      isDigit_octet (digits c List.mem_cons_self)⟩

/-- A digit is none of the octets that begin another kind of value, nor the end of an array. -/
theorem ne_of_isDigit {o other : UInt8} (digit : isDigit o = true)
    (noDigit : isDigit other = false) : o ≠ other := by
  rintro rfl
  rw [digit] at noDigit
  exact Bool.noConfusion noDigit

theorem isSpace_of_isDigit {o : UInt8} (digit : isDigit o = true) : isSpace o = false := by
  simp [isSpace, ne_of_isDigit digit (show isDigit 32 = false by decide),
    ne_of_isDigit digit (show isDigit 10 = false by decide),
    ne_of_isDigit digit (show isDigit 9 = false by decide),
    ne_of_isDigit digit (show isDigit 13 = false by decide)]

/-- No value begins with white space or like the end of an array. -/
theorem chars_begins {value : Json} (whole : value.isWhole = true) :
    ∃ o later, encode value.chars = o :: later ∧ isSpace o = false ∧ o ≠ octet ']' := by
  have ascii : ∀ {c : Char} {chars : List Char}, c.toNat < 0x80 → isSpace (octet c) = false →
      octet c ≠ octet ']' → ∃ o later, encode (c :: chars) = o :: later ∧ isSpace o = false
        ∧ o ≠ octet ']' :=
    fun small visible notEnd => ⟨_, _, encode_ascii_cons small _, visible, notEnd⟩
  cases value with
  | null => exact ⟨_, _, rfl, by decide, by decide⟩
  | bool b => cases b <;> exact ⟨_, _, rfl, by decide, by decide⟩
  | number n =>
    cases n with
    | natural n =>
      obtain ⟨o, later, written, digit⟩ := decimal_begins n.toNat
      exact ⟨o, later, written, isSpace_of_isDigit digit, ne_of_isDigit digit (by decide)⟩
    | negative magnitude =>
      rw [chars, Number.chars]
      exact ascii (by decide) (by decide) (by decide)
    | binary x => exact absurd whole (by simp [isWhole, every])
  | string s =>
    rw [chars, stringChars]
    exact ascii (by decide) (by decide) (by decide)
  | array items =>
    rw [chars]
    exact ascii (by decide) (by decide) (by decide)
  | object members =>
    rw [chars]
    exact ascii (by decide) (by decide) (by decide)

theorem readsMember_plain {reader : Reader Json} {member : String × Json}
    (reads : ∀ rest, EndsNumber rest →
      reader (encode member.2.chars ++ rest) = .ok (member.2, rest))
    (before : List (String × Json)) :
    ReadsMember (plainMember reader) before member (member :: before) := by
  intro rest ends
  simp only [plainMember, colon, skipSpace_cons (show isSpace (octet ':') = false by decide),
    if_true, reads rest ends, Result.ok_bind]

/-- Containers, when the reader of their parts finds the parts. -/
theorem valueWith_array {reader : Reader Json} {list : List Json}
    (parts : ∀ item, item ∈ list → Reads reader (encode item.chars) item) (rest : Octets) :
    valueWith (some reader) (encode (chars (.array list)) ++ rest) = .ok (.array list, rest) := by
  have enough : list.length < (encode (itemsChars list) ++ octet ']' :: rest).length + 1 := by
    cases list with
    | nil => simp
    | cons item list =>
      have later := length_le_behindCommas chars list
      rw [itemsChars_cons, Utf8.encode_append]
      simp only [List.length_cons, List.length_append]
      omega
  have inside := items_first list parts _ enough rest
  rw [chars, encode_between (by decide) (by decide), valueWith, skipSpace_cons (by decide)]
  simp only [inside, Result.ok_bind]
  rfl

theorem valueWith_object {reader : Reader Json} {list : List (String × Json)}
    (parts : ∀ member, member ∈ list → ∀ rest, EndsNumber rest →
      reader (encode member.2.chars ++ rest) = .ok (member.2, rest)) (rest : Octets) :
    valueWith (some reader) (encode (chars (.object list)) ++ rest) = .ok (.object list, rest) := by
  have inside : members (plainMember reader)
      ((encode (membersChars list) ++ octet '\x7d' :: rest).length + 1) true []
      (encode (membersChars list) ++ octet '\x7d' :: rest) = .ok (list.reverse, rest) := by
    cases list with
    | nil => exact members_empty [] _ (by simp) rest
    | cons member list =>
      have read := members_first (readsMember_plain (parts member List.mem_cons_self) []) list
        (fun member h => readsMember_plain (parts member (List.mem_cons_of_mem _ h))) _
        (length_lt_membersChars member list rest) rest
      -- The reader puts each member in front of those before it.
      rw [read, List.foldl_flip_cons_eq_append', List.reverse_cons]
  rw [chars, encode_between (by decide) (by decide), valueWith, skipSpace_cons (by decide)]
  simp only [inside, Result.ok_bind, List.reverse_reverse]
  rfl

theorem valueWith_number {nested : Option (Reader Json)} {n : Number} (whole : isWhole (.number n))
    (proper : n.isProper = true) {rest : Octets} (ends : EndsNumber rest) :
    valueWith nested (encode n.chars ++ rest) = .ok (.number n, rest) := by
  cases n with
  | natural n =>
    have read := number_natural n ends
    obtain ⟨o, later, written, digit⟩ := decimal_begins n.toNat
    rw [written, List.cons_append] at read
    rw [Number.chars, written, List.cons_append, valueWith,
      skipSpace_cons (isSpace_of_isDigit digit)]
    simp only [ne_of_isDigit digit (show isDigit (octet 'n') = false by decide),
      ne_of_isDigit digit (show isDigit (octet 't') = false by decide),
      ne_of_isDigit digit (show isDigit (octet 'f') = false by decide),
      ne_of_isDigit digit (show isDigit (octet '-') = false by decide), digit, read,
      Result.ok_bind, if_true, if_false]
  | negative magnitude =>
    simp only [Number.isProper, Bool.and_eq_true, decide_eq_true_eq] at proper
    have read := number_negative proper.1 proper.2 ends
    rw [Number.chars, encode_ascii_cons (by decide), List.cons_append, valueWith,
      skipSpace_cons (by decide)]
    simp only [read, Result.ok_bind]
    rfl
  | binary x => exact absurd whole (by simp [isWhole, every])

theorem valueWith_string {nested : Option (Reader Json)} (s : String) (rest : Octets) :
    valueWith nested (encode (stringChars s) ++ rest) = .ok (.string s, rest) := by
  have read := string_escaped s rest
  rw [stringChars, encode_between (by decide) (by decide), valueWith, skipSpace_cons (by decide)]
  simp only [read, Result.ok_bind]
  rfl

/-- `value` hands a text over to `valueWith`; only the bound on the depth tells what it hands over
for the parts. -/
theorem value_eq (bound : Nat) :
    ∃ nested, value bound = valueWith nested
      ∧ ∀ less, bound = less + 1 → nested = some (value less) := by
  cases bound with
  | zero => exact ⟨none, rfl, fun less h => absurd h (by omega)⟩
  | succ less => exact ⟨some (value less), rfl, fun less' h => by rw [Nat.succ.inj h]⟩

/-- A written value is read back, as long as its containers nest no deeper than the reader goes. -/
theorem value_chars {value : Json} (whole : value.isWhole = true) (proper : value.isProper = true)
    (bound : Nat) (shallow : value.depth ≤ bound) {rest : Octets} (ends : EndsNumber rest) :
    Read.value bound (encode value.chars ++ rest) = .ok (value, rest) := by
  -- The induction is on the value. The bound goes down with it, and the reader of the parts is only
  -- known once the bound is not zero, which a container sees to.
  obtain ⟨nested, eq, deeper⟩ := value_eq bound
  induction value using induct generalizing bound nested rest with
  | null =>
    rw [eq]
    rfl
  | bool b =>
    rw [eq]
    cases b <;> rfl
  | number n =>
    rw [eq]
    exact valueWith_number whole proper ends
  | string s =>
    rw [eq]
    exact valueWith_string s rest
  | array list ih =>
    simp only [isWhole, isProper, every, Bool.and_eq_true, everyItem_iff] at whole proper
    obtain ⟨less, rfl⟩ := Nat.exists_eq_add_one_of_ne_zero (Nat.ne_zero_of_lt shallow)
    have inside := depthOfItems_le_iff.mp (Nat.le_of_succ_le_succ shallow)
    rw [eq, deeper less rfl]
    refine valueWith_array (fun item h => ⟨chars_begins (whole.2 item h), fun rest ends => ?_⟩) rest
    obtain ⟨nested, eq, deeper⟩ := value_eq less
    exact ih item h (whole.2 item h) (proper.2 item h) less (inside item h) ends nested eq deeper
  | object list ih =>
    simp only [isWhole, isProper, every, Bool.and_eq_true, everyMember_iff] at whole proper
    obtain ⟨less, rfl⟩ := Nat.exists_eq_add_one_of_ne_zero (Nat.ne_zero_of_lt shallow)
    have inside := depthOfMembers_le_iff.mp (Nat.le_of_succ_le_succ shallow)
    rw [eq, deeper less rfl]
    refine valueWith_object (fun member h rest ends => ?_) rest
    obtain ⟨nested, eq, deeper⟩ := value_eq less
    exact ih member h (whole.2 member h) (proper.2 member h) less (inside member h) ends nested eq
      deeper

/-! ## One line -/

theorem printable_escapeChar {c letter : Char} (present : letter ∈ escapeChar c) :
    0x20 ≤ letter.toNat := by
  have table : ∀ d, d < 0x20 →
      0x20 ≤ (Numeral.digitChar (d / 16)).toNat ∧ 0x20 ≤ (Numeral.digitChar (d % 16)).toNat := by
    decide
  unfold escapeChar at present
  split at present
  · exact printable_of_all rfl present
  split at present
  · exact printable_of_all rfl present
  split at present
  · next large => exact List.mem_singleton.mp present ▸ large
  split at present
  · exact printable_of_all rfl present
  split at present
  · exact printable_of_all rfl present
  split at present
  · exact printable_of_all rfl present
  split at present
  · exact printable_of_all rfl present
  split at present
  · exact printable_of_all rfl present
  · next small _ _ _ _ _ =>
    have digits := table c.toNat (Nat.not_le.mp small)
    simp only [List.mem_cons, List.not_mem_nil, or_false] at present
    rcases present with rfl | rfl | rfl | rfl | rfl | rfl
    · decide
    · decide
    · decide
    · decide
    · exact digits.1
    · exact digits.2

theorem printable_stringChars {s : String} {c : Char} (present : c ∈ stringChars s) :
    0x20 ≤ c.toNat := by
  simp only [stringChars, List.cons_append, List.mem_cons, List.mem_append, List.mem_flatMap,
    List.not_mem_nil, or_false] at present
  rcases present with rfl | ⟨letter, -, inside⟩ | rfl
  · decide
  · exact printable_escapeChar inside
  · decide

theorem mem_itemsChars {list : List Json} {c : Char} (present : c ∈ itemsChars list) :
    c = ',' ∨ ∃ item, item ∈ list ∧ c ∈ item.chars := by
  cases list with
  | nil => exact absurd present List.not_mem_nil
  | cons item list =>
    rw [itemsChars_cons] at present
    rcases List.mem_append.mp present with first | later
    · exact .inr ⟨item, List.mem_cons_self, first⟩
    · exact (mem_behindCommas later).imp_right fun ⟨item', h, inside⟩ =>
        ⟨item', List.mem_cons_of_mem _ h, inside⟩

theorem mem_membersChars {list : List (String × Json)} {c : Char}
    (present : c ∈ membersChars list) :
    c = ',' ∨ ∃ member, member ∈ list ∧ c ∈ memberChars member := by
  cases list with
  | nil => exact absurd present List.not_mem_nil
  | cons member list =>
    rw [membersChars_cons] at present
    rcases List.mem_append.mp present with first | later
    · exact .inr ⟨member, List.mem_cons_self, first⟩
    · exact (mem_behindCommas later).imp_right fun ⟨member', h, inside⟩ =>
        ⟨member', List.mem_cons_of_mem _ h, inside⟩

theorem printable_number {n : Number} {c : Char} (present : c ∈ n.chars) : 0x20 ≤ c.toNat := by
  cases n with
  | natural n => exact Numeral.printable_decimal c present
  | negative magnitude =>
    rcases List.mem_cons.mp present with rfl | digit
    · decide
    · exact Numeral.printable_decimal c digit
  | binary x => exact Binary64.Layout.printable_chars _ x c present

/-- No control is written, in particular no line feed. -/
theorem printable_chars {value : Json} {c : Char} (present : c ∈ value.chars) :
    0x20 ≤ c.toNat := by
  induction value using induct with
  | null => exact printable_of_all rfl present
  | bool b => cases b <;> exact printable_of_all rfl present
  | number n => exact printable_number present
  | string s => exact printable_stringChars present
  | array list ih =>
    simp only [chars, List.cons_append, List.mem_cons, List.mem_append, List.not_mem_nil,
      or_false] at present
    rcases present with rfl | inside | rfl
    · decide
    · rcases mem_itemsChars inside with rfl | ⟨item, h, inside⟩
      · decide
      · exact ih item h inside
    · decide
  | object list ih =>
    simp only [chars, List.cons_append, List.mem_cons, List.mem_append, List.not_mem_nil,
      or_false] at present
    rcases present with rfl | inside | rfl
    · decide
    · rcases mem_membersChars inside with rfl | ⟨member, h, inside⟩
      · decide
      rw [memberChars, List.mem_append, List.mem_cons] at inside
      rcases inside with key | rfl | inside
      · exact printable_stringChars key
      · decide
      · exact ih member h inside
    · decide

/-- The octets of a written value do not contain a line feed. -/
theorem lineFeed_not_mem (value : Json) : 10 ∉ encode value.chars := by
  intro present
  obtain ⟨c, h, inside⟩ := List.mem_flatMap.mp present
  have printable := printable_chars h
  rcases Nat.lt_or_ge c.toNat 0x80 with ascii | high
  · rw [Utf8.encodeChar_ascii ascii, List.mem_singleton] at inside
    have code := congrArg UInt8.toNat inside
    rw [Utf8.toNat_toUInt8 (by omega)] at code
    exact absurd (code ▸ printable) (by decide)
  · exact absurd (Utf8.le_of_mem_encodeChar high inside) (by decide)

end DebugBridge.Json.Read
