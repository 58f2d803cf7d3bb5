import DebugBridge.Proofs.Json.Brackets
import DebugBridge.Proofs.Json.Scalars

/-!
# Values and their tokens

What a reader of values gives depends on the tokens that it takes and on nothing else: wherever the
same tokens stand again, with whatever white space between them and whatever behind them, it gives
the same value and leaves the tokens behind (`Takes`). What it takes is always one value by its
brackets (`Follows`).

The proofs follow the readers. For a container there are two statements, which meet in the tokens:
what has been read has come from them (`items_follow`, `members_follow`), and from them it is read
(`items_take`, `members_take`).

Results:
1. `takesToken_of_runs`, `takesToken_string`: values of a single token.
2. `items_follow`, `items_take`, `members_follow`, `members_take`: containers.
3. `value_follows`: values.
-/

namespace DebugBridge.Json.Read

/-- The reader takes these tokens for `a`, wherever they stand and however they are spaced. -/
def Takes {α : Type} (read : Reader α) (part : List Octets) (a : α) : Prop :=
  ∀ text later, tokens text = part ++ later →
    ∃ rest, read text = .ok (a, rest) ∧ tokens rest = later

/-- Whatever the reader gives, it gives for the tokens of one value. -/
def Follows {α : Type} (read : Reader α) : Prop :=
  ∀ text a rest, read text = .ok (a, rest) → Ends isRun rest →
    ∃ part, valueEnd part = some [] ∧ tokens text = part ++ tokens rest ∧ Takes read part a

/-! ## Single tokens -/

/-- A reader for what follows the first octet takes this token for `a`. -/
def TakesToken {α : Type} (o : UInt8) (read : Reader α) (token : Octets) (a : α) : Prop :=
  ∀ text later, tokens text = token :: later →
    ∃ behind rest, skipSpace text = o :: behind ∧ read behind = .ok (a, rest) ∧ tokens rest = later

theorem valueEnd_token {o : UInt8} (mark : isMark o = false) (inside : Octets) :
    valueEnd [o :: inside] = some [] := by
  have opens : ¬ isOpening (o :: inside) = true := by
    intro opens
    simp only [isOpening, Bool.or_eq_true, beq_iff_eq, List.cons.injEq] at opens
    rcases opens with ⟨rfl, -⟩ | ⟨rfl, -⟩ <;> cases mark
  rw [valueEnd, if_neg opens, List.head?_cons, Option.any_some, if_neg (by simp [mark])]

theorem takesToken_of_runs {α : Type} {read : Reader α} (runs : Runs read) {o : UInt8}
    (first : isRun o = true) {text behind rest : Octets} {a : α}
    (begins : skipSpace text = o :: behind) (found : read behind = .ok (a, rest))
    (ends : Ends isRun rest) :
    ∃ token, valueEnd [token] = some [] ∧ tokens text = token :: tokens rest
      ∧ TakesToken o read token a := by
  obtain ⟨used, rfl, all, again⟩ := runs _ _ _ found
  obtain ⟨taken, left⟩ := cut_ends all ends
  refine ⟨o :: used, valueEnd_token (isMark_of_isRun first) used, ?_, fun text' later cut => ?_⟩
  · rw [tokens_of_run begins first, taken, left]
  · obtain ⟨rest', begins', ends', rfl⟩ := of_tokens_run first cut
    exact ⟨used ++ rest', rest', begins', again rest' ends', rfl⟩

theorem takesToken_string {inside : Octets} {s : String} (read : string inside = .ok (s, [])) :
    TakesToken (octet '"') string (octet '"' :: inside) s := by
  intro text later cut
  obtain ⟨rest, begins, rfl⟩ := of_tokens_quote cut
  exact ⟨inside ++ rest, rest, begins, string_extends read rest, rfl⟩

/-- The token of a string that has been read. -/
theorem tokens_string {text behind rest : Octets} {s : String}
    (begins : skipSpace text = octet '"' :: behind) (read : string behind = .ok (s, rest)) :
    ∃ inside, tokens text = (octet '"' :: inside) :: tokens rest ∧ string inside = .ok (s, []) := by
  obtain ⟨inside, rfl, cut, again⟩ := string_cut read
  refine ⟨inside, ?_, again⟩
  rw [tokens_of_quote begins, cut]

/-- A reader that hands over to another one behind the first octet. -/
theorem takes_of_token {α β : Type} {o : UInt8} {read : Reader β} {whole : Reader α}
    {token : Octets} {a : α} {b : β} (takes : TakesToken o read token b)
    (onward : ∀ text behind rest, skipSpace text = o :: behind → read behind = .ok (b, rest) →
      whole text = .ok (a, rest)) : Takes whole [token] a := by
  intro text later cut
  obtain ⟨behind, rest, begins, found, same⟩ := takes text later cut
  exact ⟨rest, onward text behind rest begins found, same⟩

/-! ## Items -/

theorem length_tokens_le (text : Octets) : (tokens text).length ≤ text.length := by
  fun_induction tokens text with
  | case1 => exact Nat.zero_le _
  | case2 text o rest begins mark ih =>
    have shorter := length_of_skipSpace begins
    rw [List.length_cons]
    omega
  | case3 text rest begins mark ih =>
    have shorter := length_of_skipSpace begins
    have cut := congrArg List.length (cutQuoted_append rest)
    rw [List.length_append] at cut
    rw [List.length_cons]
    omega
  | case4 text o rest begins mark quote ih =>
    have shorter := length_of_skipSpace begins
    have dropped := (List.dropWhile_suffix (l := rest) isRun).length_le
    rw [List.length_cons]
    omega

theorem length_le_listed {parts : List (List Octets)} (some' : ∀ part, part ∈ parts → part ≠ [])
    (first : Bool) : parts.length ≤ (listed first parts).length := by
  induction parts generalizing first with
  | nil => exact Nat.zero_le _
  | cons part parts ih =>
    obtain ⟨here, others⟩ := List.forall_mem_cons.mp some'
    have behind := ih others false
    have positive := List.length_pos_iff.mpr here
    cases first <;> simp only [listed, List.length_cons, List.length_append] <;> omega

/-- The steps that a container is given always suffice for its parts. -/
theorem parts_lt_steps {parts : List (List Octets)} (some' : ∀ part, part ∈ parts → part ≠ [])
    {first : Bool} {text : Octets} {later : List Octets}
    (cut : tokens text = listed first parts ++ later) : parts.length < text.length + 1 := by
  have all := length_tokens_le text
  have listed' := length_le_listed some' first
  rw [cut, List.length_append] at all
  omega

/-- A value begins with no octet that ends a container or goes on with it. -/
theorem value_begins {part later : List Octets} (value : valueEnd part = some []) {text : Octets}
    (cut : tokens text = part ++ later) :
    ∃ o rest, skipSpace text = o :: rest ∧ o ≠ octet ']' ∧ o ≠ octet '\x7d' ∧ o ≠ octet ',' := by
  cases part with
  | nil => cases value
  | cons token part =>
    obtain ⟨o, rest, inside, begins, rfl⟩ := of_tokens_cons cut
    refine ⟨o, rest, begins, ?_, ?_, ?_⟩ <;>
      · rintro rfl
        rw [valueEnd, if_neg (by simp [isOpening, octet])] at value
        cases value

/-- The reader of an item takes these tokens, which are a value. -/
def HoldsItem {α : Type} (item : Reader α) (part : List Octets) (a : α) : Prop :=
  valueEnd part = some [] ∧ Takes item part a

theorem ne_nil_of_items {α : Type} {item : Reader α} {parts : List (List Octets)} {list : List α}
    (each : List.Forall₂ (HoldsItem item) parts list) : ∀ part, part ∈ parts → part ≠ [] := by
  induction each with
  | nil => exact fun part present => absurd present List.not_mem_nil
  | cons here _ ih =>
    refine List.forall_mem_cons.mpr ⟨?_, ih⟩
    rintro rfl
    cases here.1

section Items

variable {α : Type} {item : Reader α}

/-- An item and those behind it. -/
def thenItems (item : Reader α) (behind : Reader (List α)) : Reader (List α) := fun text =>
  item text >>= fun here => behind here.2 >>= fun others => .ok (here.1 :: others.1, others.2)

/-- Behind an item the next token is a mark. -/
theorem items_ends {steps : Nat} {text rest : Octets} {list : List α}
    (read : items item steps false text = .ok (list, rest)) : Ends isRun text := by
  cases steps with
  | zero => cases read
  | succ steps =>
    unfold items at read
    split at read
    · cases read
    next begins =>
    split at read
    · next bracket =>
      subst bracket
      exact ends_of_skipSpace begins rfl
    rw [if_neg Bool.false_ne_true] at read
    split at read
    · next comma =>
      subst comma
      exact ends_of_skipSpace begins rfl
    · cases read

theorem items_follow (follows : Follows item) {steps : Nat} {first : Bool} {text rest : Octets}
    {list : List α} (read : items item steps first text = .ok (list, rest)) :
    ∃ parts, List.Forall₂ (HoldsItem item) parts list
      ∧ tokens text = listed first parts ++ [octet ']'] :: tokens rest := by
  induction steps generalizing first text list with
  | zero => cases read
  | succ steps ih =>
    -- An item and those behind it, from the octet where the item begins.
    have onward : ∀ {text : Octets},
        thenItems item (items item steps false) text = .ok (list, rest) →
        ∃ part parts, List.Forall₂ (HoldsItem item) (part :: parts) list
          ∧ tokens text = part ++ listed false parts ++ [octet ']'] :: tokens rest := by
      intro text read
      obtain ⟨⟨a, between⟩, here, read⟩ := Result.bind_eq_ok.mp read
      obtain ⟨⟨later, rest'⟩, found, read⟩ := Result.bind_eq_ok.mp read
      cases read
      obtain ⟨part, value, cut, takes⟩ := follows _ _ _ here (items_ends found)
      obtain ⟨parts, others, cut'⟩ := ih found
      exact ⟨part, parts, .cons ⟨value, takes⟩ others, by rw [cut, cut', List.append_assoc]⟩
    unfold items at read
    split at read
    · cases read
    next o rest' begins =>
    split at read
    · next bracket =>
      subst bracket
      cases read
      exact ⟨[], .nil, tokens_of_mark begins rfl⟩
    split at read
    · next isFirst =>
      obtain rfl := isFirst
      obtain ⟨part, parts, each, cut⟩ := onward read
      rw [← begins, tokens_skipSpace] at cut
      exact ⟨part :: parts, each, cut⟩
    next isLater =>
    obtain rfl := Bool.eq_false_iff.mpr isLater
    split at read
    · next comma =>
      subst comma
      split at read
      · cases read
      next begins' =>
      split at read
      · cases read
      · obtain ⟨part, parts, each, cut⟩ := onward read
        rw [← begins', tokens_skipSpace] at cut
        refine ⟨part :: parts, each, ?_⟩
        rw [tokens_of_mark begins rfl, cut]
        rfl
    · cases read

theorem items_take {parts : List (List Octets)} {list : List α}
    (each : List.Forall₂ (HoldsItem item) parts list) {steps : Nat} (enough : parts.length < steps)
    {first : Bool} {text : Octets} {later : List Octets}
    (cut : tokens text = listed first parts ++ [octet ']'] :: later) :
    ∃ rest, items item steps first text = .ok (list, rest) ∧ tokens rest = later := by
  induction each generalizing steps first text with
  | nil =>
    obtain ⟨steps, rfl⟩ := Nat.exists_eq_add_one_of_ne_zero (Nat.ne_zero_of_lt enough)
    obtain ⟨rest, begins, same⟩ := of_tokens_mark (o := octet ']') rfl cut
    refine ⟨rest, ?_, same⟩
    rw [items, begins]
    exact if_pos rfl
  | @cons part a parts list here others ih =>
    obtain ⟨steps, rfl⟩ := Nat.exists_eq_add_one_of_ne_zero (Nat.ne_zero_of_lt enough)
    obtain ⟨value, takes⟩ := here
    -- The item is read from the octet where it begins, and then the others.
    have onward : ∀ {text : Octets},
        tokens text = part ++ (listed false parts ++ [octet ']'] :: later) →
        ∃ o behind rest, skipSpace text = o :: behind ∧ o ≠ octet ']'
          ∧ thenItems item (items item steps false) (o :: behind) = .ok (a :: list, rest)
          ∧ tokens rest = later := by
      intro text cut
      obtain ⟨o, behind, begins, bracket, -⟩ := value_begins value cut
      rw [← tokens_skipSpace, begins] at cut
      obtain ⟨between, found, cut'⟩ := takes _ _ cut
      obtain ⟨rest, found', same⟩ := ih (Nat.lt_of_succ_lt_succ enough) cut'
      refine ⟨o, behind, rest, begins, bracket, ?_, same⟩
      rw [thenItems, found, Result.ok_bind, found']
      rfl
    cases first with
    | true =>
      rw [listed, List.append_assoc] at cut
      obtain ⟨o, behind, rest, begins, bracket, found, same⟩ := onward cut
      refine ⟨rest, ?_, same⟩
      rw [items, begins]
      exact (if_neg bracket).trans ((if_pos rfl).trans found)
    | false =>
      rw [listed, List.cons_append, List.append_assoc] at cut
      obtain ⟨text', begins, cut⟩ := of_tokens_mark (o := octet ',') rfl cut
      obtain ⟨o, behind, rest, begins', bracket, found, same⟩ := onward cut
      refine ⟨rest, ?_, same⟩
      rw [items, begins]
      dsimp only
      rw [if_neg (by decide), if_neg Bool.false_ne_true, if_pos rfl, begins']
      exact (if_neg bracket).trans found

end Items

/-! ## Members -/

namespace Member

/-- The key of the member is this name. -/
def Named (member : Member) (name : String) : Prop :=
  ∃ inside, member.key = octet '"' :: inside ∧ string inside = .ok (name, [])

/-- The member is read as this name and this value. -/
def Holds (value : Reader Json) (member : Member) (entry : String × Json) : Prop :=
  member.Named entry.1 ∧ HoldsItem value member.value entry.2

theorem isFormed_of_holds {value : Reader Json} {member : Member} {entry : String × Json}
    (holds : member.Holds value entry) : member.IsFormed := by
  obtain ⟨⟨inside, key, -⟩, formed, -⟩ := holds
  exact ⟨by rw [key]; rfl, formed⟩

end Member

section Members

variable {σ : Type}

/-- What a reader of members does with the value of a member, which a reader of values gives. It
takes what follows the key, so the colon and the value. -/
structure Handles (value : Reader Json) (member : σ → String → Reader σ)
    (take : σ → String × Json → Option σ) : Prop where
  follows : ∀ {state key text next rest}, member state key text = .ok (next, rest) →
    Ends isRun rest → ∃ part v, HoldsItem value part v
      ∧ tokens text = [octet ':'] :: part ++ tokens rest ∧ take state (key, v) = some next
  takes : ∀ {state key part v next}, take state (key, v) = some next → HoldsItem value part v →
    Takes (member state key) ([octet ':'] :: part) next

variable {value : Reader Json} {member : σ → String → Reader σ}
  {take : σ → String × Json → Option σ}

/-- A member, from behind the quote that begins its key, and those behind it. -/
def thenMembers (member : σ → String → Reader σ) (behind : σ → Reader σ) (state : σ) : Reader σ :=
  fun text => string text >>= fun key => member state key.1 key.2 >>= fun next =>
    behind next.1 next.2

/-- Behind a member the next token is a mark. -/
theorem members_ends {steps : Nat} {state last : σ} {text rest : Octets}
    (read : members member steps false state text = .ok (last, rest)) : Ends isRun text := by
  cases steps with
  | zero => cases read
  | succ steps =>
    unfold members at read
    split at read
    · cases read
    next begins =>
    split at read
    · next brace =>
      subst brace
      exact ends_of_skipSpace begins rfl
    rw [if_neg Bool.false_ne_true] at read
    split at read
    · next comma =>
      subst comma
      exact ends_of_skipSpace begins rfl
    · cases read

theorem members_follow (handles : Handles value member take) {steps : Nat} {first : Bool}
    {state last : σ} {text rest : Octets}
    (read : members member steps first state text = .ok (last, rest)) :
    ∃ list entries, List.Forall₂ (Member.Holds value) list entries
      ∧ entries.foldlM take state = some last
      ∧ tokens text = listed first (list.map Member.tokens) ++ [octet '\x7d'] :: tokens rest := by
  induction steps generalizing first state text with
  | zero => cases read
  | succ steps ih =>
    -- A member and those behind it, from behind the quote that begins its key.
    have onward : ∀ {text behind : Octets}, skipSpace text = octet '"' :: behind →
        thenMembers member (members member steps false) state behind = .ok (last, rest) →
        ∃ x list entries, List.Forall₂ (Member.Holds value) (x :: list) entries
          ∧ entries.foldlM take state = some last
          ∧ tokens text = x.tokens ++ listed false (list.map Member.tokens)
            ++ [octet '\x7d'] :: tokens rest := by
      intro text behind begins read
      obtain ⟨⟨key, behind'⟩, named, read⟩ := Result.bind_eq_ok.mp read
      obtain ⟨⟨next, between⟩, here, read⟩ := Result.bind_eq_ok.mp read
      obtain ⟨inside, keyCut, keyRead⟩ := tokens_string begins named
      obtain ⟨part, v, holds, cut, taken⟩ := handles.follows here (members_ends read)
      obtain ⟨list, entries, others, folded, cut'⟩ := ih read
      refine ⟨⟨octet '"' :: inside, part⟩, list, (key, v) :: entries,
        .cons ⟨⟨inside, rfl, keyRead⟩, holds⟩ others, ?_, ?_⟩
      · rw [List.foldlM_cons, taken]
        exact folded
      · rw [keyCut, cut, cut']
        simp [Member.tokens]
    unfold members at read
    split at read
    · cases read
    next o rest' begins =>
    split at read
    · next brace =>
      subst brace
      cases read
      exact ⟨[], [], .nil, rfl, tokens_of_mark begins rfl⟩
    split at read
    · next isFirst =>
      obtain rfl := isFirst
      split at read
      · next quote =>
        subst quote
        obtain ⟨x, list, entries, each, folded, cut⟩ := onward begins read
        exact ⟨x :: list, entries, each, folded, cut⟩
      · cases read
    next isLater =>
    obtain rfl := Bool.eq_false_iff.mpr isLater
    split at read
    · next comma =>
      subst comma
      split at read
      · cases read
      next begins' =>
      split at read
      · next quote =>
        subst quote
        obtain ⟨x, list, entries, each, folded, cut⟩ := onward begins' read
        refine ⟨x :: list, entries, each, folded, ?_⟩
        rw [tokens_of_mark begins rfl, cut]
        rfl
      · split at read <;> cases read
    · cases read

theorem members_take (handles : Handles value member take) {list : List Member}
    {entries : List (String × Json)} (each : List.Forall₂ (Member.Holds value) list entries)
    {steps : Nat} (enough : list.length < steps) {first : Bool} {state last : σ}
    (folded : entries.foldlM take state = some last) {text : Octets} {later : List Octets}
    (cut : tokens text = listed first (list.map Member.tokens) ++ [octet '\x7d'] :: later) :
    ∃ rest, members member steps first state text = .ok (last, rest) ∧ tokens rest = later := by
  induction each generalizing steps first state text with
  | nil =>
    obtain ⟨steps, rfl⟩ := Nat.exists_eq_add_one_of_ne_zero (Nat.ne_zero_of_lt enough)
    obtain ⟨rest, begins, same⟩ := of_tokens_mark (o := octet '\x7d') rfl cut
    cases folded
    refine ⟨rest, ?_, same⟩
    rw [members, begins]
    exact if_pos rfl
  | @cons x entry list entries here others ih =>
    obtain ⟨steps, rfl⟩ := Nat.exists_eq_add_one_of_ne_zero (Nat.ne_zero_of_lt enough)
    obtain ⟨⟨inside, key, keyRead⟩, holds⟩ := here
    obtain ⟨next, taken, folded⟩ := Option.bind_eq_some_iff.mp folded
    -- The member is read from behind the quote that begins it, and then the others.
    have onward : ∀ {text : Octets},
        tokens text
          = x.tokens ++ (listed false (list.map Member.tokens) ++ [octet '\x7d'] :: later) →
        ∃ behind rest, skipSpace text = octet '"' :: behind
          ∧ thenMembers member (members member steps false) state behind = .ok (last, rest)
          ∧ tokens rest = later := by
      intro text cut
      rw [Member.tokens, key] at cut
      obtain ⟨behind, between, begins, named, cut⟩ := takesToken_string keyRead _ _ cut
      obtain ⟨between', found, cut⟩ := handles.takes taken holds _ _ cut
      obtain ⟨rest, found', same⟩ := ih (Nat.lt_of_succ_lt_succ enough) folded cut
      refine ⟨behind, rest, begins, ?_, same⟩
      rw [thenMembers, named, Result.ok_bind, found]
      exact found'
    cases first with
    | true =>
      rw [List.map_cons, listed, List.append_assoc] at cut
      obtain ⟨behind, rest, begins, found, same⟩ := onward cut
      refine ⟨rest, ?_, same⟩
      rw [members, begins]
      dsimp only
      rw [if_neg (by decide), if_pos rfl]
      exact (if_pos rfl).trans found
    | false =>
      rw [List.map_cons, listed, List.cons_append, List.append_assoc] at cut
      obtain ⟨text', begins, cut⟩ := of_tokens_mark (o := octet ',') rfl cut
      obtain ⟨behind, rest, begins', found, same⟩ := onward cut
      refine ⟨rest, ?_, same⟩
      rw [members, begins]
      dsimp only
      rw [if_neg (by decide), if_neg Bool.false_ne_true, if_pos rfl, begins']
      exact (if_pos rfl).trans found

end Members

theorem colon_take {text : Octets} {later : List Octets}
    (cut : tokens text = [octet ':'] :: later) :
    ∃ rest, colon text = .ok rest ∧ tokens rest = later := by
  obtain ⟨rest, begins, same⟩ := of_tokens_mark (o := octet ':') rfl cut
  refine ⟨rest, ?_, same⟩
  rw [colon, begins]
  exact if_pos rfl

theorem tokens_colon {text rest : Octets} (read : colon text = .ok rest) :
    tokens text = [octet ':'] :: tokens rest := by
  unfold colon at read
  split at read
  · cases read
  next begins =>
  split at read
  · next isColon =>
    subst isColon
    cases read
    exact tokens_of_mark begins rfl
  · cases read

/-- A plain member is kept. -/
theorem plain_handles {value : Reader Json} (follows : Follows value) :
    Handles value (plainMember value) fun before entry => some (entry :: before) where
  follows := by
    intro before key text next rest read ends
    obtain ⟨behind, isColon, read⟩ := Result.bind_eq_ok.mp read
    obtain ⟨⟨v, behind'⟩, found, read⟩ := Result.bind_eq_ok.mp read
    cases read
    obtain ⟨part, formed, cut, takes⟩ := follows _ _ _ found ends
    exact ⟨part, v, ⟨formed, takes⟩, by rw [tokens_colon isColon, cut, List.cons_append], rfl⟩
  takes := by
    intro before key part v next taken holds text later cut
    cases taken
    obtain ⟨behind, isColon, cut⟩ := colon_take cut
    obtain ⟨rest, found, same⟩ := holds.2 _ _ cut
    refine ⟨rest, ?_, same⟩
    rw [plainMember, isColon, Result.ok_bind]
    dsimp only
    rw [found]
    rfl

/-! ## Values -/

theorem ne_nil_of_members (list : List Member) :
    ∀ part, part ∈ list.map Member.tokens → part ≠ [] := by
  intro part present
  obtain ⟨x, -, rfl⟩ := List.mem_map.mp present
  exact List.cons_ne_nil _ _

theorem balanced_of_items {α : Type} {item : Reader α} {parts : List (List Octets)}
    {list : List α} (each : List.Forall₂ (HoldsItem item) parts list) :
    ∀ part, part ∈ parts → Balanced part := by
  induction each with
  | nil => exact fun part present => absurd present List.not_mem_nil
  | cons here _ ih => exact List.forall_mem_cons.mpr ⟨balanced_value here.1, ih⟩

theorem isFormed_of_members {value : Reader Json} {list : List Member}
    {entries : List (String × Json)} (each : List.Forall₂ (Member.Holds value) list entries) :
    ∀ x, x ∈ list → x.IsFormed := by
  induction each with
  | nil => exact fun x present => absurd present List.not_mem_nil
  | cons here _ ih => exact List.forall_mem_cons.mpr ⟨Member.isFormed_of_holds here, ih⟩

/-- The tokens of an object are a value. -/
theorem valueEnd_object {list : List Member} (formed : ∀ x, x ∈ list → x.IsFormed) :
    valueEnd (objectTokens list) = some [] := by
  refine valueEnd_bracketed (balanced_listed ?_ true) rfl rfl (by decide)
  intro part present
  obtain ⟨x, inside, rfl⟩ := List.mem_map.mp present
  exact Member.balanced (formed x inside)

theorem takes_array {reader : Reader Json} {parts : List (List Octets)} {list : List Json}
    (each : List.Forall₂ (HoldsItem reader) parts list) :
    Takes (valueWith (some reader)) ([octet '['] :: (listed true parts ++ [[octet ']']]))
      (.array list) := by
  intro text later cut
  rw [List.cons_append, List.append_assoc] at cut
  obtain ⟨behind, begins, cut⟩ := of_tokens_mark (o := octet '[') rfl cut
  obtain ⟨rest, found, same⟩ := items_take each (parts_lt_steps (ne_nil_of_items each) cut) cut
  refine ⟨rest, ?_, same⟩
  rw [valueWith, begins]
  show (items reader (behind.length + 1) true behind >>= _) = _
  rw [found]
  rfl

/-- An object is taken by any reader of its members that knows what to do with them. -/
theorem members_of_object {σ : Type} {value : Reader Json} {member : σ → String → Reader σ}
    {take : σ → String × Json → Option σ} (handles : Handles value member take)
    {list : List Member} {entries : List (String × Json)}
    (each : List.Forall₂ (Member.Holds value) list entries) {state last : σ}
    (folded : entries.foldlM take state = some last) {text : Octets} {later : List Octets}
    (cut : tokens text = objectTokens list ++ later) :
    ∃ behind rest, skipSpace text = octet '\x7b' :: behind
      ∧ members member (behind.length + 1) true state behind = .ok (last, rest)
      ∧ tokens rest = later := by
  rw [objectTokens, List.cons_append, List.append_assoc] at cut
  obtain ⟨behind, begins, cut⟩ := of_tokens_mark (o := octet '\x7b') rfl cut
  have enough := parts_lt_steps (ne_nil_of_members list) cut
  rw [List.length_map] at enough
  obtain ⟨rest, found, same⟩ := members_take handles each enough folded cut
  exact ⟨behind, rest, begins, found, same⟩

theorem tokens_object {text behind : Octets} {list : List Member} {later : List Octets}
    (begins : skipSpace text = octet '\x7b' :: behind)
    (cut : tokens behind = listed true (list.map Member.tokens) ++ [octet '\x7d'] :: later) :
    tokens text = objectTokens list ++ later := by
  rw [tokens_of_mark begins rfl, cut, objectTokens, List.cons_append, List.append_assoc]
  rfl

section Value

variable {nested : Option (Reader Json)}

theorem takes_string {inside : Octets} {s : String} (read : string inside = .ok (s, [])) :
    Takes (valueWith nested) [octet '"' :: inside] (.string s) := by
  refine takes_of_token (takesToken_string read) fun text behind rest begins found => ?_
  rw [valueWith, begins]
  show (string behind >>= _) = _
  rw [found]
  rfl

/-- The value has been read from the tokens of one value, and is read from them wherever they
stand. -/
def Given (nested : Option (Reader Json)) (text rest : Octets) (v : Json) : Prop :=
  ∃ part, valueEnd part = some [] ∧ tokens text = part ++ tokens rest
    ∧ Takes (valueWith nested) part v

variable {text behind rest : Octets}

theorem given_of_runs {α : Type} {read : Reader α} (runs : Runs read) {o : UInt8}
    (first : isRun o = true) {a : α} {v : Json} (begins : skipSpace text = o :: behind)
    (found : read behind = .ok (a, rest)) (ends : Ends isRun rest)
    (onward : ∀ text behind rest, skipSpace text = o :: behind → read behind = .ok (a, rest) →
      valueWith nested text = .ok (v, rest)) : Given nested text rest v := by
  obtain ⟨token, value, cut, takes⟩ := takesToken_of_runs runs first begins found ends
  exact ⟨[token], value, cut, takes_of_token takes onward⟩

theorem given_string {s : String} (begins : skipSpace text = octet '"' :: behind)
    (found : string behind = .ok (s, rest)) : Given nested text rest (.string s) := by
  obtain ⟨inside, cut, again⟩ := tokens_string begins found
  exact ⟨[_], valueEnd_token rfl inside, cut, takes_string again⟩

theorem given_array {reader : Reader Json} (follows : Follows reader) {list : List Json}
    (begins : skipSpace text = octet '[' :: behind)
    (found : items reader (behind.length + 1) true behind = .ok (list, rest)) :
    Given (some reader) text rest (.array list) := by
  obtain ⟨parts, each, cut⟩ := items_follow follows found
  have value := valueEnd_bracketed (balanced_listed (balanced_of_items each) true)
    (show isOpening [octet '['] = true from rfl) (show isClosing [octet ']'] = true from rfl)
    (by decide)
  refine ⟨_, value, ?_, takes_array each⟩
  rw [tokens_of_mark begins rfl, cut]
  simp

theorem given_object {reader : Reader Json} (follows : Follows reader)
    {reversed : List (String × Json)} (begins : skipSpace text = octet '\x7b' :: behind)
    (found : members (plainMember reader) (behind.length + 1) true [] behind
      = .ok (reversed, rest)) : Given (some reader) text rest (.object reversed.reverse) := by
  obtain ⟨list, entries, each, folded, cut⟩ := members_follow (plain_handles follows) found
  refine ⟨objectTokens list, valueEnd_object (isFormed_of_members each),
    tokens_object begins cut, fun text' later cut' => ?_⟩
  obtain ⟨behind', rest', begins', found', same⟩ :=
    members_of_object (plain_handles follows) each folded cut'
  refine ⟨rest', ?_, same⟩
  rw [valueWith, begins']
  show (members (plainMember reader) (behind'.length + 1) true [] behind' >>= _) = _
  rw [found']
  rfl

theorem valueWith_follows (inside : ∀ reader, nested = some reader → Follows reader) :
    Follows (valueWith nested) := by
  intro text v rest read ends
  unfold valueWith at read
  split at read
  · cases read
  next o behind begins =>
  -- The three words.
  iterate 3
    split at read
    · next same =>
      subst same
      refine given_of_runs (word_runs rfl _) rfl begins read ends
        fun text' behind' rest' begins' read' => ?_
      rw [valueWith, begins']
      exact read'
  split at read
  · next same =>
    subst same
    obtain ⟨⟨n, rest'⟩, found, read⟩ := Result.bind_eq_ok.mp read
    cases read
    refine given_of_runs (number_runs true) rfl begins found ends
      fun text' behind' rest' begins' found' => ?_
    rw [valueWith, begins']
    show (number true behind' >>= _) = _
    rw [found']
    rfl
  split at read
  · next null true' false' minus digit =>
    obtain ⟨⟨n, rest'⟩, found, read⟩ := Result.bind_eq_ok.mp read
    cases read
    -- The first digit is given back to the reader of numbers.
    have runs : Runs fun text => number false (o :: text) := by
      intro text n rest read
      obtain ⟨used, same, -, all, again⟩ :=
        runs_nonempty (number_runs false) (fun _ same => by cases same) read
      exact ⟨used, same, all, again⟩
    refine given_of_runs runs (isRun_of_isDigit digit) begins found ends
      fun text' behind' rest' begins' found' => ?_
    rw [valueWith, begins']
    dsimp only
    rw [if_neg null, if_neg true', if_neg false', if_neg minus, if_pos digit]
    show (number false (o :: behind') >>= _) = _
    rw [found']
    rfl
  split at read
  · next same =>
    subst same
    obtain ⟨⟨s, rest'⟩, found, read⟩ := Result.bind_eq_ok.mp read
    cases read
    exact given_string begins found
  split at read
  · next same =>
    subst same
    cases nested with
    | none => cases read
    | some reader =>
      obtain ⟨⟨list, rest'⟩, found, read⟩ := Result.bind_eq_ok.mp read
      cases read
      exact given_array (inside reader rfl) begins found
  split at read
  · next same =>
    subst same
    cases nested with
    | none => cases read
    | some reader =>
      obtain ⟨⟨reversed, rest'⟩, found, read⟩ := Result.bind_eq_ok.mp read
      cases read
      exact given_object (inside reader rfl) begins found
  · cases read

/-- A value is read from its tokens. -/
theorem value_follows (depth : Nat) : Follows (value depth) := by
  induction depth with
  | zero => exact valueWith_follows fun reader same => by cases same
  | succ depth ih =>
    refine valueWith_follows fun reader same => ?_
    cases same
    exact ih

end Value

end DebugBridge.Json.Read
