import DebugBridge.Json.Tagged
import DebugBridge.Proofs.Result

/-!
# White space behind a text

What is read from a text is read from it also when white space follows, and the white space is left.
So a line that can be read with a carriage return at its end can be read without it, and the other
way round for what cannot be read.

Results:
1. `string_append`, `number_append`: strings and numbers.
2. `items_append`, `members_append`: containers, from what is known of their parts.
3. `value_append`, `readText_append`: values, and whole texts.
-/

namespace DebugBridge.Json.Read

/-- What a reader gives, it gives also when a further octet follows, which it leaves. -/
def Extends {α : Type} (read : Reader α) (o : UInt8) : Prop :=
  ∀ text a rest, read text = .ok (a, rest) → read (text ++ [o]) = .ok (a, rest ++ [o])

variable {o : UInt8}

/-- A reader that looks at a condition gives what the way that it takes gives. -/
theorem branch {β : Type} {p : Prop} [Decidable p] {yes no yes' no' : Except Stop β} {b b' : β}
    (way : p → yes = .ok b → yes' = .ok b') (other : ¬ p → no = .ok b → no' = .ok b')
    (read : (if p then yes else no) = .ok b) : (if p then yes' else no') = .ok b' := by
  by_cases h : p
  · rw [if_pos h] at read ⊢
    exact way h read
  · rw [if_neg h] at read ⊢
    exact other h read

theorem skipSpace_append {text rest : Octets} {next : UInt8}
    (skipped : skipSpace text = next :: rest) (more : Octets) :
    skipSpace (text ++ more) = next :: (rest ++ more) := by
  induction text with
  | nil => cases skipped
  | cons c text ih =>
    unfold skipSpace at skipped ih ⊢
    rw [List.cons_append]
    by_cases space : isSpace c = true
    · rw [List.dropWhile_cons_of_pos space] at skipped ⊢
      exact ih skipped
    · rw [List.dropWhile_cons_of_neg space] at skipped ⊢
      cases skipped
      rfl

/-- White space behind nothing but white space is skipped with it. -/
theorem skipSpace_append_blank (blank : isSpace o = true) {text : Octets}
    (nothing : skipSpace text = []) : skipSpace (text ++ [o]) = [] := by
  induction text with
  | nil => exact List.dropWhile_cons_of_pos blank
  | cons c text ih =>
    unfold skipSpace at nothing ih ⊢
    rw [List.cons_append]
    by_cases space : isSpace c = true
    · rw [List.dropWhile_cons_of_pos space] at nothing ⊢
      exact ih nothing
    · rw [List.dropWhile_cons_of_neg space] at nothing
      cases nothing

/-- White space is no digit. -/
theorem isDigit_of_isSpace (blank : isSpace o = true) : isDigit o = false := by
  simp only [isSpace, Bool.or_eq_true, beq_iff_eq] at blank
  rcases blank with ((rfl | rfl) | rfl) | rfl <;> rfl

/-- White space begins no exponent. -/
theorem isExponentMark_of_isSpace (blank : isSpace o = true) : isExponentMark o = false := by
  simp only [isSpace, Bool.or_eq_true, beq_iff_eq] at blank
  rcases blank with ((rfl | rfl) | rfl) | rfl <;> rfl

/-- White space is no point. -/
theorem ne_point_of_isSpace (blank : isSpace o = true) : o ≠ octet '.' := by
  rintro rfl
  cases blank

/-! ## Words and numbers -/

theorem word_append {letters : List Char} {text rest : Octets}
    (read : word letters text = .ok rest) (more : Octets) :
    word letters (text ++ more) = .ok (rest ++ more) := by
  induction letters generalizing text with
  | nil =>
    cases read
    rfl
  | cons letter letters ih =>
    cases text with
    | nil => cases read
    | cons c text =>
      unfold word at read
      rw [List.cons_append, word]
      exact branch (fun _ read => ih read) (fun _ read => by cases read) read

theorem takeWhile_isDigit_append (ends : isDigit o = false) (text : Octets) :
    (text ++ [o]).takeWhile isDigit = text.takeWhile isDigit := by
  induction text with
  | nil => simp [ends]
  | cons c text ih => simp [List.takeWhile_cons, ih]

theorem dropWhile_isDigit_append (ends : isDigit o = false) (text : Octets) :
    (text ++ [o]).dropWhile isDigit = text.dropWhile isDigit ++ [o] := by
  induction text with
  | nil => simp [ends]
  | cons c text ih =>
    rw [List.cons_append, List.dropWhile_cons, List.dropWhile_cons, ih]
    split <;> rfl

theorem exponentDigits_append (ends : isDigit o = false) (exponent : Nat) (text : Octets) :
    exponentDigits exponent (text ++ [o])
      = match exponentDigits exponent text with
        | (exponent, passed, rest) => (exponent, passed, rest ++ [o]) := by
  induction text generalizing exponent with
  | nil => simp [exponentDigits, ends]
  | cons c text ih =>
    rw [List.cons_append, exponentDigits, exponentDigits]
    dsimp only
    by_cases digit : isDigit c = true
    · rw [if_pos digit, if_pos digit]
      by_cases large : exponentLimit < exponent * 10 + (c.toNat - 0x30)
      · rw [if_pos large, if_pos large]
      · rw [if_neg large, if_neg large]
        exact ih _
    · rw [if_neg digit, if_neg digit]
      rfl

theorem finite_append {x : Binary64} {rest rest' : Octets} {n : Number}
    (read : finite x rest = .ok (n, rest')) (more : Octets) :
    finite x (rest ++ more) = .ok (n, rest' ++ more) := by
  unfold finite at read ⊢
  refine branch (fun _ read => ?_) (fun _ read => by cases read) read
  cases read
  rfl

/-- The sign of an exponent, and what is behind it. -/
def exponentSign : Octets → Bool × Octets
  | [] => (false, [])
  | c :: rest =>
    if c = octet '+' then (false, rest) else if c = octet '-' then (true, rest)
    else (false, c :: rest)

/-- An exponent whose sign has been read. -/
def unsignedExponent (negative : Bool) (digits : Nat) (power : Int) (below : Bool) :
    Octets → Except Stop (Number × Octets)
  | [] => breach .endInValue []
  | c :: rest =>
    if isDigit c then
      let (magnitude, passed, rest) := exponentDigits (c.toNat - 0x30) rest
      if passed then
        if digits ≠ 0 ∧ below = false then breach .numberOutOfRange rest
        else finite (.ofMagnitude negative 0) (rest.dropWhile isDigit)
      else
        let shift := if below then -(magnitude : Int) else magnitude
        finite (.ofDecimal negative digits (power + shift)) rest
    else breach .invalidNumber rest

theorem exponent_eq (negative : Bool) (digits : Nat) (power : Int) (text : Octets) :
    exponent negative digits power text
      = unsignedExponent negative digits power (exponentSign text).1 (exponentSign text).2 := by
  cases text <;> rfl

theorem unsignedExponent_append (ends : isDigit o = false) {negative : Bool} {digits : Nat}
    {power : Int} {below : Bool} : Extends (unsignedExponent negative digits power below) o := by
  intro text n rest read
  cases text with
  | nil => cases read
  | cons c text =>
    unfold unsignedExponent at read
    rw [List.cons_append, unsignedExponent]
    rw [exponentDigits_append ends]
    refine branch (fun _ read => ?_) (fun _ read => by cases read) read
    refine branch (fun _ read => ?_) (fun _ read => finite_append read [o]) read
    refine branch (fun _ read => by cases read) (fun _ read => ?_) read
    rw [dropWhile_isDigit_append ends]
    exact finite_append read [o]

theorem exponent_append (ends : isDigit o = false) {negative : Bool} {digits : Nat} {power : Int} :
    Extends (exponent negative digits power) o := by
  intro text n rest read
  rw [exponent_eq] at read ⊢
  cases text with
  | nil => cases read
  | cons c text =>
    -- What follows the sign has the octet behind it in each of the three cases.
    have signed : exponentSign (c :: text ++ [o])
        = ((exponentSign (c :: text)).1, (exponentSign (c :: text)).2 ++ [o]) := by
      rw [List.cons_append, exponentSign, exponentSign]
      split
      · rfl
      split <;> rfl
    rw [signed]
    exact unsignedExponent_append ends _ _ _ read

theorem fraction_append (blank : isSpace o = true) {negative : Bool} {whole : Nat} :
    Extends (fraction negative whole) o := by
  intro text n rest read
  have ends := isDigit_of_isSpace blank
  unfold fraction at read ⊢
  rw [takeWhile_isDigit_append ends, dropWhile_isDigit_append ends]
  dsimp only at read ⊢
  cases digits : text.takeWhile isDigit with
  | nil =>
    rw [digits] at read
    cases behind : text.dropWhile isDigit <;> rw [behind] at read <;> cases read
  | cons digit more =>
    rw [digits] at read
    cases behind : text.dropWhile isDigit with
    | nil =>
      -- A number that ended with the text ends before white space too.
      rw [behind] at read
      rw [List.nil_append]
      dsimp only
      rw [if_neg (Bool.eq_false_iff.mp (isExponentMark_of_isSpace blank))]
      exact finite_append read [o]
    | cons c rest' =>
      rw [behind] at read
      exact branch (fun _ read => exponent_append ends _ _ _ read)
        (fun _ read => finite_append read [o]) read

theorem whole_append {negative : Bool} {value : Nat} {rest rest' : Octets} {n : Number}
    (read : whole negative value rest = .ok (n, rest')) (more : Octets) :
    whole negative value (rest ++ more) = .ok (n, rest' ++ more) := by
  unfold whole at read ⊢
  refine branch (fun _ read => ?_) (fun _ read => ?_) read
  · refine branch (fun _ read => ?_) (fun _ read => finite_append read more) read
    cases read
    rfl
  · refine branch (fun _ read => ?_) (fun _ read => finite_append read more) read
    cases read
    rfl

theorem afterWhole_append (blank : isSpace o = true) {negative : Bool} {value : Nat} :
    Extends (afterWhole negative value) o := by
  intro text n rest read
  cases text with
  | nil =>
    rw [List.nil_append, afterWhole, if_neg (ne_point_of_isSpace blank),
      if_neg (Bool.eq_false_iff.mp (isExponentMark_of_isSpace blank))]
    exact whole_append read [o]
  | cons c text =>
    refine branch (fun _ read => fraction_append blank _ _ _ read) (fun _ read => ?_) read
    exact branch (fun _ read => exponent_append (isDigit_of_isSpace blank) _ _ _ read)
      (fun _ read => whole_append read [o]) read

theorem number_append (blank : isSpace o = true) {negative : Bool} :
    Extends (number negative) o := by
  intro text n rest read
  have ends := isDigit_of_isSpace blank
  cases text with
  | nil => cases read
  | cons c text =>
    rw [List.cons_append]
    unfold number at read ⊢
    refine branch (fun _ read => ?_) (fun _ read => ?_) read
    · cases text with
      | nil =>
        rw [List.nil_append]
        dsimp only
        rw [if_neg (Bool.eq_false_iff.mp ends)]
        exact afterWhole_append blank _ _ _ read
      | cons next later =>
        exact branch (fun _ read => by cases read)
          (fun _ read => afterWhole_append blank _ _ _ read) read
    · refine branch (fun _ read => ?_) (fun _ read => by cases read) read
      rw [takeWhile_isDigit_append ends, dropWhile_isDigit_append ends]
      exact afterWhole_append blank _ _ _ read

/-! ## Strings -/

theorem escapeCode_append {text rest : Octets} {code : Nat}
    (read : escapeCode text = .ok (code, rest)) (more : Octets) :
    escapeCode (text ++ more) = .ok (code, rest ++ more) := by
  unfold escapeCode at read
  split at read
  · next a b c d rest' =>
    split at read
    · next found =>
      cases read
      simp only [List.cons_append, escapeCode, found]
    · cases read
  · cases read

theorem lowSurrogate_append {high : Nat} {text rest : Octets} {c : Char}
    (read : lowSurrogate high text = .ok (c, rest)) (more : Octets) :
    lowSurrogate high (text ++ more) = .ok (c, rest ++ more) := by
  unfold lowSurrogate at read
  split at read
  · cases read
  next slash behind =>
  split at read
  · next isSlash =>
    split at read
    · cases read
    next u behind =>
    split at read
    · next isU =>
      obtain ⟨⟨low, rest'⟩, code, read⟩ := Result.bind_eq_ok.mp read
      dsimp only at read
      split at read
      · next range =>
        obtain ⟨rfl, rfl⟩ := Prod.mk.inj (Except.ok.inj read)
        rw [List.cons_append, List.cons_append, lowSurrogate, if_pos isSlash]
        simp only [if_pos isU, escapeCode_append code more, Result.ok_bind, if_pos range]
      · cases read
    · cases read
  · cases read

theorem escape_append {text rest : Octets} {c : Char} (read : escape text = .ok (c, rest))
    (more : Octets) : escape (text ++ more) = .ok (c, rest ++ more) := by
  cases text with
  | nil => cases read
  | cons letter text =>
    rw [List.cons_append, escape]
    -- Every letter but the last stands for a character of its own.
    iterate 8
      refine branch (fun _ read => by cases read; rfl) (fun _ read => ?_) read
    refine branch (fun _ read => ?_) (fun _ read => by cases read) read
    obtain ⟨⟨code, rest'⟩, found, read⟩ := Result.bind_eq_ok.mp read
    rw [escapeCode_append found more, Result.ok_bind]
    refine branch (fun _ read => by cases read) (fun _ read => ?_) read
    refine branch (fun _ read => lowSurrogate_append read more) (fun _ read => ?_) read
    cases read
    rfl

theorem stringOctets_append {steps : Nat} {text rest octets : Octets}
    (read : stringOctets steps text = .ok (octets, rest)) (more : Octets) {steps' : Nat}
    (enough : steps ≤ steps') :
    stringOctets steps' (text ++ more) = .ok (octets, rest ++ more) := by
  induction steps generalizing text octets steps' with
  | zero => cases read
  | succ steps ih =>
    obtain ⟨steps', rfl⟩ := Nat.exists_eq_add_one_of_ne_zero (Nat.ne_zero_of_lt enough)
    have enough := Nat.le_of_succ_le_succ enough
    cases text with
    | nil => cases read
    | cons c text =>
      unfold stringOctets at read
      rw [List.cons_append, stringOctets]
      refine branch (fun _ read => by cases read; rfl) (fun _ read => ?_) read
      refine branch (fun _ read => ?_) (fun _ read => ?_) read
      · obtain ⟨⟨c', behind⟩, escaped, read⟩ := Result.bind_eq_ok.mp read
        obtain ⟨⟨later, behind'⟩, others, read⟩ := Result.bind_eq_ok.mp read
        cases read
        rw [escape_append escaped more, Result.ok_bind]
        dsimp only
        rw [ih others enough]
        rfl
      · refine branch (fun _ read => by cases read) (fun _ read => ?_) read
        obtain ⟨⟨later, behind⟩, others, read⟩ := Result.bind_eq_ok.mp read
        cases read
        rw [ih others enough]
        rfl

theorem string_extends {text rest : Octets} {s : String} (read : string text = .ok (s, rest))
    (more : Octets) : string (text ++ more) = .ok (s, rest ++ more) := by
  obtain ⟨⟨octets, behind⟩, found, read⟩ := Result.bind_eq_ok.mp read
  have steps : text.length + 1 ≤ (text ++ more).length + 1 :=
    Nat.succ_le_succ (List.sublist_append_left text more).length_le
  rw [string, stringOctets_append found more steps, Result.ok_bind]
  dsimp only at read ⊢
  split at read
  · cases read
    rfl
  · cases read

theorem string_append (o : UInt8) : Extends string o :=
  fun _ _ _ read => string_extends read [o]

/-! ## Containers -/

/-- An item and those behind it, from the octet where the item begins. -/
theorem onward_append {α : Type} {item : Reader α} (each : Extends item o)
    {behind behind' : Reader (List α)} {rest : Octets}
    (others : ∀ {text list}, behind text = .ok (list, rest) →
      behind' (text ++ [o]) = .ok (list, rest ++ [o]))
    {text : Octets} {list : List α}
    (read : (do
      let (a, rest) ← item text
      let (later, rest) ← behind rest
      .ok (a :: later, rest)) = .ok (list, rest)) :
    (do
      let (a, rest) ← item (text ++ [o])
      let (later, rest) ← behind' rest
      .ok (a :: later, rest)) = .ok (list, rest ++ [o]) := by
  obtain ⟨⟨a, between⟩, here, read⟩ := Result.bind_eq_ok.mp read
  obtain ⟨⟨later, rest'⟩, found, read⟩ := Result.bind_eq_ok.mp read
  cases read
  rw [each _ _ _ here, Result.ok_bind]
  dsimp only
  rw [others found]
  rfl

theorem items_append {α : Type} {item : Reader α} (each : Extends item o) {steps : Nat}
    {first : Bool} {text rest : Octets} {list : List α}
    (read : items item steps first text = .ok (list, rest)) {steps' : Nat}
    (enough : steps ≤ steps') :
    items item steps' first (text ++ [o]) = .ok (list, rest ++ [o]) := by
  induction steps generalizing first text list steps' with
  | zero => cases read
  | succ steps ih =>
    obtain ⟨steps', rfl⟩ := Nat.exists_eq_add_one_of_ne_zero (Nat.ne_zero_of_lt enough)
    have onward : ∀ {text list}, items item steps false text = .ok (list, rest) →
        items item steps' false (text ++ [o]) = .ok (list, rest ++ [o]) :=
      fun found => ih found (Nat.le_of_succ_le_succ enough)
    unfold items at read
    split at read
    · cases read
    next begins =>
    rw [items, skipSpace_append begins]
    dsimp only
    refine branch (fun _ read => by cases read; rfl) (fun _ read => ?_) read
    refine branch (fun _ read => onward_append each onward read) (fun _ read => ?_) read
    refine branch (fun _ read => ?_) (fun _ read => by cases read) read
    split at read
    · cases read
    next behind =>
    rw [skipSpace_append behind]
    exact branch (fun _ read => by cases read) (fun _ read => onward_append each onward read) read

theorem colon_append {text rest : Octets} (read : colon text = .ok rest) (more : Octets) :
    colon (text ++ more) = .ok (rest ++ more) := by
  unfold colon at read
  split at read
  · cases read
  next begins =>
  rw [colon, skipSpace_append begins]
  exact branch (fun _ read => by cases read; rfl) (fun _ read => by cases read) read

/-- A member and those behind it, from behind the quote that begins its key. -/
theorem named_append {σ : Type} {member : σ → String → Reader σ}
    (each : ∀ state key, Extends (member state key) o) {behind behind' : σ → Reader σ}
    {last : σ} {rest : Octets}
    (others : ∀ {state text}, behind state text = .ok (last, rest) →
      behind' state (text ++ [o]) = .ok (last, rest ++ [o]))
    {state : σ} {text : Octets}
    (read : (do
      let (key, rest) ← string text
      let (state, rest) ← member state key rest
      behind state rest) = .ok (last, rest)) :
    (do
      let (key, rest) ← string (text ++ [o])
      let (state, rest) ← member state key rest
      behind' state rest) = .ok (last, rest ++ [o]) := by
  obtain ⟨⟨key, rest⟩, name, read⟩ := Result.bind_eq_ok.mp read
  obtain ⟨⟨state', rest'⟩, here, read⟩ := Result.bind_eq_ok.mp read
  rw [string_append o _ _ _ name, Result.ok_bind]
  dsimp only
  rw [each _ _ _ _ _ here, Result.ok_bind]
  exact others read

theorem members_append {σ : Type} {member : σ → String → Reader σ}
    (each : ∀ state key, Extends (member state key) o) {steps : Nat} {first : Bool}
    {state last : σ} {text rest : Octets}
    (read : members member steps first state text = .ok (last, rest)) {steps' : Nat}
    (enough : steps ≤ steps') :
    members member steps' first state (text ++ [o]) = .ok (last, rest ++ [o]) := by
  induction steps generalizing first state text steps' with
  | zero => cases read
  | succ steps ih =>
    obtain ⟨steps', rfl⟩ := Nat.exists_eq_add_one_of_ne_zero (Nat.ne_zero_of_lt enough)
    have onward : ∀ {state text}, members member steps false state text = .ok (last, rest) →
        members member steps' false state (text ++ [o]) = .ok (last, rest ++ [o]) :=
      fun found => ih found (Nat.le_of_succ_le_succ enough)
    unfold members at read
    split at read
    · cases read
    next begins =>
    rw [members, skipSpace_append begins]
    dsimp only
    refine branch (fun _ read => by cases read; rfl) (fun _ read => ?_) read
    refine branch (fun _ read => ?_) (fun _ read => ?_) read
    · exact branch (fun _ read => named_append each (@onward) read)
        (fun _ read => by cases read) read
    refine branch (fun _ read => ?_) (fun _ read => by cases read) read
    split at read
    · cases read
    next behind =>
    rw [skipSpace_append behind]
    refine branch (fun _ read => named_append each (@onward) read) (fun _ read => ?_) read
    split at read <;> cases read

theorem plainMember_append {reader : Reader Json} (each : Extends reader o)
    (before : List (String × Json)) (key : String) : Extends (plainMember reader before key) o := by
  intro text list rest read
  obtain ⟨behind, isColon, read⟩ := Result.bind_eq_ok.mp read
  obtain ⟨⟨v, behind'⟩, here, read⟩ := Result.bind_eq_ok.mp read
  cases read
  rw [plainMember, colon_append isColon [o], Result.ok_bind]
  dsimp only
  rw [each _ _ _ here]
  rfl

/-! ## Values -/

theorem valueWith_append (blank : isSpace o = true) {nested : Option (Reader Json)}
    (inside : ∀ reader, nested = some reader → Extends reader o) :
    Extends (valueWith nested) o := by
  intro text v rest read
  unfold valueWith at read
  split at read
  · cases read
  next c text' begins =>
  rw [valueWith, skipSpace_append begins]
  dsimp only
  have words : ∀ {letters : List Char} {v' : Json},
      (do
        let rest ← word letters text'
        .ok (v', rest)) = .ok (v, rest) →
      (do
        let rest ← word letters (text' ++ [o])
        .ok (v', rest)) = Except.ok (v, rest ++ [o]) := by
    intro letters v' read
    obtain ⟨behind, found, read⟩ := Result.bind_eq_ok.mp read
    cases read
    rw [word_append found [o]]
    rfl
  have steps : text'.length + 1 ≤ (text' ++ [o]).length + 1 :=
    Nat.succ_le_succ (List.sublist_append_left text' [o]).length_le
  refine branch (fun _ read => words read) (fun _ read => ?_) read
  refine branch (fun _ read => words read) (fun _ read => ?_) read
  refine branch (fun _ read => words read) (fun _ read => ?_) read
  refine branch (fun minus read => ?_) (fun _ read => ?_) read
  · obtain ⟨⟨n, behind⟩, found, read⟩ := Result.bind_eq_ok.mp read
    cases read
    rw [number_append blank _ _ _ found]
    rfl
  refine branch (fun digit read => ?_) (fun _ read => ?_) read
  · obtain ⟨⟨n, behind⟩, found, read⟩ := Result.bind_eq_ok.mp read
    cases read
    rw [← List.cons_append, number_append blank _ _ _ found]
    rfl
  refine branch (fun quote read => ?_) (fun _ read => ?_) read
  · obtain ⟨⟨s, behind⟩, found, read⟩ := Result.bind_eq_ok.mp read
    cases read
    rw [string_append o _ _ _ found]
    rfl
  refine branch (fun bracket read => ?_) (fun _ read => ?_) read
  · cases nested with
    | none => cases read
    | some reader =>
      obtain ⟨⟨list, behind⟩, found, read⟩ := Result.bind_eq_ok.mp read
      cases read
      dsimp only
      rw [items_append (inside reader rfl) found steps]
      rfl
  refine branch (fun brace read => ?_) (fun _ read => by cases read) read
  cases nested with
  | none => cases read
  | some reader =>
    obtain ⟨⟨list, behind⟩, found, read⟩ := Result.bind_eq_ok.mp read
    cases read
    dsimp only
    rw [members_append (plainMember_append (inside reader rfl)) found steps]
    rfl

theorem value_append (blank : isSpace o = true) (depth : Nat) : Extends (value depth) o := by
  induction depth with
  | zero => exact valueWith_append blank fun reader same => nomatch same
  | succ depth ih =>
    refine valueWith_append blank fun reader same => ?_
    cases same
    exact ih

/-! ## Whole texts -/

section Tagged

variable {ν : Type} {variant : String → Except ShapeFault ν}

/-- A tag is a string: the tokens of other values only serve to report them. -/
theorem tagName_append : Extends (tagName variant) o := by
  intro text v rest read
  unfold tagName at read
  dsimp only at read
  split at read
  · cases read
  next begins =>
  rw [tagName, skipSpace_append begins]
  dsimp only
  split at read
  · next quote =>
    rw [if_pos quote]
    obtain ⟨⟨name, behind⟩, found, read⟩ := Result.bind_eq_ok.mp read
    rw [string_append o _ _ _ found, Result.ok_bind]
    dsimp only at read ⊢
    split at read
    · cases read
      rfl
    · cases read
  split at read
  · cases read
  split at read
  · cases read
  · obtain ⟨⟨value, behind⟩, -, read⟩ := Result.bind_eq_ok.mp read
    cases read

theorem taggedMember_append {tag : String} {reader : Reader Json} (each : Extends reader o)
    (gathered : Gathered ν) (key : String) :
    Extends (taggedMember tag variant reader gathered key) o := by
  intro text next rest read
  unfold taggedMember at read ⊢
  refine branch (fun isTag read => ?_) (fun isOther read => ?_) read
  · split at read
    · split at read <;> cases read
    · obtain ⟨behind, isColon, read⟩ := Result.bind_eq_ok.mp read
      obtain ⟨⟨v, behind'⟩, found, read⟩ := Result.bind_eq_ok.mp read
      cases read
      rw [colon_append isColon [o], Result.ok_bind]
      dsimp only
      rw [tagName_append _ _ _ found]
      rfl
  · obtain ⟨⟨before, behind⟩, found, read⟩ := Result.bind_eq_ok.mp read
    cases read
    rw [plainMember_append each _ _ _ _ _ found]
    rfl

theorem tagged_append (blank : isSpace o = true) (tag name : String) :
    Extends (tagged tag name variant) o := by
  intro text choice rest read
  unfold tagged at read
  dsimp only at read
  split at read
  · cases read
  next c text' begins =>
  rw [tagged, skipSpace_append begins]
  dsimp only
  have values := value_append blank (depthLimit - 1)
  refine branch (fun brace read => ?_) (fun _ read => ?_) read
  · obtain ⟨⟨gathered, behind⟩, found, read⟩ := Result.bind_eq_ok.mp read
    have steps : text'.length + 1 ≤ (text' ++ [o]).length + 1 :=
      Nat.succ_le_succ (List.sublist_append_left text' [o]).length_le
    rw [members_append (taggedMember_append values) found steps, Result.ok_bind]
    dsimp only at read ⊢
    split at read
    · cases read
      rfl
    · cases read
  refine branch (fun bracket read => ?_) (fun _ read => ?_) read
  · split at read
    · cases read
    next behind =>
    rw [skipSpace_append behind]
    refine branch (fun _ read => by cases read) (fun some' read => ?_) read
    obtain ⟨⟨v, behind'⟩, found, read⟩ := Result.bind_eq_ok.mp read
    obtain ⟨⟨list, behind''⟩, others, read⟩ := Result.bind_eq_ok.mp read
    cases read
    have steps : behind'.length + 1 ≤ (behind' ++ [o]).length + 1 :=
      Nat.succ_le_succ (List.sublist_append_left behind' [o]).length_le
    rw [← List.cons_append, tagName_append _ _ _ found, Result.ok_bind]
    dsimp only
    rw [items_append values others steps]
    rfl
  · obtain ⟨⟨v, behind⟩, -, read⟩ := Result.bind_eq_ok.mp read
    cases read

theorem atEnd_append (blank : isSpace o = true) {text : Octets} (ends : atEnd text = .ok ()) :
    atEnd (text ++ [o]) = .ok () := by
  unfold atEnd at ends
  split at ends
  · next nothing =>
    rw [atEnd, skipSpace_append_blank blank nothing]
  · cases ends

theorem readText_append (blank : isSpace o = true) {α : Type} {tag name : String}
    {shape : ν → Body → Except ShapeFault α} {text : Octets} {a : α}
    (read : readText tag name variant shape text = .ok a) :
    readText tag name variant shape (text ++ [o]) = .ok a := by
  unfold readText at read
  split at read
  · cases read
  next found =>
  split at read
  · cases read
  next shaped =>
  split at read
  · cases read
  next ends =>
  cases read
  simp only [readText, tagged_append blank tag name _ _ _ found, shaped, atEnd_append blank ends]

end Tagged

end DebugBridge.Json.Read
