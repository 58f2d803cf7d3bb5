import DebugBridge.Proofs.Json.Lexing

/-!
# Values and objects among tokens

A value is recognised among tokens by its brackets alone: it is a single token, or goes from a
bracket to the one that closes it. So are objects and their members. This covers every object of
the grammar, and also those that a reader refuses for what is inside of them: numbers that are out
of range, strings that are not text, containers that nest too deep.

Results:
1. `value_inj`: where a value begins, it is known where it ends.
2. `valueEnd_bracketed`, `balanced_listed`: containers are values.
3. `objectTokens_inj`: the tokens of an object say what its members are.
-/

namespace DebugBridge.Json.Read

/-! ## Brackets -/

def isOpening (token : Octets) : Bool :=
  token == [octet '['] || token == [octet '\x7b']

def isClosing (token : Octets) : Bool :=
  token == [octet ']'] || token == [octet '\x7d']

/-- The tokens behind the bracket that closes one more than have been opened, with `depth` open at
the start. -/
def closing : (depth : Nat) → List Octets → Option (List Octets)
  | _, [] => none
  | depth, token :: rest =>
    if isOpening token then closing (depth + 1) rest
    else if isClosing token then
      match depth with
      | 0 => some rest
      | depth + 1 => closing depth rest
    else closing depth rest

/-- The tokens behind a value: it is a single token, or goes from a bracket to the one that closes
it. -/
def valueEnd : List Octets → Option (List Octets)
  | [] => none
  | token :: rest =>
    if isOpening token then closing 0 rest
    else if token.head?.any isMark then none
    else some rest

/-- Every bracket is closed that these tokens open, and no other one. -/
def Balanced (part : List Octets) : Prop :=
  ∀ depth rest, closing depth (part ++ rest) = closing depth rest

section Closing

variable {token : Octets} {depth : Nat} {rest : List Octets}

theorem closing_opening (opens : isOpening token = true) :
    closing depth (token :: rest) = closing (depth + 1) rest := by
  rw [closing.eq_def]
  exact if_pos opens

theorem closing_last (opens : ¬ isOpening token = true) (closes : isClosing token = true) :
    closing 0 (token :: rest) = some rest := by
  rw [closing.eq_def]
  exact (if_neg opens).trans (if_pos closes)

theorem closing_inner (opens : ¬ isOpening token = true) (closes : isClosing token = true) :
    closing (depth + 1) (token :: rest) = closing depth rest := by
  rw [closing.eq_def]
  exact (if_neg opens).trans (if_pos closes)

theorem closing_other (opens : ¬ isOpening token = true) (closes : ¬ isClosing token = true) :
    closing depth (token :: rest) = closing depth rest := by
  rw [closing.eq_def]
  exact (if_neg opens).trans (if_neg closes)

end Closing

theorem closing_append {depth : Nat} {part rest : List Octets}
    (closes : closing depth part = some rest) (more : List Octets) :
    closing depth (part ++ more) = some (rest ++ more) := by
  fun_induction closing depth part with
  | case1 => cases closes
  | case2 depth token part opens ih => exact (closing_opening opens).trans (ih closes)
  | case3 token part opens last =>
    cases closes
    exact closing_last opens last
  | case4 token part opens inner depth ih => exact (closing_inner opens inner).trans (ih closes)
  | case5 depth token part opens other ih => exact (closing_other opens other).trans (ih closes)

/-- With more brackets open at the start, those are left. -/
theorem closing_deeper {depth : Nat} {part rest : List Octets}
    (closes : closing depth part = some rest) (more : Nat) :
    closing (more + 1 + depth) part = closing more rest := by
  fun_induction closing depth part with
  | case1 => cases closes
  | case2 depth token part opens ih => exact (closing_opening opens).trans (ih closes)
  | case3 token part opens last =>
    cases closes
    exact closing_inner opens last
  | case4 token part opens inner depth ih => exact (closing_inner opens inner).trans (ih closes)
  | case5 depth token part opens other ih => exact (closing_other opens other).trans (ih closes)

theorem balanced_nil : Balanced [] := fun _ _ => rfl

theorem balanced_append {part part' : List Octets} (first : Balanced part)
    (second : Balanced part') : Balanced (part ++ part') := by
  intro depth rest
  rw [List.append_assoc, first, second]

theorem balanced_token {token : Octets} (opens : ¬ isOpening token = true)
    (closes : ¬ isClosing token = true) : Balanced [token] :=
  fun _ _ => closing_other opens closes

/-- A value opens and closes its own brackets. -/
theorem balanced_value {part : List Octets} (value : valueEnd part = some []) : Balanced part := by
  cases part with
  | nil => cases value
  | cons token part =>
    rw [valueEnd] at value
    split at value
    · next opens =>
      intro depth rest
      exact (closing_opening opens).trans (closing_deeper (closing_append value rest) depth)
    split at value
    · cases value
    · next opens mark =>
      cases value
      refine balanced_token opens fun closes => ?_
      simp only [isClosing, Bool.or_eq_true, beq_iff_eq] at closes
      rcases closes with rfl | rfl <;> exact mark rfl

theorem valueEnd_append {part : List Octets} (value : valueEnd part = some [])
    (more : List Octets) : valueEnd (part ++ more) = some more := by
  cases part with
  | nil => cases value
  | cons token part =>
    rw [valueEnd] at value
    rw [List.cons_append, valueEnd]
    split at value
    · next opens =>
      rw [if_pos opens, closing_append value more, List.nil_append]
    split at value
    · cases value
    · next opens mark =>
      cases value
      rw [if_neg opens, if_neg mark, List.nil_append]

/-- Where a value begins, it is known where it ends. -/
theorem value_inj {part part' later later' : List Octets} (value : valueEnd part = some [])
    (value' : valueEnd part' = some []) (same : part ++ later = part' ++ later') :
    part = part' ∧ later = later' := by
  have ends := valueEnd_append value later
  rw [same, valueEnd_append value' later'] at ends
  cases ends
  exact ⟨List.append_cancel_right same, rfl⟩

/-! ## Objects -/

/-- Parts with commas between them; with `first` unset a comma also stands before the first. -/
def listed : (first : Bool) → List (List Octets) → List Octets
  | _, [] => []
  | true, part :: parts => part ++ listed false parts
  | false, part :: parts => [octet ','] :: (part ++ listed false parts)

/-- A member of an object: its key as a token with quotes, and the tokens of its value. -/
@[ext]
structure Member where
  key : Octets
  value : List Octets
deriving DecidableEq, Repr

namespace Member

def tokens (member : Member) : List Octets :=
  member.key :: [octet ':'] :: member.value

/-- The key is a string and the value is a value, as far as quotes and brackets tell. -/
def IsFormed (member : Member) : Prop :=
  member.key.head? = some (octet '"') ∧ valueEnd member.value = some []

instance (member : Member) : Decidable member.IsFormed :=
  inferInstanceAs (Decidable (_ ∧ _))

end Member

/-- The tokens of an object. -/
def objectTokens (list : List Member) : List Octets :=
  [octet '\x7b'] :: (listed true (list.map Member.tokens) ++ [[octet '\x7d']])

theorem balanced_listed {parts : List (List Octets)} (each : ∀ part, part ∈ parts → Balanced part)
    (first : Bool) : Balanced (listed first parts) := by
  induction parts generalizing first with
  | nil => exact balanced_nil
  | cons part parts ih =>
    obtain ⟨here, others⟩ := List.forall_mem_cons.mp each
    have behind := balanced_append here (ih others false)
    cases first with
    | true => exact behind
    | false =>
      have comma : Balanced [[octet ',']] := balanced_token (by decide) (by decide)
      have whole := balanced_append comma behind
      exact whole

theorem Member.balanced {member : Member} (formed : member.IsFormed) : Balanced member.tokens := by
  obtain ⟨quote, value⟩ := formed
  have key : Balanced [member.key] := by
    refine balanced_token ?_ ?_ <;>
      · intro bracket
        simp only [isOpening, isClosing, Bool.or_eq_true, beq_iff_eq] at bracket
        rcases bracket with same | same <;>
          · rw [same] at quote
            cases quote
  have colon : Balanced [[octet ':']] := balanced_token (by decide) (by decide)
  exact balanced_append key (balanced_append colon (balanced_value value))

/-- What stands between two brackets is a value with them. -/
theorem valueEnd_bracketed {inside : List Octets} (balanced : Balanced inside) {front back : Octets}
    (opens : isOpening front = true) (closes : isClosing back = true)
    (other : ¬ isOpening back = true) : valueEnd (front :: (inside ++ [back])) = some [] := by
  rw [valueEnd, if_pos opens, balanced, closing_last other closes]

/-- Behind a brace or a member, the token that follows says whether there is another member. -/
theorem listed_ne {member : Member} (formed : member.IsFormed) (first : Bool)
    (list : List Member) (later later' : List Octets) :
    [octet '\x7d'] :: later'
      ≠ listed first ((member :: list).map Member.tokens) ++ [octet '\x7d'] :: later := by
  intro same
  cases first with
  | false => cases List.head_eq_of_cons_eq same
  | true =>
    have quote := formed.1
    rw [← List.head_eq_of_cons_eq same] at quote
    cases quote

theorem listed_inj {list list' : List Member} (formed : ∀ member, member ∈ list → member.IsFormed)
    (formed' : ∀ member, member ∈ list' → member.IsFormed) {first : Bool}
    {later later' : List Octets}
    (same : listed first (list.map Member.tokens) ++ [octet '\x7d'] :: later
      = listed first (list'.map Member.tokens) ++ [octet '\x7d'] :: later') : list = list' := by
  induction list generalizing list' first with
  | nil =>
    cases list' with
    | nil => rfl
    | cons member' list' =>
      exact absurd same (listed_ne (formed' _ List.mem_cons_self) first list' later' later)
  | cons member list ih =>
    cases list' with
    | nil =>
      exact absurd same.symm (listed_ne (formed _ List.mem_cons_self) first list later later')
    | cons member' list' =>
      obtain ⟨here, others⟩ := List.forall_mem_cons.mp formed
      obtain ⟨here', others'⟩ := List.forall_mem_cons.mp formed'
      have same : member.tokens
            ++ (listed false (list.map Member.tokens) ++ [octet '\x7d'] :: later)
          = member'.tokens
            ++ (listed false (list'.map Member.tokens) ++ [octet '\x7d'] :: later') := by
        cases first with
        | true => simpa [listed] using same
        | false => simpa [listed] using same
      obtain ⟨key, same⟩ := List.cons.inj same
      obtain ⟨value, same⟩ := value_inj here.2 here'.2 (List.tail_eq_of_cons_eq same)
      rw [ih others others' same, show member = member' from Member.ext key value]

/-- The members of an object follow from its tokens. -/
theorem objectTokens_inj {list list' : List Member}
    (formed : ∀ member, member ∈ list → member.IsFormed)
    (formed' : ∀ member, member ∈ list' → member.IsFormed)
    (same : objectTokens list = objectTokens list') : list = list' :=
  listed_inj formed formed' (List.tail_eq_of_cons_eq same)

end DebugBridge.Json.Read
