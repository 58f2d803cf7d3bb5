import DebugBridge.Proofs.Json.RoundTrip
import DebugBridge.Proofs.Json.Trailing
import Mathlib.Data.List.TakeWhile

/-!
# The tokens of a text

A text of JSON is cut into tokens: marks, which stand alone; strings with their quotes; and runs of
other octets, which are words and numbers when the text is well formed. White space only keeps
tokens apart, so two texts with the same tokens differ in their spacing and in nothing else. Every
text has tokens, whether it is JSON or not.

Results:
1. `of_tokens_mark`, `of_tokens_quote`, `of_tokens_run`: how a text begins whose first token is
   known.
2. `tokens_insert`: white space put between two tokens changes no token.
-/

namespace DebugBridge.Json.Read

/-! ## Cutting -/

/-- The octets that are a token each. -/
def isMark (o : UInt8) : Bool :=
  o == octet '[' || o == octet ']' || o == octet '\x7b' || o == octet '\x7d' || o == octet ','
    || o == octet ':'

/-- The octets that words and numbers are made of, and any others that have no meaning outside of
strings. -/
def isRun (o : UInt8) : Bool :=
  !isSpace o && !isMark o && o != octet '"'

/-- A string from behind its opening quote up to its closing one, and what is behind. -/
def cutQuoted : Octets → Octets × Octets
  | [] => ([], [])
  | o :: rest =>
    if o = octet '"' then ([o], rest)
    else if o = octet '\\' then
      match rest with
      | [] => ([o], [])
      | next :: rest => (o :: next :: (cutQuoted rest).1, (cutQuoted rest).2)
    else (o :: (cutQuoted rest).1, (cutQuoted rest).2)

theorem cutQuoted_quote (rest : Octets) :
    cutQuoted (octet '"' :: rest) = ([octet '"'], rest) := by
  rw [cutQuoted.eq_def]
  exact if_pos rfl

theorem cutQuoted_escaped (next : UInt8) (rest : Octets) :
    cutQuoted (octet '\\' :: next :: rest)
      = (octet '\\' :: next :: (cutQuoted rest).1, (cutQuoted rest).2) := by
  rw [cutQuoted.eq_def]
  exact (if_neg (by decide)).trans (if_pos rfl)

theorem cutQuoted_plain {o : UInt8} (quote : o ≠ octet '"') (backslash : o ≠ octet '\\')
    (rest : Octets) : cutQuoted (o :: rest) = (o :: (cutQuoted rest).1, (cutQuoted rest).2) := by
  rw [cutQuoted.eq_def]
  exact (if_neg quote).trans (if_neg backslash)

theorem cutQuoted_append (text : Octets) : (cutQuoted text).1 ++ (cutQuoted text).2 = text := by
  fun_induction cutQuoted text <;> simp_all

theorem length_of_skipSpace {text rest : Octets} {o : UInt8} (begins : skipSpace text = o :: rest) :
    rest.length < text.length := by
  have shorter := (List.dropWhile_suffix (l := text) isSpace).length_le
  rw [show text.dropWhile isSpace = o :: rest from begins] at shorter
  exact shorter

def tokens (text : Octets) : List Octets :=
  match _begins : skipSpace text with
  | [] => []
  | o :: rest =>
    if isMark o then [o] :: tokens rest
    else if o = octet '"' then (o :: (cutQuoted rest).1) :: tokens (cutQuoted rest).2
    else (o :: rest.takeWhile isRun) :: tokens (rest.dropWhile isRun)
termination_by text.length
decreasing_by
  · exact length_of_skipSpace _begins
  · have shorter := length_of_skipSpace _begins
    have cut := congrArg List.length (cutQuoted_append rest)
    rw [List.length_append] at cut
    omega
  · have shorter := length_of_skipSpace _begins
    have dropped := (List.dropWhile_suffix (l := rest) isRun).length_le
    omega

/-! ## The first token of a text -/

variable {text rest : Octets} {o : UInt8}

theorem isSpace_of_skipSpace (begins : skipSpace text = o :: rest) : isSpace o = false := by
  have first := List.head_dropWhile_not isSpace (l := text)
    (by rw [show text.dropWhile isSpace = o :: rest from begins]; exact List.cons_ne_nil o rest)
  simpa only [show text.dropWhile isSpace = o :: rest from begins, List.head_cons] using first

theorem skipSpace_skipSpace (text : Octets) : skipSpace (skipSpace text) = skipSpace text := by
  cases begins : skipSpace text with
  | nil => rfl
  | cons o rest => exact skipSpace_cons (isSpace_of_skipSpace begins) rest

theorem skipSpace_blanks {blanks : Octets} (blank : ∀ o, o ∈ blanks → isSpace o = true)
    (text : Octets) : skipSpace (blanks ++ text) = skipSpace text :=
  List.dropWhile_append_of_pos blank

/-- An octet that is no white space begins one of the three kinds of tokens. -/
theorem isRun_of_not (space : isSpace o = false) (mark : isMark o = false)
    (quote : o ≠ octet '"') : isRun o = true := by
  simp [isRun, space, mark, quote]

theorem isMark_of_isRun (run : isRun o = true) : isMark o = false := by
  simp only [isRun, Bool.and_eq_true, Bool.not_eq_true'] at run
  exact run.1.2

theorem ne_quote_of_isRun (run : isRun o = true) : o ≠ octet '"' := by
  simp only [isRun, Bool.and_eq_true, bne_iff_ne] at run
  exact run.2

theorem tokens_of_blank (blank : skipSpace text = []) : tokens text = [] := by
  rw [tokens]
  split
  · rfl
  · next begins => cases blank.symm.trans begins

theorem tokens_of_mark (begins : skipSpace text = o :: rest) (mark : isMark o = true) :
    tokens text = [o] :: tokens rest := by
  rw [tokens]
  split
  · next blank => cases begins.symm.trans blank
  · next begins' =>
    cases begins.symm.trans begins'
    rw [if_pos mark]

theorem tokens_of_quote (begins : skipSpace text = octet '"' :: rest) :
    tokens text = (octet '"' :: (cutQuoted rest).1) :: tokens (cutQuoted rest).2 := by
  rw [tokens]
  split
  · next blank => cases begins.symm.trans blank
  · next begins' =>
    cases begins.symm.trans begins'
    rw [if_neg (by decide), if_pos rfl]

theorem tokens_of_run (begins : skipSpace text = o :: rest) (run : isRun o = true) :
    tokens text = (o :: rest.takeWhile isRun) :: tokens (rest.dropWhile isRun) := by
  rw [tokens]
  split
  · next blank => cases begins.symm.trans blank
  · next begins' =>
    cases begins.symm.trans begins'
    rw [if_neg (by rw [isMark_of_isRun run]; decide), if_neg (ne_quote_of_isRun run)]

/-- White space before the first token says nothing. -/
theorem tokens_congr {text text' : Octets} (same : skipSpace text = skipSpace text') :
    tokens text = tokens text' := by
  cases begins : skipSpace text with
  | nil => rw [tokens_of_blank begins, tokens_of_blank (same.symm.trans begins)]
  | cons o rest =>
    have begins' := same.symm.trans begins
    by_cases mark : isMark o = true
    · rw [tokens_of_mark begins mark, tokens_of_mark begins' mark]
    by_cases quote : o = octet '"'
    · subst quote
      rw [tokens_of_quote begins, tokens_of_quote begins']
    · have run := isRun_of_not (isSpace_of_skipSpace begins) (Bool.eq_false_iff.mpr mark)
        quote
      rw [tokens_of_run begins run, tokens_of_run begins' run]

theorem tokens_skipSpace (text : Octets) : tokens (skipSpace text) = tokens text :=
  tokens_congr (skipSpace_skipSpace text)

/-- A token begins with the first octet of the text that is no white space. -/
theorem of_tokens_cons {token : Octets} {later : List Octets} (cut : tokens text = token :: later) :
    ∃ o rest inside, skipSpace text = o :: rest ∧ token = o :: inside := by
  cases begins : skipSpace text with
  | nil =>
    rw [tokens_of_blank begins] at cut
    cases cut
  | cons o rest =>
    refine ⟨o, rest, token.tail, rfl, ?_⟩
    rw [tokens] at cut
    split at cut
    · cases cut
    · next begins' =>
      cases begins.symm.trans begins'
      split at cut
      · cases cut
        rfl
      split at cut
      · cases cut
        rfl
      · cases cut
        rfl

theorem of_tokens_nil (cut : tokens text = []) : skipSpace text = [] := by
  cases begins : skipSpace text with
  | nil => rfl
  | cons o rest =>
    rw [tokens] at cut
    split at cut
    · next blank => cases begins.symm.trans blank
    · split at cut
      · cases cut
      · split at cut <;> cases cut

theorem of_tokens_mark {later : List Octets} (mark : isMark o = true)
    (cut : tokens text = [o] :: later) :
    ∃ rest, skipSpace text = o :: rest ∧ tokens rest = later := by
  obtain ⟨o', rest, inside, begins, same⟩ := of_tokens_cons cut
  obtain rfl := List.head_eq_of_cons_eq same
  rw [tokens_of_mark begins mark] at cut
  exact ⟨rest, begins, List.tail_eq_of_cons_eq cut⟩

theorem of_tokens_quote {inside : Octets} {later : List Octets}
    (cut : tokens text = (octet '"' :: inside) :: later) :
    ∃ rest, skipSpace text = octet '"' :: (inside ++ rest) ∧ tokens rest = later := by
  obtain ⟨o, rest, _, begins, same⟩ := of_tokens_cons cut
  obtain rfl := List.head_eq_of_cons_eq same
  rw [tokens_of_quote begins] at cut
  obtain ⟨first, others⟩ := List.cons.inj cut
  refine ⟨(cutQuoted rest).2, ?_, others⟩
  rw [begins, ← List.tail_eq_of_cons_eq first, cutQuoted_append]

/-- The text does not go on with octets of a kind that end here. -/
def Ends (kind : UInt8 → Bool) (rest : Octets) : Prop :=
  ∀ o, rest.head? = some o → kind o = false

theorem ends_nil (kind : UInt8 → Bool) : Ends kind [] := by
  intro o first
  cases first

theorem ends_of_imp {kind kind' : UInt8 → Bool} (narrower : ∀ o, kind' o = true → kind o = true)
    (ends : Ends kind rest) : Ends kind' rest := by
  intro o first
  by_contra more
  have other := ends o first
  rw [narrower o (by simpa using more)] at other
  cases other

theorem ends_dropWhile (kind : UInt8 → Bool) (text : Octets) : Ends kind (text.dropWhile kind) := by
  intro o first
  have ends := List.head?_dropWhile_not kind text
  rw [first] at ends
  exact ends

theorem ends_of_takeWhile {kind : UInt8 → Bool} (nothing : text.takeWhile kind = []) :
    Ends kind text := by
  intro o first
  cases text with
  | nil => cases first
  | cons c text =>
    obtain rfl := Option.some.inj first
    by_contra more
    rw [List.takeWhile_cons_of_pos (by simpa using more)] at nothing
    cases nothing

/-- Octets of a kind are cut off whole when the text does not go on with it. -/
theorem cut_ends {kind : UInt8 → Bool} {used : Octets} (all : ∀ o, o ∈ used → kind o = true)
    (ends : Ends kind rest) :
    (used ++ rest).takeWhile kind = used ∧ (used ++ rest).dropWhile kind = rest := by
  have nothing : rest.takeWhile kind = [] ∧ rest.dropWhile kind = rest := by
    cases rest with
    | nil => exact ⟨rfl, rfl⟩
    | cons o rest =>
      have other : ¬ kind o = true := by simp [ends o rfl]
      exact ⟨List.takeWhile_cons_of_neg other, List.dropWhile_cons_of_neg other⟩
  rw [List.takeWhile_append_of_pos all, List.dropWhile_append_of_pos all, nothing.1, nothing.2,
    List.append_nil]
  exact ⟨rfl, rfl⟩

/-- No run goes on where the next token is a mark. -/
theorem ends_of_skipSpace (begins : skipSpace text = o :: rest) (mark : isMark o = true) :
    Ends isRun text := by
  intro o' first
  cases text with
  | nil => cases first
  | cons c text =>
    obtain rfl := Option.some.inj first
    by_cases space : isSpace c = true
    · simp [isRun, space]
    · rw [skipSpace, List.dropWhile_cons_of_neg space] at begins
      cases begins
      simp [isRun, mark]

theorem ends_blanks {blanks : Octets} (blank : ∀ o, o ∈ blanks → isSpace o = true)
    (ends : Ends isRun text) : Ends isRun (blanks ++ text) := by
  cases blanks with
  | nil => exact ends
  | cons c blanks =>
    intro o first
    obtain rfl := Option.some.inj first
    simp [isRun, blank c List.mem_cons_self]

theorem of_tokens_run {run : Octets} {later : List Octets} (isRun' : isRun o = true)
    (cut : tokens text = (o :: run) :: later) :
    ∃ rest, skipSpace text = o :: (run ++ rest) ∧ Ends isRun rest ∧ tokens rest = later := by
  obtain ⟨o', rest, _, begins, same⟩ := of_tokens_cons cut
  obtain rfl := List.head_eq_of_cons_eq same
  rw [tokens_of_run begins isRun'] at cut
  obtain ⟨first, others⟩ := List.cons.inj cut
  refine ⟨rest.dropWhile isRun, ?_, ends_dropWhile isRun rest, others⟩
  rw [begins, ← List.tail_eq_of_cons_eq first, List.takeWhile_append_dropWhile]

/-! ## White space between tokens -/

/-- A string that ends is cut the same whatever follows; of one that does not, what follows becomes
a part. -/
theorem cutQuoted_cases (text : Octets) :
    (∀ more, cutQuoted (text ++ more) = ((cutQuoted text).1, (cutQuoted text).2 ++ more))
      ∨ (cutQuoted text).1 = text ∧ ∀ more, more ≠ [] → (cutQuoted (text ++ more)).1 ≠ text := by
  fun_induction cutQuoted text with
  | case1 =>
    refine .inr ⟨rfl, fun more some' => ?_⟩
    cases more with
    | nil => exact absurd rfl some'
    | cons o more =>
      rw [List.nil_append, cutQuoted.eq_def]
      dsimp only
      repeat' split
      all_goals exact List.cons_ne_nil _ _
  | case2 rest => exact .inl fun more => cutQuoted_quote (rest ++ more)
  | case3 =>
    refine .inr ⟨rfl, fun more some' => ?_⟩
    cases more with
    | nil => exact absurd rfl some'
    | cons o more =>
      rw [List.singleton_append, cutQuoted_escaped]
      simp
  | case4 next rest _ ih =>
    have onward : ∀ more, cutQuoted (octet '\\' :: next :: rest ++ more)
        = (octet '\\' :: next :: (cutQuoted (rest ++ more)).1, (cutQuoted (rest ++ more)).2) :=
      fun more => cutQuoted_escaped next (rest ++ more)
    rcases ih with closed | ⟨all, goesOn⟩
    · exact .inl fun more => by rw [onward, closed]
    · refine .inr ⟨by rw [all], fun more some' same => goesOn more some' ?_⟩
      rw [onward] at same
      exact List.tail_eq_of_cons_eq (List.tail_eq_of_cons_eq same)
  | case5 o rest quote backslash ih =>
    have onward : ∀ more, cutQuoted (o :: rest ++ more)
        = (o :: (cutQuoted (rest ++ more)).1, (cutQuoted (rest ++ more)).2) :=
      fun more => cutQuoted_plain quote backslash (rest ++ more)
    rcases ih with closed | ⟨all, goesOn⟩
    · exact .inl fun more => by rw [onward, closed]
    · refine .inr ⟨by rw [all], fun more some' same => goesOn more some' ?_⟩
      rw [onward] at same
      exact List.tail_eq_of_cons_eq same

/-- A run that ends is cut the same whatever follows. -/
theorem cutRun_cases (text : Octets) :
    (∀ more, (text ++ more).takeWhile isRun = text.takeWhile isRun
        ∧ (text ++ more).dropWhile isRun = text.dropWhile isRun ++ more)
      ∨ ∀ o, o ∈ text → isRun o = true := by
  induction text with
  | nil => exact .inr fun o present => absurd present List.not_mem_nil
  | cons o text ih =>
    by_cases run : isRun o = true
    · rcases ih with ends | all
      · refine .inl fun more => ?_
        obtain ⟨taken, left⟩ := ends more
        rw [List.cons_append, List.takeWhile_cons_of_pos run, List.takeWhile_cons_of_pos run,
          List.dropWhile_cons_of_pos run, List.dropWhile_cons_of_pos run, taken, left]
        exact ⟨rfl, rfl⟩
      · exact .inr (List.forall_mem_cons.mpr ⟨run, all⟩)
    · refine .inl fun more => ?_
      rw [List.cons_append, List.takeWhile_cons_of_neg run, List.takeWhile_cons_of_neg run,
        List.dropWhile_cons_of_neg run, List.dropWhile_cons_of_neg run]
      exact ⟨rfl, rfl⟩

/-- The text is parted between two tokens: no token of the whole lies in both parts, and the first
part is not all of it, since a string that does not end would go on. -/
def PartsAt (front back : Octets) : Prop :=
  back ≠ [] ∧ tokens (front ++ back) = tokens front ++ tokens back

/-- White space put between two tokens changes no token. -/
theorem tokens_insert {front back blanks : Octets} (parted : PartsAt front back)
    (blank : ∀ o, o ∈ blanks → isSpace o = true) :
    tokens (front ++ (blanks ++ back)) = tokens (front ++ back) := by
  obtain ⟨inside, between⟩ := parted
  have skipped : tokens (blanks ++ back) = tokens back := tokens_congr (skipSpace_blanks blank back)
  -- The induction is on the tokens of the front, so on its length.
  induction bound : front.length using Nat.strongRecOn generalizing front with
  | ind _ shorter =>
  subst bound
  have onward : ∀ rest, rest.length < front.length →
      tokens (rest ++ back) = tokens rest ++ tokens back →
      tokens (rest ++ (blanks ++ back)) = tokens (rest ++ back) :=
    fun rest less parts => shorter _ less parts rfl
  cases begins : skipSpace front with
  | nil =>
    have allBlank : ∀ o, o ∈ front → isSpace o = true := List.dropWhile_eq_nil_iff.mp begins
    rw [tokens_congr (skipSpace_blanks allBlank back),
      tokens_congr (skipSpace_blanks allBlank (blanks ++ back)), skipped]
  | cons o rest =>
    have less := length_of_skipSpace begins
    have begins' := skipSpace_append begins
    by_cases mark : isMark o = true
    · rw [tokens_of_mark (begins' _) mark, tokens_of_mark begins mark] at between
      rw [tokens_of_mark (begins' _) mark, tokens_of_mark (begins' _) mark,
        onward rest less (List.tail_eq_of_cons_eq between)]
    by_cases quote : o = octet '"'
    · subst quote
      rw [tokens_of_quote (begins' _), tokens_of_quote begins] at between
      rw [tokens_of_quote (begins' _), tokens_of_quote (begins' _)]
      rcases cutQuoted_cases rest with closed | ⟨all, goesOn⟩
      · simp only [closed] at between ⊢
        have cut := congrArg List.length (cutQuoted_append rest)
        rw [List.length_append] at cut
        rw [onward _ (by omega) (List.tail_eq_of_cons_eq between)]
      · have first := List.tail_eq_of_cons_eq (List.head_eq_of_cons_eq between)
        rw [all] at first
        exact absurd first (goesOn back inside)
    · have run := isRun_of_not (isSpace_of_skipSpace begins) (Bool.eq_false_iff.mpr mark) quote
      rw [tokens_of_run (begins' _) run, tokens_of_run begins run] at between
      rw [tokens_of_run (begins' _) run, tokens_of_run (begins' _) run]
      rcases cutRun_cases rest with ends | all
      · have dropped := (List.dropWhile_suffix (l := rest) isRun).length_le
        simp only [(ends _).1, (ends _).2] at between ⊢
        rw [onward _ (by omega) (List.tail_eq_of_cons_eq between)]
      · -- The run ends with the front, since the back has a token of its own.
        have first := List.tail_eq_of_cons_eq (List.head_eq_of_cons_eq between)
        rw [List.takeWhile_append_of_pos all, List.takeWhile_eq_self_iff.mpr all,
          List.append_right_eq_self] at first
        have ends := ends_of_takeWhile first
        obtain ⟨taken, left⟩ := cut_ends all ends
        obtain ⟨taken', left'⟩ := cut_ends all (ends_blanks blank ends)
        rw [taken, left, taken', left', skipped]

end DebugBridge.Json.Read
