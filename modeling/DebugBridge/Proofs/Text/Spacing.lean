import DebugBridge.Proofs.Text.Cutting

/-!
# White space between words

How much white space stands between the words of a text, and around them, makes no difference.
`Spaced` says which words a text consists of.

Results:
1. `trim_padded`: what stands between blanks is what is left of them.
2. `Spaced.words_eq`: the words of a text are found.
3. `Spaced.exists_infix`: what stands in a text and holds no blank stands in one of its words.
4. `exists_padded`, `exists_word`, `spaced_words`: how any text can be taken apart.
5. `splitAtBlank_append`: the first word of a text.
-/

namespace DebugBridge.Text

variable {text before word later after : List Char} {words' : List (List Char)}

/-- Nothing but white space. -/
def Blanks (text : List Char) : Prop :=
  ∀ c ∈ text, isBlank c = true

/-- At least one character, and no white space. -/
structure Word (text : List Char) : Prop where
  some' : text ≠ []
  solid : ∀ c ∈ text, isBlank c = false

instance : DecidablePred Blanks := fun text =>
  decidable_of_iff (text.all isBlank = true) List.all_eq_true

instance : DecidablePred Word := fun text =>
  decidable_of_iff (text ≠ [] ∧ text.all (fun c => !isBlank c) = true)
    ⟨fun ⟨some', solid⟩ => ⟨some', by simpa using solid⟩,
      fun ⟨some', solid⟩ => ⟨some', by simpa using solid⟩⟩

/-- No white space at the ends of what is not empty. -/
structure Bare (text : List Char) : Prop where
  some' : text ≠ []
  head : ∀ c, text.head? = some c → isBlank c = false
  last : ∀ c, text.getLast? = some c → isBlank c = false

theorem Word.bare (word' : Word word) : Bare word where
  some' := word'.some'
  head c first := word'.solid c (List.mem_of_mem_head? first)
  last c last := word'.solid c (List.mem_of_getLast? last)

theorem Bare.append (bare : Bare before) (bare' : Bare after) (text : List Char) :
    Bare (before ++ text ++ after) where
  some' empty := bare'.some' (List.append_eq_nil_iff.mp empty).2
  head c first := by
    refine bare.head c ?_
    rwa [List.append_assoc, List.head?_append, List.head?_eq_some_head bare.some', Option.some_or,
      ← List.head?_eq_some_head bare.some'] at first
  last c last := by
    refine bare'.last c ?_
    rwa [List.getLast?_append, List.getLast?_eq_some_getLast bare'.some', Option.some_or,
      ← List.getLast?_eq_some_getLast bare'.some'] at last

theorem Blanks.not_mem {c : Char} (blanks : Blanks text) (solid : isBlank c = false) : c ∉ text :=
  fun present => Bool.false_ne_true (solid.symm.trans (blanks c present))

/-- What stands between blanks is what is left when they have been taken off. -/
theorem trim_padded (blanks : Blanks before) (blanks' : Blanks after) (bare : Bare text) :
    trim (before ++ text ++ after) = text := by
  have front : trimStart (before ++ text ++ after) = text ++ after := by
    unfold trimStart
    rw [List.append_assoc, List.dropWhile_append_of_pos blanks]
    refine trimStart_of_head? fun c first => bare.head c ?_
    rwa [List.head?_append, List.head?_eq_some_head bare.some', Option.some_or,
      ← List.head?_eq_some_head bare.some'] at first
  have back : trimStart (text ++ after).reverse = text.reverse := by
    unfold trimStart
    rw [List.reverse_append, List.dropWhile_append_of_pos]
    · refine trimStart_of_head? fun c first => bare.last c ?_
      rwa [List.head?_reverse] at first
    · exact fun c present => blanks' c (List.mem_reverse.mp present)
  rw [trim, front, trimEnd, back, List.reverse_reverse]

/-! ## Words -/

/-- The words of a text: there is white space between two of them, and perhaps at the ends. -/
inductive Spaced : List Char → List (List Char) → Prop
  | nil {blanks : List Char} : Blanks blanks → Spaced blanks []
  | cons {before word later : List Char} {words : List (List Char)} : Blanks before → Word word →
      (∀ c, later.head? = some c → isBlank c = true) → Spaced later words →
      Spaced (before ++ word ++ later) (word :: words)

theorem words_cons_of_blank {c : Char} (blank : isBlank c = true) :
    words (c :: later) = words later := by
  rw [words.eq_def]
  exact if_pos blank

theorem words_append_of_blanks (blanks : Blanks before) :
    words (before ++ later) = words later := by
  induction before with
  | nil => rfl
  | cons c before ih =>
    obtain ⟨blank, blanks⟩ := List.forall_mem_cons.mp blanks
    rw [List.cons_append, words_cons_of_blank blank, ih blanks]

theorem words_of_blanks (blanks : Blanks text) : words text = [] := by
  rw [← List.append_nil text, words_append_of_blanks blanks, words]

theorem words_append_of_word (word' : Word word)
    (edge : ∀ c, later.head? = some c → isBlank c = true) :
    words (word ++ later) = word :: words later := by
  induction word with
  | nil => exact absurd rfl word'.some'
  | cons c word ih =>
    obtain ⟨solid, solid'⟩ := List.forall_mem_cons.mp word'.solid
    rw [List.cons_append, words.eq_def]
    dsimp only
    rw [if_neg (by rw [solid]; exact Bool.false_ne_true)]
    cases word with
    | nil =>
      cases later with
      | nil => rfl
      | cons d later => simp only [List.nil_append, edge d rfl, if_true]
    | cons d word =>
      obtain ⟨next, -⟩ := List.forall_mem_cons.mp solid'
      rw [ih ⟨List.cons_ne_nil d word, solid'⟩]
      simp only [List.cons_append, next, Bool.false_eq_true, if_false]

/-- The words of a text are found, however they are spaced. -/
theorem Spaced.words_eq (spaced : Spaced text words') : words text = words' := by
  induction spaced with
  | nil blanks => exact words_of_blanks blanks
  | cons blanks word' edge _ ih =>
    rw [List.append_assoc, words_append_of_blanks blanks, words_append_of_word word' edge, ih]

/-- Two characters that are no white space stand next to each other only within a word. -/
theorem Spaced.exists_infix {p q : Char} (solid : isBlank p = false) (solid' : isBlank q = false)
    (spaced : Spaced text words') (stands : [p, q] <:+: text) :
    ∃ word ∈ words', [p, q] <:+: word := by
  have visible : ∀ {blanks : List Char}, Blanks blanks → ¬ [p, q] <:+: blanks :=
    fun blanks inside => blanks.not_mem solid (inside.subset List.mem_cons_self)
  induction spaced with
  | nil blanks => exact absurd stands (visible blanks)
  | @cons before word later words blanks word' edge _ ih =>
    rcases infix_pair_append stands with front | behind | ⟨-, head⟩
    · rcases infix_pair_append front with inBlanks | inWord | ⟨last, -⟩
      · exact absurd inBlanks (visible blanks)
      · exact ⟨word, List.mem_cons_self, inWord⟩
      · exact absurd (List.mem_of_getLast? last) (blanks.not_mem solid)
    · obtain ⟨word, member, inside⟩ := ih behind
      exact ⟨word, .tail _ member, inside⟩
    · exact absurd (solid'.symm.trans (edge q head)) Bool.false_ne_true

/-! ## Taking texts apart -/

theorem bare_trim (some' : ¬ Blanks text) : Bare (trim text) where
  some' empty := some' (trim_eq_nil_iff.mp empty)
  head c first := by
    obtain ⟨later, whole⟩ := trimEnd_prefix (trimStart text)
    have begins : (trimStart text).head? = some c := by
      rw [← whole, List.head?_append]
      exact Option.or_eq_some_iff.mpr (.inl first)
    exact head?_trimStart begins
  last c last := by
    rw [trim, trimEnd, List.getLast?_reverse] at last
    exact head?_trimStart last

/-- What is not blank stands between blanks. -/
theorem exists_padded (some' : ¬ Blanks text) : ∃ before bare after,
    text = before ++ bare ++ after ∧ Blanks before ∧ Bare bare ∧ Blanks after := by
  refine ⟨text.takeWhile isBlank, trim text, ((trimStart text).reverse.takeWhile isBlank).reverse,
    ?_, fun c present => List.mem_takeWhile_imp present, bare_trim some',
    fun c present => List.mem_takeWhile_imp (List.mem_reverse.mp present)⟩
  have back : trim text ++ ((trimStart text).reverse.takeWhile isBlank).reverse
      = trimStart text := by
    rw [trim, trimEnd, trimStart, ← List.reverse_append, List.takeWhile_append_dropWhile,
      List.reverse_reverse]
  rw [List.append_assoc, back]
  exact List.takeWhile_append_dropWhile.symm

/-- What is not blank begins with a word. -/
theorem exists_word (some' : ¬ Blanks text) : ∃ before word later,
    text = before ++ word ++ later ∧ Blanks before ∧ Word word ∧
      ∀ c, later.head? = some c → isBlank c = true := by
  obtain ⟨before, bare, after, rfl, blanks, bare', -⟩ := exists_padded some'
  obtain ⟨c, rest, rfl⟩ := List.exists_cons_of_ne_nil bare'.some'
  have solid : isBlank c = false := bare'.head c rfl
  refine ⟨before, c :: (rest ++ after).takeWhile (!isBlank ·),
    (rest ++ after).dropWhile (!isBlank ·), ?_, blanks, ⟨List.cons_ne_nil _ _, ?_⟩, ?_⟩
  · rw [List.append_assoc, List.append_assoc, List.cons_append, List.cons_append,
      List.takeWhile_append_dropWhile]
  · refine List.forall_mem_cons.mpr ⟨solid, fun d present => ?_⟩
    simpa using List.mem_takeWhile_imp present
  · intro d first
    have edge := List.head?_dropWhile_not (!isBlank ·) (rest ++ after)
    rw [first] at edge
    simpa using edge

/-- Every text consists of its words. -/
theorem spaced_words (text : List Char) : Spaced text (words text) := by
  by_cases empty : Blanks text
  · rw [words_of_blanks empty]
    exact .nil empty
  · obtain ⟨before, word, later, whole, blanks, word', edge⟩ := exists_word empty
    have shorter : later.length < text.length := by
      have positive := List.length_pos_iff.mpr word'.some'
      rw [whole, List.length_append, List.length_append]
      omega
    have found : words text = word :: words later := by
      rw [whole, List.append_assoc, words_append_of_blanks blanks, words_append_of_word word' edge]
    rw [found, whole]
    exact .cons blanks word' edge (spaced_words later)
termination_by text.length

/-- White space at the end makes no difference. -/
theorem Spaced.append (spaced : Spaced text words') (blanks : Blanks after) :
    Spaced (text ++ after) words' := by
  induction spaced with
  | nil blanks' => exact .nil (List.forall_mem_append.mpr ⟨blanks', blanks⟩)
  | @cons before word later words blanks' word' edge _ ih =>
    rw [List.append_assoc]
    refine .cons blanks' word' (fun c first => ?_) ih
    cases later with
    | nil => exact blanks c (List.mem_of_mem_head? first)
    | cons d later => exact edge c first

theorem words_trim (text : List Char) : words (trim text) = words text := by
  by_cases empty : Blanks text
  · rw [trim_eq_nil_iff.mpr empty, words_of_blanks empty, words]
  · obtain ⟨before, bare, after, rfl, blanks, bare', blanks'⟩ := exists_padded empty
    rw [trim_padded blanks blanks' bare', List.append_assoc, words_append_of_blanks blanks,
      ((spaced_words bare).append blanks').words_eq]

/-! ## The first word -/

theorem splitAtBlank_of_solid (solid : ∀ c ∈ word, isBlank c = false) :
    splitAtBlank word = none := by
  induction word with
  | nil => rfl
  | cons c word ih =>
    obtain ⟨solid, solid'⟩ := List.forall_mem_cons.mp solid
    rw [splitAtBlank, if_neg (by rw [solid]; exact Bool.false_ne_true), ih solid', Option.map_none]

theorem splitAtBlank_append {c : Char} (solid : ∀ c ∈ word, isBlank c = false)
    (blank : isBlank c = true) (later : List Char) :
    splitAtBlank (word ++ c :: later) = some (word, later) := by
  induction word with
  | nil => exact if_pos blank
  | cons d word ih =>
    obtain ⟨solid, solid'⟩ := List.forall_mem_cons.mp solid
    rw [List.cons_append, splitAtBlank, if_neg (by rw [solid]; exact Bool.false_ne_true),
      ih solid', Option.map_some]

end DebugBridge.Text
