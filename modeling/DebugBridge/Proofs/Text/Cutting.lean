import DebugBridge.Text.Blank
import Mathlib.Data.List.TakeWhile

/-!
# Cutting what has been put together

What stands at the beginning or at the end of a text can be taken off again. A mark is found at the
first place where it stands, which is where it was put if its first character does not occur before.

Results:
1. `dropStart?_append`, `dropEnd?_append`, and their opposites.
2. `splitOnce_append`, `splitOnce_mark`, `splitOnce_eq_none`, `splitOnce_first`.
3. `trim_eq_nil_iff`, `trim_trim`: nothing is left of blanks, and what has been trimmed stays as it
   is.
-/

namespace DebugBridge.Text

variable {p : Char} {mark text : List Char}

/-! ## Marks -/

@[simp]
theorem dropStart?_append (start text : List Char) :
    dropStart? start (start ++ text) = some text := by
  induction start with
  | nil => rfl
  | cons c start ih =>
    rw [List.cons_append, dropStart?, if_pos rfl, ih]

theorem dropStart?_eq_some_iff {start rest : List Char} :
    dropStart? start text = some rest ↔ text = start ++ rest := by
  constructor
  · intro found
    induction start generalizing text with
    | nil => exact Option.some.inj found
    | cons c start ih =>
      cases text with
      | nil => cases found
      | cons d text =>
        rw [dropStart?] at found
        split at found
        · next same => rw [same, ih found, List.cons_append]
        · cases found
  · rintro rfl
    exact dropStart?_append start rest

theorem dropStart?_eq_none (first : mark.head? = some p) (absent : p ∉ text) :
    dropStart? mark text = none := by
  obtain ⟨later, rfl⟩ := List.head?_eq_some_iff.mp first
  cases text with
  | nil => rfl
  | cons c text => rw [dropStart?, if_neg (List.ne_of_not_mem_cons absent)]

@[simp]
theorem dropEnd?_append (text ending : List Char) :
    dropEnd? ending (text ++ ending) = some text := by
  rw [dropEnd?, List.reverse_append, dropStart?_append, Option.map_some, List.reverse_reverse]

theorem dropEnd?_eq_some_iff {ending rest : List Char} :
    dropEnd? ending text = some rest ↔ text = rest ++ ending := by
  constructor
  · intro found
    obtain ⟨before, start, rfl⟩ := Option.map_eq_some_iff.mp found
    rw [← List.reverse_reverse text, dropStart?_eq_some_iff.mp start, List.reverse_append,
      List.reverse_reverse]
  · rintro rfl
    exact dropEnd?_append rest ending

theorem dropEnd?_eq_none (last : mark.getLast? = some p) (absent : p ∉ text) :
    dropEnd? mark text = none := by
  have first : mark.reverse.head? = some p := by rw [List.head?_reverse, last]
  have absent : p ∉ text.reverse := fun present => absent (List.mem_reverse.mp present)
  rw [dropEnd?, dropStart?_eq_none first absent, Option.map_none]

theorem splitOnce_cons {c : Char} (other : dropStart? mark (c :: text) = none) :
    splitOnce mark (c :: text)
      = (splitOnce mark text).map fun (before, after) => (c :: before, after) := by
  rw [splitOnce, other]

/-- The mark does not stand where its first character does not occur. -/
theorem splitOnce_append {before : List Char} (first : mark.head? = some p)
    (absent : p ∉ before) (text : List Char) :
    splitOnce mark (before ++ text)
      = (splitOnce mark text).map fun (earlier, after) => (before ++ earlier, after) := by
  induction before with
  | nil =>
    rw [List.nil_append]
    cases splitOnce mark text <;> rfl
  | cons c before ih =>
    obtain ⟨later, rfl⟩ := List.head?_eq_some_iff.mp first
    have other : dropStart? (p :: later) (c :: (before ++ text)) = none := by
      rw [dropStart?, if_neg (List.ne_of_not_mem_cons absent)]
    rw [List.cons_append, splitOnce_cons other, ih (List.not_mem_of_not_mem_cons absent),
      Option.map_map]
    rfl

theorem splitOnce_mark (some' : mark ≠ []) (text : List Char) :
    splitOnce mark (mark ++ text) = some ([], text) := by
  obtain ⟨p, later, rfl⟩ := List.exists_cons_of_ne_nil some'
  have found : dropStart? (p :: later) (p :: (later ++ text)) = some text :=
    dropStart?_append (p :: later) text
  rw [List.cons_append, splitOnce, found]

theorem splitOnce_eq_none (some' : mark ≠ []) (absent : ¬ mark <:+: text) :
    splitOnce mark text = none := by
  induction text with
  | nil =>
    obtain ⟨p, later, rfl⟩ := List.exists_cons_of_ne_nil some'
    rfl
  | cons c text ih =>
    obtain ⟨first, later⟩ := not_or.mp (mt List.infix_cons_iff.mpr absent)
    have other : dropStart? mark (c :: text) = none := by
      rw [Option.eq_none_iff_forall_not_mem]
      intro rest found
      exact first ⟨rest, (dropStart?_eq_some_iff.mp found).symm⟩
    rw [splitOnce_cons other, ih later, Option.map_none]

/-- A mark is found where it was put if it does not stand before that, not even with its own
beginning. -/
theorem splitOnce_first {before : List Char} (some' : mark ≠ [])
    (absent : ¬ mark <:+: before ++ mark.dropLast) (after : List Char) :
    splitOnce mark (before ++ mark ++ after) = some (before, after) := by
  induction before with
  | nil => exact splitOnce_mark some' after
  | cons c before ih =>
    rw [List.cons_append] at absent
    obtain ⟨first, later⟩ := not_or.mp (mt List.infix_cons_iff.mpr absent)
    have other : dropStart? mark (c :: (before ++ mark ++ after)) = none := by
      rw [Option.eq_none_iff_forall_not_mem]
      intro rest found
      have whole : mark <+: c :: (before ++ mark ++ after) :=
        ⟨rest, (dropStart?_eq_some_iff.mp found).symm⟩
      have part : c :: (before ++ mark.dropLast) <+: c :: (before ++ mark ++ after) := by
        rw [List.append_assoc, List.prefix_cons_inj, List.prefix_append_right_inj]
        exact (List.dropLast_prefix mark).trans (List.prefix_append mark after)
      refine first (List.prefix_of_prefix_length_le whole part ?_)
      have positive := List.length_pos_iff.mpr some'
      simp only [List.length_cons, List.length_append, List.length_dropLast]
      omega
    rw [List.cons_append, List.cons_append, splitOnce_cons other, ih later, Option.map_some]

/-- A mark of two characters that stands in neither of two texts stands where they meet. -/
theorem infix_pair_append {p q : Char} {later : List Char} (stands : [p, q] <:+: text ++ later) :
    [p, q] <:+: text ∨ [p, q] <:+: later ∨ text.getLast? = some p ∧ later.head? = some q := by
  induction text with
  | nil => exact .inr (.inl stands)
  | cons c text ih =>
    rw [List.cons_append, List.infix_cons_iff] at stands
    rcases stands with first | inside
    · cases text with
      | nil =>
        obtain ⟨rfl, rest⟩ := List.cons_prefix_cons.mp first
        obtain ⟨after, rfl⟩ := rest
        exact .inr (.inr ⟨rfl, rfl⟩)
      | cons d text =>
        left
        simp only [List.cons_append, List.cons_prefix_cons] at first
        obtain ⟨rfl, rfl, -⟩ := first
        exact List.IsPrefix.isInfix ⟨text, rfl⟩
    · rcases ih inside with before | after | ⟨last, head⟩
      · exact .inl (before.trans (List.suffix_cons c text).isInfix)
      · exact .inr (.inl after)
      · refine .inr (.inr ⟨?_, head⟩)
        rw [List.getLast?_cons, last, Option.getD_some]

/-! ## Blanks -/

theorem trimStart_of_head? (edge : ∀ c, text.head? = some c → isBlank c = false) :
    trimStart text = text := by
  cases text with
  | nil => rfl
  | cons c text => exact List.dropWhile_cons_of_neg (by rw [edge c rfl]; exact Bool.false_ne_true)

theorem head?_trimStart {c : Char} (first : (trimStart text).head? = some c) :
    isBlank c = false := by
  have edge := List.head?_dropWhile_not isBlank text
  unfold trimStart at first
  rw [first] at edge
  simpa using edge

theorem trimEnd_prefix (text : List Char) : trimEnd text <+: text := by
  have suffix : (trimStart text.reverse).reverse <+: text.reverse.reverse :=
    List.reverse_prefix.mpr (List.dropWhile_suffix isBlank)
  rwa [List.reverse_reverse] at suffix

/-- Nothing is left of what has nothing but blanks. -/
theorem trim_eq_nil_iff : trim text = [] ↔ ∀ c ∈ text, isBlank c = true := by
  have front : ∀ {text : List Char}, trimStart text = [] ↔ ∀ c ∈ text, isBlank c = true :=
    List.dropWhile_eq_nil_iff
  rw [trim, trimEnd, List.reverse_eq_nil_iff, front]
  simp only [List.mem_reverse]
  constructor
  · intro blank
    rw [← front]
    cases left : trimStart text with
    | nil => rfl
    | cons c later =>
      have first : (trimStart text).head? = some c := by rw [left, List.head?_cons]
      have other := blank c (left ▸ List.mem_cons_self)
      exact absurd ((head?_trimStart first).symm.trans other) Bool.false_ne_true
  · intro blank c present
    exact blank c ((List.dropWhile_suffix isBlank).mem present)

/-- What has been trimmed has no blanks at its ends. -/
theorem trim_trim (text : List Char) : trim (trim text) = trim text := by
  have front : trimStart (trim text) = trim text := by
    refine trimStart_of_head? fun c first => ?_
    obtain ⟨later, whole⟩ := trimEnd_prefix (trimStart text)
    have first' : (trimStart text).head? = some c := by
      rw [← whole, List.head?_append]
      exact Option.or_eq_some_iff.mpr (.inl first)
    exact head?_trimStart first'
  have back : trimEnd (trim text) = trim text := by
    unfold trim trimEnd
    rw [List.reverse_reverse, trimStart_of_head? fun c first => head?_trimStart first]
  rw [trim, front, back]

end DebugBridge.Text
