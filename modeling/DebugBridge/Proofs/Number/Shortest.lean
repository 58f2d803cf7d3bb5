import DebugBridge.Number.Shortest
import DebugBridge.Proofs.Number.Numeral

/-!
# The characters of a double

Whatever the layout, a double is written in digits, a point, signs and the mark of an exponent, or
in letters when it is no finite number. So what holds of these characters holds of all that is
written.

Results:
1. `Layout.forall_mem_chars`: what all characters have in common.
2. `Layout.printable_chars`: there are no controls among them.
3. `Layout.floating_chars`: a finite number has a point or an exponent.
-/

namespace DebugBridge

theorem printable_of_all {letters : List Char}
    (all : (letters.all fun letter => decide (0x20 ≤ letter.toNat)) = true) {c : Char}
    (present : c ∈ letters) : 0x20 ≤ c.toNat :=
  of_decide_eq_true (List.all_eq_true.mp all c present)

theorem Numeral.printable_decimal {n : Nat} : ∀ c, c ∈ decimal n → 0x20 ≤ c.toNat :=
  fun _ present => Nat.le_trans (by decide) (mem_decimal present).1

namespace Binary64

open Numeral (decimal)

variable {good : Char → Prop} {digits : List Char}

theorem forall_mem_zeros (zero : good '0') {count : Nat} : ∀ c, c ∈ zeros count → good c := by
  intro c present
  rw [List.eq_of_mem_replicate present]
  exact zero

theorem forall_mem_plain (zero : good '0') (point : good '.')
    (all : ∀ c, c ∈ digits → good c) (power : Int) : ∀ c, c ∈ plain digits power → good c := by
  unfold plain
  dsimp only
  split
  · simp only [List.forall_mem_append]
    refine ⟨⟨all, forall_mem_zeros zero⟩, fun c present => ?_⟩
    rcases List.mem_cons.mp present with rfl | present
    · exact point
    · rw [List.mem_singleton.mp present]
      exact zero
  split
  · simp only [List.forall_mem_append, List.forall_mem_cons]
    exact ⟨fun c present => all c (List.mem_of_mem_take present), point,
      fun c present => all c (List.mem_of_mem_drop present)⟩
  · simp only [List.cons_append, List.forall_mem_append, List.forall_mem_cons]
    exact ⟨zero, point, forall_mem_zeros zero, all⟩

theorem forall_mem_scientific (plus : Bool) (marks : ∀ c, c ∈ ['.', 'e', '-', '+'] → good c)
    (decimals : ∀ n c, c ∈ decimal n → good c) (all : ∀ c, c ∈ digits → good c)
    (exponent : Int) : ∀ c, c ∈ scientific plus digits exponent → good c := by
  unfold scientific
  simp only [List.forall_mem_append, List.forall_mem_cons]
  refine ⟨⟨?_, marks 'e' (by decide), ?_⟩, decimals _⟩
  · split
    · simp only [List.forall_mem_cons] at all ⊢
      exact ⟨all.1, marks '.' (by decide), all.2⟩
    · exact all
  · intro c present
    split at present
    · rw [List.mem_singleton.mp present]
      exact marks '-' (by decide)
    split at present
    · rw [List.mem_singleton.mp present]
      exact marks '+' (by decide)
    · exact absurd present List.not_mem_nil

/-- What holds of digits and of the marks holds of a finite number, and of the others if it holds of
their letters. -/
theorem Layout.forall_mem_chars (layout : Layout) {x : Binary64}
    (marks : ∀ c, c ∈ ['.', 'e', '-', '+'] → good c) (decimals : ∀ n c, c ∈ decimal n → good c)
    (words : x.isFinite = false → ∀ c, c ∈ ['N', 'a', 'i', 'n', 'f'] → good c) :
    ∀ c, c ∈ layout.chars x → good c := by
  have zero : good '0' := decimals 0 '0' (by decide)
  have signed : ∀ {chars}, (∀ c, c ∈ chars → good c) →
      ∀ c, c ∈ (if x.isNegative then ['-'] else []) ++ chars → good c := by
    intro chars all
    refine List.forall_mem_append.mpr ⟨fun c present => ?_, all⟩
    split at present
    · rw [List.mem_singleton.mp present]
      exact marks '-' (by decide)
    · exact absurd present List.not_mem_nil
  have within : ∀ {letters : List Char}, x.isFinite = false →
      letters ⊆ ['N', 'a', 'i', 'n', 'f'] → ∀ c, c ∈ letters → good c :=
    fun infinite subset c present => words infinite c (subset present)
  unfold Layout.chars
  dsimp only
  split
  · next nan =>
    have infinite : x.isFinite = false := by
      rw [isNaN, Bool.and_eq_true] at nan
      rw [isFinite, bne, nan.1]
      rfl
    exact within infinite (by decide)
  split
  · next infinite => exact signed (within (by simpa using infinite) (by decide))
  split
  · refine signed fun c present => ?_
    rcases List.mem_cons.mp present with rfl | present
    · exact zero
    rcases List.mem_cons.mp present with rfl | present
    · exact marks '.' (by decide)
    · rw [List.mem_singleton.mp present]
      exact zero
  split
  · exact signed (forall_mem_plain zero (marks '.' (by decide)) (decimals _) _)
  · exact signed (forall_mem_scientific _ marks decimals (decimals _) _)

/-- A double is written without controls. -/
theorem Layout.printable_chars (layout : Layout) (x : Binary64) :
    ∀ c, c ∈ layout.chars x → 0x20 ≤ c.toNat :=
  layout.forall_mem_chars (fun _ => printable_of_all (by decide))
    (fun _ => Numeral.printable_decimal) fun _ _ => printable_of_all (by decide)

/-- A finite number is written with a point or an exponent. -/
theorem Layout.floating_chars (layout : Layout) {x : Binary64} (finite : x.isFinite = true) :
    '.' ∈ layout.chars x ∨ 'e' ∈ layout.chars x := by
  have number : ¬ x.isNaN = true := by
    intro nan
    rw [isNaN, Bool.and_eq_true] at nan
    rw [isFinite, bne, nan.1] at finite
    cases finite
  unfold Layout.chars
  dsimp only
  rw [if_neg number, finite]
  simp only [Bool.not_true, Bool.false_eq_true, if_false]
  split
  · exact .inl (List.mem_append_right _ (by decide))
  split
  · refine .inl (List.mem_append_right _ ?_)
    unfold plain
    dsimp only
    split
    · exact List.mem_append_right _ (by decide)
    split
    · exact List.mem_append_right _ List.mem_cons_self
    · exact List.mem_append_left _ (.tail _ List.mem_cons_self)
  · refine .inr (List.mem_append_right _ ?_)
    unfold scientific
    dsimp only
    exact List.mem_append_left _ (List.mem_append_right _ List.mem_cons_self)

end Binary64
end DebugBridge
