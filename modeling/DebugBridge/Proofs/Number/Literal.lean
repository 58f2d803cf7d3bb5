import DebugBridge.Proofs.Number.Reading
import DebugBridge.Proofs.Number.Shortest

/-!
# Numbers as literals

A literal is made of digits and of nothing else but the marks that its form asks for. `Run` says
that a text is made of digits, and `Binary64.Literal` is the form of a float. A float stands for a
number, counted in the smallest steps, and is known by that number, zero by its sign too.

Results:
1. `run_decimal`, `run_hexadecimal`: a written number is made of digits.
2. `Layout.literal_chars`: a finite double is written as a literal.
3. `eq_of_inSteps`: doubles that stand for one number are the same, zeros if they have one sign.
-/

namespace DebugBridge

namespace Numeral

/-- At least one character, and none that is not in the alphabet. -/
structure Run (alphabet text : List Char) : Prop where
  some' : text ≠ []
  subset : text ⊆ alphabet

def decimalDigits : List Char := "0123456789".toList

def hexadecimalDigits : List Char := "0123456789abcdef".toList

theorem run_digits {base : Nat} {alphabet : List Char} (two : 2 ≤ base)
    (all : ∀ d, d < base → digitChar d ∈ alphabet) (n : Nat) : Run alphabet (digits base n) := by
  refine ⟨digits_ne_nil two n, fun c present => ?_⟩
  obtain ⟨d, small, rfl⟩ := mem_digits two present
  exact all d small

theorem run_decimal (n : Nat) : Run decimalDigits (decimal n) :=
  run_digits (by decide) (by decide) n

theorem run_hexadecimal (n : Nat) : Run hexadecimalDigits (hexadecimal n) :=
  run_digits (by decide) (by decide) n

variable {alphabet text later : List Char}

theorem Run.of_subset (run : Run alphabet text) (some' : later ≠ []) (subset : later ⊆ text) :
    Run alphabet later :=
  ⟨some', List.Subset.trans subset run.subset⟩

theorem Run.append (run : Run alphabet text) (subset : later ⊆ alphabet) :
    Run alphabet (text ++ later) :=
  ⟨List.append_ne_nil_of_left_ne_nil run.some' later, List.append_subset.mpr ⟨run.subset, subset⟩⟩

theorem Run.prepend (run : Run alphabet text) (subset : later ⊆ alphabet) :
    Run alphabet (later ++ text) :=
  ⟨List.append_ne_nil_of_right_ne_nil later run.some', List.append_subset.mpr ⟨subset, run.subset⟩⟩

end Numeral

open Numeral (Run decimalDigits run_decimal)

namespace Binary64

/-! ## The form of a float -/

/-- Digits, perhaps with a point between two of them. -/
inductive Mantissa : List Char → Prop
  | whole {whole : List Char} : Run decimalDigits whole → Mantissa whole
  | pointed {whole part : List Char} : Run decimalDigits whole → Run decimalDigits part →
      Mantissa (whole ++ '.' :: part)

/-- A number without a sign: with a point, with an exponent, or with both. -/
inductive Unsigned : List Char → Prop
  | positional {whole part : List Char} : Run decimalDigits whole → Run decimalDigits part →
      Unsigned (whole ++ '.' :: part)
  | large {mantissa exponent : List Char} : Mantissa mantissa → Run decimalDigits exponent →
      Unsigned (mantissa ++ 'e' :: exponent)
  | small {mantissa exponent : List Char} : Mantissa mantissa → Run decimalDigits exponent →
      Unsigned (mantissa ++ 'e' :: '-' :: exponent)

/-- A float as the native language writes it. -/
inductive Literal : List Char → Prop
  | positive {text : List Char} : Unsigned text → Literal text
  | negative {text : List Char} : Unsigned text → Literal ('-' :: text)

theorem zeros_subset (count : Nat) : zeros count ⊆ decimalDigits := by
  intro c present
  rw [List.eq_of_mem_replicate present]
  decide

theorem unsigned_plain {digits : List Char} (run : Run decimalDigits digits) (power : Int) :
    Unsigned (plain digits power) := by
  have zero : Run decimalDigits ['0'] := ⟨by decide, by decide⟩
  unfold plain
  dsimp only
  split
  · exact .positional (run.append (zeros_subset _)) zero
  · next below =>
    split
    · next fits =>
      refine .positional (run.of_subset ?_ (List.take_subset _ _))
        (run.of_subset ?_ (List.drop_subset _ _))
      · exact List.ne_nil_of_length_pos (by rw [List.length_take]; omega)
      · exact List.ne_nil_of_length_pos (by rw [List.length_drop]; omega)
    · exact .positional zero (run.prepend (zeros_subset _))

theorem unsigned_scaled {mantissa : List Char} (form : Mantissa mantissa) (exponent : Int) :
    Unsigned (mantissa ++ 'e' :: (if exponent < 0 then ['-'] else if false then ['+'] else [])
      ++ Numeral.decimal exponent.natAbs) := by
  rw [List.append_assoc]
  split
  · exact .small form (run_decimal _)
  · exact .large form (run_decimal _)

theorem unsigned_scientific {digits : List Char} (run : Run decimalDigits digits)
    (exponent : Int) : Unsigned (scientific false digits exponent) := by
  unfold scientific
  dsimp only
  split
  · next first second rest =>
    have whole : Run decimalDigits [first] := run.of_subset (by simp) (by simp)
    have part : Run decimalDigits (second :: rest) :=
      run.of_subset (by simp) (List.subset_cons_self _ _)
    exact unsigned_scaled (.pointed whole part) exponent
  · exact unsigned_scaled (.whole run) exponent

/-- A finite double is written as a literal if a positive exponent has no sign. -/
theorem Layout.literal_chars {layout : Layout} (unsigned : layout.plus = false) {x : Binary64}
    (finite : x.isFinite = true) : Literal (layout.chars x) := by
  have number : ¬ x.isNaN = true := by
    intro nan
    rw [isNaN, Bool.and_eq_true] at nan
    rw [isFinite, bne, nan.1] at finite
    cases finite
  have signed : ∀ {text}, Unsigned text →
      Literal ((if x.isNegative then ['-'] else []) ++ text) := by
    intro text form
    split
    · exact .negative form
    · exact .positive form
  unfold Layout.chars
  dsimp only
  rw [if_neg number, finite, unsigned]
  simp only [Bool.not_true, Bool.false_eq_true, if_false]
  split
  · have zero : Run decimalDigits ['0'] := ⟨by decide, by decide⟩
    exact signed (.positional zero zero)
  split
  · exact signed (unsigned_plain (run_decimal _) _)
  · exact signed (unsigned_scientific (run_decimal _) _)

/-! ## The number of a float -/

/-- The number, counted in the smallest steps. Infinity counts as the power of two that comes after
all finite numbers. -/
def inSteps (x : Binary64) : Int :=
  let magnitude := x.significand * Nat.pow 2 x.step
  if x.isNegative then -magnitude else magnitude

theorem fraction_lt (x : Binary64) : x.fraction < leadingBit :=
  Nat.mod_lt _ (by decide)

theorem significand_lt (x : Binary64) : x.significand < 2 * leadingBit := by
  have := x.fraction_lt
  unfold significand
  split <;> omega

theorem leadingBit_le_significand {x : Binary64} (normal : 0 < x.step) :
    leadingBit ≤ x.significand := by
  unfold step at normal
  rw [significand, if_neg (by omega)]
  exact Nat.le_add_right _ _

variable {x y : Binary64}

/-- Of two numbers the one with the higher step is the larger. -/
theorem step_le_of_magnitude
    (same : x.significand * Nat.pow 2 x.step = y.significand * Nat.pow 2 y.step) :
    y.step ≤ x.step := by
  refine Nat.le_of_not_lt fun higher => ?_
  have normal : leadingBit ≤ y.significand := leadingBit_le_significand (by omega)
  have less : x.significand * Nat.pow 2 x.step < y.significand * Nat.pow 2 y.step :=
    calc x.significand * Nat.pow 2 x.step
        < 2 * leadingBit * Nat.pow 2 x.step :=
          Nat.mul_lt_mul_of_pos_right x.significand_lt (Nat.two_pow_pos _)
      _ = leadingBit * (Nat.pow 2 x.step * 2) := by
        rw [Nat.mul_comm 2, Nat.mul_assoc, Nat.mul_comm 2]
      _ ≤ y.significand * Nat.pow 2 y.step :=
        Nat.mul_le_mul normal (Nat.pow_le_pow_right Nat.two_pos higher)
  omega

/-- The bits are made of the sign, the exponent and the fraction. -/
theorem toNat_bits (x : Binary64) :
    x.bits.toNat = (if x.isNegative then signBit else 0) + x.exponentField * leadingBit
      + x.fraction := by
  have small := x.bits.toNat_lt
  unfold isNegative exponentField fraction signBit leadingBit
  split
  all_goals
    next sign =>
      simp only [decide_eq_true_eq] at sign
      omega

theorem isNegative_eq (nonzero : x.inSteps ≠ 0) : x.isNegative = decide (x.inSteps < 0) := by
  unfold inSteps at *
  dsimp only at *
  cases sign : x.isNegative with
  | true =>
    rw [sign, if_pos rfl] at nonzero
    rw [if_pos rfl, eq_comm, decide_eq_true_eq]
    omega
  | false =>
    rw [if_neg Bool.false_ne_true, eq_comm, decide_eq_false_iff_not]
    omega

/-- A double is known by its number, and zero by its sign too. -/
theorem eq_of_inSteps (same : x.inSteps = y.inSteps)
    (zero : x.inSteps = 0 → x.isNegative = y.isNegative) : x = y := by
  have sign : x.isNegative = y.isNegative := by
    by_cases isZero : x.inSteps = 0
    · exact zero isZero
    · rw [isNegative_eq isZero, isNegative_eq (same ▸ isZero), same]
  have magnitude : x.significand * Nat.pow 2 x.step = y.significand * Nat.pow 2 y.step := by
    unfold inSteps at same
    dsimp only at same
    rw [sign] at same
    split at same <;> omega
  have steps : x.step = y.step :=
    Nat.le_antisymm (step_le_of_magnitude magnitude.symm) (step_le_of_magnitude magnitude)
  rw [steps] at magnitude
  have significands : x.significand = y.significand :=
    Nat.eq_of_mul_eq_mul_right (Nat.two_pow_pos _) magnitude
  have fields : x.exponentField = y.exponentField ∧ x.fraction = y.fraction := by
    have := x.fraction_lt
    have := y.fraction_lt
    unfold significand at significands
    unfold step at steps
    split at significands <;> split at significands <;> omega
  have bits : x.bits = y.bits := by
    rw [← UInt64.toNat_inj, toNat_bits, toNat_bits, sign, fields.1, fields.2]
  cases x
  exact congrArg Binary64.mk bits

end Binary64
end DebugBridge
