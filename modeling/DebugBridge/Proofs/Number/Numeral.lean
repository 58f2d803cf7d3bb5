import DebugBridge.Number.Numeral

/-!
# The digits of a number

`digits` counts on a bound for the number of digits. Here it is brought into the form in which it is
reasoned about: a number below the base is its own digit, and any other ends with the digit of its
remainder.

Results:
1. `digits_of_lt`, `digits_of_le`: that recursion.
2. `value_digits`: the digits of a number have that number as their value.
3. `mem_decimal`: a decimal consists of the ten digits.
4. `head?_decimal`: it begins with a zero only if it is zero, and then ends there.
-/

namespace DebugBridge.Numeral

/-! ## The recursion -/

theorem digitsWithin_succ (base count n : Nat) (later : List Char) :
    digitsWithin base (count + 1) n later =
      if n / base = 0 then digitChar (n % base) :: later
      else digitsWithin base count (n / base) (digitChar (n % base) :: later) := rfl

theorem digitsWithin_append (base count n : Nat) (later : List Char) :
    digitsWithin base count n later = digitsWithin base count n [] ++ later := by
  induction count generalizing n later with
  | zero => rfl
  | succ count ih =>
    rw [digitsWithin_succ, digitsWithin_succ]
    split
    · rfl
    · rw [ih (n / base) (digitChar (n % base) :: later), ih (n / base) [digitChar (n % base)],
        List.append_assoc, List.singleton_append]

/-- A division by the base takes at least one bit off. -/
theorem log2_div_lt {base n : Nat} (two : 2 ≤ base) (more : n / base ≠ 0) :
    (n / base).log2 < n.log2 := by
  have half : n / base ≤ n / 2 := Nat.div_le_div_left two (by decide)
  have above : n < 2 ^ (n.log2 + 1) := Nat.lt_log2_self
  rw [Nat.log2_lt more]
  omega

/-- Any bound that suffices gives the same digits. -/
theorem digitsWithin_enough {base : Nat} (two : 2 ≤ base) {n first second : Nat}
    (enough : n.log2 ≤ first) (enough' : n.log2 ≤ second) :
    digitsWithin base (first + 1) n [] = digitsWithin base (second + 1) n [] := by
  induction first generalizing n second with
  | zero =>
    have none : n / base = 0 := by
      rcases Nat.eq_zero_or_pos (n / base) with none | more
      · exact none
      · have less := log2_div_lt two (Nat.ne_of_gt more)
        omega
    rw [digitsWithin_succ, digitsWithin_succ, if_pos none, if_pos none]
  | succ first ih =>
    rw [digitsWithin_succ, digitsWithin_succ base second]
    split
    · rfl
    · next more =>
      have less := log2_div_lt two more
      obtain ⟨second, rfl⟩ := Nat.exists_eq_add_one_of_ne_zero (n := second) (by omega)
      rw [digitsWithin_append, digitsWithin_append base (second + 1),
        ih (Nat.le_of_lt_succ (Nat.lt_of_lt_of_le less enough))
          (Nat.le_of_lt_succ (Nat.lt_of_lt_of_le less enough'))]

theorem digits_of_lt {base n : Nat} (small : n < base) : digits base n = [digitChar n] := by
  simp only [digits, digitsWithin, Nat.div_eq_of_lt small, Nat.mod_eq_of_lt small, if_true]

theorem digits_of_le {base n : Nat} (two : 2 ≤ base) (large : base ≤ n) :
    digits base n = digits base (n / base) ++ [digitChar (n % base)] := by
  have more : n / base ≠ 0 := by
    have positive : 0 < n / base := Nat.div_pos large (by omega)
    omega
  have less := log2_div_lt two more
  obtain ⟨count, enough⟩ := Nat.exists_eq_add_one_of_ne_zero (Nat.ne_zero_of_lt less)
  rw [digits, digitsWithin_succ, if_neg more, digitsWithin_append, enough]
  rw [enough] at less
  rw [digitsWithin_enough two (Nat.le_of_lt_succ less) (Nat.le_refl _), digits]

/-! ## The value -/

/-- Digits read onto a value, given what each character is worth. -/
def value (worth : Char → Nat) (base : Nat) (chars : List Char) : Nat :=
  chars.foldl (fun n c => n * base + worth c) 0

/-- The digits of a number have that number as their value. -/
theorem value_digits {base : Nat} (two : 2 ≤ base) {worth : Char → Nat}
    (right : ∀ d, d < base → worth (digitChar d) = d) (n : Nat) :
    value worth base (digits base n) = n := by
  induction n using Nat.strongRecOn with
  | ind n ih =>
    rcases Nat.lt_or_ge n base with small | large
    · rw [digits_of_lt small]
      simp [value, right n small]
    · have smaller : n / base < n := Nat.div_lt_self (by omega) two
      have rest := ih (n / base) smaller
      have last := right (n % base) (Nat.mod_lt n (by omega))
      rw [digits_of_le two large]
      simp only [value, List.foldl_append, List.foldl_cons, List.foldl_nil] at rest ⊢
      rw [rest, last, Nat.mul_comm]
      exact Nat.div_add_mod n base

/-! ## Decimals -/

theorem toNat_digitChar : ∀ d, d < 10 → (digitChar d).toNat = 0x30 + d := by
  decide

/-- A decimal consists of the ten digits. -/
theorem mem_decimal {n : Nat} {c : Char} (present : c ∈ decimal n) :
    0x30 ≤ c.toNat ∧ c.toNat ≤ 0x39 := by
  induction n using Nat.strongRecOn with
  | ind n ih =>
    unfold decimal at present ih
    rcases Nat.lt_or_ge n 10 with small | large
    · rw [digits_of_lt small, List.mem_singleton] at present
      rw [present, toNat_digitChar n small]
      omega
    · rw [digits_of_le (by omega) large, List.mem_append, List.mem_singleton] at present
      rcases present with before | last
      · exact ih (n / 10) (by omega) before
      · rw [last, toNat_digitChar (n % 10) (by omega)]
        omega

theorem decimal_ne_nil (n : Nat) : decimal n ≠ [] := by
  unfold decimal
  rcases Nat.lt_or_ge n 10 with small | large
  · rw [digits_of_lt small]
    simp
  · rw [digits_of_le (by omega) large]
    simp

/-- Only zero begins with a zero. -/
theorem head?_decimal {n : Nat} (positive : 0 < n) : (decimal n).head? ≠ some '0' := by
  induction n using Nat.strongRecOn with
  | ind n ih =>
    rcases Nat.lt_or_ge n 10 with small | large
    · have table : ∀ d, d < 10 → 0 < d → digitChar d ≠ '0' := by decide
      rw [decimal, digits_of_lt small]
      simpa using table n small positive
    · -- The digit of the remainder goes to the end, so the head is that of the quotient.
      have before : (decimal (n / 10)).head? ≠ some '0' := ih (n / 10) (by omega) (by omega)
      have some := decimal_ne_nil (n / 10)
      unfold decimal at before some ⊢
      rw [digits_of_le (by omega) large, List.head?_append, List.head?_eq_some_head some,
        Option.some_or, ← List.head?_eq_some_head some]
      exact before

theorem decimal_zero : decimal 0 = ['0'] := by decide

end DebugBridge.Numeral
