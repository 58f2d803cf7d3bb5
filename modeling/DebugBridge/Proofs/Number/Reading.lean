import DebugBridge.Proofs.Number.Numeral

/-!
# Numbers read back

What is written in a base is read back in it. Apart from that, it is said which number a text
spells, whoever wrote it: `Spells` goes through its digits from the left, as `readDigits` does.

Results:
1. `mem_digits`: the characters of a written number are digits.
2. `readWord_digits`: a written number below `2 ^ 64` is read back.
3. `Spells.unique`, `Unsigned.unique`: a text spells one number.
4. `readWord_eq_ok_iff`: what is read is what the text spells, if it is a word.
-/

namespace DebugBridge.Numeral

/-! ## Written numbers -/

/-- The digits of the base are told apart from each other and from everything else. -/
structure Readable (base : Nat) : Prop where
  two : 2 ≤ base
  digit : ∀ d, d < base → digitValue? base (digitChar d) = some d
  unsigned : ∀ d, d < base → digitChar d ≠ '+'

theorem readable_decimal : Readable 10 :=
  ⟨by decide, by decide, by decide⟩

theorem readable_hexadecimal : Readable 16 :=
  ⟨by decide, by decide, by decide⟩

variable {base : Nat}

theorem mem_digits (two : 2 ≤ base) {n : Nat} {c : Char} (present : c ∈ digits base n) :
    ∃ d, d < base ∧ c = digitChar d := by
  induction n using Nat.strongRecOn with
  | ind n ih =>
    rcases Nat.lt_or_ge n base with small | large
    · rw [digits_of_lt small, List.mem_singleton] at present
      exact ⟨n, small, present⟩
    · rw [digits_of_le two large, List.mem_append, List.mem_singleton] at present
      rcases present with before | last
      · exact ih (n / base) (Nat.div_lt_self (by omega) two) before
      · exact ⟨n % base, Nat.mod_lt n (by omega), last⟩

theorem digits_ne_nil (two : 2 ≤ base) (n : Nat) : digits base n ≠ [] := by
  rcases Nat.lt_or_ge n base with small | large
  · rw [digits_of_lt small]
    exact List.cons_ne_nil _ _
  · rw [digits_of_le two large]
    exact List.append_ne_nil_of_right_ne_nil _ (List.cons_ne_nil _ _)

/-! ## Reading -/

theorem readDigits_append (base limit value : Nat) (first later : List Char) :
    readDigits base limit value (first ++ later)
      = (readDigits base limit value first).bind
          fun value => readDigits base limit value later := by
  induction first generalizing value with
  | nil => rfl
  | cons c first ih =>
    simp only [List.cons_append, readDigits]
    split
    · rfl
    · split
      · rfl
      · exact ih _

theorem readDigits_digit {limit value d : Nat} {c : Char} (digit : digitValue? base c = some d)
    (fits : value * base + d < limit) :
    readDigits base limit value [c] = .ok (value * base + d) := by
  simp only [readDigits, digit, if_neg (Nat.not_le_of_lt fits)]

theorem readDigits_digits (readable : Readable base) {limit n : Nat} (fits : n < limit) :
    readDigits base limit 0 (digits base n) = .ok n := by
  induction n using Nat.strongRecOn with
  | ind n ih =>
    rcases Nat.lt_or_ge n base with small | large
    · rw [digits_of_lt small, readDigits_digit (readable.digit n small) (by omega)]
      rw [Nat.zero_mul, Nat.zero_add]
    · have smaller : n / base < n := Nat.div_lt_self (by have := readable.two; omega) readable.two
      have whole : n / base * base + n % base = n := by
        rw [Nat.mul_comm]
        exact Nat.div_add_mod n base
      have last := readable.digit (n % base) (Nat.mod_lt n (by have := readable.two; omega))
      rw [digits_of_le readable.two large, readDigits_append,
        ih (n / base) smaller (Nat.lt_trans smaller fits)]
      show readDigits base limit (n / base) [digitChar (n % base)] = .ok n
      rw [readDigits_digit last (by rw [whole]; exact fits), whole]

/-- A text that does not begin with a sign is read digit by digit. -/
theorem readUnsigned_eq {text : List Char} (some' : text ≠ []) (unsigned : text.head? ≠ some '+')
    (base limit : Nat) : readUnsigned base limit text = readDigits base limit 0 text := by
  unfold readUnsigned
  split
  · exact absurd rfl some'
  · exact absurd rfl unsigned
  · exact absurd rfl unsigned
  · rfl

theorem head?_digits (readable : Readable base) (n : Nat) :
    (digits base n).head? ≠ some '+' := by
  intro sign
  obtain ⟨d, small, same⟩ := mem_digits readable.two (List.mem_of_mem_head? sign)
  exact readable.unsigned d small same.symm

/-- A written word is read back. -/
theorem readWord_digits (readable : Readable base) (n : UInt64) :
    readWord base (digits base n.toNat) = .ok n := by
  rw [readWord, readUnsigned_eq (digits_ne_nil readable.two _) (head?_digits readable _),
    readDigits_digits readable n.toNat_lt]
  exact congrArg Except.ok (UInt64.ofNat_toNat)

/-! ## Spelling -/

/-- The number that digits of a base spell, the last of which counts ones. -/
inductive Spells (base : Nat) : List Char → Nat → Prop
  | nil : Spells base [] 0
  | snoc {text : List Char} {n d : Nat} {c : Char} : Spells base text n →
      digitValue? base c = some d → Spells base (text ++ [c]) (n * base + d)

/-- The same for at least one digit, perhaps with a sign in front. -/
inductive Unsigned (base : Nat) : List Char → Nat → Prop
  | bare {text : List Char} {n : Nat} : text ≠ [] → Spells base text n → Unsigned base text n
  | signed {text : List Char} {n : Nat} : text ≠ [] → Spells base text n →
      Unsigned base ('+' :: text) n

/-- What a digit is worth; anything else is worth nothing. -/
def worth (base : Nat) (c : Char) : Nat :=
  (digitValue? base c).getD 0

theorem Spells.value_eq {text : List Char} {n : Nat} (spells : Spells base text n) :
    value (worth base) base text = n := by
  induction spells with
  | nil => rfl
  | snoc _ digit ih =>
    rw [value, List.foldl_append, ← value, ih, List.foldl_cons, List.foldl_nil, worth, digit,
      Option.getD_some]

theorem Spells.digit_of_mem {text : List Char} {n : Nat} {c : Char}
    (spells : Spells base text n) (present : c ∈ text) : digitValue? base c ≠ none := by
  induction spells with
  | nil => cases present
  | snoc _ digit ih =>
    rcases List.mem_append.mp present with before | last
    · exact ih before
    · rw [List.mem_singleton.mp last, digit]
      exact Option.some_ne_none _

/-- A text spells one number. -/
theorem Spells.unique {text : List Char} {n m : Nat} (spells : Spells base text n)
    (spells' : Spells base text m) : n = m :=
  spells.value_eq.symm.trans spells'.value_eq

theorem digitValue?_plus (base : Nat) : digitValue? base '+' = none :=
  if_neg (Nat.lt_irrefl base)

theorem Unsigned.unique {text : List Char} {n m : Nat} (unsigned : Unsigned base text n)
    (unsigned' : Unsigned base text m) : n = m := by
  cases unsigned with
  | bare _ spells =>
    cases unsigned' with
    | bare _ spells' => exact spells.unique spells'
    | signed => exact absurd (digitValue?_plus base) (spells.digit_of_mem List.mem_cons_self)
  | signed _ spells =>
    cases unsigned' with
    | bare _ spells' =>
      exact absurd (digitValue?_plus base) (spells'.digit_of_mem List.mem_cons_self)
    | signed _ spells' => exact spells.unique spells'

theorem Unsigned.digit_of_mem {text : List Char} {n : Nat} {c : Char}
    (unsigned : Unsigned base text n) (present : c ∈ text) (bare : c ≠ '+') :
    digitValue? base c ≠ none := by
  cases unsigned with
  | bare _ spells => exact spells.digit_of_mem present
  | signed _ spells => exact spells.digit_of_mem (List.mem_of_ne_of_mem bare present)

/-! ## Spelling and reading -/

theorem Spells.of_readDigits {limit value n : Nat} {before text : List Char}
    (spells : Spells base before value) (small : value < limit)
    (read : readDigits base limit value text = .ok n) :
    Spells base (before ++ text) n ∧ n < limit := by
  induction text generalizing before value with
  | nil =>
    cases read
    rw [List.append_nil]
    exact ⟨spells, small⟩
  | cons c text ih =>
    unfold readDigits at read
    split at read
    · cases read
    · next d digit =>
      dsimp only at read
      split at read
      · cases read
      · next fits =>
        rw [List.append_cons]
        exact ih (spells.snoc digit) (Nat.lt_of_not_le fits) read

theorem spells_of_readDigits {limit n : Nat} {text : List Char} (positive : 0 < limit)
    (read : readDigits base limit 0 text = .ok n) : Spells base text n ∧ n < limit :=
  Spells.nil.of_readDigits positive read

theorem unsigned_of_readUnsigned {limit n : Nat} {text : List Char} (positive : 0 < limit)
    (read : readUnsigned base limit text = .ok n) : Unsigned base text n ∧ n < limit := by
  unfold readUnsigned at read
  split at read
  · cases read
  · cases read
  · next rest unsigned =>
    obtain ⟨spells, small⟩ := spells_of_readDigits positive read
    exact ⟨.signed (fun none => unsigned (by rw [none])) spells, small⟩
  · next text some' _ _ =>
    obtain ⟨spells, small⟩ := spells_of_readDigits positive read
    exact ⟨.bare some' spells, small⟩

/-- A word that has been read is what the text spells. -/
theorem unsigned_of_readWord {w : UInt64} {text : List Char} (read : readWord base text = .ok w) :
    Unsigned base text w.toNat := by
  unfold readWord at read
  cases read' : readUnsigned base UInt64.size text with
  | error fault =>
    rw [read'] at read
    cases read
  | ok n =>
    rw [read'] at read
    obtain ⟨unsigned, small⟩ := unsigned_of_readUnsigned (by decide) read'
    cases read
    have same : n.toUInt64.toNat = n := UInt64.toNat_ofNat_of_lt small
    rwa [same]

theorem digitValue?_lt {c : Char} {d : Nat} (digit : digitValue? base c = some d) : d < base := by
  unfold digitValue? at digit
  obtain ⟨small, same⟩ := Option.ite_none_right_eq_some.mp digit
  rwa [← Option.some.inj same]

/-- What a text spells is read, if it is small enough. -/
theorem Spells.readDigits_eq {limit n : Nat} {text : List Char} (spells : Spells base text n)
    (fits : n < limit) : readDigits base limit 0 text = .ok n := by
  induction spells with
  | nil => rfl
  | @snoc text n d c _ digit ih =>
    have positive : 0 < base := Nat.zero_lt_of_lt (digitValue?_lt digit)
    have before : n ≤ n * base := Nat.le_mul_of_pos_right n positive
    rw [readDigits_append, ih (by omega)]
    exact readDigits_digit digit fits

theorem Spells.head?_ne_plus {n : Nat} {text : List Char} (spells : Spells base text n) :
    text.head? ≠ some '+' :=
  fun sign => spells.digit_of_mem (List.mem_of_mem_head? sign) (digitValue?_plus base)

theorem Unsigned.readUnsigned_eq {limit n : Nat} {text : List Char}
    (unsigned : Unsigned base text n) (fits : n < limit) :
    readUnsigned base limit text = .ok n := by
  cases unsigned with
  | bare some' spells =>
    rw [Numeral.readUnsigned_eq some' spells.head?_ne_plus, spells.readDigits_eq fits]
  | signed some' spells =>
    obtain ⟨c, later, rfl⟩ := List.exists_cons_of_ne_nil some'
    rw [readUnsigned, spells.readDigits_eq fits]
    exact List.cons_ne_nil c later

/-- A word is read just where the text spells it. -/
theorem readWord_eq_ok_iff {w : UInt64} {text : List Char} :
    readWord base text = .ok w ↔ Unsigned base text w.toNat := by
  constructor
  · exact unsigned_of_readWord
  · intro unsigned
    rw [readWord, unsigned.readUnsigned_eq w.toNat_lt]
    exact congrArg Except.ok UInt64.ofNat_toNat

end DebugBridge.Numeral
