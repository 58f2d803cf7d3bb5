import DebugBridge.Text.Utf8

/-!
# UTF-8 reads back

What `encode` writes is well formed, and the machine finds the characters in it.

Results:
1. `scan_encodeChar`: the octets of one character are read as that character, whatever follows.
2. `decode?_encode`: a text that has been encoded is decoded to itself.
3. `encodeChar_ascii`, `le_of_mem_encodeChar`: a character below U+0080 is its own octet, and all
   octets of any other character are at least `0x80`, so no ASCII octet appears inside of one.
-/

namespace DebugBridge.Utf8

/-! ## One octet -/

theorem toNat_toUInt8 {n : Nat} (small : n < 0x100) : n.toUInt8.toNat = n := by
  simpa using Nat.mod_eq_of_lt small

theorem scan_character {octet : UInt8} {c : Char} {rest : List UInt8}
    (h : begin octet = .character c) : scan none (octet :: rest) = some c :: scan none rest := by
  rw [scan, h]

theorem scan_sequence {octet : UInt8} {unfinished : Unfinished} {rest : List UInt8}
    (h : begin octet = .sequence unfinished) :
    scan none (octet :: rest) = scan (some unfinished) rest := by
  rw [scan, h]

theorem between_toUInt8 {n : Nat} {low high : UInt8} (small : n < 0x100)
    (lower : low.toNat ≤ n) (upper : n ≤ high.toNat) : low ≤ n.toUInt8 ∧ n.toUInt8 ≤ high := by
  rw [UInt8.le_iff_toNat_le, UInt8.le_iff_toNat_le, toNat_toUInt8 small]
  exact ⟨lower, upper⟩

/-- Six bits make an octet in the range that is usual inside of a sequence. -/
theorem six_bits (n : Nat) :
    0x80 + n % 0x40 < 0x100 ∧ (0x80 : UInt8).toNat ≤ 0x80 + n % 0x40
      ∧ 0x80 + n % 0x40 ≤ (0xBF : UInt8).toNat := by
  have below : n % 0x40 < 0x40 := Nat.mod_lt n (by decide)
  refine ⟨by omega, Nat.le_add_right _ _, ?_⟩
  exact Nat.add_le_add_left (Nat.le_of_lt_succ below) 0x80

/-- An octet in the range that is awaited, when it is not the last of its sequence. -/
theorem scan_tail (missing : Nat) {bits n : Nat} {low high : UInt8} {rest : List UInt8}
    (small : n < 0x100) (lower : low.toNat ≤ n) (upper : n ≤ high.toNat) :
    scan (some ⟨bits, missing + 2, low, high⟩) (n.toUInt8 :: rest)
      = scan (some ⟨bits * 0x40 + (n - 0x80), missing + 1, 0x80, 0xBF⟩) rest := by
  rw [scan, if_pos (between_toUInt8 small lower upper), toNat_toUInt8 small]

/-- The last octet of a sequence. -/
theorem scan_last {bits n : Nat} {low high : UInt8} {rest : List UInt8}
    (small : n < 0x100) (lower : low.toNat ≤ n) (upper : n ≤ high.toNat) :
    scan (some ⟨bits, 1, low, high⟩) (n.toUInt8 :: rest)
      = some (Char.ofNat (bits * 0x40 + (n - 0x80))) :: scan none rest := by
  rw [scan, if_pos (between_toUInt8 small lower upper), toNat_toUInt8 small]

/-! ## One character -/

/-- The code points that a character can have. -/
theorem toNat_valid (c : Char) : c.toNat < 0xD800 ∨ (0xDFFF < c.toNat ∧ c.toNat < 0x110000) :=
  c.valid

theorem scan_two {n : Nat} {rest : List UInt8} (least : 0x80 ≤ n) (most : n < 0x800) :
    scan none ((0xC0 + n / 0x40).toUInt8 :: (0x80 + n % 0x40).toUInt8 :: rest)
      = some (Char.ofNat n) :: scan none rest := by
  have lead : begin (0xC0 + n / 0x40).toUInt8 = .sequence ⟨n / 0x40, 1, 0x80, 0xBF⟩ := by
    simp only [begin, toNat_toUInt8 (show 0xC0 + n / 0x40 < 0x100 by omega)]
    rw [if_neg (by omega), if_neg (by omega), if_pos (by omega), Nat.add_sub_cancel_left]
  have whole : n / 0x40 * 0x40 + (0x80 + n % 0x40 - 0x80) = n := by omega
  obtain ⟨small, lower, upper⟩ := six_bits n
  rw [scan_sequence lead, scan_last small lower upper, whole]

/-- Two octets after the first, with the range that the first leaves to the second. -/
theorem scan_three {n : Nat} {lead low high : UInt8} {rest : List UInt8}
    (h : begin lead = .sequence ⟨n / 0x1000, 2, low, high⟩)
    (lower : low.toNat ≤ 0x80 + n / 0x40 % 0x40) (upper : 0x80 + n / 0x40 % 0x40 ≤ high.toNat) :
    scan none (lead :: (0x80 + n / 0x40 % 0x40).toUInt8 :: (0x80 + n % 0x40).toUInt8 :: rest)
      = some (Char.ofNat n) :: scan none rest := by
  have whole : (n / 0x1000 * 0x40 + (0x80 + n / 0x40 % 0x40 - 0x80)) * 0x40
      + (0x80 + n % 0x40 - 0x80) = n := by omega
  obtain ⟨small, lower', upper'⟩ := six_bits n
  rw [scan_sequence h, scan_tail 0 (six_bits _).1 lower upper, scan_last small lower' upper', whole]

/-- Three octets after the first, with the range that the first leaves to the second. -/
theorem scan_four {n : Nat} {lead low high : UInt8} {rest : List UInt8}
    (h : begin lead = .sequence ⟨n / 0x40000, 3, low, high⟩)
    (lower : low.toNat ≤ 0x80 + n / 0x1000 % 0x40)
    (upper : 0x80 + n / 0x1000 % 0x40 ≤ high.toNat) :
    scan none (lead :: (0x80 + n / 0x1000 % 0x40).toUInt8 :: (0x80 + n / 0x40 % 0x40).toUInt8
        :: (0x80 + n % 0x40).toUInt8 :: rest)
      = some (Char.ofNat n) :: scan none rest := by
  have whole : ((n / 0x40000 * 0x40 + (0x80 + n / 0x1000 % 0x40 - 0x80)) * 0x40
      + (0x80 + n / 0x40 % 0x40 - 0x80)) * 0x40 + (0x80 + n % 0x40 - 0x80) = n := by omega
  obtain ⟨small, lower', upper'⟩ := six_bits (n / 0x40)
  obtain ⟨small', lower'', upper''⟩ := six_bits n
  rw [scan_sequence h, scan_tail 1 (six_bits _).1 lower upper, scan_tail 0 small lower' upper',
    scan_last small' lower'' upper'', whole]

/-- The first of three octets; the range of the second shuts out overlong forms and surrogates. -/
theorem begin_three {n : Nat} (least : 0x800 ≤ n) (most : n < 0x10000)
    (scalar : n < 0xD800 ∨ 0xDFFF < n) :
    ∃ low high, begin (0xE0 + n / 0x1000).toUInt8 = .sequence ⟨n / 0x1000, 2, low, high⟩
      ∧ low.toNat ≤ 0x80 + n / 0x40 % 0x40 ∧ 0x80 + n / 0x40 % 0x40 ≤ high.toNat := by
  obtain ⟨-, lower, upper⟩ := six_bits (n / 0x40)
  simp only [begin, toNat_toUInt8 (show 0xE0 + n / 0x1000 < 0x100 by omega)]
  rw [if_neg (by omega), if_neg (by omega), if_neg (by omega)]
  -- Only after `0xE0` and `0xED` is the range of the second octet narrower than usual.
  split
  · have first : n / 0x1000 = 0 := by omega
    rw [first]
    exact ⟨0xA0, 0xBF, rfl, by simp; omega, upper⟩
  split
  · have first : n / 0x1000 = 0xD := by omega
    rw [first]
    exact ⟨0x80, 0x9F, rfl, lower, by simp; omega⟩
  · rw [if_pos (by omega), Nat.add_sub_cancel_left]
    exact ⟨0x80, 0xBF, rfl, lower, upper⟩

/-- The first of four octets; the range of the second shuts out overlong forms and code points past
U+10FFFF. -/
theorem begin_four {n : Nat} (least : 0x10000 ≤ n) (most : n < 0x110000) :
    ∃ low high, begin (0xF0 + n / 0x40000).toUInt8 = .sequence ⟨n / 0x40000, 3, low, high⟩
      ∧ low.toNat ≤ 0x80 + n / 0x1000 % 0x40 ∧ 0x80 + n / 0x1000 % 0x40 ≤ high.toNat := by
  obtain ⟨-, lower, upper⟩ := six_bits (n / 0x1000)
  simp only [begin, toNat_toUInt8 (show 0xF0 + n / 0x40000 < 0x100 by omega)]
  rw [if_neg (by omega), if_neg (by omega), if_neg (by omega), if_neg (by omega),
    if_neg (by omega), if_neg (by omega)]
  -- Only after `0xF0` and `0xF4` is the range of the second octet narrower than usual.
  split
  · have first : n / 0x40000 = 0 := by omega
    rw [first]
    exact ⟨0x90, 0xBF, rfl, by simp; omega, upper⟩
  split
  · rw [Nat.add_sub_cancel_left]
    exact ⟨0x80, 0xBF, rfl, lower, upper⟩
  · have first : n / 0x40000 = 4 := by omega
    rw [if_pos (by omega), first]
    exact ⟨0x80, 0x8F, rfl, lower, by simp; omega⟩

/-- The octets of a character are read as that character. -/
theorem scan_encodeChar (c : Char) (rest : List UInt8) :
    scan none (encodeChar c ++ rest) = some c :: scan none rest := by
  have valid := toNat_valid c
  have reads : some (Char.ofNat c.toNat) :: scan none rest = some c :: scan none rest := by
    rw [Char.ofNat_toNat]
  rw [← reads]
  simp only [encodeChar]
  split
  · next small =>
    apply scan_character
    simp only [begin, toNat_toUInt8 (show c.toNat < 0x100 by omega), small, if_true]
  split
  · exact scan_two (by omega) (by omega)
  split
  · obtain ⟨low, high, h, lower, upper⟩ := begin_three (n := c.toNat) (by omega) (by omega)
      (by omega)
    exact scan_three h lower upper
  · obtain ⟨low, high, h, lower, upper⟩ := begin_four (n := c.toNat) (by omega) (by omega)
    exact scan_four h lower upper

/-! ## Texts -/

@[simp]
theorem encode_nil : encode [] = [] := rfl

@[simp]
theorem encode_cons (c : Char) (chars : List Char) :
    encode (c :: chars) = encodeChar c ++ encode chars := rfl

@[simp]
theorem encode_append (first second : List Char) :
    encode (first ++ second) = encode first ++ encode second := by
  simp [encode]

theorem length_le_encode (chars : List Char) : chars.length ≤ (encode chars).length := by
  induction chars with
  | nil => exact Nat.le_refl _
  | cons c chars ih =>
    have one : 1 ≤ (encodeChar c).length := by
      simp only [encodeChar]
      (repeat' split) <;> simp
    rw [encode_cons, List.length_append, List.length_cons]
    omega

theorem encodeOnto_eq (written : List UInt8) (chars : List Char) :
    encodeOnto written chars = (encode chars).reverse ++ written := by
  induction chars generalizing written with
  | nil => rfl
  | cons c chars ih =>
    rw [encodeOnto, List.foldl_cons, ← encodeOnto, ih, encode_cons, List.reverse_append,
      List.append_assoc, List.reverseAux_eq]

theorem scan_encode (chars : List Char) : scan none (encode chars) = chars.map some := by
  induction chars with
  | nil => rfl
  | cons c chars ih => rw [encode_cons, scan_encodeChar, ih, List.map_cons]

theorem allSome_map_some {α : Type} (list : List α) : allSome (list.map some) = some list := by
  induction list with
  | nil => rfl
  | cons a list ih => rw [List.map_cons, allSome, ih, Option.map_some]

/-- An encoded text is decoded to itself. -/
theorem decode?_encode (chars : List Char) : decode? (encode chars) = some chars := by
  rw [decode?, scan_encode, allSome_map_some]

/-! ## ASCII -/

theorem encodeChar_ascii {c : Char} (ascii : c.toNat < 0x80) :
    encodeChar c = [c.toNat.toUInt8] := by
  simp only [encodeChar, ascii, if_true]

theorem le_of_mem_encodeChar {c : Char} (large : 0x80 ≤ c.toNat) {octet : UInt8}
    (present : octet ∈ encodeChar c) : 0x80 ≤ octet.toNat := by
  have valid := toNat_valid c
  simp only [encodeChar] at present
  rw [if_neg (by omega)] at present
  split at present
  · simp only [List.mem_cons, List.not_mem_nil, or_false] at present
    rcases present with rfl | rfl <;> rw [toNat_toUInt8 (by omega)] <;> omega
  split at present
  · simp only [List.mem_cons, List.not_mem_nil, or_false] at present
    rcases present with rfl | rfl | rfl <;> rw [toNat_toUInt8 (by omega)] <;> omega
  · simp only [List.mem_cons, List.not_mem_nil, or_false] at present
    rcases present with rfl | rfl | rfl | rfl <;> rw [toNat_toUInt8 (by omega)] <;> omega

end DebugBridge.Utf8
