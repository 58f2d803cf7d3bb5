import DebugBridge.Json.Reader
import DebugBridge.Proofs.Number.Numeral
import DebugBridge.Proofs.Result
import DebugBridge.Proofs.Text.Utf8

/-!
# Numbers and strings read back

The tokens that the writer of JSON puts into a text, read by the functions that a reader of values
hands over to. Each statement leaves open what follows in the text. For a string, which has an end
of its own, that can be anything; for a number it has to be something that does not go on with it
(`EndsNumber`).

Results:
1. `number_natural`, `number_negative`: a whole number is read back.
2. `string_escaped`: a string is read back, whatever characters it has.
-/

namespace DebugBridge.Json.Read

open Utf8 (encode encodeChar)

/-! ## Numbers -/

/-- The text does not go on with a number that ends here. -/
def EndsNumber (rest : Octets) : Prop :=
  ∀ o later, rest = o :: later → isDigit o = false ∧ o ≠ octet '.' ∧ isExponentMark o = false

/-- An ASCII digit. -/
def IsDecimalDigit (c : Char) : Prop :=
  0x30 ≤ c.toNat ∧ c.toNat ≤ 0x39

theorem isDigit_octet {c : Char} (digit : IsDecimalDigit c) : isDigit (octet c) = true := by
  obtain ⟨lower, upper⟩ := digit
  have same : (octet c).toNat = c.toNat := Utf8.toNat_toUInt8 (by omega)
  simp only [isDigit, Bool.and_eq_true, decide_eq_true_eq, UInt8.le_iff_toNat_le, same]
  exact ⟨lower, upper⟩

theorem encode_digits {chars : List Char} (digits : ∀ c, c ∈ chars → IsDecimalDigit c) :
    encode chars = chars.map octet := by
  induction chars with
  | nil => rfl
  | cons c chars ih =>
    have first := digits c List.mem_cons_self
    have ascii : c.toNat < 0x80 := Nat.lt_of_le_of_lt first.2 (by decide)
    rw [Utf8.encode_cons, Utf8.encodeChar_ascii ascii, List.map_cons,
      ih fun c' h => digits c' (List.mem_cons_of_mem c h)]
    rfl

theorem takeWhile_digits {chars : List Char} {rest : Octets}
    (digits : ∀ c, c ∈ chars → IsDecimalDigit c)
    (ends : ∀ o later, rest = o :: later → isDigit o = false) :
    (chars.map octet ++ rest).takeWhile isDigit = chars.map octet
      ∧ (chars.map octet ++ rest).dropWhile isDigit = rest := by
  induction chars with
  | nil =>
    cases rest with
    | nil => exact ⟨rfl, rfl⟩
    | cons o later => simp [ends o later rfl]
  | cons c chars ih =>
    have first := isDigit_octet (digits c List.mem_cons_self)
    obtain ⟨taken, left⟩ := ih fun c' h => digits c' (List.mem_cons_of_mem c h)
    simp [first, taken, left]

/-- What an octet is worth that stands for a digit. -/
theorem digitsOnto_map (chars : List Char) :
    digitsOnto 0 (chars.map octet)
      = Numeral.value (fun c => (octet c).toNat - 0x30) 10 chars := by
  rw [digitsOnto, List.foldl_map]
  rfl

theorem digitsOnto_decimal (n : Nat) : digitsOnto 0 ((Numeral.decimal n).map octet) = n := by
  rw [digitsOnto_map]
  exact Numeral.value_digits (by omega) (by decide) n

/-- The digits of a number are read, and what follows is looked at next. -/
theorem number_decimal (negative : Bool) (n : Nat) {rest : Octets} (ends : EndsNumber rest) :
    number negative (encode (Numeral.decimal n) ++ rest) = afterWhole negative n rest := by
  have digits : ∀ c, c ∈ Numeral.decimal n → IsDecimalDigit c := fun c h => Numeral.mem_decimal h
  have noDigit : ∀ o later, rest = o :: later → isDigit o = false :=
    fun o later h => (ends o later h).1
  rw [encode_digits digits]
  -- A zero is a number by itself, so the reader takes no digit behind it.
  rcases Nat.eq_zero_or_pos n with zero | positive
  · subst zero
    rw [Numeral.decimal_zero, List.map_cons, List.map_nil, List.singleton_append]
    cases rest with
    | nil => simp [number]
    | cons o later => simp [number, noDigit o later rfl]
  · have value := digitsOnto_decimal n
    have head := Numeral.head?_decimal positive
    cases h : Numeral.decimal n with
    | nil => exact absurd h (Numeral.decimal_ne_nil n)
    | cons c chars =>
      rw [h] at digits value head
      have first := digits c List.mem_cons_self
      have notZero : octet c ≠ octet '0' := by
        intro same
        have codes : c.toNat = ('0' : Char).toNat := by
          have numbers := congrArg UInt8.toNat same
          rw [octet, octet, Utf8.toNat_toUInt8 (by have := first.2; omega)] at numbers
          exact numbers
        exact head (congrArg some (Char.toNat_inj.mp codes))
      obtain ⟨taken, left⟩ :=
        takeWhile_digits (fun c' h' => digits c' (List.mem_cons_of_mem c h')) noDigit
      rw [List.map_cons] at value
      rw [List.map_cons, List.cons_append]
      simp only [number, notZero, isDigit_octet first, taken, left, value, if_true, if_false]

theorem afterWhole_ends (negative : Bool) (n : Nat) {rest : Octets} (ends : EndsNumber rest) :
    afterWhole negative n rest = whole negative n rest := by
  cases rest with
  | nil => rfl
  | cons o later =>
    obtain ⟨-, point, mark⟩ := ends o later rfl
    simp [afterWhole, point, mark]

theorem number_natural (n : UInt64) {rest : Octets} (ends : EndsNumber rest) :
    number false (encode (Numeral.decimal n.toNat) ++ rest) = .ok (.natural n, rest) := by
  rw [number_decimal false n.toNat ends, afterWhole_ends false n.toNat ends, whole]
  simp [n.toNat_lt]

theorem number_negative {magnitude : UInt64} (positive : 0 < magnitude.toNat)
    (most : magnitude.toNat ≤ 0x8000000000000000) {rest : Octets} (ends : EndsNumber rest) :
    number true (encode (Numeral.decimal magnitude.toNat) ++ rest)
      = .ok (.negative magnitude, rest) := by
  rw [number_decimal true magnitude.toNat ends, afterWhole_ends true magnitude.toNat ends, whole]
  simp [positive, most]

/-! ## Strings -/

/-- An octet that a string takes over as it is. -/
def IsPlainOctet (o : UInt8) : Prop :=
  o ≠ octet '"' ∧ o ≠ octet '\\' ∧ 0x20 ≤ o.toNat

theorem stringOctets_plain {octets : Octets} (plain : ∀ o, o ∈ octets → IsPlainOctet o)
    {steps : Nat} {text later rest : Octets} (h : stringOctets steps text = .ok (later, rest)) :
    stringOctets (octets.length + steps) (octets ++ text) = .ok (octets ++ later, rest) := by
  induction octets with
  | nil => simpa using h
  | cons o octets ih =>
    obtain ⟨quote, backslash, large⟩ := plain o List.mem_cons_self
    have control : ¬ o < 0x20 := by
      rw [UInt8.lt_iff_toNat_lt]
      exact Nat.not_lt.mpr large
    have tail := ih fun o' h' => plain o' (List.mem_cons_of_mem o h')
    rw [List.length_cons, Nat.add_right_comm, List.cons_append, stringOctets, if_neg quote,
      if_neg backslash, if_neg control, tail]
    rfl

theorem stringOctets_escape {steps : Nat} {letters text later rest : Octets} {c : Char}
    (read : escape (letters ++ text) = .ok (c, text))
    (h : stringOctets steps text = .ok (later, rest)) :
    stringOctets (steps + 1) (octet '\\' :: letters ++ text)
      = .ok (encodeChar c ++ later, rest) := by
  rw [List.cons_append, stringOctets, if_neg (by decide), if_pos rfl]
  simp only [read, h, Result.ok_bind]

/-- The escapes of the controls that have no letter of their own. -/
theorem escape_control : ∀ n, n < 0x20 →
    fourDigits? (octet '0') (octet '0') (octet (Numeral.digitChar (n / 16)))
      (octet (Numeral.digitChar (n % 16))) = some n := by
  decide

theorem encode_hexDigits : ∀ n, n < 0x20 →
    encode ['u', '0', '0', Numeral.digitChar (n / 16), Numeral.digitChar (n % 16)]
      = [octet 'u', octet '0', octet '0', octet (Numeral.digitChar (n / 16)),
        octet (Numeral.digitChar (n % 16))] := by
  decide

/-- A character is written as itself or as an escape that is read as the character. -/
theorem escapeChar_cases (c : Char) :
    (escapeChar c = [c] ∧ c ≠ '"' ∧ c ≠ '\\' ∧ 0x20 ≤ c.toNat)
      ∨ ∃ letters, encode (escapeChar c) = octet '\\' :: letters
          ∧ ∀ text, escape (letters ++ text) = .ok (c, text) := by
  unfold escapeChar
  split
  · next quote => exact .inr ⟨[octet '"'], by decide, fun text => by subst quote; rfl⟩
  split
  · next backslash => exact .inr ⟨[octet '\\'], by decide, fun text => by subst backslash; rfl⟩
  split
  · next quote backslash large => exact .inl ⟨rfl, quote, backslash, large⟩
  split
  · next feed => exact .inr ⟨[octet 'n'], by decide, fun text => by subst feed; rfl⟩
  split
  · next return_ => exact .inr ⟨[octet 'r'], by decide, fun text => by subst return_; rfl⟩
  split
  · next tab => exact .inr ⟨[octet 't'], by decide, fun text => by subst tab; rfl⟩
  split
  · next code =>
    have same : Char.ofNat 8 = c := by rw [← code, Char.ofNat_toNat]
    exact .inr ⟨[octet 'b'], by decide, fun text => by rw [← same]; rfl⟩
  split
  · next code =>
    have same : Char.ofNat 12 = c := by rw [← code, Char.ofNat_toNat]
    exact .inr ⟨[octet 'f'], by decide, fun text => by rw [← same]; rfl⟩
  · next small _ _ _ _ _ =>
    have control : c.toNat < 0x20 := Nat.not_le.mp small
    have written : encode ('\\' :: ['u', '0', '0', Numeral.digitChar (c.toNat / 16),
        Numeral.digitChar (c.toNat % 16)]) = octet '\\' :: [octet 'u', octet '0', octet '0',
          octet (Numeral.digitChar (c.toNat / 16)), octet (Numeral.digitChar (c.toNat % 16))] := by
      rw [Utf8.encode_cons, encode_hexDigits c.toNat control]
      rfl
    refine .inr ⟨_, written, fun text => ?_⟩
    have code : escapeCode (octet '0' :: octet '0' :: octet (Numeral.digitChar (c.toNat / 16))
        :: octet (Numeral.digitChar (c.toNat % 16)) :: text) = .ok (c.toNat, text) := by
      rw [escapeCode, escape_control c.toNat control]
    -- A control is no half of a surrogate pair, so no second escape is looked for.
    have low : ¬ (0xDC00 ≤ c.toNat ∧ c.toNat ≤ 0xDFFF) := by omega
    have high : ¬ (0xD800 ≤ c.toNat ∧ c.toNat ≤ 0xDBFF) := by omega
    rw [List.cons_append, escape]
    simp only [List.cons_append, List.nil_append, code, Result.ok_bind, low, high, if_false,
      Char.ofNat_toNat]
    rfl

theorem isPlainOctet_of_mem {c : Char} (quote : c ≠ '"') (backslash : c ≠ '\\')
    (large : 0x20 ≤ c.toNat) {o : UInt8} (present : o ∈ encodeChar c) : IsPlainOctet o := by
  rcases Nat.lt_or_ge c.toNat 0x80 with ascii | high
  · rw [Utf8.encodeChar_ascii ascii, List.mem_singleton] at present
    have code : o.toNat = c.toNat := by rw [present, Utf8.toNat_toUInt8 (by omega)]
    refine ⟨fun same => quote ?_, fun same => backslash ?_, by omega⟩
    · exact Char.toNat_inj.mp (by rw [← code, same]; rfl)
    · exact Char.toNat_inj.mp (by rw [← code, same]; rfl)
  · have large := Utf8.le_of_mem_encodeChar high present
    refine ⟨fun same => ?_, fun same => ?_, by omega⟩ <;>
      exact absurd (same ▸ large) (by decide)

/-- Escaped characters up to the closing quote are read as those characters. -/
theorem stringOctets_escaped (chars : List Char) (steps : Nat) (rest : Octets)
    (enough : (encode (chars.flatMap escapeChar)).length < steps) :
    stringOctets steps (encode (chars.flatMap escapeChar) ++ octet '"' :: rest)
      = .ok (encode chars, rest) := by
  induction chars generalizing steps with
  | nil =>
    cases steps with
    | zero => simp at enough
    | succ steps => rfl
  | cons c chars ih =>
    rw [List.flatMap_cons, Utf8.encode_append, List.length_append] at enough
    rw [List.flatMap_cons, Utf8.encode_append, List.append_assoc, Utf8.encode_cons]
    rcases escapeChar_cases c with ⟨asIs, quote, backslash, large⟩ | ⟨letters, written, read⟩
    · have single : encode (escapeChar c) = encodeChar c := by rw [asIs]; simp
      rw [single] at enough ⊢
      obtain ⟨more, rfl⟩ := Nat.exists_eq_add_of_le (Nat.le_of_lt (Nat.lt_of_add_right_lt enough))
      exact stringOctets_plain (fun o h => isPlainOctet_of_mem quote backslash large h)
        (ih _ (by omega))
    · rw [written] at enough ⊢
      obtain ⟨more, rfl⟩ := Nat.exists_eq_add_one_of_ne_zero (Nat.ne_zero_of_lt enough)
      rw [List.length_cons] at enough
      exact stringOctets_escape (read _) (ih _ (by omega))

/-- A string after its opening quote. -/
theorem string_escaped (s : String) (rest : Octets) :
    string (encode (s.toList.flatMap escapeChar) ++ octet '"' :: rest) = .ok (s, rest) := by
  have octets := stringOctets_escaped s.toList
    ((encode (s.toList.flatMap escapeChar) ++ octet '"' :: rest).length + 1) rest
    (by simp only [List.length_append, List.length_cons]; omega)
  simp only [string, octets, Result.ok_bind, Utf8.decode?_encode, String.ofList_toList]

end DebugBridge.Json.Read
