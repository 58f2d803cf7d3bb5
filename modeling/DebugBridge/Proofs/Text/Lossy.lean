import DebugBridge.Proofs.Text.Utf8
import Mathlib.Algebra.Group.Nat.Defs

/-!
# Octets that need not be text

The machine takes any octets. Here it is said what it makes of them: what it reads as a character
stands there as the octets of that character, and an ASCII octet always ends what it is in the
middle of.

Results:
1. `exists_step`, `scan_reads`: the octets are those of the characters read, with anything where
   none is read.
2. `decode?_eq_some_iff`: the well-formed octets are exactly those that `encode` writes.
3. `eq_encode_of_decodeLossy`: where no U+FFFD is read, the octets are those of the text.
4. `scan_cut`, `decodeLossy_cut`: what stands on the two sides of an ASCII octet is read apart.
-/

namespace DebugBridge.Utf8

/-! ## Sequences -/

/-- The last octets of a character with some code point, by how many they are. -/
def trail (n : Nat) : Nat → List UInt8
  | 0 => []
  | missing + 1 => (0x80 + n / 0x40 ^ missing % 0x40).toUInt8 :: trail n missing

/-- These octets have led into an unfinished sequence: they are the first ones of every character
that the sequence can still become. -/
inductive Begins (pending : List UInt8) : Unfinished → Prop
  | intro {bits missing : Nat} {low high : UInt8} (lower : 0x80 ≤ low.toNat)
      (upper : high.toNat ≤ 0xBF)
      (becomes : ∀ n, n / 0x40 ^ (missing + 1) = bits →
        low.toNat ≤ 0x80 + n / 0x40 ^ missing % 0x40 →
        0x80 + n / 0x40 ^ missing % 0x40 ≤ high.toNat →
        encodeChar (Char.ofNat n) = pending ++ trail n (missing + 1)) :
      Begins pending ⟨bits, missing + 1, low, high⟩

theorem Begins.low_le {pending : List UInt8} {unfinished : Unfinished}
    (begins : Begins pending unfinished) : 0x80 ≤ unfinished.low.toNat := by
  cases begins with
  | intro lower _ _ => exact lower

theorem toNat_ofNat_char {n : Nat} (valid : n < 0xD800 ∨ (0xDFFF < n ∧ n < 0x110000)) :
    (Char.ofNat n).toNat = n := by
  rw [Char.ofNat, dif_pos valid]
  rfl

theorem toUInt8_eq {n : Nat} {octet : UInt8} (is : octet.toNat = n) : n.toUInt8 = octet := by
  subst is
  exact UInt8.ofNat_toNat

theorem begins_two {octet : UInt8} {bits : Nat} (first : octet.toNat = 0xC0 + bits)
    (least : 2 ≤ bits) (most : bits < 0x20) : Begins [octet] ⟨bits, 1, 0x80, 0xBF⟩ := by
  refine .intro (by decide) (by decide) fun n is _ _ => ?_
  have is : n / 0x40 = bits := is
  rw [encodeChar, toNat_ofNat_char (.inl (by omega)), if_neg (by omega), if_pos (by omega), is,
    toUInt8_eq first]
  simp [trail]

/-- The range of the second octet has to shut out overlong forms and surrogates. -/
theorem begins_three {octet low high : UInt8} {bits : Nat} (first : octet.toNat = 0xE0 + bits)
    (most : bits < 0x10) (lower : 0x80 ≤ low.toNat) (upper : high.toNat ≤ 0xBF)
    (overlong : bits = 0 → 0xA0 ≤ low.toNat) (surrogate : bits = 0xD → high.toNat ≤ 0x9F) :
    Begins [octet] ⟨bits, 2, low, high⟩ := by
  refine .intro lower upper fun n is above below => ?_
  have is : n / 0x1000 = bits := is
  have second : n / 0x40 ^ 1 = n / 0x40 := rfl
  rw [second] at above below
  rw [encodeChar, toNat_ofNat_char (by omega), if_neg (by omega), if_neg (by omega),
    if_pos (by omega), is, toUInt8_eq first]
  simp [trail]

/-- The range of the second octet has to shut out overlong forms and code points past U+10FFFF. -/
theorem begins_four {octet low high : UInt8} {bits : Nat} (first : octet.toNat = 0xF0 + bits)
    (most : bits < 5) (lower : 0x80 ≤ low.toNat) (upper : high.toNat ≤ 0xBF)
    (overlong : bits = 0 → 0x90 ≤ low.toNat) (large : bits = 4 → high.toNat ≤ 0x8F) :
    Begins [octet] ⟨bits, 3, low, high⟩ := by
  refine .intro lower upper fun n is above below => ?_
  have is : n / 0x40000 = bits := is
  have second : n / 0x40 ^ 2 = n / 0x1000 := rfl
  rw [second] at above below
  rw [encodeChar, toNat_ofNat_char (by omega), if_neg (by omega), if_neg (by omega),
    if_neg (by omega), is, toUInt8_eq first]
  simp [trail]

theorem begins_begin {octet : UInt8} {next : Unfinished} (is : begin octet = .sequence next) :
    Begins [octet] next := by
  unfold begin at is
  dsimp only at is
  split at is
  · nomatch is
  split at is
  · nomatch is
  split at is
  · obtain rfl := Begun.sequence.inj is
    exact begins_two (by omega) (by omega) (by omega)
  split at is
  · next lead =>
    obtain rfl := Begun.sequence.inj is
    exact begins_three lead (by decide) (by decide) (by decide) (fun _ => Nat.le_refl _) nofun
  split at is
  · next lead =>
    obtain rfl := Begun.sequence.inj is
    exact begins_three lead (by decide) (by decide) (by decide) nofun (fun _ => Nat.le_refl _)
  split at is
  · obtain rfl := Begun.sequence.inj is
    exact begins_three (by omega) (by omega) (by decide) (by decide) (by omega) (by omega)
  split at is
  · next lead =>
    obtain rfl := Begun.sequence.inj is
    exact begins_four lead (by decide) (by decide) (by decide) (fun _ => Nat.le_refl _) nofun
  split at is
  · obtain rfl := Begun.sequence.inj is
    exact begins_four (by omega) (by omega) (by decide) (by decide) (by omega) (by omega)
  split at is
  · next lead =>
    obtain rfl := Begun.sequence.inj is
    exact begins_four lead (by decide) (by decide) (by decide) nofun (fun _ => Nat.le_refl _)
  · nomatch is

theorem begin_character {octet : UInt8} {c : Char} (is : begin octet = .character c) :
    encodeChar c = [octet] := by
  simp only [begin] at is
  split at is
  · next small =>
    cases is
    have valid : (Char.ofNat octet.toNat).toNat = octet.toNat :=
      toNat_ofNat_char (.inl (by omega))
    rw [encodeChar_ascii (by rw [valid]; exact small), valid]
    exact congrArg (· :: []) UInt8.ofNat_toNat
  · (repeat' split at is) <;> cases is

/-! ## Whole texts -/

/-- What has been read, and octets from which it can have been read: those of each character, and
any where none was read. -/
inductive Reads : List (Option Char) → List UInt8 → Prop
  | nil : Reads [] []
  | character (c : Char) {read : List (Option Char)} {octets : List UInt8} :
      Reads read octets → Reads (some c :: read) (encodeChar c ++ octets)
  | illFormed (lost : List UInt8) {read : List (Option Char)} {octets : List UInt8} :
      Reads read octets → Reads (none :: read) (lost ++ octets)

/-- The octets that have led into a state of the machine. -/
inductive Led : List UInt8 → Option Unfinished → Prop
  | outside : Led [] none
  | inside {pending : List UInt8} {unfinished : Unfinished} :
      Begins pending unfinished → Led pending (some unfinished)

theorem scan_finish {bits : Nat} {low high octet : UInt8} {rest : List UInt8}
    (within : low ≤ octet ∧ octet ≤ high) :
    scan (some ⟨bits, 1, low, high⟩) (octet :: rest)
      = some (Char.ofNat (bits * 0x40 + (octet.toNat - 0x80))) :: scan none rest := by
  rw [scan, if_pos within]

theorem scan_further {bits missing : Nat} {low high octet : UInt8} {rest : List UInt8}
    (within : low ≤ octet ∧ octet ≤ high) :
    scan (some ⟨bits, missing + 2, low, high⟩) (octet :: rest)
      = scan (some ⟨bits * 0x40 + (octet.toNat - 0x80), missing + 1, 0x80, 0xBF⟩) rest := by
  rw [scan, if_pos within]

/-- An octet that is not awaited is read as if it were the first one. -/
theorem scan_afresh {unfinished : Unfinished} {octet : UInt8} {rest : List UInt8}
    (outside : ¬(unfinished.low ≤ octet ∧ octet ≤ unfinished.high)) :
    scan (some unfinished) (octet :: rest) = none :: scan none (octet :: rest) := by
  rw [scan, if_neg outside, scan]
  split <;> rfl

theorem Begins.finish {pending : List UInt8} {bits : Nat} {low high octet : UInt8}
    (begins : Begins pending ⟨bits, 1, low, high⟩) (lower : low ≤ octet) (upper : octet ≤ high) :
    encodeChar (Char.ofNat (bits * 0x40 + (octet.toNat - 0x80))) = pending ++ [octet] := by
  cases begins with
  | intro least most becomes =>
    have lower := UInt8.le_iff_toNat_le.mp lower
    have upper := UInt8.le_iff_toNat_le.mp upper
    have whole (n : Nat) : n / 0x40 ^ 0 = n := Nat.div_one n
    rw [becomes _ (by omega) (by rw [whole]; omega) (by rw [whole]; omega), trail,
      @toUInt8_eq _ octet (by rw [whole]; omega)]
    rfl

theorem Begins.further {pending : List UInt8} {bits missing : Nat} {low high octet : UInt8}
    (begins : Begins pending ⟨bits, missing + 2, low, high⟩) (lower : low ≤ octet)
    (upper : octet ≤ high) :
    Begins (pending ++ [octet])
      ⟨bits * 0x40 + (octet.toNat - 0x80), missing + 1, 0x80, 0xBF⟩ := by
  cases begins with
  | intro least most becomes =>
    have lower := UInt8.le_iff_toNat_le.mp lower
    have upper := UInt8.le_iff_toNat_le.mp upper
    refine .intro (by decide) (by decide) fun n is _ _ => ?_
    have up : n / 0x40 ^ (missing + 2) = n / 0x40 ^ (missing + 1) / 0x40 := by
      rw [Nat.pow_succ 0x40 (missing + 1), Nat.div_div_eq_div_mul]
    rw [becomes n (by rw [up]; omega) (by rw [is]; omega) (by rw [is]; omega), List.append_assoc,
      trail, @toUInt8_eq _ octet (by rw [is]; omega)]
    rfl

theorem Reads.append {read more : List (Option Char)} {octets others : List UInt8}
    (first : Reads read octets) (second : Reads more others) :
    Reads (read ++ more) (octets ++ others) := by
  induction first with
  | nil => exact second
  | character c _ ih =>
    rw [List.append_assoc]
    exact .character c ih
  | illFormed lost _ ih =>
    rw [List.append_assoc]
    exact .illFormed lost ih

/-- What one octet does: something is read, from the octets that have been waiting and perhaps from
this one, and the others wait on. -/
structure Step (state : Option Unfinished) (pending : List UInt8) (octet : UInt8)
    (read : List (Option Char)) (next : Option Unfinished) (waiting : List UInt8) : Prop where
  scan_cons : ∀ rest, scan state (octet :: rest) = read ++ scan next rest
  led : Led waiting next
  reads : ∃ done, pending ++ [octet] = done ++ waiting ∧ Reads read done

theorem exists_step_outside (octet : UInt8) :
    ∃ read next waiting, Step none [] octet read next waiting := by
  cases is : begin octet with
  | character c =>
    have one := Reads.character c .nil
    rw [begin_character is] at one
    exact ⟨[some c], none, [], fun _ => scan_character is, .outside, [octet], rfl, one⟩
  | sequence next =>
    exact ⟨[], some next, [octet], fun _ => scan_sequence is, .inside (begins_begin is), [], rfl,
      .nil⟩
  | illFormed =>
    refine ⟨[none], none, [], fun rest => ?_, .outside, [octet], rfl, .illFormed [octet] .nil⟩
    rw [scan, is]
    rfl

theorem exists_step (octet : UInt8) {pending : List UInt8} {state : Option Unfinished}
    (led : Led pending state) :
    ∃ read next waiting, Step state pending octet read next waiting := by
  cases led with
  | outside => exact exists_step_outside octet
  | @inside _ unfinished begins =>
    by_cases within : unfinished.low ≤ octet ∧ octet ≤ unfinished.high
    · obtain ⟨bits, missing, low, high⟩ := unfinished
      match missing, begins with
      | 1, begins =>
        have one := Reads.character (Char.ofNat (bits * 0x40 + (octet.toNat - 0x80))) .nil
        rw [begins.finish within.1 within.2, List.append_nil] at one
        exact ⟨_, none, [], fun _ => scan_finish within, .outside, _, (List.append_nil _).symm, one⟩
      | missing + 2, begins =>
        exact ⟨[], _, _, fun _ => scan_further within,
          .inside (begins.further within.1 within.2), [], rfl, .nil⟩
    · obtain ⟨read, next, waiting, scan_cons, led, done, whole, reads⟩ := exists_step_outside octet
      refine ⟨none :: read, next, waiting, fun rest => ?_, led, pending ++ done, ?_,
        .illFormed pending reads⟩
      · rw [scan_afresh within, scan_cons, List.cons_append]
      · rw [List.append_assoc, ← whole, List.nil_append]

theorem scan_reads (octets : List UInt8) {pending : List UInt8} {state : Option Unfinished}
    (led : Led pending state) : Reads (scan state octets) (pending ++ octets) := by
  induction octets generalizing pending state with
  | nil =>
    cases led with
    | outside => exact .nil
    | inside _ => exact .illFormed pending .nil
  | cons octet octets ih =>
    obtain ⟨read, next, waiting, scan_cons, led, done, whole, reads⟩ := exists_step octet led
    rw [scan_cons, List.append_cons, whole, List.append_assoc]
    exact reads.append (ih led)

theorem Reads.mem {read : List (Option Char)} {octets : List UInt8} (reads : Reads read octets)
    {c : Char} (present : some c ∈ read) {octet : UInt8} (part : octet ∈ encodeChar c) :
    octet ∈ octets := by
  induction reads with
  | nil => cases present
  | character other _ ih =>
    rcases List.mem_cons.mp present with here | later
    · cases here
      exact List.mem_append_left _ part
    · exact List.mem_append_right _ (ih later)
  | illFormed lost _ ih =>
    rcases List.mem_cons.mp present with here | later
    · cases here
    · exact List.mem_append_right _ (ih later)

theorem Reads.eq_encode {chars : List Char} {octets : List UInt8}
    (reads : Reads (chars.map some) octets) : octets = encode chars := by
  induction chars generalizing octets with
  | nil =>
    cases reads
    rfl
  | cons c chars ih =>
    cases reads with
    | character _ later => rw [ih later, encode_cons]

theorem allSome_eq_some {α : Type} {list : List (Option α)} {values : List α}
    (is : allSome list = some values) : list = values.map some := by
  induction list generalizing values with
  | nil =>
    cases is
    rfl
  | cons first rest ih =>
    cases first with
    | none => cases is
    | some a =>
      obtain ⟨later, is', rfl⟩ := Option.map_eq_some_iff.mp is
      rw [ih is', List.map_cons]

/-- The well-formed octets are those that are written for a text. -/
theorem decode?_eq_some_iff {octets : List UInt8} {chars : List Char} :
    decode? octets = some chars ↔ octets = encode chars := by
  constructor
  · intro is
    have reads := scan_reads octets .outside
    rw [allSome_eq_some is] at reads
    exact reads.eq_encode
  · rintro rfl
    exact decode?_encode chars

theorem decodeLossy_encode (chars : List Char) : decodeLossy (encode chars) = chars := by
  rw [decodeLossy, scan_encode, List.map_map]
  exact List.map_id chars

/-- A character that is read is there, unless it is the one that stands for what is not. -/
theorem some_mem_scan {octets : List UInt8} {c : Char} (real : c ≠ '\uFFFD')
    (present : c ∈ decodeLossy octets) : some c ∈ scan none octets := by
  obtain ⟨read, here, is⟩ := List.mem_map.mp present
  cases read with
  | none => exact absurd is.symm real
  | some other =>
    cases is
    exact here

theorem mem_of_mem_decodeLossy {octets : List UInt8} {c : Char} (real : c ≠ '\uFFFD')
    (present : c ∈ decodeLossy octets) {octet : UInt8} (part : octet ∈ encodeChar c) :
    octet ∈ octets :=
  (scan_reads octets .outside).mem (some_mem_scan real present) part

/-- Where nothing had to be replaced, the octets are those of the text. -/
theorem eq_encode_of_decodeLossy {octets : List UInt8} {chars : List Char}
    (is : decodeLossy octets = chars) (whole : '\uFFFD' ∉ chars) : octets = encode chars := by
  subst is
  have reads := scan_reads octets .outside
  have all : scan none octets = (decodeLossy octets).map some := by
    rw [decodeLossy, List.map_map]
    refine (List.map_congr_left fun read present => ?_).trans (List.map_id _) |>.symm
    cases read with
    | none => exact absurd (List.mem_map.mpr ⟨none, present, rfl⟩) whole
    | some c => rfl
  rw [all] at reads
  exact reads.eq_encode

/-! ## What is read apart -/

theorem begin_ascii {octet : UInt8} (ascii : octet.toNat < 0x80) :
    begin octet = .character (Char.ofNat octet.toNat) := by
  rw [begin, if_pos ascii]

theorem scan_cut {octet : UInt8} (ascii : octet.toNat < 0x80) (before after : List UInt8)
    {pending : List UInt8} {state : Option Unfinished} (led : Led pending state) :
    scan state (before ++ octet :: after)
      = scan state before ++ some (Char.ofNat octet.toNat) :: scan none after := by
  induction before generalizing pending state with
  | nil =>
    cases led with
    | outside => exact scan_character (begin_ascii ascii)
    | @inside _ unfinished begins =>
      -- What continues a sequence is not ASCII.
      have outside : ¬(unfinished.low ≤ octet ∧ octet ≤ unfinished.high) := fun within =>
        absurd (UInt8.le_iff_toNat_le.mp within.1)
          (Nat.not_le_of_lt (Nat.lt_of_lt_of_le ascii begins.low_le))
      rw [List.nil_append, scan_afresh outside, scan_character (begin_ascii ascii)]
      rfl
  | cons first before ih =>
    obtain ⟨read, next, waiting, scan_cons, led, -⟩ := exists_step first led
    rw [List.cons_append, scan_cons, scan_cons, ih led, List.append_assoc]

theorem decodeLossy_cut {octet : UInt8} (ascii : octet.toNat < 0x80) (before after : List UInt8) :
    decodeLossy (before ++ octet :: after)
      = decodeLossy before ++ Char.ofNat octet.toNat :: decodeLossy after := by
  rw [decodeLossy, scan_cut ascii before after .outside, List.map_append, List.map_cons]
  rfl

end DebugBridge.Utf8
