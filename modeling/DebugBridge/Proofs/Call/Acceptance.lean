import DebugBridge.Proofs.Call.Rendering
import DebugBridge.Proofs.Debugger.Footprint

/-!
# Which arguments are accepted

An address is written in decimal digits, or in hexadecimal digits after `0x`; an integer is an
address or a minus sign and decimal digits. `IsAddress` and `IsInteger` are these grammars, each
with the numbers that can be passed. The reader of numbers takes a plus sign in front of digits as
well, wherever it is asked for digits without a sign, so such texts are accepted besides
(`IsPlussed`). Nothing else is, and an argument that is not accepted fails its call.

Results:
1. `addresses_iff`, `denotes_iff`: what a text says, in terms of the grammars.
2. `Operand.readUnsigned?_iff`, `Operand.readInteger?_iff`, `Operand.readFlag_iff`: what is read.
3. `Calling.build_of_refused`: the first argument that is refused fails the call.
4. `Operand.accepts_numerals`: all kinds of arguments but floats.
-/

namespace DebugBridge

open Numeral (Spells Unsigned)

/-! ## The grammars -/

/-- The texts of addresses, with the address. -/
inductive IsAddress : List Char → Nat → Prop
  | decimal {digits : List Char} {n : Nat} : digits ≠ [] → Spells 10 digits n →
      n < 0x10000000000000000 → IsAddress digits n
  | hexadecimal {mark : Char} {digits : List Char} {n : Nat} : mark = 'x' ∨ mark = 'X' →
      digits ≠ [] → Spells 16 digits n → n < 0x10000000000000000 →
      IsAddress ('0' :: mark :: digits) n

/-- The texts of integers, with the integer. -/
inductive IsInteger : List Char → Int → Prop
  | address {text : List Char} {n : Nat} : IsAddress text n → IsInteger text n
  | negative {digits : List Char} {n : Nat} : digits ≠ [] → Spells 10 digits n →
      n ≤ 0x8000000000000000 → IsInteger ('-' :: digits) (-n)

/-- The texts of addresses with a plus sign in front of the digits. -/
inductive IsPlussed : List Char → Nat → Prop
  | decimal {digits : List Char} {n : Nat} : digits ≠ [] → Spells 10 digits n →
      n < 0x10000000000000000 → IsPlussed ('+' :: digits) n
  | hexadecimal {mark : Char} {digits : List Char} {n : Nat} : mark = 'x' ∨ mark = 'X' →
      digits ≠ [] → Spells 16 digits n → n < 0x10000000000000000 →
      IsPlussed ('0' :: mark :: '+' :: digits) n

theorem IsAddress.plus_not_mem {text : List Char} {n : Nat} (address : IsAddress text n) :
    '+' ∉ text := by
  cases address with
  | decimal _ spells => exact fun present =>
      spells.digit_of_mem present (Numeral.digitValue?_plus 10)
  | hexadecimal mark _ spells =>
    intro present
    rcases List.mem_cons.mp present with zero | present
    · exact absurd zero (by decide)
    rcases List.mem_cons.mp present with same | present
    · rcases mark with rfl | rfl <;> exact absurd same (by decide)
    · exact spells.digit_of_mem present (Numeral.digitValue?_plus 16)

section
variable {text : List Char} {n : Nat}

/-- What a text says without a minus sign, if it can be passed. -/
theorem addresses_iff (fits : n < 0x10000000000000000) :
    Addresses text n ↔ IsAddress text n ∨ IsPlussed text n := by
  constructor
  · intro addresses
    cases addresses with
    | decimal unsigned =>
      cases unsigned with
      | bare nonempty spells => exact .inl (.decimal nonempty spells fits)
      | signed nonempty spells => exact .inr (.decimal nonempty spells fits)
    | hexadecimal mark unsigned =>
      cases unsigned with
      | bare nonempty spells => exact .inl (.hexadecimal mark nonempty spells fits)
      | signed nonempty spells => exact .inr (.hexadecimal mark nonempty spells fits)
  · rintro (address | plussed)
    · cases address with
      | decimal nonempty spells => exact .decimal (.bare nonempty spells)
      | hexadecimal mark nonempty spells => exact .hexadecimal mark (.bare nonempty spells)
    · cases plussed with
      | decimal nonempty spells => exact .decimal (.signed nonempty spells)
      | hexadecimal mark nonempty spells => exact .hexadecimal mark (.signed nonempty spells)

theorem IsAddress.lt (address : IsAddress text n) : n < 0x10000000000000000 := by
  cases address <;> assumption

theorem IsPlussed.lt (plussed : IsPlussed text n) : n < 0x10000000000000000 := by
  cases plussed <;> assumption

/-- What a text says, if it can be passed. -/
theorem denotes_iff {z : Int} :
    Denotes text z ∧ Operand.Fits z ↔ IsInteger text z ∨ ∃ n : Nat, z = n ∧ IsPlussed text n := by
  constructor
  · rintro ⟨denotes, above, below⟩
    rcases denotes.addresses_or_negative with
      ⟨n, rfl, addresses⟩ | ⟨n, digits, rfl, rfl, nonempty, spells⟩
    · rcases (addresses_iff (by omega)).mp addresses with address | plussed
      · exact .inl (.address address)
      · exact .inr ⟨n, rfl, plussed⟩
    · exact .inl (.negative nonempty spells (by omega))
  · have passed {n : Nat} (small : n < 0x10000000000000000)
        (said : IsAddress text n ∨ IsPlussed text n) : Denotes text n ∧ Operand.Fits n :=
      ⟨((addresses_iff small).mpr said).denotes, by omega, by omega⟩
    rintro (integer | ⟨n, rfl, plussed⟩)
    · cases integer with
      | address address => exact passed address.lt (.inl address)
      | negative nonempty spells small => exact ⟨.negative nonempty spells, by omega, by omega⟩
    · exact passed plussed.lt (.inr plussed)

end

namespace Operand

/-! ## What is read -/

variable {text : List Char} {w : UInt64}

theorem readUnsigned?_iff : readUnsigned? text = some w ↔
    IsAddress (Text.trim text) w.toNat ∨ IsPlussed (Text.trim text) w.toNat :=
  readUnsigned?_eq_some_iff.trans (addresses_iff w.toNat_lt)

theorem readInteger?_iff : readInteger? text = some w ↔
    ∃ z, Wraps w z ∧
      (IsInteger (Text.trim text) z ∨ ∃ n : Nat, z = n ∧ IsPlussed (Text.trim text) n) := by
  rw [readInteger?_eq_some_iff]
  refine exists_congr fun z => ?_
  rw [← denotes_iff, and_comm (a := Wraps w z), and_assoc]

/-- A character whose lower case is a one is a one. -/
theorem toLower_eq_one {c : Char} : c.toLower = '1' ↔ c = '1' := by
  constructor
  · intro same
    unfold Char.toLower at same
    split at same
    · next upper =>
      have code : (c.val + ('a'.val - 'A'.val)).toNat = 49 :=
        congrArg (fun c : Char => c.val.toNat) same
      have shift : ('a'.val - 'A'.val).toNat = 32 := rfl
      have least : 65 ≤ c.val.toNat := UInt32.le_iff_toNat_le.mp upper.1
      have most : c.val.toNat ≤ 90 := UInt32.le_iff_toNat_le.mp upper.2
      rw [UInt32.toNat_add, shift] at code
      omega
    · exact same
  · rintro rfl
    rfl

/-- A text says true when it is a one, or the word in whatever case. -/
theorem readFlag_iff : readFlag text = true ↔
    Text.trim text = ['1'] ∨ (Text.trim text).map Char.toLower = "true".toList := by
  have one : (Text.trim text).map Char.toLower = "1".toList ↔ Text.trim text = ['1'] := by
    show _ = ['1'] ↔ _
    rw [List.map_eq_singleton_iff]
    simp only [toLower_eq_one, exists_eq_right]
  unfold readFlag
  simp only [decide_eq_true_iff, one]
  exact or_comm

/-! ## What is refused -/

variable {argument : Argument}

theorem ofArgument_of_refused (refused : ∀ operand, ofArgument argument ≠ .ok operand) :
    ofArgument argument = .error (.invalidArgument argument.kind argument.value) := by
  rw [ofArgument_eq]
  cases read : readAs? argument.kind argument.value.toList with
  | none => rfl
  | some operand => exact absurd (ofArgument_eq_ok_iff.mpr read) (refused operand)

/-- The first argument that is refused is the one that is reported. -/
theorem mapM_of_refused {before : List Argument} (later : List Argument)
    (accepted : ∀ argument ∈ before, ∃ operand, ofArgument argument = .ok operand)
    (refused : ∀ operand, ofArgument argument ≠ .ok operand) :
    (before ++ argument :: later).mapM ofArgument
      = .error (.invalidArgument argument.kind argument.value) := by
  induction before with
  | nil =>
    rw [List.nil_append, List.mapM_cons, ofArgument_of_refused refused, Result.error_bind]
  | cons first before ih =>
    obtain ⟨⟨operand, made⟩, accepted⟩ := List.forall_mem_cons.mp accepted
    rw [List.cons_append, List.mapM_cons, made, Result.ok_bind, ih accepted, Result.error_bind]

end Operand

namespace Calling

variable {calling : Calling} {argument : Argument} {before later : List Argument}

theorem build_of_refused (split : calling.arguments = before ++ argument :: later)
    (accepted : ∀ argument ∈ before, ∃ operand, Operand.ofArgument argument = .ok operand)
    (refused : ∀ operand, Operand.ofArgument argument ≠ .ok operand)
    (nonzero : calling.returnSize ≠ some 0) :
    calling.build = .error (.invalidArgument argument.kind argument.value) := by
  obtain ⟨callee, receiver, arguments, returnSize⟩ := calling
  cases split
  have stopped (first : List Operand) : NativeCall.build callee first
      (before ++ argument :: later) returnSize
        = .error (.invalidArgument argument.kind argument.value) := by
    have shaped : ∃ shape, NativeCall.shapeOf returnSize = .ok shape := by
      cases returnSize with
      | none => exact ⟨_, rfl⟩
      | some size => exact ⟨_, if_neg fun zero => nonzero (congrArg some zero)⟩
    obtain ⟨shape, shaped⟩ := shaped
    unfold NativeCall.build
    rw [shaped, Result.ok_bind, Operand.mapM_of_refused later accepted refused,
      Result.error_bind]
  cases receiver <;> exact stopped _

/-- A call that cannot be put together is answered by its fault, in any debugger. -/
theorem dispatch_of_fault {σ : Type} {backend : Backend σ} {state running : σ} {fault : CallFault}
    (found : backend.Running state running) (faulty : calling.build = .error fault) :
    dispatch backend calling.request state = (.error fault.message, running) := by
  have attended : attend backend calling.request state = (.error (.call fault), running) := by
    rw [attend_of_running found, handle_calling, faulty]
    rfl
  exact dispatch_of_error attended

/-- A call with an argument that is refused fails, in any debugger. What is reported is the first
such argument, unless a result of the size zero is asked for. -/
theorem fails_of_refused (split : calling.arguments = before ++ argument :: later)
    (refused : ∀ operand, Operand.ofArgument argument ≠ .ok operand) :
    ∃ fault, calling.build = .error fault ∧
      (calling.returnSize ≠ some 0 →
        (∀ argument ∈ before, ∃ operand, Operand.ofArgument argument = .ok operand) →
        fault = .invalidArgument argument.kind argument.value) ∧
      ∀ {σ : Type} (backend : Backend σ) (state running : σ), backend.Running state running →
        dispatch backend calling.request state = (.error fault.message, running) := by
  cases built : calling.build with
  | ok call =>
    obtain ⟨operand, made⟩ := (build_isOk_iff.mp ⟨call, built⟩).2 argument (by simp [split])
    exact absurd made (refused operand)
  | error fault =>
    refine ⟨fault, rfl, fun nonzero accepted => ?_, fun backend state running found =>
      dispatch_of_fault found built⟩
    exact Except.error.inj (built.symm.trans (build_of_refused split accepted refused nonzero))

end Calling

namespace Operand

/-- Blanks around the text of an argument do not count. A pointer is accepted where the text is an
address, an integer or an argument of another type where it is an integer, and besides where there
is a plus sign in front of the digits of an address; what is passed is the number that the text
says, as a word. A flag is always accepted, and set by a one and by the word true. What is not
accepted is refused as what it is, and fails every call that it is an argument of. -/
theorem accepts_numerals (value : String) :
    (∀ operand, ofArgument ⟨value, .pointer⟩ = .ok operand ↔ ∃ address : UInt64,
      operand = .pointer address ∧ (IsAddress (Text.trim value.toList) address.toNat ∨
        IsPlussed (Text.trim value.toList) address.toNat)) ∧
    (∀ kind, kind = .integer ∨ kind = .other → ∀ operand,
      ofArgument ⟨value, kind⟩ = .ok operand ↔ ∃ w z, operand = .integer w ∧ Wraps w z ∧
        (IsInteger (Text.trim value.toList) z ∨
          ∃ n : Nat, z = n ∧ IsPlussed (Text.trim value.toList) n)) ∧
    (∃ flag, ofArgument ⟨value, .bool⟩ = .ok (.flag flag) ∧
      (flag = true ↔ Text.trim value.toList = ['1'] ∨
        (Text.trim value.toList).map Char.toLower = "true".toList)) ∧
    ∀ kind, (∀ operand, ofArgument ⟨value, kind⟩ ≠ .ok operand) →
      ofArgument ⟨value, kind⟩ = .error (.invalidArgument kind value) ∧
      ∀ (calling : Calling) before later, calling.arguments = before ++ ⟨value, kind⟩ :: later →
        ∃ fault, calling.build = .error fault ∧
          (calling.returnSize ≠ some 0 →
            (∀ argument ∈ before, ∃ operand, ofArgument argument = .ok operand) →
            fault = .invalidArgument kind value) ∧
          ∀ {σ : Type} (backend : Backend σ) (state running : σ), backend.Running state running →
            dispatch backend calling.request state = (.error fault.message, running) := by
  refine ⟨fun operand => ?_, fun kind untyped operand => ?_, ⟨_, rfl, readFlag_iff⟩,
    fun kind refused => ⟨ofArgument_of_refused refused, fun calling before later split =>
      Calling.fails_of_refused split refused⟩⟩
  · rw [ofArgument_eq_ok_iff]
    show (readUnsigned? value.toList).map pointer = some operand ↔ _
    simp only [Option.map_eq_some_iff, readUnsigned?_iff, and_comm, eq_comm (a := operand)]
  · have read : readAs? kind value.toList = (readInteger? value.toList).map integer := by
      rcases untyped with rfl | rfl <;> rfl
    rw [ofArgument_eq_ok_iff, read]
    simp only [Option.map_eq_some_iff, readInteger?_iff]
    constructor
    · rintro ⟨w, ⟨z, said⟩, rfl⟩
      exact ⟨w, z, rfl, said⟩
    · rintro ⟨w, z, rfl, said⟩
      exact ⟨w, ⟨z, said⟩, rfl⟩

/-- A plus sign is accepted where only digits are an address, or an integer. -/
theorem plus_accepted :
    ofArgument ⟨"0x+ff", .pointer⟩ = .ok (.pointer 0xFF) ∧
      (¬ ∃ n, IsAddress (Text.trim "0x+ff".toList) n) ∧
      ofArgument ⟨"+5", .integer⟩ = .ok (.integer 5) ∧
      ¬ ∃ z, IsInteger (Text.trim "+5".toList) z := by
  have plussed : Text.trim "0x+ff".toList = "0x+ff".toList := by decide +kernel
  have plussed' : Text.trim "+5".toList = ['+', '5'] := by decide +kernel
  refine ⟨Result.eq_ok_of_toOption (by decide +kernel), ?_,
    Result.eq_ok_of_toOption (by decide +kernel), ?_⟩
  · rintro ⟨n, address⟩
    exact address.plus_not_mem (by rw [plussed]; simp)
  · rintro ⟨z, integer⟩
    rw [plussed'] at integer
    cases integer with
    | address address => exact address.plus_not_mem List.mem_cons_self

end Operand
end DebugBridge
