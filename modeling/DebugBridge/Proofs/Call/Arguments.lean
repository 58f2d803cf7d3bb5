import DebugBridge.Call.Expression
import DebugBridge.Debugger.CallText
import DebugBridge.Proofs.Number.Reading
import DebugBridge.Proofs.Result
import DebugBridge.Proofs.Text.Cutting

/-!
# What an argument asks for

An argument is a text with a type. `Asks` says which value it asks for, by the number that the text
spells and without regard to how it is read. What `ofArgument` makes of the argument is an operand
with that value, so a call that is put together passes what was asked for, in order.

Results:
1. `Asks.unique`: an argument asks for one value.
2. `readUnsigned?_eq_some_iff`, `readInteger?_eq_some_iff`: what is read is what the text says.
3. `asks_of_ofArgument`: an argument that is accepted becomes an operand of the value it asks for.
4. `build_eq_ok`: what a call that is put together consists of.
-/

namespace DebugBridge

open Numeral (Spells Unsigned)

/-! ## Numbers -/

/-- The whole number that a text says: decimal, hexadecimal after `0x`, or below zero. -/
inductive Denotes : List Char → Int → Prop
  | decimal {text : List Char} {n : Nat} : Unsigned 10 text n → Denotes text n
  | hexadecimal {mark : Char} {text : List Char} {n : Nat} : mark = 'x' ∨ mark = 'X' →
      Unsigned 16 text n → Denotes ('0' :: mark :: text) n
  | negative {text : List Char} {n : Nat} : text ≠ [] → Spells 10 text n →
      Denotes ('-' :: text) (-n)

/-- What holds a character that is neither a digit nor a plus sign is no decimal. -/
theorem not_unsigned_of_mem {c : Char} {text : List Char} {n : Nat} (present : c ∈ text)
    (bare : c ≠ '+') (foreign : Numeral.digitValue? 10 c = none) : ¬ Unsigned 10 text n :=
  fun unsigned => unsigned.digit_of_mem present bare foreign

theorem not_unsigned_hexadecimal {mark : Char} {text : List Char} {n : Nat}
    (mark' : mark = 'x' ∨ mark = 'X') : ¬ Unsigned 10 ('0' :: mark :: text) n := by
  have present : mark ∈ '0' :: mark :: text := .tail _ List.mem_cons_self
  rcases mark' with rfl | rfl <;> exact not_unsigned_of_mem present (by decide) (by decide)

theorem not_unsigned_negative {text : List Char} {n : Nat} : ¬ Unsigned 10 ('-' :: text) n :=
  not_unsigned_of_mem List.mem_cons_self (by decide) (by decide)

/-- A text says one number. -/
theorem Denotes.unique {text : List Char} {z z' : Int} (denotes : Denotes text z)
    (denotes' : Denotes text z') : z = z' := by
  cases denotes with
  | decimal unsigned =>
    cases denotes' with
    | decimal unsigned' => exact congrArg Int.ofNat (unsigned.unique unsigned')
    | hexadecimal mark => exact absurd unsigned (not_unsigned_hexadecimal mark)
    | negative => exact absurd unsigned not_unsigned_negative
  | hexadecimal mark unsigned =>
    cases denotes' with
    | decimal unsigned' => exact absurd unsigned' (not_unsigned_hexadecimal mark)
    | hexadecimal _ unsigned' => exact congrArg Int.ofNat (unsigned.unique unsigned')
  | negative _ spells =>
    cases denotes' with
    | decimal unsigned' => exact absurd unsigned' not_unsigned_negative
    | negative _ spells' => rw [spells.unique spells']

/-- The number that a text says without a minus sign, as an address is given. -/
inductive Addresses : List Char → Nat → Prop
  | decimal {text : List Char} {n : Nat} : Unsigned 10 text n → Addresses text n
  | hexadecimal {mark : Char} {text : List Char} {n : Nat} : mark = 'x' ∨ mark = 'X' →
      Unsigned 16 text n → Addresses ('0' :: mark :: text) n

theorem Addresses.denotes {text : List Char} {n : Nat} (addresses : Addresses text n) :
    Denotes text n := by
  cases addresses with
  | decimal unsigned => exact .decimal unsigned
  | hexadecimal mark unsigned => exact .hexadecimal mark unsigned

theorem Addresses.unique {text : List Char} {n m : Nat} (addresses : Addresses text n)
    (addresses' : Addresses text m) : n = m :=
  Int.ofNat_inj.mp (addresses.denotes.unique addresses'.denotes)

theorem Denotes.addresses_or_negative {text : List Char} {z : Int} (denotes : Denotes text z) :
    (∃ n : Nat, z = n ∧ Addresses text n) ∨
      ∃ (n : Nat) (digits : List Char), z = -n ∧ text = '-' :: digits ∧ digits ≠ [] ∧
        Spells 10 digits n := by
  cases denotes with
  | decimal unsigned => exact .inl ⟨_, rfl, .decimal unsigned⟩
  | hexadecimal mark unsigned => exact .inl ⟨_, rfl, .hexadecimal mark unsigned⟩
  | negative some' spells => exact .inr ⟨_, _, rfl, rfl, some', spells⟩

/-- A word that stands for a number, which wraps around if it does not fit. -/
def Wraps (w : UInt64) (z : Int) : Prop :=
  (w.toNat : Int) = z % 0x10000000000000000

theorem Wraps.unique {w w' : UInt64} {z : Int} (wraps : Wraps w z) (wraps' : Wraps w' z) :
    w = w' := by
  have same : (w.toNat : Int) = w'.toNat := wraps.trans wraps'.symm
  exact UInt64.toNat_inj.mp (by omega)

theorem wraps_toNat (w : UInt64) : Wraps w w.toNat := by
  have small := w.toNat_lt
  unfold Wraps
  omega

theorem wraps_neg {n : Nat} (small : n < 0x10000000000000000) : Wraps (0 - n.toUInt64) (-n) := by
  have same : n.toUInt64.toNat = n := UInt64.toNat_ofNat_of_lt small
  unfold Wraps
  rw [UInt64.toNat_sub, same]
  simp only [UInt64.toNat_zero]
  omega

/-! ## Arguments -/

/-- The value that an argument asks for. Blanks around the text do not count. -/
inductive Asks : Argument → CallValue → Prop
  | pointer {value : String} {address : UInt64} :
      Denotes (Text.trim value.toList) address.toNat → Asks ⟨value, .pointer⟩ (.unsigned address)
  | integer {value : String} {z : Int} {w : UInt64} :
      Denotes (Text.trim value.toList) z → Wraps w z → Asks ⟨value, .integer⟩ (.unsigned w)
  | other {value : String} {z : Int} {w : UInt64} :
      Denotes (Text.trim value.toList) z → Wraps w z → Asks ⟨value, .other⟩ (.unsigned w)
  | flag {value : String} :
      Asks ⟨value, .bool⟩ (.unsigned (if Operand.readFlag value.toList then 1 else 0))
  | float {value : String} {x : Binary64} :
      Binary64.readText? (Text.trim value.toList) = some x → x.isFinite = true →
      Asks ⟨value, .float⟩ (.float x)

/-- The values that arguments ask for, one for each, in order. -/
inductive AskInOrder : List Argument → List CallValue → Prop
  | nil : AskInOrder [] []
  | cons {argument : Argument} {value : CallValue} {arguments : List Argument}
      {values : List CallValue} : Asks argument value → AskInOrder arguments values →
      AskInOrder (argument :: arguments) (value :: values)

/-- An argument asks for one value. -/
theorem Asks.unique {argument : Argument} {v v' : CallValue} (asks : Asks argument v)
    (asks' : Asks argument v') : v = v' := by
  cases asks with
  | pointer denotes =>
    cases asks' with
    | pointer denotes' =>
      exact congrArg CallValue.unsigned
        (UInt64.toNat_inj.mp (Int.ofNat_inj.mp (denotes.unique denotes')))
  | integer denotes wraps =>
    cases asks' with
    | integer denotes' wraps' =>
      cases denotes.unique denotes'
      rw [wraps.unique wraps']
  | other denotes wraps =>
    cases asks' with
    | other denotes' wraps' =>
      cases denotes.unique denotes'
      rw [wraps.unique wraps']
  | flag =>
    cases asks'
    rfl
  | float read =>
    cases asks' with
    | float read' => rw [Option.some.inj (read.symm.trans read')]

/-- Arguments ask for one list of values. -/
theorem AskInOrder.unique {arguments : List Argument} {values values' : List CallValue}
    (asks : AskInOrder arguments values) (asks' : AskInOrder arguments values') :
    values = values' := by
  induction asks generalizing values' with
  | nil =>
    cases asks'
    rfl
  | cons first _ ih =>
    cases asks' with
    | cons first' later' => rw [first.unique first', ih later']

/-- A float that is asked for is a finite number. -/
theorem AskInOrder.finite {arguments : List Argument} {values : List CallValue}
    (asks : AskInOrder arguments values) {x : Binary64} (present : .float x ∈ values) :
    x.isFinite = true := by
  induction asks with
  | nil => cases present
  | cons first _ ih =>
    rcases List.mem_cons.mp present with rfl | present
    · cases first with
      | float _ finite => exact finite
    · exact ih present

namespace Operand

variable {text : List Char} {w : UInt64}

/-- The value that an operand passes. -/
def value : Operand → CallValue
  | .pointer address => .unsigned address
  | .integer value => .unsigned value
  | .flag value => .unsigned (if value then 1 else 0)
  | .float value => .float value

theorem addresses_of_readUnsigned? (read : readUnsigned? text = some w) :
    Addresses (Text.trim text) w.toNat := by
  unfold readUnsigned? at read
  dsimp only at read
  split at read
  · next digits spelt =>
    rw [spelt]
    exact .hexadecimal (.inl rfl) (Numeral.unsigned_of_readWord (Result.eq_ok_of_toOption read))
  · next digits spelt =>
    rw [spelt]
    exact .hexadecimal (.inr rfl) (Numeral.unsigned_of_readWord (Result.eq_ok_of_toOption read))
  · exact .decimal (Numeral.unsigned_of_readWord (Result.eq_ok_of_toOption read))

/-- An unsigned number is read just where the text says one. -/
theorem readUnsigned?_eq_some_iff :
    readUnsigned? text = some w ↔ Addresses (Text.trim text) w.toNat := by
  constructor
  · exact addresses_of_readUnsigned?
  · intro addresses
    unfold readUnsigned?
    dsimp only
    generalize Text.trim text = spelt at addresses
    cases addresses with
    | hexadecimal mark unsigned =>
      have word := Numeral.readWord_eq_ok_iff.mpr unsigned
      rcases mark with rfl | rfl <;> exact congrArg Except.toOption word
    | decimal unsigned =>
      split
      · exact absurd unsigned (not_unsigned_hexadecimal (.inl rfl))
      · exact absurd unsigned (not_unsigned_hexadecimal (.inr rfl))
      · exact congrArg Except.toOption (Numeral.readWord_eq_ok_iff.mpr unsigned)

theorem readNegative?_eq_some_iff {n : Nat} :
    Numeral.readNegative? text = some n ↔
      ∃ digits, text = '-' :: digits ∧ digits ≠ [] ∧ Spells 10 digits n ∧
        n ≤ 0x8000000000000000 := by
  constructor
  · intro read
    unfold Numeral.readNegative? at read
    split at read
    · cases read
    · next digits unlike =>
      obtain ⟨spells, small⟩ :=
        Numeral.spells_of_readDigits (by decide) (Result.eq_ok_of_toOption read)
      exact ⟨digits, rfl, fun none => unlike (by rw [none]), spells, Nat.le_of_lt_succ small⟩
    · cases read
  · rintro ⟨digits, rfl, some', spells, small⟩
    obtain ⟨c, later, rfl⟩ := List.exists_cons_of_ne_nil some'
    have read := spells.readDigits_eq (Nat.lt_succ_of_le small)
    exact congrArg Except.toOption read

/-- The integers that can be passed: a word, or a number below zero that has one. -/
def Fits (z : Int) : Prop :=
  -0x8000000000000000 ≤ z ∧ z < 0x10000000000000000

/-- An integer is read just where the text says a number that can be passed, and stands for it. -/
theorem readInteger?_eq_some_iff :
    readInteger? text = some w ↔ ∃ z, Denotes (Text.trim text) z ∧ Fits z ∧ Wraps w z := by
  constructor
  · intro read
    unfold readInteger? at read
    dsimp only at read
    split at read
    · next value unsigned =>
      cases read
      have addresses := readUnsigned?_eq_some_iff.mp unsigned
      rw [Text.trim_trim] at addresses
      have small := w.toNat_lt
      exact ⟨w.toNat, addresses.denotes, ⟨by omega, by omega⟩, wraps_toNat w⟩
    · obtain ⟨n, negative, rfl⟩ := Option.map_eq_some_iff.mp read
      obtain ⟨digits, spelt, some', spells, small⟩ := readNegative?_eq_some_iff.mp negative
      rw [spelt]
      exact ⟨-n, .negative some' spells, ⟨by omega, by omega⟩, wraps_neg (by omega)⟩
  · rintro ⟨z, denotes, ⟨above, below⟩, wraps⟩
    unfold readInteger?
    dsimp only
    cases unsigned : readUnsigned? (Text.trim text) with
    | some value =>
      have addresses := readUnsigned?_eq_some_iff.mp unsigned
      rw [Text.trim_trim] at addresses
      cases denotes.unique addresses.denotes
      exact congrArg some ((wraps_toNat value).unique wraps)
    | none =>
      rcases denotes.addresses_or_negative with ⟨n, rfl, addresses⟩ | ⟨n, digits, rfl, spelt, rest⟩
      · have word : w.toNat = n := by
          unfold Wraps at wraps
          omega
        rw [← word, ← Text.trim_trim] at addresses
        rw [readUnsigned?_eq_some_iff.mpr addresses] at unsigned
        cases unsigned
      · have read := readNegative?_eq_some_iff.mpr ⟨digits, spelt, rest.1, rest.2, by omega⟩
        simp only [read, Option.map_some]
        exact congrArg some ((wraps_neg (by omega)).unique wraps)

variable {argument : Argument} {operand : Operand}

/-- An argument that is accepted becomes an operand of the value it asks for. -/
theorem asks_of_ofArgument (accepted : ofArgument argument = .ok operand) :
    Asks argument operand.value := by
  obtain ⟨text, kind⟩ := argument
  unfold ofArgument at accepted
  dsimp only at accepted
  split at accepted
  · next made =>
    cases accepted
    cases kind with
    | pointer =>
      obtain ⟨address, read, rfl⟩ := Option.map_eq_some_iff.mp made
      exact .pointer (readUnsigned?_eq_some_iff.mp read).denotes
    | integer =>
      obtain ⟨w, read, rfl⟩ := Option.map_eq_some_iff.mp made
      obtain ⟨z, denotes, -, wraps⟩ := readInteger?_eq_some_iff.mp read
      exact .integer denotes wraps
    | bool =>
      cases made
      exact .flag
    | float =>
      obtain ⟨x, read, rfl⟩ := Option.map_eq_some_iff.mp made
      obtain ⟨read, finite⟩ := Option.filter_eq_some_iff.mp read
      exact .float read finite
    | other =>
      obtain ⟨w, read, rfl⟩ := Option.map_eq_some_iff.mp made
      obtain ⟨z, denotes, -, wraps⟩ := readInteger?_eq_some_iff.mp read
      exact .other denotes wraps
  · cases accepted

theorem asks_of_mapM {arguments : List Argument} {operands : List Operand}
    (accepted : arguments.mapM ofArgument = .ok operands) :
    AskInOrder arguments (operands.map value) := by
  induction arguments generalizing operands with
  | nil =>
    cases accepted
    exact .nil
  | cons argument arguments ih =>
    rw [List.mapM_cons] at accepted
    obtain ⟨operand, first, accepted⟩ := Result.bind_eq_ok.mp accepted
    obtain ⟨operands, later, accepted⟩ := Result.bind_eq_ok.mp accepted
    cases accepted
    exact .cons (asks_of_ofArgument first) (ih later)

end Operand

namespace NativeCall

/-- How large the buffer of a call's result is, if it has one. -/
def returnSize (call : NativeCall) : Option UInt64 :=
  match call.shape with
  | .register => none
  | .buffer size => some size

/-- What a call that is put together consists of. -/
theorem build_eq_ok {address : UInt64} {before : List Operand} {arguments : List Argument}
    {returnSize : Option UInt64} {call : NativeCall}
    (built : build address before arguments returnSize = .ok call) :
    ∃ operands, arguments.mapM Operand.ofArgument = .ok operands ∧ call.address = address ∧
      call.operands = before ++ operands ∧ call.returnSize = returnSize := by
  obtain ⟨shape, shaped, built⟩ := Result.bind_eq_ok.mp built
  obtain ⟨operands, accepted, built⟩ := Result.bind_eq_ok.mp built
  cases built
  refine ⟨operands, accepted, rfl, rfl, ?_⟩
  cases returnSize with
  | none =>
    cases shaped
    rfl
  | some size =>
    unfold shapeOf at shaped
    dsimp only at shaped
    split at shaped
    · cases shaped
    · cases shaped
      rfl

end NativeCall
end DebugBridge
