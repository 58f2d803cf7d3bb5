/-!
Whole numbers as text.

Writing: `decimal` and `hexadecimal` (lower case, without a mark). Reading: `readUnsigned` takes an
optional `+` and digits of a base, from the left, and stops at the first digit that does not belong
to the base or makes the number too large. Only ASCII digits count. `Fault.message` gives the three
reasons in words.
-/

namespace DebugBridge.Numeral

/-! ## Digits -/

/-- The digit for a value below sixteen. -/
def digitChar (value : Nat) : Char :=
  if value < 10 then Char.ofNat (0x30 + value) else Char.ofNat (0x57 + value)

/-- The value of an ASCII digit or letter in a base of at most sixteen. -/
def digitValue? (base : Nat) (c : Char) : Option Nat :=
  let n := c.toNat
  let value :=
    if 0x30 ≤ n ∧ n ≤ 0x39 then n - 0x30
    else if 0x61 ≤ n ∧ n ≤ 0x66 then n - 0x57
    else if 0x41 ≤ n ∧ n ≤ 0x46 then n - 0x37
    else base
  if value < base then some value else none

/-! ## Writing -/

/-- The digits of a number, the most significant first. The first argument bounds their count. -/
def digitsWithin (base : Nat) : Nat → Nat → List Char → List Char
  | 0, _, later => later
  | count + 1, n, later =>
    let later := digitChar (n % base) :: later
    if n / base = 0 then later else digitsWithin base count (n / base) later

/-- A number below `2 ^ k` has at most `k` digits in any base, and zero has one. -/
def digits (base n : Nat) : List Char :=
  digitsWithin base (n.log2 + 1) n []

def decimal (n : Nat) : List Char :=
  digits 10 n

def hexadecimal (n : Nat) : List Char :=
  digits 16 n

/-- An address as it is shown: `0x` and lower case digits. -/
def address (n : UInt64) : List Char :=
  '0' :: 'x' :: hexadecimal n.toNat

/-! ## Reading -/

inductive Fault where
  | empty
  | invalidDigit
  | tooLarge
deriving DecidableEq, Repr

def Fault.message : Fault → String
  | .empty => "cannot parse integer from empty string"
  | .invalidDigit => "invalid digit found in string"
  | .tooLarge => "number too large to fit in target type"

/-- Digits read from the left onto `value`. A digit that is none is found before the number is seen
to be too large at the same place. -/
def readDigits (base limit : Nat) : Nat → List Char → Except Fault Nat
  | value, [] => .ok value
  | value, c :: rest =>
    match digitValue? base c with
    | none => .error .invalidDigit
    | some digit =>
      let value := value * base + digit
      if limit ≤ value then .error .tooLarge else readDigits base limit value rest

/-- A number below `limit`: an optional `+` and at least one digit. -/
def readUnsigned (base limit : Nat) : List Char → Except Fault Nat
  | [] => .error .empty
  | ['+'] => .error .invalidDigit
  | '+' :: rest => readDigits base limit 0 rest
  | text => readDigits base limit 0 text

/-- A 64-bit number in a base. -/
def readWord (base : Nat) (text : List Char) : Except Fault UInt64 :=
  (readUnsigned base UInt64.size text).map Nat.toUInt64

/-- The magnitude of a number written with `-` in front, when it is at most `2 ^ 63`. -/
def readNegative? : List Char → Option Nat
  | ['-'] => none
  | '-' :: rest => (readDigits 10 0x8000000000000001 0 rest).toOption
  | _ => none

end DebugBridge.Numeral
