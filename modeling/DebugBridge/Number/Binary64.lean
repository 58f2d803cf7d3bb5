import DebugBridge.Number.Numeral

/-!
Double precision numbers, kept as their 64 bits.

A finite number is `significand * 2 ^ exponent` with a sign. All the arithmetic is on natural
numbers, so that what rounding does can be stated exactly.

* `ofDecimal` rounds `digits * 10 ^ power` to the nearest double, a tie to the even significand;
  from half a step past the largest finite number on it gives infinity.
* `readText?` reads the usual notations, `inf` and `nan` included.
* `toWord` drops the fraction and stays within 64 bits.
-/

namespace DebugBridge

structure Binary64 where
  bits : UInt64
deriving DecidableEq, Repr

namespace Binary64

/-! ## Fields -/

/-- The bit of the sign, `2 ^ 63`. -/
def signBit : Nat := 0x8000000000000000

/-- One more than the fraction can be, `2 ^ 52`: the leading bit of a normal number. -/
def leadingBit : Nat := 0x10000000000000

/-- How many of the smallest steps make one, `2 ^ 1074`. -/
def stepsInOne : Nat := Nat.pow 2 1074

def isNegative (x : Binary64) : Bool :=
  signBit ≤ x.bits.toNat

/-- The eleven bits of the exponent. -/
def exponentField (x : Binary64) : Nat :=
  x.bits.toNat / leadingBit % 2048

/-- The fifty-two bits of the fraction. -/
def fraction (x : Binary64) : Nat :=
  x.bits.toNat % leadingBit

def isFinite (x : Binary64) : Bool :=
  x.exponentField != 2047

def isNaN (x : Binary64) : Bool :=
  x.exponentField == 2047 && x.fraction != 0

/-- The significand of a finite number, with the leading bit that a normal number leaves out. -/
def significand (x : Binary64) : Nat :=
  if x.exponentField = 0 then x.fraction else leadingBit + x.fraction

/-- How far the power of two of the last bit of the significand lies above the smallest, which is
`2 ^ (-1074)`. -/
def step (x : Binary64) : Nat :=
  x.exponentField - 1

/-! ## Building -/

/-- A number with the given sign whose other 63 bits are `magnitude`. -/
def ofMagnitude (negative : Bool) (magnitude : Nat) : Binary64 :=
  ⟨((if negative then signBit else 0) + magnitude).toUInt64⟩

/-- The 63 bits of infinity: no finite number has as many. -/
def infinityBits : Nat := 2047 * leadingBit

def infinity (negative : Bool) : Binary64 :=
  ofMagnitude negative infinityBits

def nan : Binary64 :=
  ofMagnitude false (infinityBits + leadingBit / 2)

/-! ## Rounding -/

/-- Which of two equally near neighbours is taken. -/
inductive Tie where
  | even
  | up
deriving DecidableEq, Repr

/-- How much a tie adds to the neighbour below. -/
def Tie.step : Tie → (below : Nat) → Nat
  | .even, below => below % 2
  | .up, _ => 1

/-- A quotient rounded to the nearest whole number. -/
def roundQuotient (tie : Tie) (numerator denominator : Nat) : Nat :=
  let quotient := numerator / denominator
  let twice := 2 * (numerator % denominator)
  if twice < denominator then quotient
  else if denominator < twice then quotient + 1
  else quotient + tie.step quotient

/-- The step at which `numerator / denominator` has a significand of 53 bits, or step zero where the
number is too small for that. Steps are counted from `2 ^ (-1074)`. -/
def stepOf (numerator denominator : Nat) : Nat :=
  let guess := numerator.log2 + 1074 - (denominator.log2 + 52)
  if numerator * stepsInOne < leadingBit * denominator * Nat.pow 2 guess then guess - 1 else guess

/-- The 63 bits of the double nearest to `numerator / denominator`. A significand that rounds up to
`2 ^ 53` carries into the exponent. -/
def roundMagnitude (numerator denominator : Nat) : Nat :=
  let step := stepOf numerator denominator
  let significand :=
    roundQuotient .even (numerator * stepsInOne) (denominator * Nat.pow 2 step)
  min infinityBits (step * leadingBit + significand)

/-- The double nearest to `digits * 10 ^ power`. Powers far outside the range of a double are
settled by the count of digits, so that no large power is ever computed. -/
def ofDecimal (negative : Bool) (digits : Nat) (power : Int) : Binary64 :=
  let count : Int := (Numeral.decimal digits).length
  if digits = 0 then ofMagnitude negative 0
  else if 310 < count + power then infinity negative
  else if count + power < -330 then ofMagnitude negative 0
  else if 0 ≤ power then ofMagnitude negative (roundMagnitude (digits * Nat.pow 10 power.toNat) 1)
  else ofMagnitude negative (roundMagnitude digits (Nat.pow 10 (-power).toNat))

/-! ## Reading -/

/-- The digits at the start of a text, read onto a value, with their count and the rest. -/
def takeDigits : Nat → Nat → List Char → Nat × Nat × List Char
  | value, count, [] => (value, count, [])
  | value, count, c :: rest =>
    match Numeral.digitValue? 10 c with
    | some digit => takeDigits (value * 10 + digit) (count + 1) rest
    | none => (value, count, c :: rest)

/-- An exponent after its `e`: an optional sign and digits to the end of the text. -/
def readExponent? : List Char → Option Int
  | '+' :: rest => unsigned rest
  | '-' :: rest => (unsigned rest).map fun n => -n
  | text => unsigned text
where
  unsigned (text : List Char) : Option Int :=
    match takeDigits 0 0 text with
    | (value, _ + 1, []) => some value
    | _ => none

/-- Digits with at most one point among or beside them, then an optional exponent. -/
def readDecimal? (negative : Bool) (text : List Char) : Option Binary64 :=
  let (whole, wholeCount, rest) := takeDigits 0 0 text
  let (digits, fractionCount, rest) :=
    match rest with
    | '.' :: rest => takeDigits whole 0 rest
    | _ => (whole, 0, rest)
  if wholeCount + fractionCount = 0 then none
  else
    match rest with
    | [] => some (ofDecimal negative digits (-fractionCount))
    | c :: rest =>
      if c = 'e' ∨ c = 'E' then
        (readExponent? rest).map fun power => ofDecimal negative digits (power - fractionCount)
      else none

/-- The letters `A` to `Z` in lower case, all else as it is. -/
def lowerAscii (text : List Char) : List Char :=
  text.map Char.toLower

def readMagnitude? (negative : Bool) (text : List Char) : Option Binary64 :=
  let lower := lowerAscii text
  if lower = "inf".toList ∨ lower = "infinity".toList then some (infinity negative)
  else if lower = "nan".toList then some nan
  else readDecimal? negative text

/-- A number with an optional sign. -/
def readText? : List Char → Option Binary64
  | '+' :: rest => readMagnitude? false rest
  | '-' :: rest => readMagnitude? true rest
  | text => readMagnitude? false text

/-! ## Whole part -/

/-- The number without its fraction, within 64 bits: below zero and "not a number" give zero, and
what is too large gives the largest word. -/
def toWord (x : Binary64) : UInt64 :=
  if x.isNaN || x.isNegative then 0
  else if !x.isFinite then UInt64.ofNat (UInt64.size - 1)
  else (min (x.significand * Nat.pow 2 x.step / stepsInOne) (UInt64.size - 1)).toUInt64

end Binary64
end DebugBridge
