import DebugBridge.Number.Binary64

/-!
The shortest decimal that reads back.

Around every finite double lies the interval of the numbers that round to it; its ends belong to it
exactly when the significand is even. `shortest` looks at the decimal grids of 1, 2, … 17 digits and
takes the first on which one of the two neighbours of the number falls into the interval, and of two
such neighbours the nearer; a `Tie` settles which of two equally near ones. If any point of a grid
lies in the interval, one of the two neighbours does, so no decimal with fewer digits reads back.

How the digits are laid out is a separate decision, a `Layout`.
-/

namespace DebugBridge

/-- The number `digits * 10 ^ power`. -/
structure Decimal where
  digits : Nat
  power : Int
deriving DecidableEq, Repr

namespace Decimal

/-- The same number without zeros at the end of the digits; at most `count` of them are dropped. -/
def dropZeros : Nat → Decimal → Decimal
  | 0, d => d
  | count + 1, d =>
    if d.digits % 10 = 0 then dropZeros count ⟨d.digits / 10, d.power + 1⟩ else d

end Decimal

namespace Binary64

/-- The interval of the numbers that round to a double, as fractions over one denominator. -/
structure Interval where
  low : Nat
  value : Nat
  high : Nat
  denominator : Nat
  closed : Bool
deriving DecidableEq, Repr

/-- Half a step to both sides, but only a quarter below a power of two, where the steps below are
half as wide. -/
def interval (x : Binary64) : Interval :=
  let below := if x.fraction = 0 ∧ 1 < x.exponentField then 1 else 2
  { low := (4 * x.significand - below) * Nat.pow 2 x.step
    value := 4 * x.significand * Nat.pow 2 x.step
    high := (4 * x.significand + 2) * Nat.pow 2 x.step
    denominator := 4 * stepsInOne
    closed := x.significand % 2 == 0 }

/-- The interval in units of `10 ^ power`. -/
def Interval.inUnits (i : Interval) (power : Int) : Interval :=
  if 0 ≤ power then
    { i with denominator := i.denominator * Nat.pow 10 power.toNat }
  else
    let factor := Nat.pow 10 (-power).toNat
    { i with low := i.low * factor, value := i.value * factor, high := i.high * factor }

def Interval.holds (i : Interval) (n : Nat) : Bool :=
  let scaled := n * i.denominator
  if i.closed then decide (i.low ≤ scaled ∧ scaled ≤ i.high)
  else decide (i.low < scaled ∧ scaled < i.high)

/-- The neighbour of the value on the whole numbers that lies in the interval, of two the nearer. -/
def Interval.nearest? (tie : Tie) (i : Interval) : Option Nat :=
  let below := i.value / i.denominator
  let above := below + 1
  match i.holds below, i.holds above with
  | false, false => none
  | true, false => some below
  | false, true => some above
  | true, true => some (roundQuotient tie i.value i.denominator)

/-- How many digits stand before the point; zero or less when the number is below one tenth. -/
def Interval.wholeDigits (i : Interval) : Int :=
  let guess : Int := (Numeral.decimal i.value).length - (Numeral.decimal i.denominator).length
  let unit := i.inUnits guess
  if unit.denominator ≤ unit.value then guess + 1 else guess

/-- The first grid with a hit among those of `17 - left` digits and more. -/
def Interval.search (tie : Tie) (i : Interval) (wholeDigits : Int) : Nat → Decimal
  | 0 =>
    let power := wholeDigits - 17
    let unit := i.inUnits power
    ⟨roundQuotient tie unit.value unit.denominator, power⟩
  | left + 1 =>
    let power := wholeDigits - (17 - left : Nat)
    match (i.inUnits power).nearest? tie with
    | some digits => ⟨digits, power⟩
    | none => i.search tie wholeDigits left

/-- The shortest decimal that rounds to a finite number other than zero. -/
def shortest (tie : Tie) (x : Binary64) : Decimal :=
  let i := x.interval
  (i.search tie i.wholeDigits 17).dropZeros 17

/-! ## Layout -/

/-- Where positional notation is used, by the exponent of the leading digit, whether a positive
exponent is written with its sign, and which of two equally near decimals is written. -/
structure Layout where
  leastPlain : Int
  mostPlain : Int
  plus : Bool
  tie : Tie
deriving DecidableEq, Repr

def zeros (count : Nat) : List Char :=
  List.replicate count '0'

/-- Positional notation; at least one digit stands after the point. -/
def plain (digits : List Char) (power : Int) : List Char :=
  if 0 ≤ power then digits ++ zeros power.toNat ++ ".0".toList
  else
    let fractionDigits := (-power).toNat
    if fractionDigits < digits.length then
      digits.take (digits.length - fractionDigits) ++ '.'
        :: digits.drop (digits.length - fractionDigits)
    else '0' :: '.' :: zeros (fractionDigits - digits.length) ++ digits

/-- One digit before the point, and no point when it is the only digit. -/
def scientific (plus : Bool) (digits : List Char) (exponent : Int) : List Char :=
  let mantissa :=
    match digits with
    | first :: second :: rest => first :: '.' :: second :: rest
    | _ => digits
  let sign := if exponent < 0 then ['-'] else if plus then ['+'] else []
  mantissa ++ 'e' :: sign ++ Numeral.decimal exponent.natAbs

def Layout.chars (layout : Layout) (x : Binary64) : List Char :=
  let sign := if x.isNegative then ['-'] else []
  if x.isNaN then "NaN".toList
  else if !x.isFinite then sign ++ "inf".toList
  else if x.significand = 0 then sign ++ "0.0".toList
  else
    let decimal := x.shortest layout.tie
    let digits := Numeral.decimal decimal.digits
    let exponent := digits.length - 1 + decimal.power
    if layout.leastPlain ≤ exponent ∧ exponent ≤ layout.mostPlain then
      sign ++ plain digits decimal.power
    else sign ++ scientific layout.plus digits exponent

end Binary64
end DebugBridge
