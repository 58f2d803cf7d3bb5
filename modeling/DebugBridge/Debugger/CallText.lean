import DebugBridge.Number.Binary64
import DebugBridge.Text.Blank

/-!
Reading a call expression back.

A simulated process runs the calls that it is asked to evaluate. It looks for the callee's address
behind the cast, takes the argument list up to the parenthesis that closes it, and reads each
literal by its form. A call whose text begins with the declaration of a result buffer returns an
aggregate of that size. It knows nothing of how call expressions are put together.
-/

namespace DebugBridge

/-- The value of a literal: a pointer, an integer or a truth value as a number, or a double. -/
inductive CallValue where
  | unsigned (n : UInt64)
  | float (x : Binary64)
deriving DecidableEq, Repr

/-- The value as a number; of a double its whole part, as far as 64 bits hold it. -/
def CallValue.toWord : CallValue → UInt64
  | .unsigned n => n
  | .float x => x.toWord

/-- The bits of the value. -/
def CallValue.bits : CallValue → UInt64
  | .unsigned n => n
  | .float x => x.bits

structure CallText where
  address : UInt64
  values : List CallValue
  bufferSize : Option UInt64
deriving DecidableEq, Repr

namespace CallText

/-- The size that the declaration of a result buffer gives; `some none` when the text does not begin
with one. -/
def readBufferSize? (text : List Char) : Option (Option UInt64) :=
  match Text.dropStart? "struct ReturnBuffer_".toList text with
  | none => some none
  | some rest =>
    let digits := rest.takeWhile Char.isDigit
    if digits.length = rest.length then none
    else (Numeral.readWord 10 digits).toOption.map some

/-- The text before the parenthesis that closes the given number of open ones. -/
def closing? : (depth : Nat) → List Char → Option (List Char)
  | _, [] => none
  | depth, c :: rest =>
    if c = ')' then
      match depth with
      | 0 | 1 => some []
      | depth + 2 => (closing? (depth + 1) rest).map (c :: ·)
    else if c = '(' then (closing? (depth + 1) rest).map (c :: ·)
    else (closing? depth rest).map (c :: ·)

/-- The pieces between the places where a comma and a space stand. -/
def pieces : List Char → List (List Char)
  | [] => [[]]
  | ',' :: ' ' :: rest => [] :: pieces rest
  | c :: rest =>
    match pieces rest with
    | [] => [[c]]
    | piece :: later => (c :: piece) :: later

/-- Whether a literal looks like a floating point number. -/
def looksFloating (literal : List Char) : Bool :=
  literal.any fun c => c == '.' || c == 'e' || c == 'E'

def readLiteral? (literal : List Char) : Option CallValue :=
  match Text.dropStart? "(void*)0x".toList literal with
  | some digits => (Numeral.readWord 16 digits).toOption.map .unsigned
  | none =>
    match Text.dropEnd? "ul".toList literal with
    | some digits => (Numeral.readWord 10 digits).toOption.map .unsigned
    | none =>
      if looksFloating literal then (Binary64.readText? literal).map .float
      else (Numeral.readWord 10 literal).toOption.map .unsigned

def readLiterals? (inside : List Char) : Option (List CallValue) :=
  ((pieces inside).filter (!·.isEmpty)).mapM readLiteral?

/-- The call that an expression makes, if it makes one. -/
def read? (text : List Char) : Option CallText := do
  let bufferSize ← readBufferSize? text
  let (_, callee) ← Text.splitOnce "))0x".toList text
  let (digits, rest) ← Text.splitOnce [')'] callee
  let address ← (Numeral.readWord 16 digits).toOption
  let inside ← Text.dropStart? ['('] rest
  let values ← readLiterals? (← closing? 1 inside)
  return ⟨address, values, bufferSize⟩

end CallText
end DebugBridge
