import DebugBridge.Json.Fault
import DebugBridge.Text.Utf8

/-!
Reading JSON from octets.

A reader takes the octets that are left and returns a value with the octets after it. What goes
wrong is reported as a `Stop`: the cause, and how many octets were left at the place, from which the
place in the whole text follows. So no reader keeps count of where it is.

`value` reads a value with a bound on how deep containers may nest. `items` and `members` read the
inside of an array and of an object with any reader for the parts; they are also used where a
message is read directly from its text.
-/

namespace DebugBridge.Json.Read

/-! ## Results -/

inductive Cause where
  | grammar (fault : TextFault)
  | shape (fault : ShapeFault)
deriving DecidableEq, Repr

/-- Why reading ended, and how many octets were left there. -/
structure Stop where
  cause : Cause
  left : Nat
deriving DecidableEq, Repr

abbrev Octets := List UInt8

abbrev Reader (α : Type) := Octets → Except Stop (α × Octets)

/-- A breach of the grammar just before `rest`. -/
def breach {α : Type} (fault : TextFault) (rest : Octets) : Except Stop α :=
  .error ⟨.grammar fault, rest.length⟩

/-- A value of the wrong shape that ends just before `rest`. -/
def misshapen {α : Type} (fault : ShapeFault) (rest : Octets) : Except Stop α :=
  .error ⟨.shape fault, rest.length⟩

/-- The fault in the whole text. -/
def Stop.fault (stop : Stop) (text : Octets) : Fault :=
  let position := positionAfter (text.length - stop.left) text
  match stop.cause with
  | .grammar fault => .grammar fault position
  | .shape fault => .shape fault (some position)

/-! ## Octets -/

/-- The code of an ASCII character. -/
def octet (c : Char) : UInt8 := c.toNat.toUInt8

/-- The white space of JSON: tab, line feed, carriage return and space. -/
def isSpace (o : UInt8) : Bool :=
  o == 32 || o == 10 || o == 9 || o == 13

def skipSpace (text : Octets) : Octets :=
  text.dropWhile isSpace

def isDigit (o : UInt8) : Bool :=
  0x30 ≤ o && o ≤ 0x39

/-! ## Words and numbers -/

/-- The rest of a word whose first letter has been read. -/
def word (letters : List Char) : Octets → Except Stop Octets :=
  match letters with
  | [] => fun text => .ok text
  | letter :: later => fun text =>
    match text with
    | [] => breach .endInValue []
    | o :: rest => if o = octet letter then word later rest else breach .expectedIdent rest

/-- The value of decimal digits read onto `value`. -/
def digitsOnto (value : Nat) (digits : Octets) : Nat :=
  digits.foldl (fun n o => n * 10 + (o.toNat - 0x30)) value

/-- The largest exponent that is kept count of. -/
def exponentLimit : Nat := 0x7fffffff

/-- The digits of an exponent after its first, with the place where the exponent passes the
limit. -/
def exponentDigits : Nat → Octets → Nat × Bool × Octets
  | exponent, [] => (exponent, false, [])
  | exponent, o :: rest =>
    if isDigit o then
      let exponent := exponent * 10 + (o.toNat - 0x30)
      if exponentLimit < exponent then (exponent, true, rest) else exponentDigits exponent rest
    else (exponent, false, o :: rest)

/-- A double that has to be finite. -/
def finite (x : Binary64) (rest : Octets) : Except Stop (Number × Octets) :=
  if x.isFinite then .ok (.binary x, rest) else breach .numberOutOfRange rest

/-- The exponent of a number, after its letter. An exponent past the limit is an error at the digit
where it passes it, unless the number is zero or tiny all the same. -/
def exponent (negative : Bool) (digits : Nat) (power : Int) (text : Octets) :
    Except Stop (Number × Octets) :=
  let (negativeExponent, text) :=
    match text with
    | o :: rest =>
      if o = octet '+' then (false, rest) else if o = octet '-' then (true, rest) else (false, text)
    | [] => (false, text)
  match text with
  | [] => breach .endInValue []
  | o :: rest =>
    if isDigit o then
      let (magnitude, passed, rest) := exponentDigits (o.toNat - 0x30) rest
      if passed then
        if digits ≠ 0 ∧ negativeExponent = false then breach .numberOutOfRange rest
        else finite (.ofMagnitude negative 0) (rest.dropWhile isDigit)
      else
        let exponent : Int := if negativeExponent then -magnitude else magnitude
        finite (.ofDecimal negative digits (power + exponent)) rest
    else breach .invalidNumber rest

/-- Whether an octet begins an exponent. -/
def isExponentMark (o : UInt8) : Bool :=
  o == octet 'e' || o == octet 'E'

/-- The fraction of a number, after its point. -/
def fraction (negative : Bool) (whole : Nat) (text : Octets) : Except Stop (Number × Octets) :=
  let digits := text.takeWhile isDigit
  let value := digitsOnto whole digits
  let power : Int := -digits.length
  match digits, text.dropWhile isDigit with
  | [], [] => breach .endInValue []
  | [], _ :: rest => breach .invalidNumber rest
  | _, [] => finite (.ofDecimal negative value power) []
  | _, o :: rest =>
    if isExponentMark o then exponent negative value power rest
    else finite (.ofDecimal negative value power) (o :: rest)

/-- A number without fraction and exponent: a natural or negative one where it fits, else a double;
so is minus zero. -/
def whole (negative : Bool) (value : Nat) (rest : Octets) : Except Stop (Number × Octets) :=
  if negative then
    if 0 < value ∧ value ≤ 0x8000000000000000 then .ok (.negative value.toUInt64, rest)
    else finite (.ofDecimal true value 0) rest
  else
    if value < UInt64.size then .ok (.natural value.toUInt64, rest)
    else finite (.ofDecimal false value 0) rest

/-- What follows the whole digits of a number. -/
def afterWhole (negative : Bool) (value : Nat) : Octets → Except Stop (Number × Octets)
  | [] => whole negative value []
  | o :: rest =>
    if o = octet '.' then fraction negative value rest
    else if isExponentMark o then exponent negative value 0 rest
    else whole negative value (o :: rest)

/-- A number whose sign has been read. A zero stands alone before the point. -/
def number (negative : Bool) : Octets → Except Stop (Number × Octets)
  | [] => breach .endInValue []
  | o :: rest =>
    if o = octet '0' then
      match rest with
      | next :: later =>
        if isDigit next then breach .invalidNumber later else afterWhole negative 0 rest
      | [] => afterWhole negative 0 rest
    else if isDigit o then
      afterWhole negative (digitsOnto 0 (o :: rest.takeWhile isDigit)) (rest.dropWhile isDigit)
    else breach .invalidNumber rest

/-! ## Strings -/

/-- The value of four hexadecimal digits. -/
def fourDigits? (a b c d : UInt8) : Option Nat := do
  let digit (o : UInt8) := Numeral.digitValue? 16 (Char.ofNat o.toNat)
  return (((← digit a) * 16 + (← digit b)) * 16 + (← digit c)) * 16 + (← digit d)

/-- The code of four hexadecimal digits after `\u`. -/
def escapeCode : Octets → Except Stop (Nat × Octets)
  | a :: b :: c :: d :: rest =>
    match fourDigits? a b c d with
    | some code => .ok (code, rest)
    | none => breach .invalidEscape rest
  | _ => breach .endInString []

/-- The second half of a surrogate pair whose first half has been read. -/
def lowSurrogate (high : Nat) : Octets → Except Stop (Char × Octets)
  | [] => breach .endInString []
  | o :: rest =>
    if o = octet '\\' then
      match rest with
      | [] => breach .endInString []
      | u :: rest =>
        if u = octet 'u' then do
          let (low, rest) ← escapeCode rest
          if 0xDC00 ≤ low ∧ low ≤ 0xDFFF then
            .ok (Char.ofNat (0x10000 + (high - 0xD800) * 0x400 + (low - 0xDC00)), rest)
          else breach .loneSurrogate rest
        else breach .unfinishedSurrogate rest
    else breach .unfinishedSurrogate rest

/-- The character of an escape, after its backslash. -/
def escape : Octets → Except Stop (Char × Octets)
  | [] => breach .endInString []
  | o :: rest =>
    if o = octet '"' then .ok ('"', rest)
    else if o = octet '\\' then .ok ('\\', rest)
    else if o = octet '/' then .ok ('/', rest)
    else if o = octet 'b' then .ok (Char.ofNat 8, rest)
    else if o = octet 'f' then .ok (Char.ofNat 12, rest)
    else if o = octet 'n' then .ok ('\n', rest)
    else if o = octet 'r' then .ok ('\r', rest)
    else if o = octet 't' then .ok ('\t', rest)
    else if o = octet 'u' then do
      let (code, rest) ← escapeCode rest
      if 0xDC00 ≤ code ∧ code ≤ 0xDFFF then breach .loneSurrogate rest
      else if 0xD800 ≤ code ∧ code ≤ 0xDBFF then lowSurrogate code rest
      else .ok (Char.ofNat code, rest)
    else breach .invalidEscape rest

/-- The octets of a string up to its closing quote, escapes replaced. The first argument bounds the
number of steps; the octets left always suffice. -/
def stringOctets : Nat → Octets → Except Stop (Octets × Octets)
  | 0, _ => breach .endInString []
  | _ + 1, [] => breach .endInString []
  | steps + 1, o :: rest =>
    if o = octet '"' then .ok ([], rest)
    else if o = octet '\\' then do
      let (c, rest) ← escape rest
      let (later, rest) ← stringOctets steps rest
      .ok (Utf8.encodeChar c ++ later, rest)
    else if o < 0x20 then breach .controlCharacter rest
    else do
      let (later, rest) ← stringOctets steps rest
      .ok (o :: later, rest)

/-- A string after its opening quote. Once it has ended, its octets have to be UTF-8. The place of a
breach is as far before the end of the string as the first ill-formed sequence is before the end of
those octets; without escapes, this is where the sequence begins. -/
def string : Reader String := fun text => do
  let (octets, rest) ← stringOctets (text.length + 1) text
  match Utf8.decode? octets with
  | some chars => .ok (String.ofList chars, rest)
  | none =>
    let behind := octets.length - Utf8.wellFormedLength none 0 octets
    .error ⟨.grammar .invalidCodePoint, rest.length + behind⟩

/-! ## Containers -/

/-- The rest of an array: after its bracket (`first`), or after one of its items. The number of
steps is bounded by the first argument; the octets left always suffice. -/
def items {α : Type} (item : Reader α) : Nat → (first : Bool) → Reader (List α)
  | 0, _, _ => breach .endInList []
  | steps + 1, first, text =>
    match skipSpace text with
    | [] => breach .endInList []
    | o :: rest =>
      if o = octet ']' then .ok ([], rest)
      else if first then do
        let (a, rest) ← item (o :: rest)
        let (later, rest) ← items item steps false rest
        .ok (a :: later, rest)
      else if o = octet ',' then
        match skipSpace rest with
        | [] => breach .endInValue []
        | next :: rest =>
          if next = octet ']' then breach .trailingComma rest
          else do
            let (a, rest) ← item (next :: rest)
            let (later, rest) ← items item steps false rest
            .ok (a :: later, rest)
      else breach .expectedCommaOrBracket rest

/-- The colon between a key and its value. -/
def colon (text : Octets) : Except Stop Octets :=
  match skipSpace text with
  | [] => breach .endInObject []
  | o :: rest => if o = octet ':' then .ok rest else breach .expectedColon rest

/-- The rest of an object: after its brace (`first`), or after one of its members. `member` is given
what the members before have come to, the key, and the octets after the key. -/
def members {σ : Type} (member : σ → String → Reader σ) : Nat → (first : Bool) → σ → Reader σ
  | 0, _, _, _ => breach .endInObject []
  | steps + 1, first, state, text =>
    match skipSpace text with
    | [] => breach .endInObject []
    | o :: rest =>
      if o = octet '\x7d' then .ok (state, rest)
      else if first then
        if o = octet '"' then do
          let (key, rest) ← string rest
          let (state, rest) ← member state key rest
          members member steps false state rest
        else breach .keyNotString rest
      else if o = octet ',' then
        match skipSpace rest with
        | [] => breach .endInValue []
        | next :: rest =>
          if next = octet '"' then do
            let (key, rest) ← string rest
            let (state, rest) ← member state key rest
            members member steps false state rest
          else if next = octet '\x7d' then breach .trailingComma rest
          else breach .keyNotString rest
      else breach .expectedCommaOrBrace rest

/-- A member of which nothing is known in advance. Members are gathered in reverse. -/
def plainMember (value : Reader Json) (before : List (String × Json)) (key : String) :
    Reader (List (String × Json)) := fun text => do
  let rest ← colon text
  let (v, rest) ← value rest
  .ok ((key, v) :: before, rest)

/-! ## Values -/

/-- A value that is no container, or a container whose parts are read by `nested`; with no `nested`
the bound on the depth has been reached. -/
def valueWith (nested : Option (Reader Json)) : Reader Json := fun text =>
  match skipSpace text with
  | [] => breach .endInValue []
  | o :: rest =>
    if o = octet 'n' then do
      let rest ← word ['u', 'l', 'l'] rest
      .ok (.null, rest)
    else if o = octet 't' then do
      let rest ← word ['r', 'u', 'e'] rest
      .ok (.bool true, rest)
    else if o = octet 'f' then do
      let rest ← word ['a', 'l', 's', 'e'] rest
      .ok (.bool false, rest)
    else if o = octet '-' then do
      let (n, rest) ← number true rest
      .ok (.number n, rest)
    else if isDigit o then do
      let (n, rest) ← number false (o :: rest)
      .ok (.number n, rest)
    else if o = octet '"' then do
      let (s, rest) ← string rest
      .ok (.string s, rest)
    else if o = octet '[' then
      match nested with
      | none => breach .tooDeep rest
      | some value => do
        let (list, rest) ← items value (rest.length + 1) true rest
        .ok (.array list, rest)
    else if o = octet '\x7b' then
      match nested with
      | none => breach .tooDeep rest
      | some value => do
        let (reversed, rest) ← members (plainMember value) (rest.length + 1) true [] rest
        .ok (.object reversed.reverse, rest)
    else breach .expectedValue rest

/-- A value of containers that nest at most as deep as the argument says. -/
def value : Nat → Reader Json
  | 0 => valueWith none
  | depth + 1 => valueWith (some (value depth))

/-- How deep the containers of a text may nest. -/
def depthLimit : Nat := 127

/-- Nothing but white space may follow the value of a text. -/
def atEnd (text : Octets) : Except Stop Unit :=
  match skipSpace text with
  | [] => .ok ()
  | _ :: rest => breach .trailingCharacters rest

/-- A whole text that holds one value. -/
def ofOctets (text : Octets) : Except Fault Json :=
  let read : Except Stop Json := do
    let (v, rest) ← value depthLimit text
    atEnd rest
    .ok v
  read.mapError (·.fault text)

end DebugBridge.Json.Read
