/-!
UTF-8, read octet by octet.

`encode` writes characters as octets. `scan` is a machine whose state is the unfinished sequence it
is inside of: each octet finishes a character, extends the sequence, or proves it ill-formed. An
ill-formed sequence is reported once for its longest prefix that could have begun a character, which
is what a reader that repairs text shows as one replacement character.

* `decode?` accepts well-formed text only.
* `decodeLossy` accepts anything and puts U+FFFD for each ill-formed sequence.
-/

namespace DebugBridge.Utf8

/-! ## Writing -/

/-- The octets of one character: one to four, by the size of its code point. -/
def encodeChar (c : Char) : List UInt8 :=
  let n := c.toNat
  if n < 0x80 then
    [n.toUInt8]
  else if n < 0x800 then
    [(0xC0 + n / 0x40).toUInt8, (0x80 + n % 0x40).toUInt8]
  else if n < 0x10000 then
    [(0xE0 + n / 0x1000).toUInt8, (0x80 + n / 0x40 % 0x40).toUInt8, (0x80 + n % 0x40).toUInt8]
  else
    [(0xF0 + n / 0x40000).toUInt8, (0x80 + n / 0x1000 % 0x40).toUInt8,
      (0x80 + n / 0x40 % 0x40).toUInt8, (0x80 + n % 0x40).toUInt8]

def encode (chars : List Char) : List UInt8 :=
  chars.flatMap encodeChar

/-- Writes characters behind octets that have been written; the octets stand last first. -/
def encodeOnto (written : List UInt8) (chars : List Char) : List UInt8 :=
  chars.foldl (fun written c => (encodeChar c).reverseAux written) written

/-! ## Reading -/

/-- A sequence that has begun: the bits read so far, how many octets are missing, and the range the
next octet has to be in. The first range is narrower than `0x80 .. 0xBF` after some leading octets,
which is how overlong forms, surrogates and code points past U+10FFFF are refused. -/
structure Unfinished where
  bits : Nat
  missing : Nat
  low : UInt8
  high : UInt8
deriving DecidableEq, Repr

/-- What one octet does outside of a sequence: it is a character, begins a sequence, or neither. -/
inductive Begun where
  | character (c : Char)
  | sequence (unfinished : Unfinished)
  | illFormed
deriving DecidableEq, Repr

def begin (octet : UInt8) : Begun :=
  let n := octet.toNat
  if n < 0x80 then .character (Char.ofNat n)
  else if n < 0xC2 then .illFormed
  else if n < 0xE0 then .sequence ⟨n - 0xC0, 1, 0x80, 0xBF⟩
  else if n = 0xE0 then .sequence ⟨0, 2, 0xA0, 0xBF⟩
  else if n = 0xED then .sequence ⟨0xD, 2, 0x80, 0x9F⟩
  else if n < 0xF0 then .sequence ⟨n - 0xE0, 2, 0x80, 0xBF⟩
  else if n = 0xF0 then .sequence ⟨0, 3, 0x90, 0xBF⟩
  else if n < 0xF4 then .sequence ⟨n - 0xF0, 3, 0x80, 0xBF⟩
  else if n = 0xF4 then .sequence ⟨4, 3, 0x80, 0x8F⟩
  else .illFormed

/-- The characters of a text, `none` for each ill-formed sequence. -/
def scan : Option Unfinished → List UInt8 → List (Option Char)
  | none, [] => []
  | some _, [] => [none]
  | state, octet :: rest =>
    match state with
    | some unfinished =>
      if unfinished.low ≤ octet ∧ octet ≤ unfinished.high then
        let bits := unfinished.bits * 0x40 + (octet.toNat - 0x80)
        match unfinished.missing with
        | 0 | 1 => some (Char.ofNat bits) :: scan none rest
        | missing + 2 => scan (some ⟨bits, missing + 1, 0x80, 0xBF⟩) rest
      else
        match begin octet with
        | .character c => none :: some c :: scan none rest
        | .sequence next => none :: scan (some next) rest
        | .illFormed => none :: none :: scan none rest
    | none =>
      match begin octet with
      | .character c => some c :: scan none rest
      | .sequence next => scan (some next) rest
      | .illFormed => none :: scan none rest

/-- How many octets stand before the first ill-formed sequence; `pending` are those of the sequence
that is being read. -/
def wellFormedLength : Option Unfinished → (pending : Nat) → List UInt8 → Nat
  | _, _, [] => 0
  | some unfinished, pending, octet :: rest =>
    if unfinished.low ≤ octet ∧ octet ≤ unfinished.high then
      match unfinished.missing with
      | 0 | 1 => pending + 1 + wellFormedLength none 0 rest
      | missing + 2 =>
        wellFormedLength (some ⟨unfinished.bits, missing + 1, 0x80, 0xBF⟩) (pending + 1) rest
    else 0
  | none, _, octet :: rest =>
    match begin octet with
    | .character _ => 1 + wellFormedLength none 0 rest
    | .sequence next => wellFormedLength (some next) 1 rest
    | .illFormed => 0

/-- All the values, if there is no gap. -/
def allSome {α : Type} : List (Option α) → Option (List α)
  | [] => some []
  | none :: _ => none
  | some a :: rest => (allSome rest).map (a :: ·)

def decode? (octets : List UInt8) : Option (List Char) :=
  allSome (scan none octets)

def decodeLossy (octets : List UInt8) : List Char :=
  (scan none octets).map (·.getD '\uFFFD')

end DebugBridge.Utf8
