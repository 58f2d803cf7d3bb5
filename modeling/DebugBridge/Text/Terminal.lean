import DebugBridge.Text.Utf8

/-!
Text for a terminal, and what is left of it elsewhere.

A text for a terminal mixes what is shown with controls and with sequences that an escape begins.
`plain` keeps what is shown: every character outside of a sequence but the controls, of which only
those that are white space stay. `Mode` is the state of the reading; `Mode.shows` and `Mode.next`
say what becomes of one character in it.

* A string runs on past anything but its end. Any other sequence lets white space through, and is
  suspended by it: what follows is shown like text until something is not, with which the sequence
  goes on. A character outside of ASCII ends a suspended sequence.
* An escape begins a new sequence wherever it stands, so one that is left open takes the text with
  it up to the next escape.
-/

namespace DebugBridge.Text.Terminal

/-! ## Writing -/

/-- A text between a sequence that sets attributes and one that takes them back. -/
def withAttributes (attributes text : String) : String :=
  attributes ++ text ++ "\x1b[0m"

def bold (text : String) : String :=
  withAttributes "\x1b[1m" text

def boldUnderlined (text : String) : String :=
  withAttributes "\x1b[1m\x1b[4m" text

/-! ## Reading -/

/-- A sequence that has begun with an escape, by what has been read of it. -/
inductive Sequence where
  /-- The escape alone. -/
  | escape
  /-- A blank or a sign of punctuation behind the escape: one final character is missing. -/
  | intermediate
  /-- A bracket `[` and parameters: a final character is missing. -/
  | parameters
  /-- A bracket `]`: a string that a bell may end. -/
  | command
  /-- A letter `P`: the head of a string for the device. -/
  | device
  /-- Parameters in the head of a string for the device. -/
  | deviceParameters
  /-- A blank or a sign of punctuation in the head of a string for the device. -/
  | deviceIntermediate
  /-- A string that the octet 9C may end, in whatever character it stands. -/
  | string
deriving DecidableEq, Repr

/-- What a text is read as: text, the inside of a sequence, or text by which a sequence is
suspended. -/
inductive Mode where
  | text
  | inside (sequence : Sequence)
  | suspended (sequence : Sequence)
deriving DecidableEq, Repr

/-- The controls that are white space: tab, line feed, form feed, carriage return. -/
def isLayout (c : Char) : Bool :=
  c == '\t' || c == '\n' || c == '\x0c' || c == '\r'

/-- Whether a character is shown outside of sequences. -/
def isShown (c : Char) : Bool :=
  isLayout c || (0x20 ≤ c.toNat && c.toNat != 0x7F)

/-- Whether white space inside of a sequence is shown. -/
def Sequence.isTransparent : Sequence → Bool
  | .escape | .intermediate | .parameters => true
  | _ => false

/-- What the first character behind an escape begins. -/
def afterEscape (c : Char) : Mode :=
  if c = '[' then .inside .parameters
  else if c = ']' then .inside .command
  else if c = 'P' then .inside .device
  else if c = 'X' ∨ c = '^' ∨ c = '_' then .inside .string
  else if c.toNat < 0x30 then .inside .intermediate
  else .text

/-- What follows a visible ASCII character inside of a sequence. The four characters from `<` on
stand before all other parameters of a device, or make its string one that is not understood. -/
def Sequence.after (c : Char) : Sequence → Mode
  | .escape => afterEscape c
  | .intermediate => if c.toNat < 0x30 then .inside .intermediate else .text
  | .parameters => if c.toNat < 0x40 then .inside .parameters else .text
  | .device =>
    if c.toNat < 0x30 then .inside .deviceIntermediate
    else if c.toNat < 0x40 then .inside .deviceParameters
    else .inside .string
  | .deviceParameters =>
    if c.toNat < 0x30 then .inside .deviceIntermediate
    else if c.toNat < 0x3C then .inside .deviceParameters
    else .inside .string
  | .deviceIntermediate =>
    if c.toNat < 0x30 then .inside .deviceIntermediate else .inside .string
  | .command => .inside .command
  | .string => .inside .string

/-- What follows a character inside of a sequence. Only strings take notice of what is not visible
ASCII. -/
def Sequence.next (c : Char) : Sequence → Mode
  | .command => if c.toNat = 7 then .text else .inside .command
  | .string => if (Utf8.encodeChar c).contains 0x9C then .text else .inside .string
  | sequence =>
    if 0x20 ≤ c.toNat ∧ c.toNat < 0x7F then sequence.after c else .inside sequence

namespace Mode

/-- Whether a character is shown. -/
def shows (c : Char) : Mode → Bool
  | .inside sequence => sequence.isTransparent && isLayout c
  | _ => isShown c

/-- The mode behind a character that is shown. -/
def resumed (c : Char) : Mode → Mode
  | .inside sequence => .suspended sequence
  | mode => if c.toNat < 0x80 then mode else .text

/-- The mode behind a character that is not shown. An escape begins a sequence and two controls call
off any sequence, wherever they stand. -/
def hidden (c : Char) (mode : Mode) : Mode :=
  if c.toNat = 0x1B then .inside .escape
  else if c.toNat = 0x18 ∨ c.toNat = 0x1A then .text
  else
    match mode with
    | .text => .text
    | .inside sequence | .suspended sequence => sequence.next c

def next (c : Char) (mode : Mode) : Mode :=
  if mode.shows c then mode.resumed c else mode.hidden c

end Mode

/-- The characters of a text that are shown, read in a mode. -/
def keep : Mode → List Char → List Char
  | _, [] => []
  | mode, c :: rest =>
    if mode.shows c then c :: keep (mode.next c) rest else keep (mode.next c) rest

def plain (text : String) : String :=
  String.ofList (keep .text text.toList)

end DebugBridge.Text.Terminal
