/-!
White space and the ways of cutting text at it.

`isBlank` is the Unicode property White_Space. Everything here works on lists of characters:
`trim` drops blanks at both ends, `splitAtBlank` cuts at the first blank, `words` lists the maximal
runs without a blank, and `splitOnce` cuts at the first place where a given text stands.
-/

namespace DebugBridge.Text

/-- The Unicode property White_Space. U+200B and U+FEFF do not have it. -/
def isBlank (c : Char) : Bool :=
  let n := c.toNat
  (9 ≤ n && n ≤ 13) || n == 0x20 || n == 0x85 || n == 0xA0 || n == 0x1680
    || (0x2000 ≤ n && n ≤ 0x200A) || n == 0x2028 || n == 0x2029 || n == 0x202F || n == 0x205F
    || n == 0x3000

def trimStart (text : List Char) : List Char :=
  text.dropWhile isBlank

def trimEnd (text : List Char) : List Char :=
  (trimStart text.reverse).reverse

def trim (text : List Char) : List Char :=
  trimEnd (trimStart text)

/-- The text before and after the first blank. -/
def splitAtBlank : List Char → Option (List Char × List Char)
  | [] => none
  | c :: rest =>
    if isBlank c then some ([], rest)
    else (splitAtBlank rest).map fun (before, after) => (c :: before, after)

/-- The maximal runs without a blank, in order. -/
def words : List Char → List (List Char)
  | [] => []
  | c :: rest =>
    if isBlank c then words rest
    else
      match rest, words rest with
      | [], _ => [[c]]
      | next :: _, later =>
        if isBlank next then [c] :: later
        else
          match later with
          | [] => [[c]]
          | word :: others => (c :: word) :: others

/-- The text without the given beginning. -/
def dropStart? : List Char → List Char → Option (List Char)
  | [], text => some text
  | _ :: _, [] => none
  | p :: start, c :: text => if p = c then dropStart? start text else none

/-- The text without the given end. -/
def dropEnd? (ending text : List Char) : Option (List Char) :=
  (dropStart? ending.reverse text.reverse).map List.reverse

/-- The text before and after the first place where `mark` stands. -/
def splitOnce (mark : List Char) : List Char → Option (List Char × List Char)
  | [] => (dropStart? mark []).map fun after => ([], after)
  | c :: rest =>
    match dropStart? mark (c :: rest) with
    | some after => some ([], after)
    | none => (splitOnce mark rest).map fun (before, after) => (c :: before, after)

/-- Texts written one after the other with `between` between neighbours. -/
def joinWith (between : List Char) : List (List Char) → List Char
  | [] => []
  | [text] => text
  | text :: rest => text ++ between ++ joinWith between rest

end DebugBridge.Text
