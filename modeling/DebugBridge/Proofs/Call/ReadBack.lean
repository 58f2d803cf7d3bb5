import DebugBridge.Proofs.Call.Arguments
import DebugBridge.Proofs.Number.Shortest

/-!
# A call read back

The text of a call is read by marks: the callee stands behind the first `))0x`, the literals stand
before the parenthesis that closes them, and a comma stands between two of them. The writer puts
these marks where the reader looks for them. The parts in between hold no marks, apart from casts,
whose parentheses come in a pair.

Results:
1. `readLiteral?_chars`: a literal is read back, a float if its digits are.
2. `readLiterals?_literals`: so are the literals of a call, in order.
3. `closing?_literals`: they end where they were ended.
4. `read?_chars`: the call is read back.
-/

namespace DebugBridge

/-! ## Marks -/

/-- A text without parentheses and commas. -/
structure Unmarked (text : List Char) : Prop where
  opening : '(' ∉ text
  closing : ')' ∉ text
  comma : ',' ∉ text

theorem Unmarked.append {text later : List Char} (unmarked : Unmarked text)
    (unmarked' : Unmarked later) : Unmarked (text ++ later) where
  opening := List.not_mem_append unmarked.opening unmarked'.opening
  closing := List.not_mem_append unmarked.closing unmarked'.closing
  comma := List.not_mem_append unmarked.comma unmarked'.comma

open Numeral (Readable digitValue? readable_decimal readable_hexadecimal)

theorem not_mem_digits {base : Nat} {c : Char} (readable : Readable base)
    (foreign : digitValue? base c = none) (n : Nat) : c ∉ Numeral.digits base n := by
  intro present
  obtain ⟨d, small, rfl⟩ := Numeral.mem_digits readable.two present
  rw [readable.digit d small] at foreign
  cases foreign

theorem unmarked_decimal (n : Nat) : Unmarked (Numeral.decimal n) where
  opening := not_mem_digits readable_decimal (by decide) n
  closing := not_mem_digits readable_decimal (by decide) n
  comma := not_mem_digits readable_decimal (by decide) n

theorem unmarked_hexadecimal (n : Nat) : Unmarked (Numeral.hexadecimal n) where
  opening := not_mem_digits readable_hexadecimal (by decide) n
  closing := not_mem_digits readable_hexadecimal (by decide) n
  comma := not_mem_digits readable_hexadecimal (by decide) n

/-- What does not stand in the parts, nor between them, does not stand in the whole. -/
theorem Text.not_mem_joinWith {c : Char} {between : List Char} {texts : List (List Char)}
    (gap : c ∉ between) (parts : ∀ text ∈ texts, c ∉ text) :
    c ∉ Text.joinWith between texts := by
  induction texts with
  | nil => exact List.not_mem_nil
  | cons text texts ih =>
    obtain ⟨first, later⟩ := List.forall_mem_cons.mp parts
    cases texts with
    | nil => exact first
    | cons next texts => exact List.not_mem_append (List.not_mem_append first gap) (ih later)

namespace Operand

/-- Floats that are passed are finite numbers which are read back as they are written. -/
def Legible (operand : Operand) : Prop :=
  ∀ x, operand = .float x →
    x.isFinite = true ∧ Binary64.readText? (layout.chars x) = some x

/-- A finite double holds digits and the marks of a double, and nothing else. -/
theorem not_mem_float {c : Char} {x : Binary64} (finite : x.isFinite = true)
    (digit : digitValue? 10 c = none) (mark : c ∉ ['.', 'e', '-', '+']) :
    c ∉ layout.chars x := by
  have others : ∀ d, d ∈ layout.chars x → d ≠ c :=
    layout.forall_mem_chars (fun d present same => mark (same ▸ present))
      (fun n d present same => not_mem_digits readable_decimal digit n (same ▸ present))
      (fun infinite => absurd finite (by rw [infinite]; exact Bool.false_ne_true))
  exact fun present => others c present rfl

theorem unmarked_float {x : Binary64} (finite : x.isFinite = true) :
    Unmarked (layout.chars x) where
  opening := not_mem_float finite (by decide) (by decide)
  closing := not_mem_float finite (by decide) (by decide)
  comma := not_mem_float finite (by decide) (by decide)

theorem float_ne_nil {x : Binary64} (finite : x.isFinite = true) : layout.chars x ≠ [] := by
  rcases layout.floating_chars finite with present | present <;>
    exact List.ne_nil_of_mem present

/-- A literal is a text without marks, perhaps with a cast in front. -/
theorem chars_eq_cast_append {operand : Operand} (legible : operand.Legible) :
    ∃ cast body, operand.chars = cast ++ body ∧ (cast = [] ∨ cast = "(void*)".toList) ∧
      Unmarked body ∧ body ≠ [] := by
  cases operand with
  | pointer address =>
    have mark : Unmarked ['0', 'x'] := ⟨by decide, by decide, by decide⟩
    exact ⟨_, _, rfl, .inr rfl, mark.append (unmarked_hexadecimal _), List.cons_ne_nil _ _⟩
  | integer value =>
    have suffix : Unmarked "ul".toList := ⟨by decide, by decide, by decide⟩
    exact ⟨[], _, rfl, .inl rfl, (unmarked_decimal _).append suffix,
      List.append_ne_nil_of_right_ne_nil _ (by decide)⟩
  | flag value =>
    refine ⟨[], _, rfl, .inl rfl, ?_⟩
    cases value <;> exact ⟨⟨by decide, by decide, by decide⟩, by decide⟩
  | float x =>
    have finite := (legible x rfl).1
    exact ⟨[], _, rfl, .inl rfl, unmarked_float finite, float_ne_nil finite⟩

theorem comma_not_mem_chars {operand : Operand} (legible : operand.Legible) :
    ',' ∉ operand.chars := by
  obtain ⟨cast, body, whole, cast', unmarked, -⟩ := chars_eq_cast_append legible
  rw [whole]
  refine List.not_mem_append ?_ unmarked.comma
  rcases cast' with rfl | rfl <;> decide

theorem chars_ne_nil {operand : Operand} (legible : operand.Legible) : operand.chars ≠ [] := by
  obtain ⟨cast, body, whole, -, -, some'⟩ := chars_eq_cast_append legible
  rw [whole]
  exact List.append_ne_nil_of_right_ne_nil cast some'

end Operand

/-! ## Literals -/

namespace CallText

open Operand (Legible layout)

theorem looksFloating_chars {x : Binary64} (finite : x.isFinite = true) :
    looksFloating (layout.chars x) = true := by
  rw [looksFloating, List.any_eq_true]
  rcases layout.floating_chars finite with point | exponent
  · exact ⟨'.', point, rfl⟩
  · exact ⟨'e', exponent, rfl⟩

/-- A literal is read back. -/
theorem readLiteral?_chars {operand : Operand} (legible : operand.Legible) :
    readLiteral? operand.chars = some operand.value := by
  -- No literal but that of a pointer holds a parenthesis, and only that of an integer has a suffix.
  have uncast : ∀ {text : List Char}, '(' ∉ text →
      Text.dropStart? "(void*)0x".toList text = none :=
    fun bare => Text.dropStart?_eq_none rfl bare
  have bare : ∀ {text : List Char}, 'l' ∉ text → Text.dropEnd? "ul".toList text = none :=
    fun bare => Text.dropEnd?_eq_none rfl bare
  cases operand with
  | pointer address =>
    have read : Text.dropStart? "(void*)0x".toList (Operand.chars (.pointer address))
        = some (Numeral.hexadecimal address.toNat) := Text.dropStart?_append _ _
    have word : Numeral.readWord 16 (Numeral.hexadecimal address.toNat) = .ok address :=
      Numeral.readWord_digits readable_hexadecimal address
    simp only [readLiteral?, read, word]
    rfl
  | integer value =>
    have unlike : '(' ∉ Operand.chars (.integer value) :=
      List.not_mem_append (unmarked_decimal _).opening (by decide)
    have read : Text.dropEnd? "ul".toList (Operand.chars (.integer value))
        = some (Numeral.decimal value.toNat) := Text.dropEnd?_append _ _
    have word : Numeral.readWord 10 (Numeral.decimal value.toNat) = .ok value :=
      Numeral.readWord_digits readable_decimal value
    simp only [readLiteral?, uncast unlike, read, word]
    rfl
  | flag value => cases value <;> rfl
  | float x =>
    obtain ⟨finite, read⟩ := legible x rfl
    have unlike : '(' ∉ layout.chars x := (Operand.unmarked_float finite).opening
    have unlike' : 'l' ∉ layout.chars x := Operand.not_mem_float finite (by decide) (by decide)
    show readLiteral? (layout.chars x) = some (.float x)
    simp only [readLiteral?, uncast unlike, bare unlike', looksFloating_chars finite, read,
      if_true, Option.map_some]

/-! ## Lists of literals -/

theorem pieces_cons {c : Char} (other : c ≠ ',') {text piece : List Char}
    {later : List (List Char)} (cut : pieces text = piece :: later) :
    pieces (c :: text) = (c :: piece) :: later := by
  rw [pieces, cut]
  exact fun _ comma => absurd comma other

theorem pieces_of_not_mem {text : List Char} (whole : ',' ∉ text) : pieces text = [text] := by
  induction text with
  | nil => rfl
  | cons c text ih =>
    exact pieces_cons (List.ne_of_not_mem_cons whole).symm
      (ih (List.not_mem_of_not_mem_cons whole))

theorem pieces_append {text : List Char} (whole : ',' ∉ text) (later : List Char) :
    pieces (text ++ ',' :: ' ' :: later) = text :: pieces later := by
  induction text with
  | nil => rw [List.nil_append, pieces]
  | cons c text ih =>
    exact pieces_cons (List.ne_of_not_mem_cons whole).symm
      (ih (List.not_mem_of_not_mem_cons whole))

/-- What has been joined at commas is cut there again. -/
theorem pieces_joinWith {text : List Char} {texts : List (List Char)}
    (whole : ∀ part ∈ text :: texts, ',' ∉ part) :
    pieces (Text.joinWith ", ".toList (text :: texts)) = text :: texts := by
  induction texts generalizing text with
  | nil => exact pieces_of_not_mem (whole text List.mem_cons_self)
  | cons next texts ih =>
    obtain ⟨first, later⟩ := List.forall_mem_cons.mp whole
    have cut : Text.joinWith ", ".toList (text :: next :: texts)
        = text ++ ',' :: ' ' :: Text.joinWith ", ".toList (next :: texts) :=
      List.append_assoc text _ _
    rw [cut, pieces_append first, ih later]

variable {operands : List Operand}

theorem mapM_readLiteral? (legible : ∀ operand ∈ operands, operand.Legible) :
    (operands.map Operand.chars).mapM readLiteral? = some (operands.map Operand.value) := by
  induction operands with
  | nil => rfl
  | cons operand operands ih =>
    obtain ⟨first, later⟩ := List.forall_mem_cons.mp legible
    rw [List.map_cons, List.mapM_cons, readLiteral?_chars first, ih later]
    rfl

/-- The literals of a call are read back, in order. -/
theorem readLiterals?_literals (legible : ∀ operand ∈ operands, operand.Legible) :
    readLiterals? (NativeCall.literals operands) = some (operands.map Operand.value) := by
  cases operands with
  | nil => rfl
  | cons operand operands =>
    have whole : ∀ text ∈ (operand :: operands).map Operand.chars, ',' ∉ text :=
      List.forall_mem_map.mpr fun operand member =>
        Operand.comma_not_mem_chars (legible operand member)
    have some' : ∀ text ∈ (operand :: operands).map Operand.chars, (!text.isEmpty) = true := by
      refine List.forall_mem_map.mpr fun operand member => ?_
      simpa using Operand.chars_ne_nil (legible operand member)
    rw [readLiterals?, NativeCall.literals, List.map_cons, pieces_joinWith whole,
      ← List.map_cons, List.filter_eq_self.mpr some', mapM_readLiteral? legible]

/-! ## The parenthesis that closes them -/

/-- A text all of whose parentheses come in pairs: what closes stands behind it. -/
def Closed (text : List Char) : Prop :=
  ∀ depth later, closing? (depth + 1) (text ++ later)
    = (closing? (depth + 1) later).map (text ++ ·)

theorem closed_nil : Closed [] := by
  intro depth later
  rw [List.nil_append]
  exact Option.map_id'.symm

theorem Closed.append {text later : List Char} (closed : Closed text) (closed' : Closed later) :
    Closed (text ++ later) := by
  intro depth rest
  rw [List.append_assoc, closed, closed', Option.map_map]
  simp only [Function.comp_def, List.append_assoc]

theorem closing?_cons {c : Char} (opens : c ≠ '(') (closes : c ≠ ')') (depth : Nat)
    (text : List Char) : closing? depth (c :: text) = (closing? depth text).map (c :: ·) := by
  rw [closing?.eq_def]
  dsimp only
  rw [if_neg closes, if_neg opens]

theorem closing?_open (depth : Nat) (text : List Char) :
    closing? depth ('(' :: text) = (closing? (depth + 1) text).map ('(' :: ·) := by
  rw [closing?.eq_def]
  dsimp only
  rw [if_neg (by decide), if_pos rfl]

theorem closed_singleton {c : Char} (opens : c ≠ '(') (closes : c ≠ ')') : Closed [c] := by
  intro depth later
  rw [List.singleton_append, closing?_cons opens closes]
  rfl

theorem closed_of_not_mem {text : List Char} (opening : '(' ∉ text) (closing : ')' ∉ text) :
    Closed text := by
  induction text with
  | nil => exact closed_nil
  | cons c text ih =>
    have first := closed_singleton (List.ne_of_not_mem_cons opening).symm
      (List.ne_of_not_mem_cons closing).symm
    exact first.append
      (ih (List.not_mem_of_not_mem_cons opening) (List.not_mem_of_not_mem_cons closing))

/-- A closed text stays closed in a pair of parentheses. -/
theorem Closed.enclose {text : List Char} (closed : Closed text) :
    Closed ('(' :: text ++ [')']) := by
  intro depth later
  have inner : '(' :: text ++ [')'] ++ later = '(' :: (text ++ ')' :: later) := by
    rw [List.append_assoc]
    rfl
  have close : closing? (depth + 2) (')' :: later) = (closing? (depth + 1) later).map (')' :: ·) :=
    rfl
  rw [inner, closing?_open, closed, close, Option.map_map, Option.map_map]
  simp only [Function.comp_def, List.cons_append, List.append_assoc, List.nil_append]

theorem closed_joinWith {between : List Char} {texts : List (List Char)}
    (gap : Closed between) (closed : ∀ text ∈ texts, Closed text) :
    Closed (Text.joinWith between texts) := by
  induction texts with
  | nil => exact closed_nil
  | cons text texts ih =>
    obtain ⟨first, later⟩ := List.forall_mem_cons.mp closed
    cases texts with
    | nil => exact first
    | cons next texts => exact (first.append gap).append (ih later)

theorem closed_chars {operand : Operand} (legible : operand.Legible) : Closed operand.chars := by
  obtain ⟨cast, body, whole, cast', unmarked, -⟩ := Operand.chars_eq_cast_append legible
  have closed : Closed cast := by
    rcases cast' with rfl | rfl
    · exact closed_nil
    · have type : Closed "void*".toList := closed_of_not_mem (by decide) (by decide)
      exact type.enclose
  rw [whole]
  exact closed.append (closed_of_not_mem unmarked.opening unmarked.closing)

/-- The literals end at the parenthesis that has been put behind them. -/
theorem closing?_literals (legible : ∀ operand ∈ operands, operand.Legible) (later : List Char) :
    closing? 1 (NativeCall.literals operands ++ ')' :: later)
      = some (NativeCall.literals operands) := by
  have comma : Closed [','] := closed_singleton (by decide) (by decide)
  have blank : Closed [' '] := closed_singleton (by decide) (by decide)
  have gap : Closed ", ".toList := comma.append blank
  have closed : Closed (NativeCall.literals operands) := by
    refine closed_joinWith gap fun text member => ?_
    obtain ⟨operand, of, rfl⟩ := List.mem_map.mp member
    exact closed_chars (legible operand of)
  rw [closed, closing?, if_pos rfl, Option.map_some, List.append_nil]

/-! ## The whole call -/

theorem not_mem_nativeType (operand : Operand) : ')' ∉ operand.nativeType := by
  cases operand with
  | pointer => exact (by decide : ')' ∉ "void*".toList)
  | integer => exact (by decide : ')' ∉ "unsigned long".toList)
  | flag => exact (by decide : ')' ∉ "int".toList)
  | float => exact (by decide : ')' ∉ "double".toList)

theorem not_mem_parameterTypes (operands : List Operand) :
    ')' ∉ NativeCall.parameterTypes operands := by
  unfold NativeCall.parameterTypes
  split
  · decide
  · refine Text.not_mem_joinWith (by decide) fun text member => ?_
    obtain ⟨operand, -, rfl⟩ := List.mem_map.mp member
    exact not_mem_nativeType operand

theorem application_eq (call : NativeCall) (returnType : List Char) :
    call.application returnType
      = "((".toList ++ returnType ++ " (*)(".toList ++ NativeCall.parameterTypes call.operands
        ++ "))".toList ++ Numeral.address call.address ++ ")(".toList
        ++ NativeCall.literals call.operands ++ ")".toList := rfl

variable {before returnType : List Char}

/-- The callee stands behind the first `))0x`: the parenthesis before it has no other behind it. -/
theorem splitOnce_application (call : NativeCall) (plain : ')' ∉ before) (plain' : ')' ∉ returnType)
    (later : List Char) :
    ∃ earlier, Text.splitOnce "))0x".toList (before ++ call.application returnType ++ later)
      = some (earlier, Numeral.hexadecimal call.address.toNat ++ ')' :: '('
          :: (NativeCall.literals call.operands ++ ')' :: later)) := by
  have whole : before ++ call.application returnType ++ later
      = (before ++ "((".toList ++ returnType ++ " (*".toList) ++ ')'
        :: ('(' :: NativeCall.parameterTypes call.operands ++ ("))0x".toList
          ++ (Numeral.hexadecimal call.address.toNat ++ ')' :: '('
            :: (NativeCall.literals call.operands ++ ')' :: later)))) := by
    have cast : " (*)(".toList = " (*".toList ++ ')' :: ['('] := by decide
    have mark : "))0x".toList = "))".toList ++ '0' :: ['x'] := by decide
    have open' : ")(".toList = ')' :: ['('] := by decide
    have close : ")".toList = [')'] := by decide
    simp only [application_eq, Numeral.address, cast, mark, open', close, List.append_assoc,
      List.cons_append, List.nil_append]
  have first : ')' ∉ before ++ "((".toList ++ returnType ++ " (*".toList :=
    List.not_mem_append (List.not_mem_append (List.not_mem_append plain (by decide)) plain')
      (by decide)
  have second : ')' ∉ '(' :: NativeCall.parameterTypes call.operands :=
    List.not_mem_cons_of_ne_of_not_mem (by decide) (not_mem_parameterTypes _)
  rw [whole, Text.splitOnce_append rfl first, Text.splitOnce_cons rfl,
    Text.splitOnce_append rfl second, Text.splitOnce_mark (by decide)]
  exact ⟨_, rfl⟩

theorem splitOnce_callee (w : UInt64) (later : List Char) :
    Text.splitOnce [')'] (Numeral.hexadecimal w.toNat ++ ')' :: later)
      = some (Numeral.hexadecimal w.toNat, later) := by
  have digits : ')' ∉ Numeral.hexadecimal w.toNat := (unmarked_hexadecimal _).closing
  have mark : Text.splitOnce [')'] (')' :: later) = some ([], later) :=
    Text.splitOnce_mark (by decide) later
  rw [Text.splitOnce_append rfl digits, mark]
  exact congrArg (fun text => some (text, later)) (List.append_nil _)

variable {call : NativeCall}

/-- What stands around the application of a call makes no difference but for the buffer that it
declares. -/
theorem read?_application (legible : ∀ operand ∈ call.operands, operand.Legible)
    (plain : ')' ∉ before) (plain' : ')' ∉ returnType) (later : List Char)
    {bufferSize : Option UInt64}
    (declared : readBufferSize? (before ++ call.application returnType ++ later)
      = some bufferSize) :
    read? (before ++ call.application returnType ++ later)
      = some ⟨call.address, call.operands.map Operand.value, bufferSize⟩ := by
  obtain ⟨earlier, callee⟩ := splitOnce_application call plain plain' later
  have address : Numeral.readWord 16 (Numeral.hexadecimal call.address.toNat) = .ok call.address :=
    Numeral.readWord_digits readable_hexadecimal _
  have opening : ∀ text, Text.dropStart? ['('] ('(' :: text) = some text := fun _ => rfl
  simp only [read?, declared, callee, splitOnce_callee, address, opening,
    closing?_literals legible, readLiterals?_literals legible, Except.toOption,
    Option.bind_eq_bind, Option.bind_some]
  rfl

theorem takeWhile_decimal (n : Nat) (later : List Char) :
    (Numeral.decimal n ++ ' ' :: later).takeWhile Char.isDigit = Numeral.decimal n := by
  have digits : ∀ c ∈ Numeral.decimal n, c.isDigit = true := by
    intro c present
    obtain ⟨low, high⟩ := Numeral.mem_decimal present
    rw [Char.isDigit, Bool.and_eq_true]
    exact ⟨decide_eq_true low, decide_eq_true high⟩
  rw [List.takeWhile_append_of_pos digits]
  exact List.append_nil _

theorem readBufferSize?_declared (size : UInt64) (later : List Char) :
    readBufferSize?
        ("struct ReturnBuffer_".toList ++ (Numeral.decimal size.toNat ++ ' ' :: later))
      = some (some size) := by
  have word : Numeral.readWord 10 (Numeral.decimal size.toNat) = .ok size :=
    Numeral.readWord_digits readable_decimal size
  have shorter : (Numeral.decimal size.toNat).length
      ≠ (Numeral.decimal size.toNat ++ ' ' :: later).length := by
    rw [List.length_append, List.length_cons]
    omega
  simp only [readBufferSize?, Text.dropStart?_append, takeWhile_decimal, if_neg shorter, word]
  rfl

/-- The declaration of a buffer, behind its size. -/
def declaration (size : UInt64) : List Char :=
  "\x7b unsigned char bytes[".toList ++ Numeral.decimal size.toNat ++ "]; \x7d; auto ".toList
    ++ NativeCall.binding ++ " = ".toList

theorem declaration_eq (size : UInt64) :
    declaration size
      = "\x7b unsigned char bytes[".toList ++ Numeral.decimal size.toNat
        ++ "]; \x7d; auto ".toList ++ NativeCall.binding ++ " = ".toList := rfl

theorem not_mem_declaration (size : UInt64) : ')' ∉ declaration size := by
  have digits : ')' ∉ Numeral.decimal size.toNat := (unmarked_decimal _).closing
  rw [declaration_eq]
  exact List.not_mem_append (List.not_mem_append (List.not_mem_append
    (List.not_mem_append (by decide) digits) (by decide)) (by decide)) (by decide)

/-- No parenthesis is closed before the call of a function that returns a structure. -/
theorem not_mem_beforeCall (size : UInt64) :
    ')' ∉ "struct ReturnBuffer_".toList
      ++ (Numeral.decimal size.toNat ++ ' ' :: declaration size) :=
  List.not_mem_append (by decide) (List.not_mem_append (unmarked_decimal _).closing
    (List.not_mem_cons_of_ne_of_not_mem (by decide) (not_mem_declaration size)))

theorem not_mem_structure (size : UInt64) : ')' ∉ "struct ".toList ++ NativeCall.bufferName size :=
  List.not_mem_append (by decide)
    (List.not_mem_append (by decide) (unmarked_decimal _).closing)

theorem chars_of_register (shape : call.shape = .register) :
    call.chars = [] ++ call.application "unsigned long".toList ++ [] := by
  obtain ⟨address, operands, _⟩ := call
  cases shape
  exact (List.append_nil _).symm

theorem chars_of_buffer {size : UInt64} (shape : call.shape = .buffer size) :
    call.chars
      = "struct ReturnBuffer_".toList ++ (Numeral.decimal size.toNat ++ ' ' :: declaration size)
        ++ call.application ("struct ".toList ++ NativeCall.bufferName size)
        ++ ("; &".toList ++ NativeCall.binding) := by
  obtain ⟨address, operands, _⟩ := call
  cases shape
  have text : NativeCall.chars ⟨address, operands, .buffer size⟩
      = "struct ".toList ++ ("ReturnBuffer_".toList ++ Numeral.decimal size.toNat)
        ++ " \x7b unsigned char bytes[".toList ++ Numeral.decimal size.toNat
        ++ "]; \x7d; auto ".toList ++ NativeCall.binding ++ " = ".toList
        ++ NativeCall.application ⟨address, operands, .buffer size⟩
          ("struct ".toList ++ NativeCall.bufferName size)
        ++ "; &".toList ++ NativeCall.binding := rfl
  have name : "struct ReturnBuffer_".toList = "struct ".toList ++ "ReturnBuffer_".toList := by
    decide
  have body : " \x7b unsigned char bytes[".toList
      = ' ' :: "\x7b unsigned char bytes[".toList := by decide
  simp only [text, declaration_eq, name, body, List.append_assoc, List.cons_append]

/-- The text of a call declares a buffer just if the call wants one. -/
theorem readBufferSize?_chars (call : NativeCall) :
    readBufferSize? call.chars = some call.returnSize := by
  cases shape : call.shape with
  | register =>
    rw [chars_of_register shape, NativeCall.returnSize, shape]
    rfl
  | buffer size =>
    rw [chars_of_buffer shape, NativeCall.returnSize, shape, List.append_assoc, List.append_assoc,
      List.append_assoc, List.cons_append, readBufferSize?_declared]

/-- A call is read back from its text. -/
theorem read?_chars (legible : ∀ operand ∈ call.operands, operand.Legible) :
    read? call.chars
      = some ⟨call.address, call.operands.map Operand.value, call.returnSize⟩ := by
  have declared := readBufferSize?_chars call
  cases shape : call.shape with
  | register =>
    rw [chars_of_register shape] at declared ⊢
    exact read?_application legible (by decide) (by decide) [] declared
  | buffer size =>
    rw [chars_of_buffer shape] at declared ⊢
    exact read?_application legible (not_mem_beforeCall size) (not_mem_structure size) _ declared

theorem address_of_read?_application (plain : ')' ∉ before) (plain' : ')' ∉ returnType)
    (later : List Char) {text : CallText}
    (read : read? (before ++ call.application returnType ++ later) = some text) :
    text.address = call.address := by
  obtain ⟨earlier, callee⟩ := splitOnce_application call plain plain' later
  have address : Numeral.readWord 16 (Numeral.hexadecimal call.address.toNat) = .ok call.address :=
    Numeral.readWord_digits readable_hexadecimal _
  simp only [read?, callee, splitOnce_callee, address, Except.toOption, Option.bind_eq_bind,
    Option.bind_some, Option.bind_eq_some_iff] at read
  obtain ⟨_, -, _, -, _, -, _, -, same⟩ := read
  rw [← Option.some.inj same]

theorem bufferSize_of_read? {chars : List Char} {text : CallText}
    (read : read? chars = some text) : readBufferSize? chars = some text.bufferSize := by
  simp only [read?, Option.bind_eq_bind, Option.bind_eq_some_iff] at read
  obtain ⟨bufferSize, declared, _, -, _, -, _, -, _, -, _, -, _, -, same⟩ := read
  rw [declared, ← Option.some.inj same]

/-- However its literals are read, a call is read back as one of its callee, with its buffer. -/
theorem of_read?_chars {text : CallText} (read : read? call.chars = some text) :
    text.address = call.address ∧ text.bufferSize = call.returnSize := by
  have declared := (bufferSize_of_read? read).symm.trans (readBufferSize?_chars call)
  refine ⟨?_, Option.some.inj declared⟩
  cases shape : call.shape with
  | register =>
    rw [chars_of_register shape] at read
    exact address_of_read?_application (by decide) (by decide) [] read
  | buffer size =>
    rw [chars_of_buffer shape] at read
    exact address_of_read?_application (not_mem_beforeCall size) (not_mem_structure size) _ read

end CallText
end DebugBridge
