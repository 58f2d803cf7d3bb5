import DebugBridge.Proofs.Debugger.Calls
import DebugBridge.Proofs.Number.Literal

/-!
# What stands in the text of a call

The text of a call is a fixed form with places for literals, one for each operand. Which characters
a literal can have depends on the kind of its argument alone, so nothing that somebody else wrote
gets into the text. Which literal it is depends on the number that the argument says and not on how
it is spelt; of a float that says zero the sign belongs to the number.

Results:
1. `isLiteral_of_ofArgument`: an argument that is accepted becomes a literal of its kind.
2. `text_eq_form`: the text of a call is the form, filled with these literals.
3. `ofArgument_congr`: arguments that say one number become one literal, or none of them does.
4. `Calling.unspliced`: all this for a call of a function and of a method.
-/

namespace DebugBridge

open Numeral (Run decimalDigits hexadecimalDigits run_decimal run_hexadecimal)

/-! ## The form -/

/-- The type of the parameter that takes an argument of a kind. -/
def ArgumentKind.parameterType : ArgumentKind → String
  | .pointer => "void*"
  | .integer => "unsigned long"
  | .bool => "int"
  | .float => "double"
  | .other => "unsigned long"

/-- The literals that an argument of a kind can become. -/
inductive IsLiteral : ArgumentKind → List Char → Prop
  | pointer {digits : List Char} : Run hexadecimalDigits digits →
      IsLiteral .pointer ("(void*)0x".toList ++ digits)
  | integer {digits : List Char} : Run decimalDigits digits →
      IsLiteral .integer (digits ++ "ul".toList)
  | other {digits : List Char} : Run decimalDigits digits →
      IsLiteral .other (digits ++ "ul".toList)
  | off : IsLiteral .bool ['0']
  | on : IsLiteral .bool ['1']
  | float {text : List Char} : Binary64.Literal text → IsLiteral .float text

namespace Calling

/-- The kinds of what is passed: a receiver is a pointer before the arguments. -/
def kinds (calling : Calling) : List ArgumentKind :=
  calling.receiver.toList.map (fun _ => .pointer) ++ calling.arguments.map Argument.kind

/-- The call of a function that returns the given type. -/
def application (calling : Calling) (returned : String) (literals : List (List Char)) : String :=
  let callee := String.ofList (Numeral.hexadecimal calling.callee.toNat)
  let parameters := calling.kinds.map ArgumentKind.parameterType
  let types := if parameters.isEmpty then "void" else ", ".intercalate parameters
  let passed := ", ".intercalate (literals.map String.ofList)
  s!"(({returned} (*)({types}))0x{callee})({passed})"

/-- The text of a call with these literals. A result that is larger than a register is declared and
bound, and its address is taken. -/
def form (calling : Calling) (literals : List (List Char)) : String :=
  match calling.returnSize with
  | none => calling.application "unsigned long" literals
  | some size =>
    let size := String.ofList (Numeral.decimal size.toNat)
    let buffer := s!"struct ReturnBuffer_{size}"
    let call := calling.application buffer literals
    s!"{buffer} \x7b unsigned char bytes[{size}]; \x7d; auto __tether_result = {call}; &__tether_result"

/-- The call is accepted and has this text. -/
def Renders (calling : Calling) (text : String) : Prop :=
  ∃ call, calling.build = .ok call ∧ call.text = text

end Calling

/-! ## What arguments say -/

/-- Arguments of one kind that say one number. A flag is one where it says true, else zero. -/
inductive SameNumber : Argument → Argument → Prop
  | pointer {value value' : String} {n : Nat} : Addresses (Text.trim value.toList) n →
      Addresses (Text.trim value'.toList) n → SameNumber ⟨value, .pointer⟩ ⟨value', .pointer⟩
  | integer {value value' : String} {z : Int} : Denotes (Text.trim value.toList) z →
      Denotes (Text.trim value'.toList) z → SameNumber ⟨value, .integer⟩ ⟨value', .integer⟩
  | other {value value' : String} {z : Int} : Denotes (Text.trim value.toList) z →
      Denotes (Text.trim value'.toList) z → SameNumber ⟨value, .other⟩ ⟨value', .other⟩
  | flag {value value' : String} : Operand.readFlag value.toList = Operand.readFlag value'.toList →
      SameNumber ⟨value, .bool⟩ ⟨value', .bool⟩
  | float {value value' : String} {x x' : Binary64} :
      Binary64.readText? (Text.trim value.toList) = some x →
      Binary64.readText? (Text.trim value'.toList) = some x' → x.inSteps = x'.inSteps →
      SameNumber ⟨value, .float⟩ ⟨value', .float⟩

/-- Floats that say zero say it with one sign. -/
def SameZero (argument argument' : Argument) : Prop :=
  ∀ x x', argument.kind = .float →
    Binary64.readText? (Text.trim argument.value.toList) = some x →
    Binary64.readText? (Text.trim argument'.value.toList) = some x' →
    x.inSteps = 0 → x.isNegative = x'.isNegative

namespace Operand

/-- What a text is read as. -/
def readAs? (kind : ArgumentKind) (text : List Char) : Option Operand :=
  match kind with
  | .pointer => (readUnsigned? text).map .pointer
  | .integer => (readInteger? text).map .integer
  | .bool => some (.flag (readFlag text))
  | .float => (readFloat? text).map .float
  | .other => (readInteger? text).map .integer

theorem ofArgument_eq (argument : Argument) :
    ofArgument argument =
      match readAs? argument.kind argument.value.toList with
      | some operand => .ok operand
      | none => .error (.invalidArgument argument.kind argument.value) := rfl

theorem ofArgument_eq_ok_iff {argument : Argument} {operand : Operand} :
    ofArgument argument = .ok operand ↔
      readAs? argument.kind argument.value.toList = some operand := by
  rw [ofArgument_eq]
  cases readAs? argument.kind argument.value.toList with
  | none => exact ⟨nofun, nofun⟩
  | some made => rw [Except.ok.injEq, Option.some.injEq]

/-! ## Literals -/

/-- An argument that is accepted is passed as the type and as a literal of its kind. -/
theorem isLiteral_of_ofArgument {argument : Argument} {operand : Operand}
    (accepted : ofArgument argument = .ok operand) :
    operand.nativeType = argument.kind.parameterType.toList ∧
      IsLiteral argument.kind operand.chars := by
  obtain ⟨value, kind⟩ := argument
  have read := ofArgument_eq_ok_iff.mp accepted
  cases kind with
  | pointer =>
    obtain ⟨address, -, rfl⟩ := Option.map_eq_some_iff.mp read
    exact ⟨rfl, .pointer (run_hexadecimal _)⟩
  | integer =>
    obtain ⟨w, -, rfl⟩ := Option.map_eq_some_iff.mp read
    exact ⟨rfl, .integer (run_decimal _)⟩
  | bool =>
    cases read
    refine ⟨rfl, ?_⟩
    cases readFlag value.toList
    · exact .off
    · exact .on
  | float =>
    obtain ⟨x, finite, rfl⟩ := Option.map_eq_some_iff.mp read
    exact ⟨rfl, .float (Binary64.Layout.literal_chars rfl (Option.filter_eq_some_iff.mp finite).2)⟩
  | other =>
    obtain ⟨w, -, rfl⟩ := Option.map_eq_some_iff.mp read
    exact ⟨rfl, .other (run_decimal _)⟩

theorem areLiterals_of_mapM {arguments : List Argument} {operands : List Operand}
    (accepted : arguments.mapM ofArgument = .ok operands) :
    operands.map nativeType
        = arguments.map (fun argument => argument.kind.parameterType.toList) ∧
      List.Forall₂ IsLiteral (arguments.map Argument.kind) (operands.map chars) := by
  induction Result.mapM_eq_ok_iff.mp accepted with
  | nil => exact ⟨rfl, .nil⟩
  | cons first _ ih =>
    obtain ⟨type, literal⟩ := isLiteral_of_ofArgument first
    obtain ⟨types, literals⟩ := ih (Result.mapM_eq_ok_iff.mpr ‹_›)
    exact ⟨congrArg₂ List.cons type types, .cons literal literals⟩

/-! ## Numbers -/

section
variable {text text' : List Char}

theorem readUnsigned?_congr {n : Nat} (addresses : Addresses (Text.trim text) n)
    (addresses' : Addresses (Text.trim text') n) : readUnsigned? text = readUnsigned? text' := by
  ext w
  rw [readUnsigned?_eq_some_iff, readUnsigned?_eq_some_iff]
  constructor <;> intro word
  · exact word.unique addresses ▸ addresses'
  · exact word.unique addresses' ▸ addresses

theorem readInteger?_congr {z : Int} (denotes : Denotes (Text.trim text) z)
    (denotes' : Denotes (Text.trim text') z) : readInteger? text = readInteger? text' := by
  ext w
  rw [readInteger?_eq_some_iff, readInteger?_eq_some_iff]
  constructor <;> rintro ⟨z', number, fits⟩
  · exact ⟨z', number.unique denotes ▸ denotes', fits⟩
  · exact ⟨z', number.unique denotes' ▸ denotes, fits⟩

theorem readFloat?_congr {x x' : Binary64} (read : Binary64.readText? (Text.trim text) = some x)
    (read' : Binary64.readText? (Text.trim text') = some x') (same : x.inSteps = x'.inSteps)
    (zero : x.inSteps = 0 → x.isNegative = x'.isNegative) : readFloat? text = readFloat? text' := by
  rw [readFloat?, readFloat?, read, read', Binary64.eq_of_inSteps same zero]

end

/-- Arguments that say one number are accepted alike, and become the same. -/
theorem ofArgument_congr {argument argument' : Argument} (number : SameNumber argument argument')
    (zero : SameZero argument argument') (operand : Operand) :
    ofArgument argument = .ok operand ↔ ofArgument argument' = .ok operand := by
  rw [ofArgument_eq_ok_iff, ofArgument_eq_ok_iff]
  apply Eq.to_iff
  congr 1
  cases number with
  | pointer addresses addresses' =>
    exact congrArg (Option.map pointer) (readUnsigned?_congr addresses addresses')
  | integer denotes denotes' =>
    exact congrArg (Option.map integer) (readInteger?_congr denotes denotes')
  | other denotes denotes' =>
    exact congrArg (Option.map integer) (readInteger?_congr denotes denotes')
  | flag same => exact congrArg (fun value => some (flag value)) same
  | @float _ _ x x' read read' same =>
    exact congrArg (Option.map float)
      (readFloat?_congr read read' same (zero x x' rfl read read'))

theorem mapM_congr {arguments arguments' : List Argument}
    (same : List.Forall₂ (fun a a' => SameNumber a a' ∧ SameZero a a') arguments arguments')
    (operands : List Operand) :
    arguments.mapM ofArgument = .ok operands ↔ arguments'.mapM ofArgument = .ok operands := by
  induction same generalizing operands with
  | nil => rfl
  | cons first _ ih =>
    simp only [List.mapM_cons, Result.bind_eq_ok, ofArgument_congr first.1 first.2, ih]

end Operand

/-! ## Texts -/

theorem Text.joinWith_eq_intercalate (between : List Char) (texts : List (List Char)) :
    Text.joinWith between texts = between.intercalate texts := by
  induction texts with
  | nil => rfl
  | cons text texts ih =>
    cases texts with
    | nil => simp [Text.joinWith]
    | cons next texts => simp [Text.joinWith, ih, List.intercalate]

theorem Text.toList_intercalate (between : String) (texts : List (List Char)) :
    (between.intercalate (texts.map String.ofList)).toList
      = Text.joinWith between.toList texts := by
  have each : String.toList ∘ String.ofList = id := funext fun _ => String.toList_ofList
  rw [String.toList_intercalate, List.map_map, each, List.map_id, joinWith_eq_intercalate]

theorem toString_string (text : String) : toString text = text := rfl

namespace Calling

variable {calling : Calling} {call : NativeCall}

/-- What is passed to a call that is accepted. -/
theorem areLiterals_of_build (accepted : calling.build = .ok call) :
    call.operands.map Operand.nativeType
        = calling.kinds.map (fun kind => kind.parameterType.toList) ∧
      List.Forall₂ IsLiteral calling.kinds (call.operands.map Operand.chars) := by
  obtain ⟨operands, made, -, passed, -⟩ := build_eq_ok accepted
  obtain ⟨types, literals⟩ := Operand.areLiterals_of_mapM made
  unfold kinds
  rw [passed]
  cases calling.receiver with
  | none =>
    simp only [Option.toList_none, List.map_nil, List.nil_append, List.map_map]
    exact ⟨types, literals⟩
  | some receiver =>
    simp only [Option.toList_some, List.map_cons, List.map_nil, List.cons_append, List.nil_append,
      List.map_map]
    exact ⟨congrArg₂ List.cons rfl types, .cons (.pointer (run_hexadecimal _)) literals⟩

theorem toList_application (accepted : calling.build = .ok call) (returned : String) :
    (calling.application returned (call.operands.map Operand.chars)).toList
      = call.application returned.toList := by
  obtain ⟨operands, made, callee, passed, -⟩ := build_eq_ok accepted
  obtain ⟨types, -⟩ := areLiterals_of_build accepted
  have parameters :
      (if (calling.kinds.map ArgumentKind.parameterType).isEmpty then "void"
        else ", ".intercalate (calling.kinds.map ArgumentKind.parameterType)).toList
        = NativeCall.parameterTypes call.operands := by
    have none : call.operands.isEmpty
        = (calling.kinds.map ArgumentKind.parameterType).isEmpty := by
      simpa using congrArg List.isEmpty types
    unfold NativeCall.parameterTypes
    rw [types, none, Text.joinWith_eq_intercalate]
    split
    · rfl
    · rw [String.toList_intercalate, List.map_map]
      rfl
  have mark : "))0x".toList = "))".toList ++ ['0', 'x'] := by simp
  unfold application NativeCall.application NativeCall.literals Numeral.address
  simp only [toString_string, String.toList_append, Text.toList_intercalate, String.toList_ofList,
    parameters, callee, mark, List.append_assoc, List.cons_append, List.nil_append]

/-- The text of a call is the form, filled with its literals. -/
theorem text_eq_form (accepted : calling.build = .ok call) :
    call.text = calling.form (call.operands.map Operand.chars) := by
  obtain ⟨-, -, -, -, size⟩ := build_eq_ok accepted
  apply String.ext
  unfold form NativeCall.text NativeCall.chars
  rw [String.toList_ofList, shape_eq size, shape]
  cases calling.returnSize with
  | none => exact (toList_application accepted _).symm
  | some size =>
    have buffer : "struct ReturnBuffer_".toList = "struct ".toList ++ "ReturnBuffer_".toList := by
      simp
    have bound : "]; \x7d; auto __tether_result = ".toList
        = "]; \x7d; auto ".toList ++ (NativeCall.binding ++ " = ".toList) := by
      unfold NativeCall.binding
      simp
    have taken : "; &__tether_result".toList = "; &".toList ++ NativeCall.binding := by
      unfold NativeCall.binding
      simp
    simp only [toString_string, String.toList_append, toList_application accepted,
      String.toList_ofList]
    unfold NativeCall.bufferName
    rw [buffer, bound, taken]
    simp only [List.append_assoc]

theorem build_congr {arguments : List Argument}
    (same : List.Forall₂ (fun a a' => SameNumber a a' ∧ SameZero a a') calling.arguments arguments) :
    calling.build = .ok call ↔ { calling with arguments := arguments }.build = .ok call := by
  obtain ⟨callee, receiver, before, returnSize⟩ := calling
  cases receiver <;>
    simp only [build, NativeCall.ofMethod, NativeCall.ofFunction, NativeCall.build,
      Result.bind_eq_ok, Operand.mapM_congr same]

/-- The text of a call that is accepted is the form of the call, filled with literals that fit the
kinds of what is passed, one for each. A call that is not accepted has no text. Whether it is, and
which text it has, depends on no more of the arguments than their kinds and the numbers that they
say. -/
theorem unspliced (calling : Calling) :
    (∀ text, calling.Renders text →
        ∃ literals, List.Forall₂ IsLiteral calling.kinds literals ∧ text = calling.form literals) ∧
      ((∃ text, ∀ text', calling.Renders text' ↔ text' = text) ∨
        (∃ fault, calling.build = .error fault) ∧ ∀ text, ¬ calling.Renders text) ∧
      ∀ arguments,
        List.Forall₂ (fun a a' => SameNumber a a' ∧ SameZero a a') calling.arguments arguments →
        ∀ text, calling.Renders text ↔ { calling with arguments := arguments }.Renders text := by
  refine ⟨?_, ?_, ?_⟩
  · rintro text ⟨call, accepted, rfl⟩
    exact ⟨_, (areLiterals_of_build accepted).2, text_eq_form accepted⟩
  · unfold Renders
    cases calling.build with
    | error fault =>
      right
      refine ⟨⟨fault, rfl⟩, ?_⟩
      rintro text ⟨call, accepted, -⟩
      cases accepted
    | ok call =>
      refine .inl ⟨call.text, fun text => ⟨?_, ?_⟩⟩
      · rintro ⟨call', accepted, rfl⟩
        cases accepted
        rfl
      · rintro rfl
        exact ⟨call, rfl, rfl⟩
  · intro arguments same text
    unfold Renders
    simp only [build_congr same]

/-- The arguments of `scaling` in other words. -/
def respelt : List Argument :=
  [⟨"255", .pointer⟩, ⟨" -05", .integer⟩, ⟨"1", .bool⟩, ⟨"25e-1", .float⟩, ⟨"0X7", .other⟩]

theorem same_respelt :
    List.Forall₂ (fun a a' => SameNumber a a' ∧ SameZero a a') scaling.arguments respelt := by
  have address {text : String} (read : Operand.readUnsigned? text.toList = some 0xFF) :
      Addresses (Text.trim text.toList) 0xFF := Operand.readUnsigned?_eq_some_iff.mp read
  have seven {text : String} (read : Operand.readUnsigned? text.toList = some 7) :
      Denotes (Text.trim text.toList) 7 := (Operand.readUnsigned?_eq_some_iff.mp read).denotes
  have minusFive {text : String} (digits : List Char)
      (spelt : Text.trim text.toList = '-' :: digits) (some' : digits ≠ [])
      (read : Numeral.readDigits 10 6 0 digits = .ok 5) : Denotes (Text.trim text.toList) (-5) :=
    spelt ▸ .negative some' (Numeral.spells_of_readDigits (by decide) read).1
  have five : SameNumber ⟨"-5", .integer⟩ ⟨" -05", .integer⟩ :=
    .integer (minusFive ['5'] (by decide) (by decide) rfl)
      (minusFive ['0', '5'] (by decide) (by decide) rfl)
  have half : Binary64.readText? (Text.trim "2.5".toList) = some ⟨0x4004000000000000⟩ := by
    decide +kernel
  have half' : Binary64.readText? (Text.trim "25e-1".toList) = some ⟨0x4004000000000000⟩ := by
    decide +kernel
  have sign : SameZero ⟨"2.5", .float⟩ ⟨"25e-1", .float⟩ := by
    intro x x' _ read read' _
    rw [Option.some.inj (read.symm.trans half), Option.some.inj (read'.symm.trans half')]
  refine .cons ⟨.pointer (address (by decide)) (address (by decide)), nofun⟩ ?_
  refine .cons ⟨five, nofun⟩ ?_
  refine .cons ⟨.flag (by decide), nofun⟩ ?_
  refine .cons ⟨.float half half' rfl, sign⟩ ?_
  exact .cons ⟨.other (seven (by decide)) (seven (by decide)), nofun⟩ .nil

/-- The text of `scaled`. -/
def scaledText : String :=
  "struct ReturnBuffer_24 \x7b unsigned char bytes[24]; \x7d; auto __tether_result = "
    ++ "((struct ReturnBuffer_24 (*)(void*, void*, unsigned long, int, double, unsigned long))0x4100)"
    ++ "((void*)0x60000010, (void*)0xff, 18446744073709551611ul, 1, 2.5, 7ul); &__tether_result"

theorem unspliced_scaling :
    scaling.Renders scaledText ∧
      (∃ literals, List.Forall₂ IsLiteral scaling.kinds literals ∧
        scaledText = scaling.form literals) ∧
      List.Forall₂ (fun a a' => SameNumber a a' ∧ SameZero a a') scaling.arguments respelt ∧
      { scaling with arguments := respelt }.Renders scaledText := by
  have accepted : scaling.build = .ok scaled := Result.eq_ok_of_toOption (by decide +kernel)
  have renders : scaling.Renders scaledText := ⟨scaled, accepted, by decide +kernel⟩
  obtain ⟨fills, -, same⟩ := unspliced scaling
  exact ⟨renders, fills scaledText renders, same_respelt,
    (same respelt same_respelt scaledText).mp renders⟩

/-- A call with a float that says zero. -/
def resting : Calling where
  callee := 0x4100
  receiver := none
  arguments := [⟨"0", .float⟩]
  returnSize := none

/-- Zero and minus zero are one number, and yet they are written as two literals. -/
theorem zero_sign_shows :
    List.Forall₂ SameNumber resting.arguments [⟨"-0", .float⟩] ∧
      resting.Renders "((unsigned long (*)(double))0x4100)(0.0)" ∧
      { resting with arguments := [⟨"-0", .float⟩] }.Renders
        "((unsigned long (*)(double))0x4100)(-0.0)" ∧
      ¬ { resting with arguments := [⟨"-0", .float⟩] }.Renders
        "((unsigned long (*)(double))0x4100)(0.0)" := by
  have zero : Binary64.readText? (Text.trim "0".toList) = some ⟨0⟩ := by decide +kernel
  have minus : Binary64.readText? (Text.trim "-0".toList) = some ⟨0x8000000000000000⟩ := by
    decide +kernel
  have plain : resting.build = .ok ⟨0x4100, [.float ⟨0⟩], .register⟩ :=
    Result.eq_ok_of_toOption (by decide +kernel)
  have signed : { resting with arguments := [⟨"-0", .float⟩] }.build
      = .ok ⟨0x4100, [.float ⟨0x8000000000000000⟩], .register⟩ :=
    Result.eq_ok_of_toOption (by decide +kernel)
  refine ⟨.cons (.float zero minus rfl) .nil, ⟨_, plain, by decide +kernel⟩,
    ⟨_, signed, by decide +kernel⟩, ?_⟩
  rintro ⟨call, accepted, text⟩
  cases signed.symm.trans accepted
  exact absurd text (by decide +kernel)

end Calling
end DebugBridge
