import DebugBridge.Proofs.Result
import DebugBridge.Proofs.Text.Cutting
import DebugBridge.Server.Query

/-!
# Which expressions can be read

An expression is refused when a part of it is not what has to stand there. Which part is reported
depends on the order in which the parts are read; whether one is does not.

Results:
1. `memoryAt_isOk_iff`, `call_isOk_iff`: the forms that have parts.
2. `read_isOk_iff`: all expressions.
-/

namespace DebugBridge.Query

/-! ## Parts -/

def IsNumber (text : List Char) : Prop :=
  ∃ n, readNumber text = .ok n

/-- A type that is known, a colon and a value. -/
def IsArgument (token : List Char) : Prop :=
  ∃ name value kind, Text.splitOnce [':'] token = some (name, value) ∧
    argumentKind? (String.ofList name) = some kind

/-- An address, which a size may follow behind a colon. -/
def IsPlace (text : List Char) : Prop :=
  match Text.splitOnce [':'] text with
  | some (address, size) => IsNumber address ∧ IsNumber size
  | none => IsNumber text

/-- The address of a function, or that of a method and its receiver. -/
def IsCallee (token : List Char) : Prop :=
  match Text.splitOnce ['@'] token with
  | some (code, receiver) => IsNumber code ∧ IsNumber receiver
  | none => IsNumber token

/-- A callee with arguments. -/
def IsInvocation : List (List Char) → Prop
  | [] => False
  | callee :: arguments => IsCallee callee ∧ ∀ argument ∈ arguments, IsArgument argument

/-- An invocation, which the size of its result may follow behind an arrow. -/
def IsCall (text : List Char) : Prop :=
  match Text.splitOnce ['-', '>'] text with
  | some (invocation, size) => IsInvocation (Text.words invocation) ∧ IsNumber size
  | none => IsInvocation (Text.words text)

/-- Every part of an expression is what has to stand there. Expressions of other forms have no such
parts. -/
structure WellFormed (text : List Char) : Prop where
  memory : ∀ place, text = '*' :: place → IsPlace place
  allocation : ∀ size, text = "malloc ".toList ++ size → IsNumber size
  call : ∀ call, text = "call ".toList ++ call → IsCall call

/-! ## Reading parts -/

theorem number_isOk_iff (text : List Char) : (∃ n, number text = .ok n) ↔ IsNumber text := by
  unfold number IsNumber
  cases readNumber text <;> simp [Except.mapError]

theorem size_isOk_iff (role : SizeRole) (text : List Char) :
    (∃ n, size role text = .ok n) ↔ IsNumber text := by
  unfold size IsNumber
  cases readNumber text <;> simp [Except.mapError]

theorem argument_isOk_iff (token : List Char) :
    (∃ made, argument token = .ok made) ↔ IsArgument token := by
  unfold argument IsArgument
  split
  · next missing => simp [missing]
  · next name value found =>
    simp only [found, Option.some.injEq, Prod.mk.injEq]
    split
    · next kind known =>
      exact ⟨fun _ => ⟨name, value, kind, ⟨rfl, rfl⟩, known⟩, fun _ => ⟨_, rfl⟩⟩
    · next unknown =>
      refine ⟨nofun, ?_⟩
      rintro ⟨_, _, kind, ⟨rfl, rfl⟩, known⟩
      exact nomatch unknown.symm.trans known

/-! ## Reading expressions -/

theorem memoryAt_isOk_iff (text : List Char) :
    (∃ query, memoryAt text = .ok query) ↔ IsPlace text := by
  unfold memoryAt IsPlace
  cases Text.splitOnce [':'] text with
  | none => exact Result.bind_pure_isOk_iff.trans (number_isOk_iff text)
  | some cut =>
    obtain ⟨address, rest⟩ := cut
    dsimp only
    rw [← number_isOk_iff address]
    exact Result.bind_isOk_iff fun _ => Result.bind_pure_isOk_iff.trans (size_isOk_iff .read rest)

theorem callee_isOk_iff (returnSize : Option UInt64) (tokens : List (List Char)) :
    (∃ query, callee returnSize tokens = .ok query) ↔ IsInvocation tokens := by
  cases tokens with
  | nil => exact ⟨nofun, False.elim⟩
  | cons first tokens =>
    have arguments : (∃ made, tokens.mapM argument = .ok made) ↔
        ∀ token ∈ tokens, IsArgument token := by
      simp only [Result.mapM_isOk_iff, argument_isOk_iff]
    rw [IsInvocation, ← arguments, and_comm]
    refine Result.bind_isOk_iff fun made => ?_
    unfold IsCallee
    cases Text.splitOnce ['@'] first with
    | none => exact Result.bind_pure_isOk_iff.trans (number_isOk_iff first)
    | some cut =>
      obtain ⟨code, receiver⟩ := cut
      dsimp only
      rw [← number_isOk_iff code]
      exact Result.bind_isOk_iff fun _ => Result.bind_pure_isOk_iff.trans (number_isOk_iff receiver)

theorem call_isOk_iff (text : List Char) : (∃ query, call text = .ok query) ↔ IsCall text := by
  unfold call IsCall
  cases Text.splitOnce ['-', '>'] text with
  | none => exact callee_isOk_iff none _
  | some cut =>
    obtain ⟨invocation, returned⟩ := cut
    dsimp only
    rw [and_comm, ← size_isOk_iff .return returned]
    exact Result.bind_isOk_iff fun size => callee_isOk_iff (some size) _

/-- An expression without parts that can be wrong. -/
theorem wellFormed_of_plain {text : List Char} (memory : ∀ place, text = '*' :: place → False)
    (allocation : Text.dropStart? "malloc ".toList text = none)
    (call : Text.dropStart? "call ".toList text = none) : WellFormed text where
  memory place same := (memory place same).elim
  allocation _ same := nomatch allocation.symm.trans (Text.dropStart?_eq_some_iff.mpr same)
  call _ same := nomatch call.symm.trans (Text.dropStart?_eq_some_iff.mpr same)

theorem ofWords_isOk_iff {text : List Char} (memory : ∀ place, text = '*' :: place → False) :
    (∃ query, ofWords text = .ok query) ↔ WellFormed text := by
  unfold ofWords
  cases named : Text.dropStart? "typeof ".toList text with
  | some name =>
    cases Text.dropStart?_eq_some_iff.mp named
    exact iff_of_true ⟨_, rfl⟩ (wellFormed_of_plain memory rfl rfl)
  | none =>
    cases allocates : Text.dropStart? "malloc ".toList text with
    | some size =>
      cases Text.dropStart?_eq_some_iff.mp allocates
      refine (Result.bind_pure_isOk_iff.trans (size_isOk_iff .allocation size)).trans ⟨?_, ?_⟩
      · intro number
        refine ⟨fun place same => (memory place same).elim, fun other same => ?_, nofun⟩
        rwa [← List.append_cancel_left same]
      · intro formed
        exact formed.allocation size rfl
    | none =>
      cases calls : Text.dropStart? "call ".toList text with
      | some spec =>
        cases Text.dropStart?_eq_some_iff.mp calls
        refine (call_isOk_iff spec).trans ⟨?_, ?_⟩
        · intro isCall
          refine ⟨fun place same => (memory place same).elim, nofun, fun other same => ?_⟩
          rwa [← List.append_cancel_left same]
        · intro formed
          exact formed.call spec rfl
      | none => exact iff_of_true ⟨_, rfl⟩ (wellFormed_of_plain memory allocates calls)

/-- An expression is read just when all of its parts are what they have to be. -/
theorem read_isOk_iff (text : List Char) : (∃ query, read text = .ok query) ↔ WellFormed text := by
  unfold read
  split
  · next name => exact iff_of_true ⟨_, rfl⟩ (wellFormed_of_plain nofun rfl rfl)
  · next place =>
    refine (memoryAt_isOk_iff place).trans ⟨fun isPlace => ⟨?_, nofun, nofun⟩, ?_⟩
    · intro other same
      cases same
      exact isPlace
    · intro formed
      exact formed.memory place rfl
  · next expression _ memory =>
    split
    · next same =>
      cases same
      exact iff_of_true ⟨_, rfl⟩ (wellFormed_of_plain memory rfl rfl)
    split
    · next same =>
      cases same
      exact iff_of_true ⟨_, rfl⟩ (wellFormed_of_plain memory rfl rfl)
    split
    · next same =>
      cases same
      exact iff_of_true ⟨_, rfl⟩ (wellFormed_of_plain memory rfl rfl)
    · exact ofWords_isOk_iff memory

end DebugBridge.Query
