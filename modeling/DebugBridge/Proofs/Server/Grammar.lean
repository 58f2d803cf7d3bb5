import DebugBridge.Proofs.Number.Reading
import DebugBridge.Proofs.Server.Inquiry
import DebugBridge.Proofs.Text.Spacing

/-!
# What an expression means

The expressions of the probe engine have a grammar of their own, in which white space may stand
where it separates. `Means` is that grammar, with the event that each expression asks for. An
expression of no form of its own asks for its own evaluation.

A keyword is the word and the one space behind it, and a callee and an argument are each a word
without white space; so `malloc`, a tab, a space and a number is no allocation.

Results:
1. `readNumber_of_number`, `argument_of_types`, `callee_of_invokes`: the parts.
2. `read_of_means`: every form of expression.
3. `Probe.handle_means`: a command asks for what its expression means, and for nothing before that.
-/

namespace DebugBridge.Query

open Numeral (Spells digitValue?)
open Text (Blanks Word Bare Spaced isBlank)

/-! ## Grammar -/

/-- A number in decimal, or in hexadecimal after `0x`. -/
inductive Written : List Char → UInt64 → Prop
  | decimal {digits : List Char} {n : UInt64} : digits ≠ [] → Spells 10 digits n.toNat →
      Written digits n
  | hexadecimal {digits : List Char} {n : UInt64} : digits ≠ [] → Spells 16 digits n.toNat →
      Written ('0' :: 'x' :: digits) n

/-- The same with white space around it. -/
inductive Number : List Char → UInt64 → Prop
  | mk {before digits after : List Char} {n : UInt64} : Blanks before → Written digits n →
      Blanks after → Number (before ++ digits ++ after) n

/-- The names of the types of arguments. -/
inductive Names : List Char → ArgumentKind → Prop
  | pointer : Names ['p', 't', 'r'] .pointer
  | integer : Names ['i', 'n', 't'] .integer
  | bool : Names ['b', 'o', 'o', 'l'] .bool
  | float : Names ['f', 'l', 'o', 'a', 't'] .float

/-- An argument: its type, a colon, and any text that holds neither white space nor an arrow. -/
inductive Types : List Char → Argument → Prop
  | mk {name value : List Char} {kind : ArgumentKind} : Names name kind →
      (∀ c ∈ value, isBlank c = false) → ¬ ['-', '>'] <:+: value →
      Types (name ++ ':' :: value) ⟨String.ofList value, kind⟩

/-- A callee and its arguments, and what they ask for when it is known how large the result is. -/
inductive Invokes : List Char → (Option UInt64 → Request) → Prop
  | function {text code : List Char} {tokens : List (List Char)} {address : UInt64}
      {arguments : List Argument} : Written code address → List.Forall₂ Types tokens arguments →
      Spaced text (code :: tokens) → Invokes text (.callFunction address arguments)
  | method {text code object : List Char} {tokens : List (List Char)} {address receiver : UInt64}
      {arguments : List Argument} : Written code address → Written object receiver →
      List.Forall₂ Types tokens arguments → Spaced text ((code ++ '@' :: object) :: tokens) →
      Invokes text (.callMethod address receiver arguments)

/-- An expression that has none of the forms of the probe engine. -/
def Foreign (text : List Char) : Prop :=
  (∀ name ∈ ["frame", "thread", "base"], text ≠ name.toList) ∧
    ∀ start ∈ ["$", "*", "typeof ", "malloc ", "call "], ¬ start.toList <+: text

/-- What an expression without white space around it asks for. -/
inductive Means : List Char → Request → Prop
  | register {name : List Char} : Means ('$' :: name) (.readRegister (String.ofList name))
  | memory {place : List Char} {address : UInt64} : Number place address →
      Means ('*' :: place) (.readMemory address 8)
  | memorySized {place length : List Char} {address size : UInt64} : Number place address →
      Number length size → Means ('*' :: (place ++ ':' :: length)) (.readMemory address size)
  | typeOf {name : List Char} : Means ("typeof ".toList ++ name)
      (.variableType (String.ofList (Text.trim name)))
  | allocation {length : List Char} {size : UInt64} : Number length size →
      Means ("malloc ".toList ++ length) (.allocate size)
  | call {text : List Char} {ask : Option UInt64 → Request} : Invokes text ask →
      Means ("call ".toList ++ text) (ask none)
  | callSized {text length : List Char} {ask : Option UInt64 → Request} {size : UInt64} :
      Invokes text ask → Number length size →
      Means ("call ".toList ++ (text ++ ['-', '>'] ++ length)) (ask (some size))
  | native {text : List Char} : Foreign text → Means text (.evaluate (String.ofList text))

/-! ## Numbers -/

variable {text later : List Char} {n : UInt64} {c : Char}

theorem digitValue?_of_isBlank (base : Nat) (blank : isBlank c = true) :
    digitValue? base c = none := by
  have outside : ¬ (0x30 ≤ c.toNat ∧ c.toNat ≤ 0x39) ∧ ¬ (0x61 ≤ c.toNat ∧ c.toNat ≤ 0x66) ∧
      ¬ (0x41 ≤ c.toNat ∧ c.toNat ≤ 0x46) := by
    unfold isBlank at blank
    simp only [Bool.or_eq_true, Bool.and_eq_true, decide_eq_true_eq, beq_iff_eq] at blank
    omega
  obtain ⟨digit, lower, upper⟩ := outside
  unfold digitValue?
  dsimp only
  rw [if_neg digit, if_neg lower, if_neg upper, if_neg (Nat.lt_irrefl base)]

/-- A number is made of digits and of the mark of its notation. -/
theorem Written.not_mem (written : Written text n) (mark : c ≠ 'x')
    (foreign : ∀ base ∈ [10, 16], digitValue? base c = none) : c ∉ text := by
  have zero : c ≠ '0' := by
    rintro rfl
    exact nomatch foreign 10 (by decide)
  cases written with
  | decimal _ spells => exact fun present => spells.digit_of_mem present (foreign 10 (by decide))
  | hexadecimal _ spells =>
    rw [List.mem_cons, List.mem_cons]
    rintro (same | same | present)
    · exact zero same
    · exact mark same
    · exact spells.digit_of_mem present (foreign 16 (by decide))

theorem Written.word (written : Written text n) : Word text where
  some' := by cases written <;> simp_all
  solid c present := by
    cases blank : isBlank c with
    | false => rfl
    | true =>
      refine absurd present (written.not_mem ?_ fun base _ => digitValue?_of_isBlank base blank)
      rintro rfl
      exact absurd blank (by decide)

theorem Number.not_mem (number : Number text n) (mark : c ≠ 'x') (solid : isBlank c = false)
    (foreign : ∀ base ∈ [10, 16], digitValue? base c = none) : c ∉ text := by
  obtain ⟨blanks, written, blanks'⟩ := number
  exact List.not_mem_append
    (List.not_mem_append (blanks.not_mem solid) (written.not_mem mark foreign))
    (blanks'.not_mem solid)

theorem readWord_of_written (written : Written text n) :
    (match Text.dropStart? ['0', 'x'] text with
      | some digits => Numeral.readWord 16 digits
      | none => Numeral.readWord 10 text) = .ok n := by
  cases written with
  | decimal some' spells =>
    have unmarked : Text.dropStart? ['0', 'x'] text = none := by
      rw [Option.eq_none_iff_forall_not_mem]
      intro rest found
      have present : 'x' ∈ text := by
        rw [Text.dropStart?_eq_some_iff.mp found]
        exact .tail _ List.mem_cons_self
      exact spells.digit_of_mem present (by decide)
    rw [unmarked]
    exact Numeral.readWord_eq_ok_iff.mpr (.bare some' spells)
  | hexadecimal some' spells => exact Numeral.readWord_eq_ok_iff.mpr (.bare some' spells)

/-- A number is read, whatever white space stands around it. -/
theorem readNumber_of_number (number : Number text n) : readNumber text = .ok n := by
  obtain ⟨blanks, written, blanks'⟩ := number
  unfold readNumber
  dsimp only
  rw [Text.trim_padded blanks blanks' written.word.bare]
  exact congrArg (Except.mapError _) (readWord_of_written written)

theorem Written.number (written : Written text n) : Number text n := by
  have nothing : Blanks [] := nofun
  have padded : Number ([] ++ text ++ []) n := .mk nothing written nothing
  rwa [List.nil_append, List.append_nil] at padded

theorem number_of_number (written : Number text n) : number text = .ok n := by
  rw [number, readNumber_of_number written]
  rfl

theorem size_of_number (role : SizeRole) (written : Number text n) : size role text = .ok n := by
  rw [size, readNumber_of_number written]
  rfl

/-! ## Calls -/

theorem splitOnce_mark_absent {p : Char} (absent : p ∉ text) :
    Text.splitOnce [p] text = none := by
  refine Text.splitOnce_eq_none (List.cons_ne_nil _ _) fun stands => ?_
  exact absent (stands.subset List.mem_cons_self)

theorem splitOnce_mark_found {p : Char} (absent : p ∉ text) (later : List Char) :
    Text.splitOnce [p] (text ++ p :: later) = some (text, later) := by
  rw [List.append_cons]
  refine Text.splitOnce_first (List.cons_ne_nil p []) (fun stands => ?_) later
  rw [List.dropLast_singleton, List.append_nil] at stands
  exact absent (stands.subset List.mem_cons_self)

theorem argumentKind?_of_names {name : List Char} {kind : ArgumentKind} (names : Names name kind) :
    argumentKind? (String.ofList name) = some kind ∧ ':' ∉ name := by
  cases names <;> exact ⟨by decide, by decide⟩

/-- The value of an argument is taken as it is. -/
theorem argument_of_types {token : List Char} {made : Argument} (types : Types token made) :
    argument token = .ok made := by
  obtain ⟨names, -, -⟩ := types
  obtain ⟨known, absent⟩ := argumentKind?_of_names names
  unfold argument
  rw [splitOnce_mark_found absent]
  simp only [known]

/-! ### Arrows -/

theorem not_infix_of_not_mem {p q : Char} (absent : p ∉ text) : ¬ [p, q] <:+: text :=
  fun stands => absent (stands.subset List.mem_cons_self)

theorem dash_not_mem_of_names {name : List Char} {kind : ArgumentKind} (names : Names name kind) :
    '-' ∉ name := by
  cases names <;> decide

theorem no_arrow_of_types {token : List Char} {made : Argument} (types : Types token made) :
    ¬ ['-', '>'] <:+: token := by
  obtain ⟨names, -, absent⟩ := types
  intro stands
  rcases Text.infix_pair_append stands with inName | behind | ⟨-, head⟩
  · exact not_infix_of_not_mem (dash_not_mem_of_names names) inName
  · rcases List.infix_cons_iff.mp behind with first | inValue
    · exact absurd (List.cons_prefix_cons.mp first).1 (by decide)
    · exact absent inValue
  · exact absurd (Option.some.inj head) (by decide)

theorem no_arrow_of_arguments {tokens : List (List Char)} {arguments : List Argument}
    (types : List.Forall₂ Types tokens arguments) : ∀ token ∈ tokens, ¬ ['-', '>'] <:+: token := by
  induction types with
  | nil => exact nofun
  | cons first _ ih => exact List.forall_mem_cons.mpr ⟨no_arrow_of_types first, ih⟩

/-- There is no arrow before the one that gives a size. -/
theorem no_arrow_of_invokes {ask : Option UInt64 → Request} (invokes : Invokes text ask) :
    ¬ ['-', '>'] <:+: text := by
  have dash {code : List Char} {address : UInt64} (written : Written code address) : '-' ∉ code :=
    written.not_mem (by decide) (by decide)
  intro stands
  cases invokes with
  | function code types spaced =>
    obtain ⟨word, member, inside⟩ := spaced.exists_infix (by decide) (by decide) stands
    rcases List.mem_cons.mp member with rfl | member
    · exact not_infix_of_not_mem (dash code) inside
    · exact no_arrow_of_arguments types word member inside
  | method code object types spaced =>
    obtain ⟨word, member, inside⟩ := spaced.exists_infix (by decide) (by decide) stands
    rcases List.mem_cons.mp member with rfl | member
    · refine not_infix_of_not_mem (List.not_mem_append (dash code) ?_) inside
      exact List.not_mem_cons_of_ne_of_not_mem (by decide) (dash object)
    · exact no_arrow_of_arguments types word member inside

/-! ### Callees -/

/-- A callee and its arguments are read, and make the query that asks for the call. -/
theorem callee_of_invokes {ask : Option UInt64 → Request} (invokes : Invokes text ask)
    (returnSize : Option UInt64) :
    ∃ query, callee returnSize (Text.words text) = .ok query ∧
      query.request = ask returnSize := by
  have reads {tokens : List (List Char)} {arguments : List Argument}
      (types : List.Forall₂ Types tokens arguments) : tokens.mapM argument = .ok arguments :=
    Result.mapM_eq_ok_iff.mpr (types.imp fun _ _ => argument_of_types)
  cases invokes with
  | function code types spaced =>
    rw [spaced.words_eq, callee, reads types]
    refine ⟨.function _ _ returnSize, ?_, rfl⟩
    rw [Result.ok_bind, splitOnce_mark_absent (code.not_mem (by decide) (by decide))]
    simp only [number_of_number code.number, Result.ok_bind]
    rfl
  | method code object types spaced =>
    rw [spaced.words_eq, callee, reads types]
    refine ⟨.method _ _ _ returnSize, ?_, rfl⟩
    rw [Result.ok_bind, splitOnce_mark_found (code.not_mem (by decide) (by decide))]
    simp only [number_of_number code.number, number_of_number object.number, Result.ok_bind]
    rfl

theorem call_of_invokes {ask : Option UInt64 → Request} (invokes : Invokes text ask) :
    ∃ query, call text = .ok query ∧ query.request = ask none := by
  unfold call
  rw [Text.splitOnce_eq_none (List.cons_ne_nil _ _) (no_arrow_of_invokes invokes)]
  exact callee_of_invokes invokes none

theorem call_of_invokes_sized {ask : Option UInt64 → Request} (invokes : Invokes text ask)
    (length : Number later n) :
    ∃ query, call (text ++ ['-', '>'] ++ later) = .ok query ∧ query.request = ask (some n) := by
  have absent : ¬ ['-', '>'] <:+: text ++ ['-'] := by
    intro stands
    rcases Text.infix_pair_append stands with before | within | ⟨-, head⟩
    · exact no_arrow_of_invokes invokes before
    · exact absurd within.length_le (by decide)
    · exact absurd head (by decide)
  obtain ⟨query, read, asks⟩ := callee_of_invokes invokes (some n)
  refine ⟨query, ?_, asks⟩
  unfold call
  rw [Text.splitOnce_first (List.cons_ne_nil _ _) absent]
  dsimp only
  rw [size_of_number .return length, Result.ok_bind, read]

/-! ## Expressions -/

theorem read_eq_ofWords (register : ¬ ['$'] <+: text) (memory : ¬ ['*'] <+: text)
    (names : ∀ name ∈ ["frame", "thread", "base"], text ≠ name.toList) :
    read text = ofWords text := by
  unfold read
  split
  · exact absurd ⟨_, rfl⟩ register
  · exact absurd ⟨_, rfl⟩ memory
  · rw [if_neg (names "frame" (by simp)), if_neg (names "thread" (by simp)),
      if_neg (names "base" (by simp))]

/-- What begins with a keyword is no other form. -/
theorem read_of_keyword {keyword : String} (known : keyword ∈ ["typeof ", "malloc ", "call "]) :
    read (keyword.toList ++ text) = ofWords (keyword.toList ++ text) := by
  simp only [List.mem_cons, List.not_mem_nil, or_false] at known
  rcases known with rfl | rfl | rfl <;> exact read_eq_ofWords (by simp) (by simp) (by simp)

theorem dropStart?_eq_none_of_not_prefix {start : List Char} (other : ¬ start <+: text) :
    Text.dropStart? start text = none := by
  rw [Option.eq_none_iff_forall_not_mem]
  exact fun rest found => other ⟨rest, (Text.dropStart?_eq_some_iff.mp found).symm⟩

theorem read_of_foreign (foreign : Foreign text) :
    read text = .ok (.native (String.ofList text)) := by
  obtain ⟨names, starts⟩ := foreign
  have other (start : String) (known : start ∈ ["$", "*", "typeof ", "malloc ", "call "]) :
      Text.dropStart? start.toList text = none :=
    dropStart?_eq_none_of_not_prefix (starts start known)
  rw [read_eq_ofWords (starts "$" (by simp)) (starts "*" (by simp)) names, ofWords,
    other "typeof " (by simp), other "malloc " (by simp), other "call " (by simp)]
  rfl

theorem read_allocation (text : List Char) :
    read ("malloc ".toList ++ text) = (size .allocation text).bind fun n => .ok (.allocate n) := by
  have other : Text.dropStart? "typeof ".toList ("malloc ".toList ++ text) = none := rfl
  rw [read_of_keyword (by simp), ofWords, other, Text.dropStart?_append]
  rfl

theorem read_call (text : List Char) : read ("call ".toList ++ text) = call text := by
  have other : Text.dropStart? "typeof ".toList ("call ".toList ++ text) = none := rfl
  have other' : Text.dropStart? "malloc ".toList ("call ".toList ++ text) = none := rfl
  rw [read_of_keyword (by simp), ofWords, other, other', Text.dropStart?_append]

/-- An expression is read as what it means. -/
theorem read_of_means {request : Request} (means : Means text request) :
    ∃ query, read text = .ok query ∧ query.request = request := by
  cases means with
  | register => exact ⟨.register _, rfl, rfl⟩
  | @memory place address written =>
    refine ⟨.memory address 8, ?_, rfl⟩
    show memoryAt place = _
    rw [memoryAt, splitOnce_mark_absent (written.not_mem (by decide) (by decide) (by decide))]
    dsimp only
    rw [number_of_number written]
    rfl
  | @memorySized place length address size written written' =>
    refine ⟨.memory address size, ?_, rfl⟩
    show memoryAt (place ++ ':' :: length) = _
    rw [memoryAt, splitOnce_mark_found (written.not_mem (by decide) (by decide) (by decide))]
    dsimp only
    rw [number_of_number written, Result.ok_bind, size_of_number .read written']
    rfl
  | typeOf =>
    refine ⟨.typeOf _, ?_, rfl⟩
    rw [read_of_keyword (by simp), ofWords, Text.dropStart?_append]
    rfl
  | @allocation length size written =>
    refine ⟨.allocate size, ?_, rfl⟩
    rw [read_allocation, size_of_number .allocation written]
    rfl
  | call invokes =>
    rw [read_call]
    exact call_of_invokes invokes
  | callSized invokes written =>
    rw [read_call]
    exact call_of_invokes_sized invokes written
  | native foreign => exact ⟨.native _, read_of_foreign foreign, rfl⟩

end DebugBridge.Query

namespace DebugBridge

/-! ## Commands -/

/-- The requests that may leave something behind, which is read afterwards. -/
def Request.IsCall : Request → Prop
  | .callFunction .. => True
  | .callMethod .. => True
  | _ => False

/-- The work begins with a request, and is over when that is answered unless it is a call. -/
def Work.Begins {α : Type} (work : Work α) (request : Request) : Prop :=
  ∃ resume, work = .ask request resume ∧
    (¬ request.IsCall → ∀ reply, ∃ result, resume reply = .done result)

theorem Work.Begins.unique {α : Type} {work : Work α} {request request' : Request}
    (begins : work.Begins request) (begins' : work.Begins request') : request = request' := by
  obtain ⟨_, rfl, -⟩ := begins
  obtain ⟨_, same, -⟩ := begins'
  cases same
  rfl

/-- A single request is over when it is answered, whatever the answer is. -/
theorem Task.begins_ask {α β : Type} (request : Request) (extract : Response → Option α)
    (shown : α → β) : (ask request extract >>= fun a => pure (shown a)).run.Begins request := by
  refine ⟨_, rfl, fun _ reply => ?_⟩
  cases reply with
  | error fault => exact ⟨_, rfl⟩
  | ok response =>
    show ∃ result, Work.bind (.done (payload request extract response)) _ = .done result
    cases payload request extract response <;> exact ⟨_, rfl⟩

theorem Query.Calls.isCall {query : Query} {category : CallResult → Response}
    (calls : query.Calls category) : query.request.IsCall := by
  cases calls <;> trivial

theorem Probe.carryOut_begins (probe : Probe) (query : Query) :
    (probe.carryOut query).run.Begins query.request := by
  by_cases plain : ∀ category, ¬ query.Calls category
  · obtain ⟨α, task, category, shown, single, carries⟩ := Query.exists_single plain probe
    obtain ⟨extract, rfl, -⟩ := single.exists_extract
    rw [carries]
    exact Task.begins_ask query.request extract shown
  · obtain ⟨category, calls⟩ := Classical.not_forall_not.mp plain
    obtain ⟨first, single, carries⟩ := calls.exists_single probe
    obtain ⟨extract, rfl, -⟩ := single.exists_extract
    rw [carries]
    exact ⟨_, rfl, fun plain => absurd calls.isCall plain⟩

namespace Probe

variable {command : Command}

/-- What a query asks for is asked for first. -/
theorem begins_of_makes {query : Query} (evaluates : Evaluates command)
    (makes : Makes command query) (probe : Probe) :
    (probe.handle command).run.Begins query.request := by
  rcases handle_cases probe command with ⟨silent, -⟩ | ⟨-, query', ⟨text, first, -, read⟩, carries⟩
  · exact absurd silent (makes.loud evaluates)
  · obtain ⟨text', first', -, read'⟩ := makes
    cases first.symm.trans first'
    cases read.symm.trans read'
    rw [carries]
    exact carryOut_begins probe query

/-- A command asks for what its expression means, whatever white space stands around it. -/
theorem handle_means (probe : Probe) {text : String} {before expression after : List Char}
    {request : Request} (evaluates : Evaluates command) (given : command.expression? = some text)
    (spelt : text.toList = before ++ expression ++ after) (blanks : Text.Blanks before)
    (blanks' : Text.Blanks after) (bare : Text.Bare expression)
    (means : Query.Means expression request) : (probe.handle command).run.Begins request := by
  obtain ⟨query, read, rfl⟩ := Query.read_of_means means
  have trimmed : Text.trim text.toList = expression := by
    rw [spelt, Text.trim_padded blanks blanks' bare]
  exact begins_of_makes evaluates ⟨text, given, trimmed ▸ bare.some', trimmed ▸ read⟩ probe

theorem spells_of_read {base : Nat} {digits : List Char} {n : UInt64}
    (read : Numeral.readDigits base UInt64.size 0 digits = .ok n.toNat) :
    Numeral.Spells base digits n.toNat :=
  (Numeral.spells_of_readDigits (by decide) read).1

/-- A method of an object, with values that look like other parts of an expression. -/
def hovering : List Char := "41@0x2F\tint:5-  bool:a:b@c".toList

theorem invokes_hovering :
    Query.Invokes hovering (.callMethod 41 0x2F [⟨"5-", .integer⟩, ⟨"a:b@c", .bool⟩]) := by
  let callee := ['4', '1', '@', '0', 'x', '2', 'F']
  let five := ['i', 'n', 't', ':', '5', '-']
  let flag := ['b', 'o', 'o', 'l', ':', 'a', ':', 'b', '@', 'c']
  have code : Query.Written ['4', '1'] 41 := .decimal (by decide) (spells_of_read rfl)
  have object : Query.Written ['0', 'x', '2', 'F'] 0x2F :=
    .hexadecimal (by decide) (spells_of_read rfl)
  have types : Query.Types five ⟨"5-", .integer⟩ :=
    @Query.Types.mk _ ['5', '-'] _ .integer (by simp [Text.isBlank]) (by decide)
  have types' : Query.Types flag ⟨"a:b@c", .bool⟩ :=
    @Query.Types.mk _ ['a', ':', 'b', '@', 'c'] _ .bool (by simp [Text.isBlank]) (by decide)
  have spaced : Text.Spaced ([' ', ' '] ++ flag ++ []) [flag] :=
    .cons (by decide) (by decide) nofun (.nil nofun)
  have spaced' : Text.Spaced (['\t'] ++ five ++ ([' ', ' '] ++ flag ++ [])) [five, flag] :=
    .cons (by decide) (by decide) (by simp [Text.isBlank]) spaced
  have spaced'' : Text.Spaced ([] ++ callee ++ (['\t'] ++ five ++ ([' ', ' '] ++ flag ++ [])))
      [callee, five, flag] := .cons nofun (by decide) (by simp [Text.isBlank]) spaced'
  exact .method code object (.cons types (.cons types' .nil)) spaced''

theorem handle_means_hovering :
    Query.Means ("call ".toList ++ (hovering ++ ['-', '>'] ++ [' ', '8']))
        (.callMethod 41 0x2F [⟨"5-", .integer⟩, ⟨"a:b@c", .bool⟩] (some 8)) ∧
      ((⟨"prog"⟩ : Probe).handle
        ⟨.print, ["\tcall 41@0x2F\tint:5-  bool:a:b@c-> 8 \u3000"]⟩).run.Begins
        (.callMethod 41 0x2F [⟨"5-", .integer⟩, ⟨"a:b@c", .bool⟩] (some 8)) := by
  have written : Query.Written ['8'] 8 := .decimal (by decide) (spells_of_read rfl)
  have length : Query.Number ([' '] ++ ['8'] ++ []) 8 := .mk (by decide) written nofun
  have means := Query.Means.callSized invokes_hovering length
  have bare : Text.Bare ("call ".toList ++ (hovering ++ ['-', '>'] ++ [' ', '8'])) := by
    refine ⟨by simp, fun c first => ?_, fun c last => ?_⟩
    · have known : c = 'c' := Option.some.inj (first.symm.trans (by decide +kernel))
      exact known ▸ by decide
    · have known : c = '8' := Option.some.inj (last.symm.trans (by decide +kernel))
      exact known ▸ by decide
  refine ⟨means, ?_⟩
  have spelt : "\tcall 41@0x2F\tint:5-  bool:a:b@c-> 8 \u3000".toList
      = ['\t'] ++ ("call ".toList ++ (hovering ++ ['-', '>'] ++ [' ', '8'])) ++ [' ', '\u3000'] := by
    decide +kernel
  exact handle_means ⟨"prog"⟩ (.inr rfl) rfl spelt (by decide) (by decide) bare means

/-- A tab between the keyword and its space makes an expression for the native evaluator. -/
theorem tab_parts_keyword :
    ((⟨"prog"⟩ : Probe).handle ⟨.eval, ["malloc\t 8"]⟩).run.Begins (.evaluate "malloc\t 8") ∧
      ¬ ((⟨"prog"⟩ : Probe).handle ⟨.eval, ["malloc\t 8"]⟩).run.Begins (.allocate 8) := by
  have makes : Makes ⟨.eval, ["malloc\t 8"]⟩ (.native "malloc\t 8") :=
    ⟨_, rfl, by decide +kernel, Result.eq_ok_of_toOption (by decide +kernel)⟩
  have begins := begins_of_makes (.inl rfl) makes ⟨"prog"⟩
  exact ⟨begins, fun begins' => nomatch begins.unique begins'⟩

end Probe
end DebugBridge
