import DebugBridge.Client.Subcommand
import DebugBridge.Proofs.Text.Spacing

/-!
# The grammar of a subcommand line

`Spelled` lists the lines that can be typed and what each of them means, without a word about how a
line is cut. Every line is spelled in one of these ways (`Spelled.exists_of_line`) and means what is
said there (`Spelled.parse_eq`), so that the grammar and `parse` are the same relation.
-/

namespace DebugBridge.Subcommand

open Text

variable {before behind name rest : List Char} {line : String}

/-! ## The grammar -/

/-- The names of the subcommands that take an expression. -/
inductive Takes : String → CommandKind → (String → Subcommand) → Prop
  | eval : Takes "eval" .eval .eval
  | e : Takes "e" .eval .eval
  | print : Takes "print" .print .print
  | p : Takes "p" .print .print
  | methods : Takes "methods" .methods .methods
  | m : Takes "m" .methods .methods

def names : List String :=
  ["eval", "e", "print", "p", "methods", "m", "functions", "f", "status", "s"]

/-- What is typed, and what it means. The name is followed by white space or by nothing. -/
inductive Spelled : List Char → Except SubcommandFault Subcommand → Prop
  | blank {line : List Char} : Blanks line → Spelled line (.error .empty)
  | expression {name : String} {kind : CommandKind} {make : String → Subcommand}
      {before between text after : List Char} : Takes name kind make → Blanks before →
      Blanks between → between ≠ [] → Bare text → Blanks after →
      Spelled (before ++ name.toList ++ (between ++ text ++ after))
        (.ok (make (String.ofList text)))
  | missing {name : String} {kind : CommandKind} {make : String → Subcommand}
      {before after : List Char} : Takes name kind make → Blanks before → Blanks after →
      Spelled (before ++ name.toList ++ after) (.error (.missingExpression kind))
  | functions {name : String} {before behind : List Char} {words : List (List Char)} :
      name = "functions" ∨ name = "f" → Blanks before →
      (∀ c, behind.head? = some c → isBlank c = true) → Spaced behind words →
      Spelled (before ++ name.toList ++ behind) (.ok (.functions (words.map String.ofList)))
  | status {name : String} {before behind : List Char} : name = "status" ∨ name = "s" →
      Blanks before → (∀ c, behind.head? = some c → isBlank c = true) →
      Spelled (before ++ name.toList ++ behind) (.ok .status)
  | unknown {before name behind : List Char} : Word name → String.ofList name ∉ names →
      Blanks before → (∀ c, behind.head? = some c → isBlank c = true) →
      Spelled (before ++ name ++ behind) (.error (.unknown (String.ofList name)))

theorem Takes.mem_names {name : String} {kind : CommandKind} {make : String → Subcommand}
    (takes : Takes name kind make) : name ∈ names := by
  cases takes <;> decide

theorem word_of_mem_names {name : String} (known : name ∈ names) : Word name.toList := by
  have all : ∀ name ∈ names, Word name.toList := by decide
  exact all name known

/-! ## The first word of a line -/

theorem splitName_of_blanks (blanks : Blanks rest) : splitName rest = ([], []) := by
  rw [splitName, trim_eq_nil_iff.mpr blanks]
  rfl

theorem splitName_padded (blanks : Blanks before) (word : Word name)
    (edge : ∀ c, behind.head? = some c → isBlank c = true) :
    splitName (before ++ name ++ behind) = (name, trim behind) := by
  by_cases empty : Blanks behind
  · rw [splitName, trim_padded blanks empty word.bare, splitAtBlank_of_solid word.solid,
      trim_eq_nil_iff.mpr empty]
  · obtain ⟨between, bare, after, rfl, blanks', bare', blanks''⟩ := exists_padded empty
    cases between with
    | nil =>
      obtain ⟨c, text, rfl⟩ := List.exists_cons_of_ne_nil bare'.some'
      exact absurd ((bare'.head c rfl).symm.trans (edge c rfl)) Bool.false_ne_true
    | cons c between =>
      have trimmed : trim (before ++ name ++ (c :: between ++ bare ++ after))
          = name ++ c :: (between ++ bare) := by
        have grouped : before ++ name ++ (c :: between ++ bare ++ after)
            = before ++ (name ++ c :: between ++ bare) ++ after := by
          simp only [List.append_assoc, List.cons_append]
        rw [grouped, trim_padded blanks blanks'' (word.bare.append bare' _), List.append_assoc,
          List.cons_append]
      have rest : trim (between ++ bare) = bare := by
        have nothing : Blanks [] := fun c present => nomatch present
        have padded := trim_padded (List.forall_mem_cons.mp blanks').2 nothing bare'
        rwa [List.append_nil] at padded
      rw [splitName, trimmed, splitAtBlank_append word.solid (blanks' c List.mem_cons_self)]
      dsimp only
      rw [rest, trim_padded blanks' blanks'' bare']

/-! ## What a line means -/

theorem Takes.parse_eq {name : String} {kind : CommandKind} {make : String → Subcommand}
    (takes : Takes name kind make) (split : splitName line.toList = (name.toList, rest)) :
    parse line = (expression kind rest).map make := by
  rw [parse, split]
  simp only [String.ofList_toList]
  cases takes <;> rfl

theorem parse_eq_functions {name : String} (named : name = "functions" ∨ name = "f")
    (split : splitName line.toList = (name.toList, rest)) :
    parse line = .ok (.functions ((words rest).map String.ofList)) := by
  rw [parse, split]
  simp only [String.ofList_toList]
  rcases named with rfl | rfl <;> rfl

theorem parse_eq_status {name : String} (named : name = "status" ∨ name = "s")
    (split : splitName line.toList = (name.toList, rest)) : parse line = .ok .status := by
  rw [parse, split]
  simp only [String.ofList_toList]
  rcases named with rfl | rfl <;> rfl

theorem parse_eq_unknown (word : Word name) (other : String.ofList name ∉ names)
    (split : splitName line.toList = (name, rest)) :
    parse line = .error (.unknown (String.ofList name)) := by
  have some' : String.ofList name ≠ "" := fun empty =>
    word.some' (by simpa using congrArg String.toList empty)
  simp only [names, List.mem_cons, List.not_mem_nil, or_false, not_or] at other
  rw [parse, split]
  simp only [some', other, or_self, if_false]

/-- A line means what the grammar says. -/
theorem Spelled.parse_eq {result : Except SubcommandFault Subcommand}
    (spelled : Spelled line.toList result) : parse line = result := by
  generalize typed : line.toList = text at spelled
  cases spelled with
  | blank blanks =>
    rw [parse, typed, splitName_of_blanks blanks]
    rfl
  | @expression name kind make before between text after takes blanks blanks' some' bare blanks'' =>
    have edge : ∀ c, (between ++ text ++ after).head? = some c → isBlank c = true := by
      intro c first
      obtain ⟨d, between, rfl⟩ := List.exists_cons_of_ne_nil some'
      cases first
      exact blanks' _ List.mem_cons_self
    have split := splitName_padded blanks (word_of_mem_names takes.mem_names) edge
    rw [trim_padded blanks' blanks'' bare, ← typed] at split
    rw [takes.parse_eq split, Subcommand.expression, if_neg (by simpa using bare.some')]
    rfl
  | @missing name kind make before after takes blanks blanks' =>
    have split := splitName_padded blanks (word_of_mem_names takes.mem_names)
      fun c first => blanks' c (List.mem_of_mem_head? first)
    rw [trim_eq_nil_iff.mpr blanks', ← typed] at split
    rw [takes.parse_eq split]
    rfl
  | @functions name before behind words' named blanks edge spaced =>
    have known : name ∈ names := by rcases named with rfl | rfl <;> decide
    have split := splitName_padded blanks (word_of_mem_names known) edge
    rw [← typed] at split
    rw [parse_eq_functions named split, words_trim, spaced.words_eq]
  | @status name before behind named blanks edge =>
    have known : name ∈ names := by rcases named with rfl | rfl <;> decide
    have split := splitName_padded blanks (word_of_mem_names known) edge
    rw [← typed] at split
    exact parse_eq_status named split
  | @unknown before name behind word other blanks edge =>
    have split := splitName_padded blanks word edge
    rw [← typed] at split
    exact parse_eq_unknown word other split

/-- Every name belongs to an expression, to `functions` or to `status`. -/
theorem role_of_mem_names {name : String} (known : name ∈ names) :
    (∃ kind make, Takes name kind make) ∨ (name = "functions" ∨ name = "f")
      ∨ (name = "status" ∨ name = "s") := by
  simp only [names, List.mem_cons, List.not_mem_nil, or_false] at known ⊢
  rcases known with rfl | rfl | rfl | rfl | rfl | rfl | known
  · exact .inl ⟨_, _, .eval⟩
  · exact .inl ⟨_, _, .e⟩
  · exact .inl ⟨_, _, .print⟩
  · exact .inl ⟨_, _, .p⟩
  · exact .inl ⟨_, _, .methods⟩
  · exact .inl ⟨_, _, .m⟩
  · exact .inr (or_assoc.mpr known)

/-- Every line is one that the grammar knows. -/
theorem Spelled.exists_of_line (line : List Char) : ∃ result, Spelled line result := by
  by_cases empty : Blanks line
  · exact ⟨_, .blank empty⟩
  · obtain ⟨before, name, behind, rfl, blanks, word, edge⟩ := exists_word empty
    by_cases known : String.ofList name ∈ names
    · have written : name = (String.ofList name).toList := String.toList_ofList.symm
      rw [written]
      rcases role_of_mem_names known with ⟨kind, make, takes⟩ | functions | status
      · by_cases empty : Blanks behind
        · exact ⟨_, .missing takes blanks empty⟩
        · obtain ⟨between, text, after, rfl, blanks', bare, blanks''⟩ := exists_padded empty
          refine ⟨_, .expression takes blanks blanks' ?_ bare blanks''⟩
          rintro rfl
          obtain ⟨c, text, rfl⟩ := List.exists_cons_of_ne_nil bare.some'
          exact Bool.false_ne_true ((bare.head c rfl).symm.trans (edge c rfl))
      · exact ⟨_, .functions functions blanks edge (spaced_words behind)⟩
      · exact ⟨_, .status status blanks edge⟩
    · exact ⟨_, .unknown word known blanks edge⟩

/-- A line is parsed to what it is spelled for and to nothing else, and the command to send has the
expression as its one argument, or one argument for every word; only `status` sends none. -/
theorem parse_iff_spelled :
    (∀ line result, parse line = result ↔ Spelled line.toList result)
      ∧ (∀ name kind make, Takes name kind make →
        ∀ expression, (make expression).command? = some ⟨kind, [expression]⟩)
      ∧ (∀ patterns, (functions patterns).command? = some ⟨.functions, patterns⟩)
      ∧ ∀ subcommand, command? subcommand = none ↔ subcommand = status := by
  refine ⟨fun line result => ⟨?_, Spelled.parse_eq⟩, ?_, fun patterns => rfl, ?_⟩
  · rintro rfl
    obtain ⟨result, spelled⟩ := Spelled.exists_of_line line.toList
    rwa [spelled.parse_eq]
  · rintro name kind make takes expression
    cases takes <;> rfl
  · intro subcommand
    cases subcommand <;> simp [command?]

example : parse "\t m  Vec<T> :: new\n" = .ok (.methods "Vec<T> :: new") := by decide

end DebugBridge.Subcommand
