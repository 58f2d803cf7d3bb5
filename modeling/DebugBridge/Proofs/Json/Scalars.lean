import DebugBridge.Proofs.Json.Lexing

/-!
# Words, numbers and strings as tokens

What the readers of words, numbers and strings take is one token. A word or a number is made of
octets of one run, so it is the whole run when the text does not go on with it; a string is cut off
where its reader stops. Both are read again from the same octets, whatever else is behind them.

Results:
1. `word_runs`, `number_runs`: words and numbers.
2. `string_cut`: strings.
-/

namespace DebugBridge.Json.Read

/-! ## Words and numbers -/

/-- Whatever the reader gives, it gives for octets of one run, which only have to end. -/
def Runs {α : Type} (read : Reader α) : Prop :=
  ∀ text a rest, read text = .ok (a, rest) →
    ∃ used, text = used ++ rest ∧ (∀ o, o ∈ used → isRun o = true)
      ∧ ∀ later, Ends isRun later → read (used ++ later) = .ok (a, later)

theorem word_eq_ok_iff {letters : List Char} {text rest : Octets} :
    word letters text = .ok rest ↔ text = letters.map octet ++ rest := by
  induction letters generalizing text with
  | nil =>
    constructor
    · intro read
      cases read
      rfl
    · rintro rfl
      rfl
  | cons letter letters ih =>
    cases text with
    | nil =>
      constructor
      · intro read
        cases read
      · intro same
        cases same
    | cons o text =>
      rw [word, List.map_cons, List.cons_append, List.cons.injEq]
      dsimp only
      split
      · next same => simp [same, ih]
      · next other => simp [breach, other]

theorem word_runs {letters : List Char} (all : letters.all (isRun ∘ octet) = true) (v : Json) :
    Runs fun text => word letters text >>= fun rest => .ok (v, rest) := by
  intro text v' rest read
  obtain ⟨behind, found, read⟩ := Result.bind_eq_ok.mp read
  cases read
  refine ⟨letters.map octet, word_eq_ok_iff.mp found, ?_, fun later _ => ?_⟩
  · intro o present
    obtain ⟨c, inside, rfl⟩ := List.mem_map.mp present
    exact List.all_eq_true.mp all c inside
  · dsimp only
    rw [word_eq_ok_iff.mpr rfl]
    rfl

theorem isRun_of_isDigit {o : UInt8} (digit : isDigit o = true) : isRun o = true := by
  refine isRun_of_not ?_ ?_ ?_
  · by_contra space
    rw [isDigit_of_isSpace (by simpa using space)] at digit
    cases digit
  · by_contra mark
    simp only [isMark, Bool.not_eq_false, Bool.or_eq_true, beq_iff_eq] at mark
    rcases mark with ((((rfl | rfl) | rfl) | rfl) | rfl) | rfl <;> cases digit
  · rintro rfl
    cases digit

theorem isRun_of_isExponentMark {o : UInt8} (mark : isExponentMark o = true) : isRun o = true := by
  simp only [isExponentMark, Bool.or_eq_true, beq_iff_eq] at mark
  rcases mark with rfl | rfl <;> rfl

theorem endsNumber_of_ends {rest : Octets} (ends : Ends isRun rest) : EndsNumber rest := by
  rintro o later rfl
  have other : isRun o = false := ends o rfl
  refine ⟨?_, ?_, ?_⟩
  · by_contra digit
    rw [isRun_of_isDigit (by simpa using digit)] at other
    cases other
  · rintro rfl
    cases other
  · by_contra mark
    rw [isRun_of_isExponentMark (by simpa using mark)] at other
    cases other

theorem runs_takeWhile_isDigit (text : Octets) :
    ∀ o, o ∈ text.takeWhile isDigit → isRun o = true :=
  fun _ present => isRun_of_isDigit (List.mem_takeWhile_imp present)

theorem finite_eq_ok {x : Binary64} {rest rest' : Octets} {n : Number}
    (read : finite x rest = .ok (n, rest')) :
    rest' = rest ∧ ∀ later, finite x later = .ok (n, later) := by
  unfold finite at read ⊢
  split at read
  · next isFinite =>
    cases read
    exact ⟨rfl, fun later => if_pos isFinite⟩
  · cases read

theorem whole_eq_ok {negative : Bool} {value : Nat} {rest rest' : Octets} {n : Number}
    (read : whole negative value rest = .ok (n, rest')) :
    rest' = rest ∧ ∀ later, whole negative value later = .ok (n, later) := by
  unfold whole at read ⊢
  split at read
  · next below =>
    split at read
    · next fits =>
      cases read
      exact ⟨rfl, fun later => (if_pos below).trans (if_pos fits)⟩
    · next large =>
      obtain ⟨same, again⟩ := finite_eq_ok read
      exact ⟨same, fun later => (if_pos below).trans ((if_neg large).trans (again later))⟩
  · next below =>
    split at read
    · next fits =>
      cases read
      exact ⟨rfl, fun later => (if_neg below).trans (if_pos fits)⟩
    · next large =>
      obtain ⟨same, again⟩ := finite_eq_ok read
      exact ⟨same, fun later => (if_neg below).trans ((if_neg large).trans (again later))⟩

/-- The digits that an exponent takes. Where it passes the limit it stops at once, so there it is no
matter what follows. -/
theorem exponentDigits_used {exponent magnitude : Nat} {passed : Bool} {text rest : Octets}
    (read : exponentDigits exponent text = (magnitude, passed, rest)) :
    ∃ used, text = used ++ rest ∧ (∀ o, o ∈ used → isDigit o = true)
      ∧ ∀ later, (passed = false → Ends isDigit later) →
          exponentDigits exponent (used ++ later) = (magnitude, passed, later) := by
  have stopped : ∀ {exponent later}, Ends isDigit later →
      exponentDigits exponent later = (exponent, false, later) := by
    intro exponent later ends
    cases later with
    | nil => rfl
    | cons o later => exact if_neg (by simp [ends o rfl])
  induction text generalizing exponent with
  | nil =>
    cases read
    exact ⟨[], rfl, fun _ present => absurd present List.not_mem_nil,
      fun later ends => stopped (ends rfl)⟩
  | cons o text ih =>
    rw [exponentDigits] at read
    split at read
    · next digit =>
      dsimp only at read
      split at read
      · next large =>
        cases read
        refine ⟨[o], rfl, List.forall_mem_singleton.mpr digit, fun later _ => ?_⟩
        exact (if_pos digit).trans (if_pos large)
      · next small =>
        obtain ⟨used, rfl, digits, again⟩ := ih read
        refine ⟨o :: used, rfl, List.forall_mem_cons.mpr ⟨digit, digits⟩, fun later ends => ?_⟩
        exact (if_pos digit).trans ((if_neg small).trans (again later ends))
    · next other =>
      cases read
      exact ⟨[], rfl, fun _ present => absurd present List.not_mem_nil,
        fun later ends => stopped (ends rfl)⟩

theorem isDigit_ends {rest : Octets} (ends : Ends isRun rest) : Ends isDigit rest :=
  ends_of_imp (fun _ => isRun_of_isDigit) ends

theorem unsignedExponent_runs (negative : Bool) (digits : Nat) (power : Int) (below : Bool) :
    Runs (unsignedExponent negative digits power below) := by
  intro text n rest read
  cases text with
  | nil => cases read
  | cons o text =>
    rw [unsignedExponent] at read
    split at read
    · next digit =>
      rcases found : exponentDigits (o.toNat - 0x30) text with ⟨magnitude, passed, behind⟩
      rw [found] at read
      obtain ⟨used, rfl, all, again⟩ := exponentDigits_used found
      have allRun : ∀ o', o' ∈ o :: used → isRun o' = true := fun o' present =>
        isRun_of_isDigit ((List.mem_cons.mp present).elim (fun same => same ▸ digit) (all o'))
      dsimp only at read
      cases passed with
      | true =>
        rw [if_pos rfl] at read
        split at read
        · cases read
        next tiny =>
        obtain ⟨rfl, finite'⟩ := finite_eq_ok read
        -- The digits behind the limit are passed over.
        refine ⟨o :: used ++ behind.takeWhile isDigit, ?_, ?_, fun later ends => ?_⟩
        · rw [List.append_assoc, List.takeWhile_append_dropWhile, List.cons_append]
        · exact List.forall_mem_append.mpr ⟨allRun, runs_takeWhile_isDigit behind⟩
        · have left := (cut_ends (fun _ => List.mem_takeWhile_imp (l := behind))
            (isDigit_ends ends)).2
          rw [List.append_assoc, List.cons_append, unsignedExponent, if_pos digit,
            again _ fun passed => by cases passed]
          dsimp only
          rw [if_pos rfl, if_neg tiny, left]
          exact finite' later
      | false =>
        obtain ⟨rfl, finite'⟩ := finite_eq_ok read
        refine ⟨o :: used, rfl, allRun, fun later ends => ?_⟩
        rw [List.cons_append, unsignedExponent, if_pos digit,
          again later fun _ => isDigit_ends ends]
        exact finite' later
    · cases read

/-- A reader that needs an octet takes one. -/
theorem runs_nonempty {α : Type} {read : Reader α} (runs : Runs read)
    (needs : ∀ a, read [] ≠ .ok (a, [])) {o : UInt8} {text rest : Octets} {a : α}
    (found : read (o :: text) = .ok (a, rest)) :
    ∃ used, text = used ++ rest ∧ isRun o = true ∧ (∀ o', o' ∈ used → isRun o' = true)
      ∧ ∀ later, Ends isRun later → read (o :: (used ++ later)) = .ok (a, later) := by
  obtain ⟨used, same, all, again⟩ := runs _ a rest found
  cases used with
  | nil => exact absurd (again [] (ends_nil isRun)) (needs a)
  | cons c used =>
    obtain ⟨rfl, rfl⟩ := List.cons.inj same
    obtain ⟨first, others⟩ := List.forall_mem_cons.mp all
    exact ⟨used, rfl, first, others, again⟩

theorem exponent_runs (negative : Bool) (digits : Nat) (power : Int) :
    Runs (exponent negative digits power) := by
  intro text n rest read
  have unsigned := unsignedExponent_runs negative digits power
  cases text with
  | nil => cases read
  | cons o text =>
    rw [exponent_eq, exponentSign] at read
    split at read
    · next plus =>
      subst plus
      obtain ⟨used, rfl, all, again⟩ := unsigned false _ _ _ read
      exact ⟨octet '+' :: used, rfl, List.forall_mem_cons.mpr ⟨rfl, all⟩, again⟩
    split at read
    · next minus =>
      subst minus
      obtain ⟨used, rfl, all, again⟩ := unsigned true _ _ _ read
      exact ⟨octet '-' :: used, rfl, List.forall_mem_cons.mpr ⟨rfl, all⟩, again⟩
    · next plus minus =>
      obtain ⟨used, rfl, first, all, again⟩ :=
        runs_nonempty (unsigned false) (fun _ same => by cases same) read
      refine ⟨o :: used, rfl, List.forall_mem_cons.mpr ⟨first, all⟩, fun later ends => ?_⟩
      rw [exponent_eq, List.cons_append, exponentSign, if_neg plus, if_neg minus]
      exact again later ends

/-- What follows the digits of a fraction. -/
def afterFraction (negative : Bool) (value : Nat) (power : Int) :
    Octets → Except Stop (Number × Octets)
  | [] => finite (.ofDecimal negative value power) []
  | o :: rest =>
    if isExponentMark o then exponent negative value power rest
    else finite (.ofDecimal negative value power) (o :: rest)

theorem fraction_digits (negative : Bool) (whole : Nat) {digits behind : Octets}
    (some' : digits ≠ []) (all : ∀ o, o ∈ digits → isDigit o = true) (ends : Ends isDigit behind) :
    fraction negative whole (digits ++ behind)
      = afterFraction negative (digitsOnto whole digits) (-digits.length) behind := by
  obtain ⟨taken, left⟩ := cut_ends all ends
  rw [fraction, taken, left]
  cases digits with
  | nil => exact absurd rfl some'
  | cons digit digits => cases behind <;> rfl

theorem afterFraction_runs (negative : Bool) (value : Nat) (power : Int) :
    Runs (afterFraction negative value power) := by
  intro text n rest read
  -- Without an exponent the number ends here.
  have ended : ∀ {rest'}, finite (.ofDecimal negative value power) rest' = .ok (n, rest) →
      ∃ used, rest' = used ++ rest ∧ (∀ o, o ∈ used → isRun o = true)
        ∧ ∀ later, Ends isRun later →
            afterFraction negative value power (used ++ later) = .ok (n, later) := by
    intro rest' read
    obtain ⟨rfl, again⟩ := finite_eq_ok read
    refine ⟨[], rfl, fun _ present => absurd present List.not_mem_nil, fun later ends => ?_⟩
    cases later with
    | nil => exact again []
    | cons o later =>
      have other := (endsNumber_of_ends ends o later rfl).2.2
      exact (if_neg (by simp [other])).trans (again (o :: later))
  cases text with
  | nil => exact ended read
  | cons o text =>
    rw [afterFraction] at read
    split at read
    · next mark =>
      obtain ⟨used, rfl, all, again⟩ := exponent_runs _ _ _ _ _ _ read
      exact ⟨o :: used, rfl, List.forall_mem_cons.mpr ⟨isRun_of_isExponentMark mark, all⟩,
        fun later ends => (if_pos mark).trans (again later ends)⟩
    · exact ended read

/-- What is read behind all octets of a kind is read there again. -/
theorem runs_behind {α : Type} {read behind : Reader α} (runs : Runs behind)
    {kind : UInt8 → Bool} (narrow : ∀ o, kind o = true → isRun o = true) {front : Octets}
    (all : ∀ o, o ∈ front → isRun o = true)
    (onward : ∀ later, Ends kind later → read (front ++ later) = behind later) {text rest : Octets}
    {a : α} (ends : Ends kind text) (found : read (front ++ text) = .ok (a, rest)) :
    ∃ used, front ++ text = used ++ rest ∧ (∀ o, o ∈ used → isRun o = true)
      ∧ ∀ later, Ends isRun later → read (used ++ later) = .ok (a, later) := by
  rw [onward text ends] at found
  obtain ⟨used, rfl, more, again⟩ := runs text a rest found
  refine ⟨front ++ used, (List.append_assoc _ _ _).symm, List.forall_mem_append.mpr ⟨all, more⟩,
    fun later endsLater => ?_⟩
  have endsHere : Ends kind (used ++ later) := by
    cases used with
    | nil => exact ends_of_imp narrow endsLater
    | cons o used => exact fun o' first => ends o' first
  rw [List.append_assoc, onward _ endsHere, again later endsLater]

theorem fraction_runs (negative : Bool) (whole : Nat) : Runs (fraction negative whole) := by
  intro text n rest read
  have some' : text.takeWhile isDigit ≠ [] := by
    intro nothing
    unfold fraction at read
    rw [nothing] at read
    cases left : text.dropWhile isDigit <;> rw [left] at read <;> cases read
  have digits : ∀ o, o ∈ text.takeWhile isDigit → isDigit o = true :=
    fun _ => List.mem_takeWhile_imp
  rw [← List.takeWhile_append_dropWhile (p := isDigit) (l := text)] at read ⊢
  exact runs_behind (afterFraction_runs _ _ _) (fun _ => isRun_of_isDigit)
    (runs_takeWhile_isDigit text)
    (fun later ends => fraction_digits negative whole some' digits ends)
    (ends_dropWhile isDigit text) read

theorem afterWhole_runs (negative : Bool) (value : Nat) : Runs (afterWhole negative value) := by
  intro text n rest read
  have ended : ∀ {rest'}, whole negative value rest' = .ok (n, rest) →
      ∃ used, rest' = used ++ rest ∧ (∀ o, o ∈ used → isRun o = true)
        ∧ ∀ later, Ends isRun later →
            afterWhole negative value (used ++ later) = .ok (n, later) := by
    intro rest' read
    obtain ⟨rfl, again⟩ := whole_eq_ok read
    refine ⟨[], rfl, fun _ present => absurd present List.not_mem_nil, fun later ends => ?_⟩
    rw [List.nil_append, afterWhole_ends negative value (endsNumber_of_ends ends), again]
  cases text with
  | nil => exact ended read
  | cons o text =>
    rw [afterWhole] at read
    split at read
    · next point =>
      subst point
      obtain ⟨used, rfl, all, again⟩ := fraction_runs _ _ _ _ _ read
      exact ⟨octet '.' :: used, rfl, List.forall_mem_cons.mpr ⟨rfl, all⟩, again⟩
    split at read
    · next point mark =>
      obtain ⟨used, rfl, all, again⟩ := exponent_runs _ _ _ _ _ _ read
      refine ⟨o :: used, rfl, List.forall_mem_cons.mpr ⟨isRun_of_isExponentMark mark, all⟩,
        fun later ends => ?_⟩
      exact (if_neg point).trans ((if_pos mark).trans (again later ends))
    · exact ended read

theorem number_zero (negative : Bool) {later : Octets} (ends : Ends isDigit later) :
    number negative ([octet '0'] ++ later) = afterWhole negative 0 later := by
  cases later with
  | nil => rfl
  | cons o later =>
    have other : isDigit o = false := ends o rfl
    rw [List.singleton_append, number.eq_def]
    dsimp only
    rw [if_pos rfl, if_neg (Bool.eq_false_iff.mp other)]

theorem number_digits (negative : Bool) {o : UInt8} (zero : o ≠ octet '0')
    {digits : Octets} (all : ∀ o', o' ∈ o :: digits → isDigit o' = true) {later : Octets}
    (ends : Ends isDigit later) :
    number negative (o :: digits ++ later)
      = afterWhole negative (digitsOnto 0 (o :: digits)) later := by
  obtain ⟨digit, others⟩ := List.forall_mem_cons.mp all
  obtain ⟨taken, left⟩ := cut_ends others ends
  rw [List.cons_append, number.eq_def]
  dsimp only
  rw [if_neg zero, if_pos digit, taken, left]

/-- A number takes octets of one run. -/
theorem number_runs (negative : Bool) : Runs (number negative) := by
  intro text n rest read
  cases text with
  | nil => cases read
  | cons o text =>
    by_cases zero : o = octet '0'
    · subst zero
      have ends : Ends isDigit text := by
        intro o' first
        cases text with
        | nil => cases first
        | cons next text =>
          obtain rfl := Option.some.inj first
          by_contra digit
          rw [number.eq_def] at read
          dsimp only at read
          rw [if_pos rfl, if_pos (by simpa using digit)] at read
          cases read
      have zeroRun : ∀ o, o ∈ [octet '0'] → isRun o = true := List.forall_mem_singleton.mpr rfl
      exact runs_behind (afterWhole_runs _ _) (fun _ => isRun_of_isDigit) zeroRun
        (fun later => number_zero negative) ends read
    · have digit : isDigit o = true := by
        by_contra other
        cases ((if_neg zero).trans (if_neg other)).symm.trans read
      have all : ∀ o', o' ∈ o :: text.takeWhile isDigit → isDigit o' = true := fun o' present =>
        (List.mem_cons.mp present).elim (fun same => same ▸ digit) List.mem_takeWhile_imp
      rw [← List.takeWhile_append_dropWhile (p := isDigit) (l := text),
        ← List.cons_append] at read ⊢
      exact runs_behind (afterWhole_runs _ _) (fun _ => isRun_of_isDigit)
        (fun o' present => isRun_of_isDigit (all o' present))
        (fun later => number_digits negative zero all) (ends_dropWhile isDigit text) read

/-! ## Strings -/

/-- No string ends within these octets, nor do they leave the second octet of an escape open. -/
def Inner (part : Octets) : Prop :=
  ∀ later, cutQuoted (part ++ later) = (part ++ (cutQuoted later).1, (cutQuoted later).2)

theorem inner_append {part part' : Octets} (first : Inner part) (second : Inner part') :
    Inner (part ++ part') := by
  intro later
  rw [List.append_assoc, first, second, List.append_assoc]

theorem inner_escaped (o : UInt8) : Inner [octet '\\', o] := fun later => cutQuoted_escaped o later

theorem inner_plain {part : Octets}
    (plain : ∀ o, o ∈ part → o ≠ octet '"' ∧ o ≠ octet '\\') : Inner part := by
  induction part with
  | nil => exact fun later => rfl
  | cons o part ih =>
    obtain ⟨⟨quote, backslash⟩, others⟩ := List.forall_mem_cons.mp plain
    intro later
    rw [List.cons_append, cutQuoted_plain quote backslash, ih others]
    rfl

/-- Neither a quote nor a backslash is a hexadecimal digit. -/
theorem plain_of_digitValue? {o : UInt8} {n : Nat}
    (digit : Numeral.digitValue? 16 (Char.ofNat o.toNat) = some n) :
    o ≠ octet '"' ∧ o ≠ octet '\\' := by
  constructor
  · rintro rfl
    cases digit
  · rintro rfl
    cases digit

theorem escapeCode_cut {text rest : Octets} {code : Nat}
    (read : escapeCode text = .ok (code, rest)) :
    ∃ used, text = used ++ rest ∧ escapeCode used = .ok (code, []) ∧ Inner used := by
  unfold escapeCode at read
  split at read
  · next a b c d rest' =>
    split at read
    · next found =>
      cases read
      refine ⟨[a, b, c, d], rfl, by simp only [escapeCode, found], inner_plain ?_⟩
      obtain ⟨_, first, found⟩ := Option.bind_eq_some_iff.mp found
      obtain ⟨_, second, found⟩ := Option.bind_eq_some_iff.mp found
      obtain ⟨_, third, found⟩ := Option.bind_eq_some_iff.mp found
      obtain ⟨_, fourth, found⟩ := Option.bind_eq_some_iff.mp found
      simp only [List.forall_mem_cons, List.not_mem_nil, false_implies, implies_true, and_true]
      exact ⟨plain_of_digitValue? first, plain_of_digitValue? second, plain_of_digitValue? third,
        plain_of_digitValue? fourth⟩
    · cases read
  · cases read

theorem lowSurrogate_cut {high : Nat} {text rest : Octets} {c : Char}
    (read : lowSurrogate high text = .ok (c, rest)) :
    ∃ used, text = used ++ rest ∧ lowSurrogate high used = .ok (c, []) ∧ Inner used := by
  unfold lowSurrogate at read
  split at read
  · cases read
  next slash behind =>
  split at read
  · next isSlash =>
    subst isSlash
    split at read
    · cases read
    next u behind =>
    split at read
    · next isU =>
      subst isU
      obtain ⟨⟨low, rest'⟩, code, read⟩ := Result.bind_eq_ok.mp read
      dsimp only at read
      split at read
      · next range =>
        obtain ⟨rfl, rfl⟩ := Prod.mk.inj (Except.ok.inj read)
        obtain ⟨used, rfl, again, inner⟩ := escapeCode_cut code
        refine ⟨octet '\\' :: octet 'u' :: used, rfl, ?_, inner_append (inner_escaped _) inner⟩
        rw [lowSurrogate, if_pos rfl]
        simp only [if_true, again, Result.ok_bind, if_pos range]
      · cases read
    · cases read
  · cases read

/-- An escape is read from octets among which the string does not end. -/
theorem escape_cut {text rest : Octets} {c : Char} (read : escape text = .ok (c, rest)) :
    ∃ used, text = used ++ rest ∧ escape used = .ok (c, []) ∧ Inner (octet '\\' :: used) := by
  cases text with
  | nil => cases read
  | cons letter text =>
    rw [escape] at read
    -- Every letter but the last stands for a character of its own.
    iterate 8
      split at read
      · next same =>
        subst same
        cases read
        exact ⟨[_], rfl, rfl, inner_escaped _⟩
    split at read
    · next same =>
      subst same
      obtain ⟨⟨code, behind⟩, found, onward⟩ := Result.bind_eq_ok.mp read
      obtain ⟨used, rfl, again, inner⟩ := escapeCode_cut found
      have begins := inner_append (inner_escaped (octet 'u')) inner
      dsimp only at onward
      split at onward
      · cases onward
      next low =>
      split at onward
      · next high =>
        obtain ⟨used', rfl, again', inner'⟩ := lowSurrogate_cut onward
        refine ⟨octet 'u' :: (used ++ used'), by simp, ?_, inner_append begins inner'⟩
        have both := escapeCode_append again used'
        rw [List.nil_append] at both
        show (escapeCode (used ++ used') >>= _) = _
        rw [both, Result.ok_bind]
        exact (if_neg low).trans ((if_pos high).trans again')
      · next high =>
        cases onward
        refine ⟨octet 'u' :: used, rfl, ?_, begins⟩
        show (escapeCode used >>= _) = _
        rw [again, Result.ok_bind]
        exact (if_neg low).trans (if_neg high)
    · cases read

/-- The octets of a string are those up to where it is cut off. -/
theorem stringOctets_cut {steps : Nat} {text rest octets : Octets}
    (read : stringOctets steps text = .ok (octets, rest)) :
    ∃ inside, text = inside ++ rest ∧ cutQuoted text = (inside, rest)
      ∧ stringOctets (inside.length + 1) inside = .ok (octets, []) := by
  induction steps generalizing text octets with
  | zero => cases read
  | succ steps ih =>
    cases text with
    | nil => cases read
    | cons o text =>
      rw [stringOctets] at read
      split at read
      · next quote =>
        subst quote
        cases read
        exact ⟨[octet '"'], rfl, cutQuoted_quote _, rfl⟩
      split at read
      · next quote backslash =>
        subst backslash
        obtain ⟨⟨c, behind⟩, escaped, read⟩ := Result.bind_eq_ok.mp read
        obtain ⟨⟨later, behind'⟩, others, read⟩ := Result.bind_eq_ok.mp read
        cases read
        obtain ⟨used, rfl, again, inner⟩ := escape_cut escaped
        obtain ⟨inside, rfl, cut, all⟩ := ih others
        refine ⟨octet '\\' :: used ++ inside, by simp, ?_, ?_⟩
        · rw [← List.cons_append, inner, cut]
        · have here := escape_append again inside
          have behind : stringOctets (octet '\\' :: (used ++ inside)).length (inside ++ [])
              = .ok (later, []) := stringOctets_append all [] (by simp)
          rw [List.append_nil] at behind
          rw [List.cons_append, stringOctets, if_neg (by decide), if_pos rfl, here, Result.ok_bind]
          dsimp only
          rw [List.nil_append, behind]
          rfl
      split at read
      · cases read
      next quote backslash control =>
        obtain ⟨⟨later, behind⟩, others, read⟩ := Result.bind_eq_ok.mp read
        cases read
        obtain ⟨inside, rfl, cut, all⟩ := ih others
        refine ⟨o :: inside, rfl, ?_, ?_⟩
        · rw [cutQuoted_plain quote backslash, cut]
        · rw [List.length_cons, stringOctets, if_neg quote, if_neg backslash, if_neg control, all]
          rfl

/-- A string is read up to where it is cut off. -/
theorem string_cut {text rest : Octets} {s : String} (read : string text = .ok (s, rest)) :
    ∃ inside, text = inside ++ rest ∧ cutQuoted text = (inside, rest)
      ∧ string inside = .ok (s, []) := by
  obtain ⟨⟨octets, behind⟩, found, decoded⟩ := Result.bind_eq_ok.mp read
  obtain ⟨inside, same, cut, again⟩ := stringOctets_cut found
  dsimp only at decoded
  split at decoded
  · next chars isText =>
    cases decoded
    refine ⟨inside, same, cut, ?_⟩
    rw [string, again, Result.ok_bind]
    simp only [isText]
  · cases decoded

end DebugBridge.Json.Read
