import DebugBridge.Proofs.Wire.Lines

/-!
# A stream read message by message

Reading may be repeated as often as one likes. What comes of it depends on the octets of the stream
alone: on no cut into chunks, and on nothing that was read before.

* `Framed`: the first message of a stream, and what is left of the stream behind it.
* `FramedAll`: messages one after the other.

Results:
1. `framed_iff`: every stream has one first message, the one that `nextMessage` finds.
2. `readMany_eq`: reading so many messages from a source.
3. `FramedAll.exists_closed`: the end of the stream is found, after no more messages than octets.
4. `readMany_framed`: all of this about a source, and the line that is just short enough.
-/

namespace DebugBridge

/-! ## The first message -/

/-- What is read from a line, of which neither the line feed nor the carriage return before it is
part. -/
def lineMessage (line : List UInt8) : Incoming :=
  (Message.decode line).mapError (.malformed line)

/-- The first message of a stream, and the octets behind it. The limit counts the octets of a line
with its carriage return, without its line feed. -/
inductive Framed (limit : UInt64) : List UInt8 → Incoming → List UInt8 → Prop
  | line {line rest : List UInt8} : 10 ∉ line → line.length ≤ limit.toNat →
      line.getLast? ≠ some 13 → Framed limit (line ++ 10 :: rest) (lineMessage line) rest
  | returned {line rest : List UInt8} : 10 ∉ line → line.length + 1 ≤ limit.toNat →
      Framed limit (line ++ 13 :: 10 :: rest) (lineMessage line) rest
  | tooLong {start rest : List UInt8} : 10 ∉ start → start.length = limit.toNat + 1 →
      Framed limit (start ++ rest) (.error (.tooLong limit)) rest
  | ended {octets : List UInt8} : 10 ∉ octets → octets.length ≤ limit.toNat →
      Framed limit octets (.error .closed) []

/-- A line, whatever it says, is not the end of the stream. -/
theorem lineMessage_ne_closed (line : List UInt8) : lineMessage line ≠ .error .closed := by
  intro closed
  unfold lineMessage at closed
  cases decoded : Message.decode line with
  | ok message => rw [decoded] at closed; cases closed
  | error fault => rw [decoded] at closed; cases closed

theorem dropReturn_append (line : List UInt8) : dropReturn (line ++ [13]) = line := by
  rw [dropReturn, List.reverse_append]
  exact List.reverse_reverse line

theorem dropReturn_eq_self {line : List UInt8} (plain : line.getLast? ≠ some 13) :
    dropReturn line = line := by
  unfold dropReturn
  split
  · next rest eq =>
    rw [← List.head?_reverse, eq] at plain
    exact absurd rfl plain
  · rfl

/-- A line ends with a carriage return, or it does not. -/
theorem return_cases (line : List UInt8) :
    line.getLast? ≠ some 13 ∨ ∃ before, line = before ++ [13] := by
  by_cases last : line.getLast? = some 13
  · exact .inr (List.getLast?_eq_some_iff.mp last)
  · exact .inl last

theorem takeWhile_line {line rest : List UInt8} (clean : 10 ∉ line) :
    (line ++ 10 :: rest).takeWhile (· != 10) = line := by
  have inside : ∀ o, o ∈ line → (o != 10) = true := by
    intro o present
    rw [bne_iff_ne]
    rintro rfl
    exact clean present
  rw [List.takeWhile_append_of_pos inside, List.takeWhile_cons_of_neg (by decide),
    List.append_nil]

theorem nextMessage_line {limit : UInt64} {line rest : List UInt8} (clean : 10 ∉ line)
    (short : line.length ≤ limit.toNat) :
    nextMessage limit (line ++ 10 :: rest) = (lineMessage (dropReturn line), rest) := by
  have feed : line.length < (line ++ 10 :: rest).length := by
    rw [List.length_append, List.length_cons]
    omega
  have behind : (line ++ 10 :: rest).drop (line.length + 1) = rest := by
    rw [List.drop_append]
    simp
  rw [nextMessage, takeWhile_line clean, if_pos ⟨feed, short⟩, behind]
  rfl

/-- Octets without a line feed among the first that a reader takes. -/
theorem nextMessage_clean {limit : UInt64} {start rest : List UInt8} (clean : 10 ∉ start)
    (all : limit.toNat < start.length ∨ rest = []) :
    nextMessage limit (start ++ rest)
      = if limit.toNat < (start ++ rest).length then
          (.error (.tooLong limit), (start ++ rest).drop (limit.toNat + 1))
        else (.error .closed, []) := by
  have inside : ∀ o, o ∈ start → (o != 10) = true := by
    intro o present
    rw [bne_iff_ne]
    rintro rfl
    exact clean present
  have line : (start ++ rest).takeWhile (· != 10) = start ++ rest.takeWhile (· != 10) :=
    List.takeWhile_append_of_pos inside
  rw [nextMessage, if_neg]
  rw [line, List.length_append, List.length_append]
  rcases all with long | rfl
  · omega
  · simp

theorem Framed.nextMessage {limit : UInt64} {octets rest : List UInt8} {incoming : Incoming}
    (framed : Framed limit octets incoming rest) : nextMessage limit octets = (incoming, rest) := by
  cases framed with
  | line clean short plain =>
    rw [nextMessage_line clean short, dropReturn_eq_self plain]
  | @returned line _ clean short =>
    have clean' : 10 ∉ line ++ [13] := by simp [clean]
    have short' : (line ++ [13]).length ≤ limit.toNat := by simpa using short
    have whole : line ++ 13 :: 10 :: rest = (line ++ [13]) ++ 10 :: rest := by simp
    rw [whole, nextMessage_line clean' short', dropReturn_append]
  | @tooLong start _ clean long =>
    have cut : (start ++ rest).drop (limit.toNat + 1) = rest := by
      rw [← long, List.drop_left]
    rw [nextMessage_clean clean (.inl (by omega)), if_pos, cut]
    rw [List.length_append]
    omega
  | ended clean short =>
    rw [← List.append_nil octets, nextMessage_clean clean (.inr rfl), List.append_nil,
      if_neg (Nat.not_lt.mpr short)]

theorem framed_nextMessage (limit : UInt64) (octets : List UInt8) :
    Framed limit octets (nextMessage limit octets).1 (nextMessage limit octets).2 := by
  -- What has no line feed within the limit is too long, or the stream ends before it does.
  have cut : 10 ∉ octets.take (limit.toNat + 1) →
      Framed limit octets (nextMessage limit octets).1 (nextMessage limit octets).2 := by
    intro clean
    rcases Nat.lt_or_ge limit.toNat octets.length with long | short
    · have framed : Framed limit (octets.take (limit.toNat + 1) ++ octets.drop (limit.toNat + 1))
          (.error (.tooLong limit)) (octets.drop (limit.toNat + 1)) :=
        .tooLong clean (by rw [List.length_take]; omega)
      rw [List.take_append_drop] at framed
      rw [framed.nextMessage]
      exact framed
    · rw [List.take_of_length_le (by omega)] at clean
      have framed : Framed limit octets (.error .closed) [] := .ended clean short
      rw [framed.nextMessage]
      exact framed
  rcases line_cases octets with ⟨clean, -⟩ | ⟨rest, split, clean⟩
  · exact cut fun present => clean (List.mem_of_mem_take present)
  · generalize octets.takeWhile (· != 10) = line at split clean
    subst split
    rcases Nat.lt_or_ge limit.toNat line.length with long | short
    · apply cut
      intro present
      rw [List.take_append_of_le_length (by omega)] at present
      exact clean (List.mem_of_mem_take present)
    · rw [nextMessage_line clean short]
      rcases return_cases line with plain | ⟨before, rfl⟩
      · rw [dropReturn_eq_self plain]
        exact .line clean short plain
      · rw [List.length_append] at short
        rw [dropReturn_append, List.append_assoc]
        exact .returned (fun present => clean (List.mem_append_left _ present)) short

/-- Every stream has one first message. -/
theorem framed_iff {limit : UInt64} {octets rest : List UInt8} {incoming : Incoming} :
    Framed limit octets incoming rest ↔ nextMessage limit octets = (incoming, rest) := by
  constructor
  · exact Framed.nextMessage
  · intro same
    have framed := framed_nextMessage limit octets
    rwa [same] at framed

/-! ## One message after the other -/

/-- Messages one after the other, and the octets behind the last. -/
inductive FramedAll (limit : UInt64) : List UInt8 → List Incoming → List UInt8 → Prop
  | nil (octets : List UInt8) : FramedAll limit octets [] octets
  | cons {octets behind rest : List UInt8} {incoming : Incoming} {later : List Incoming} :
      Framed limit octets incoming behind → FramedAll limit behind later rest →
      FramedAll limit octets (incoming :: later) rest

/-- A stream is cut in one way only. -/
theorem FramedAll.unique {limit : UInt64} {octets rest rest' : List UInt8}
    {results results' : List Incoming} (frames : FramedAll limit octets results rest)
    (frames' : FramedAll limit octets results' rest') (same : results.length = results'.length) :
    results = results' ∧ rest = rest' := by
  induction frames generalizing results' with
  | nil octets =>
    cases frames' with
    | nil _ => exact ⟨rfl, rfl⟩
    | cons _ _ => cases same
  | cons first _ ih =>
    cases frames' with
    | nil _ => cases same
    | cons first' later' =>
      have both := first.nextMessage.symm.trans first'.nextMessage
      cases both
      obtain ⟨rfl, rfl⟩ := ih later' (Nat.succ.inj same)
      exact ⟨rfl, rfl⟩

/-- The results of so many calls for a message, one after the other, and the source behind them. -/
def readMany (limit : UInt64) : Nat → Source → Option (List Incoming × Source)
  | 0, source => some ([], source)
  | count + 1, source =>
    match readMessage limit source with
    | none => none
    | some (incoming, source) =>
      (readMany limit count source).map fun (later, source) => (incoming :: later, source)

variable {limit : UInt64} {source : Source}

/-- The first of so many calls comes out well, so the others are made behind it. -/
theorem readMany_succ {there : Source} {incoming : Incoming}
    (read : readMessage limit source = some (incoming, there)) (count : Nat) :
    readMany limit (count + 1) source
      = (readMany limit count there).map fun (later, after) => (incoming :: later, after) := by
  simp only [readMany, read]

/-- A call for a message, said of the octets of the source. -/
theorem readMessage_eq (usable : limit.toNat + 1 < UInt64.size) (full : source.isFull) :
    ∃ after, readMessage limit source = some ((nextMessage limit source.octets).1, after)
      ∧ after.octets = (nextMessage limit source.octets).2 ∧ after.isFull := by
  obtain ⟨same, full'⟩ := Source.message_takeLine limit full
  refine ⟨(source.takeLine (limit.toNat + 1)).2.2, ?_, congrArg Prod.snd same, full'⟩
  rw [readMessage, if_pos usable, ← congrArg Prod.fst same]

theorem readMessage_line (usable : limit.toNat + 1 < UInt64.size) (full : source.isFull)
    {line rest : List UInt8} (octets : source.octets = line ++ 10 :: rest) (clean : 10 ∉ line)
    (short : line.length ≤ limit.toNat) :
    ∃ after, readMessage limit source = some (lineMessage (dropReturn line), after)
      ∧ after.octets = rest ∧ after.isFull := by
  have first := readMessage_eq usable full
  rwa [octets, nextMessage_line clean short] at first

theorem readMessage_tooLong (usable : limit.toNat + 1 < UInt64.size) (full : source.isFull)
    {start rest : List UInt8} (octets : source.octets = start ++ rest) (clean : 10 ∉ start)
    (long : start.length = limit.toNat + 1) :
    ∃ after, readMessage limit source = some (.error (.tooLong limit), after)
      ∧ after.octets = rest ∧ after.isFull := by
  have framed : Framed limit (start ++ rest) (.error (.tooLong limit)) rest := .tooLong clean long
  have first := readMessage_eq usable full
  rwa [octets, framed.nextMessage] at first

theorem readMany_eq (usable : limit.toNat + 1 < UInt64.size) (full : source.isFull) (count : Nat) :
    ∃ results after, readMany limit count source = some (results, after)
      ∧ results.length = count ∧ FramedAll limit source.octets results after.octets
      ∧ after.isFull := by
  induction count generalizing source with
  | zero => exact ⟨[], source, rfl, rfl, .nil _, full⟩
  | succ count ih =>
    obtain ⟨behind, read, octets, full'⟩ := readMessage_eq usable full
    obtain ⟨later, after, reads, length, frames, full''⟩ := ih full'
    have first := framed_nextMessage limit source.octets
    rw [← octets] at first
    refine ⟨_ :: later, after, ?_, congrArg Nat.succ length, .cons first frames, full''⟩
    rw [readMany_succ read, reads, Option.map_some]

/-- Whatever is known to be read from octets is read from a source with these octets. -/
theorem FramedAll.readMany (usable : limit.toNat + 1 < UInt64.size) (full : source.isFull)
    {results : List Incoming} {rest : List UInt8}
    (frames : FramedAll limit source.octets results rest) :
    ∃ after, readMany limit results.length source = some (results, after)
      ∧ after.octets = rest := by
  obtain ⟨results', after, reads, length, frames', -⟩ := readMany_eq usable full results.length
  obtain ⟨rfl, rfl⟩ := frames'.unique frames length
  exact ⟨after, reads, rfl⟩

/-- How the octets are cut into chunks does not matter. -/
theorem readMany_congr (usable : limit.toNat + 1 < UInt64.size) {other : Source}
    (full : source.isFull) (full' : other.isFull) (same : source.octets = other.octets)
    (count : Nat) :
    (readMany limit count source).map Prod.fst = (readMany limit count other).map Prod.fst := by
  obtain ⟨results, after, reads, length, frames, -⟩ := readMany_eq usable full count
  rw [same] at frames
  obtain ⟨after', reads', -⟩ := frames.readMany usable full'
  rw [length] at reads'
  rw [reads, reads']
  rfl

/-! ## The end of the stream -/

theorem framed_nil (limit : UInt64) : Framed limit [] (.error .closed) [] :=
  .ended List.not_mem_nil (Nat.zero_le _)

/-- A message takes an octet, unless the stream has ended, and then nothing is left. -/
theorem Framed.shortens {octets rest : List UInt8} {incoming : Incoming}
    (framed : Framed limit octets incoming rest) :
    (incoming = .error .closed ∧ rest = [])
      ∨ (incoming ≠ .error .closed ∧ rest.length < octets.length) := by
  cases framed with
  | line _ _ _ => exact .inr ⟨lineMessage_ne_closed _, by simp; omega⟩
  | returned _ _ => exact .inr ⟨lineMessage_ne_closed _, by simp; omega⟩
  | tooLong _ long => exact .inr ⟨by simp, by rw [List.length_append]; omega⟩
  | ended _ _ => exact .inl ⟨rfl, rfl⟩

/-- Once the stream has ended, nothing more is read. -/
theorem framedAll_nil (limit : UInt64) (more : Nat) :
    FramedAll limit [] (List.replicate more (.error .closed)) [] := by
  induction more with
  | zero => exact .nil []
  | succ more ih => exact .cons (framed_nil limit) ih

/-- A stream ends after no more messages than it has octets, and from then on it has ended. -/
theorem FramedAll.exists_closed (limit : UInt64) (octets : List UInt8) :
    ∃ read : List Incoming, read.length ≤ octets.length ∧ .error .closed ∉ read
      ∧ ∀ more, FramedAll limit octets (read ++ List.replicate (more + 1) (.error .closed)) [] := by
  induction size : octets.length using Nat.strongRecOn generalizing octets with
  | ind size ih =>
    have first := framed_nextMessage limit octets
    rcases first.shortens with ⟨closed, nothing⟩ | ⟨message, shorter⟩
    · rw [closed, nothing] at first
      refine ⟨[], Nat.zero_le _, List.not_mem_nil, ?_⟩
      intro more
      exact .cons first (framedAll_nil limit more)
    · obtain ⟨read, short, open', frames⟩ := ih _ (size ▸ shorter) _ rfl
      refine ⟨(nextMessage limit octets).1 :: read, ?_, ?_, ?_⟩
      · rw [List.length_cons]
        omega
      · rw [List.mem_cons, not_or]
        exact ⟨Ne.symm message, open'⟩
      · intro more
        exact .cons first (frames more)

theorem messagesWithin_closed {after : Source}
    (read : readMessage limit source = some (.error .closed, after)) (count : Nat) :
    messagesWithin limit (count + 1) source = some [] := by
  simp only [messagesWithin, read]

theorem messagesWithin_cons {incoming : Incoming} {after : Source}
    (read : readMessage limit source = some (incoming, after)) (message : incoming ≠ .error .closed)
    (count : Nat) :
    messagesWithin limit (count + 1) source
      = (messagesWithin limit count after).map (incoming :: ·) := by
  rw [messagesWithin, read]
  split
  · next eq => cases eq
  · next eq =>
    cases eq
    exact absurd rfl message
  · next eq =>
    cases eq
    rfl

/-- What is read up to the end of the stream, when the bound allows for it. -/
theorem messagesWithin_eq (usable : limit.toNat + 1 < UInt64.size) (full : source.isFull)
    {read : List Incoming} (open' : .error .closed ∉ read) {count : Nat}
    (enough : read.length < count) {rest : List UInt8}
    (frames : FramedAll limit source.octets (read ++ [.error .closed]) rest) :
    messagesWithin limit count source = some read := by
  obtain ⟨count, rfl⟩ := Nat.exists_eq_add_one_of_ne_zero (Nat.ne_zero_of_lt enough)
  obtain ⟨behind, first, octets, full'⟩ := readMessage_eq usable full
  induction read generalizing source count behind with
  | nil =>
    cases frames with
    | cons framed _ =>
      rw [framed.nextMessage] at first
      exact messagesWithin_closed first count
  | cons incoming read ih =>
    cases frames with
    | cons framed later =>
      rw [framed.nextMessage] at first octets
      subst octets
      simp only [List.mem_cons, not_or] at open'
      rw [List.length_cons] at enough
      obtain ⟨count, rfl⟩ := Nat.exists_eq_add_one_of_ne_zero
        (Nat.ne_zero_of_lt (Nat.lt_of_succ_lt_succ enough))
      obtain ⟨behind', next, octets', full''⟩ := readMessage_eq usable full'
      have others := ih full' open'.2 later count (Nat.lt_of_succ_lt_succ enough) behind' next
        octets' full''
      rw [messagesWithin_cons first (Ne.symm open'.1), others]
      rfl

/-! ## Sources -/

/-- For a limit that has a number above it, and a source without empty chunks: so many calls give
the first so many messages of the stream, and no others would be. Up to the first time that the
connection seems closed these are the ones that `messages` gives, no more than the stream has
octets; from then on it is always closed. A line that is as long as the limit is read, one that is
longer by an octet is not, and a line that is read, whatever it says, does not matter for those
behind it. -/
theorem readMany_framed (usable : limit.toNat + 1 < UInt64.size) (full : source.isFull) :
    (∀ count, ∃ results after, readMany limit count source = some (results, after)
        ∧ results.length = count ∧ FramedAll limit source.octets results after.octets
        ∧ ∀ results' rest, results'.length = count → FramedAll limit source.octets results' rest →
          results' = results ∧ rest = after.octets)
      ∧ (∃ read, messages limit source = some read ∧ read.length ≤ source.octets.length
        ∧ .error .closed ∉ read
        ∧ ∀ more, ∃ after, readMany limit (read.length + (more + 1)) source
            = some (read ++ List.replicate (more + 1) (.error .closed), after)
          ∧ after.octets = [])
      ∧ ∀ line rest, source.octets = line ++ 10 :: rest → 10 ∉ line →
        (line.length = limit.toNat → ∃ after,
          readMessage limit source = some (lineMessage (dropReturn line), after)
            ∧ after.octets = rest)
        ∧ (line.length = limit.toNat + 1 → ∃ after,
          readMessage limit source = some (.error (.tooLong limit), after)
            ∧ after.octets = 10 :: rest)
        ∧ (line.length ≤ limit.toNat → ∀ other : Source, other.isFull → other.octets = rest →
          ∀ count, (readMany limit (count + 1) source).map Prod.fst
            = (readMany limit count other).map fun later =>
              lineMessage (dropReturn line) :: later.1) := by
  refine ⟨?_, ?_, ?_⟩
  · intro count
    obtain ⟨results, after, reads, length, frames, -⟩ := readMany_eq usable full count
    refine ⟨results, after, reads, length, frames, ?_⟩
    intro results' rest length' frames'
    exact frames'.unique frames (length'.trans length.symm)
  · obtain ⟨read, short, open', frames⟩ := FramedAll.exists_closed limit source.octets
    have all := messagesWithin_eq usable full open' (Nat.lt_succ_of_le short) (frames 0)
    refine ⟨read, all, short, open', ?_⟩
    intro more
    obtain ⟨after, reads, nothing⟩ := (frames more).readMany usable full
    rw [List.length_append, List.length_replicate] at reads
    exact ⟨after, reads, nothing⟩
  · intro line rest octets clean
    refine ⟨?_, ?_, ?_⟩
    · intro long
      obtain ⟨after, read, behind, -⟩ :=
        readMessage_line usable full octets clean (Nat.le_of_eq long)
      exact ⟨after, read, behind⟩
    · intro longer
      obtain ⟨after, read, behind, -⟩ := readMessage_tooLong usable full octets clean longer
      exact ⟨after, read, behind⟩
    · intro short other full' same count
      obtain ⟨after, read, behind, full''⟩ := readMessage_line usable full octets clean short
      have others := readMany_congr usable full'' full' (behind.trans same.symm) count
      calc (readMany limit (count + 1) source).map Prod.fst
        _ = ((readMany limit count after).map Prod.fst).map
            (lineMessage (dropReturn line) :: ·) := by
          simp only [readMany, read, Option.map_map]
          rfl
        _ = (readMany limit count other).map fun later =>
            lineMessage (dropReturn line) :: later.1 := by
          rw [others, Option.map_map]
          rfl

/-- Three lines, cut in the middle of everything: `ab`, `c` with a carriage return, and `defg`. -/
def scattered : Source :=
  ⟨[97], [[98, 10, 99], [13], [10, 100, 101], [102, 103, 10]]⟩

theorem readMany_framed_scattered :
    (3 : UInt64).toNat + 1 < UInt64.size ∧ scattered.isFull
      ∧ ∃ after, readMany 3 6 scattered
          = some ([lineMessage [97, 98], lineMessage [99], .error (.tooLong 3), lineMessage [],
            .error .closed, .error .closed], after)
        ∧ after.octets = [] := by
  have usable : (3 : UInt64).toNat + 1 < UInt64.size := by decide
  have full : scattered.isFull := by
    rw [Source.isFull]
    decide
  obtain ⟨results, after, reads, -, -, only⟩ := (readMany_framed usable full).1 6
  have first : Framed 3 ([97, 98] ++ 10 :: [99, 13, 10, 100, 101, 102, 103, 10])
      (lineMessage [97, 98]) [99, 13, 10, 100, 101, 102, 103, 10] :=
    .line (by decide) (by decide) (by decide)
  have second : Framed 3 ([99] ++ 13 :: 10 :: [100, 101, 102, 103, 10])
      (lineMessage [99]) [100, 101, 102, 103, 10] :=
    .returned (by decide) (by decide)
  have third : Framed 3 ([100, 101, 102, 103] ++ [10]) (.error (.tooLong 3)) [10] :=
    .tooLong (by decide) (by decide)
  -- The line feed of the line that is too long is left, and read as an empty line.
  have fourth : Framed 3 ([] ++ 10 :: []) (lineMessage []) [] :=
    .line (by decide) (by decide) (by decide)
  have frames : FramedAll 3 scattered.octets
      [lineMessage [97, 98], lineMessage [99], .error (.tooLong 3), lineMessage [],
        .error .closed, .error .closed] [] :=
    .cons first (.cons second (.cons third (.cons fourth (framedAll_nil 3 2))))
  obtain ⟨same, rest⟩ := only _ _ rfl frames
  exact ⟨usable, full, after, same ▸ reads, rest.symm⟩

end DebugBridge
