import DebugBridge.Proofs.Wire.Framing
import DebugBridge.Proofs.Wire.Ending

/-!
# A reader under any limit

A reader takes one octet more than a line may have, or it could not tell that a line is too long.
There is no number above the largest limit: under that limit a reader fails at its first call, and
takes nothing. Under any other limit it can be called as often as one likes. It says that the
connection is closed where nothing is left, or behind an empty chunk, and nowhere else.

* `Source.Ends`: the two places at which a source seems to end.

Results:
1. `readMessage_eq_none_iff`: the one limit under which a call fails.
2. `Source.Took.ends`: where a call says that the connection is closed.
3. `readMany_any_limit`: so many calls, under any limit.
4. `largest_limit_fails`: a line that is not read under the largest limit.
-/

namespace DebugBridge

variable {limit : UInt64} {source there after : Source} {taken : List UInt8} {count : Nat}
  {results : List Incoming}

/-! ## Where a source seems to end -/

/-- A reader of a source has come to where the source seems to end: nothing is left, or the last
chunk that has been begun is an empty one. -/
inductive Source.Ends (source there : Source) : Prop
  | exhausted : there.octets = [] → Source.Ends source there
  | emptyChunk {begun : List (List UInt8)} : source.behind = begun ++ [] :: there.behind →
      there.current = [] → Source.Ends source there

/-- Without empty chunks there is nothing behind the end. -/
theorem Source.Ends.octets_eq_nil (ends : source.Ends there) (full : source.isFull) :
    there.octets = [] := by
  cases ends with
  | exhausted nothing => exact nothing
  | emptyChunk chunks _ =>
    rw [Source.isFull, chunks] at full
    exact absurd (List.mem_append_right _ List.mem_cons_self) full

/-- An end of what is left of a source is an end of the source. -/
theorem Source.Ends.of_begun (ends : after.Ends there) {begun : List (List UInt8)}
    (chunks : source.behind = begun ++ after.behind) : source.Ends there := by
  cases ends with
  | exhausted nothing => exact .exhausted nothing
  | @emptyChunk begun' chunks' exhausted =>
    have all : source.behind = (begun ++ begun') ++ [] :: there.behind := by
      rw [chunks, chunks', List.append_assoc]
    exact .emptyChunk all exhausted

/-! ## One call -/

theorem readMessage_eq_none_iff :
    readMessage limit source = none ↔ limit.toNat + 1 = UInt64.size := by
  have bound := limit.toNat_lt_size
  unfold readMessage
  split
  · next usable =>
    constructor
    · intro fails
      cases fails
    · omega
  · next largest =>
    constructor
    · intro _
      omega
    · intro _
      rfl

/-- A message is made of what has been taken for a line. -/
theorem readMessage_took {incoming : Incoming}
    (read : readMessage limit source = some (incoming, after)) :
    ∃ taken reason, source.Took (limit.toNat + 1) taken reason after
      ∧ incoming = messageOf limit taken := by
  unfold readMessage at read
  split at read
  · cases read
    exact ⟨_, _, Source.took (Nat.succ_ne_zero _) source, rfl⟩
  · cases read

/-- What is taken for the end of the stream has no line feed at its end, and is not too long. -/
theorem messageOf_closed (closed : messageOf limit taken = .error .closed) :
    taken.getLast? ≠ some 10 ∧ taken.length ≤ limit.toNat := by
  constructor
  · intro feed
    obtain ⟨line, rfl⟩ := List.getLast?_eq_some_iff.mp feed
    rw [messageOf_feed] at closed
    exact lineMessage_ne_closed _ closed
  · unfold messageOf at closed
    split at closed
    · exact absurd closed (lineMessage_ne_closed _)
    · split at closed
      · cases closed
      · next short => exact Nat.not_lt.mp short

/-- A call says that the connection is closed only where the source seems to end. -/
theorem Source.Took.ends {reason : Taken}
    (took : source.Took (limit.toNat + 1) taken reason there)
    (closed : messageOf limit taken = .error .closed) : source.Ends there := by
  obtain ⟨open', short⟩ := messageOf_closed closed
  cases reason with
  | line => exact absurd (took.line rfl) open'
  | limit => exact absurd (took.limit rfl) (Nat.not_le.mpr (Nat.lt_succ_of_le short))
  | emptyChunk =>
    -- The empty chunk is the last of those begun, so nothing of it is left.
    obtain ⟨begun, chunks, octets⟩ := took.begun
    obtain ⟨begun', chunks', octets'⟩ := took.emptyChunk rfl
    have both : begun ++ there.behind = (begun' ++ [[]]) ++ there.behind := by
      rw [← chunks, chunks', List.append_assoc]
      rfl
    have same : begun = begun' ++ [[]] := List.append_cancel_right both
    have nothing : there.current = [] := by
      rw [same, List.flatten_append, ← List.append_assoc, octets'] at octets
      simpa using octets
    exact .emptyChunk chunks' nothing
  | everything =>
    rw [took.everything rfl]
    exact .exhausted rfl

/-! ## Any number of calls -/

/-- The first of so many calls, and those behind it. -/
theorem readMany_succ_cases (reads : readMany limit (count + 1) source = some (results, after)) :
    ∃ incoming there later, readMessage limit source = some (incoming, there)
      ∧ readMany limit count there = some (later, after) ∧ results = incoming :: later := by
  cases read : readMessage limit source with
  | none =>
    simp only [readMany, read] at reads
    cases reads
  | some first =>
    obtain ⟨incoming, there⟩ := first
    rw [readMany_succ read] at reads
    obtain ⟨⟨later, after'⟩, reads', same⟩ := Option.map_eq_some_iff.mp reads
    cases same
    exact ⟨incoming, there, later, rfl, reads', rfl⟩

theorem exists_readMany (usable : limit.toNat + 1 < UInt64.size) (source : Source) (count : Nat) :
    ∃ results after, readMany limit count source = some (results, after)
      ∧ results.length = count := by
  induction count generalizing source with
  | zero => exact ⟨[], source, rfl, rfl⟩
  | succ count ih =>
    have works : readMessage limit source ≠ none := fun fails =>
      Nat.ne_of_lt usable (readMessage_eq_none_iff.mp fails)
    obtain ⟨⟨incoming, there⟩, read⟩ := Option.ne_none_iff_exists'.mp works
    obtain ⟨later, after, reads, length⟩ := ih there
    refine ⟨incoming :: later, after, ?_, congrArg Nat.succ length⟩
    rw [readMany_succ read, reads, Option.map_some]

/-- Whichever of so many calls says that the connection is closed, the source seems to end where it
has been read up to then. -/
theorem readMany_ends (reads : readMany limit count source = some (results, after))
    {before later : List Incoming} (split : results = before ++ .error .closed :: later) :
    ∃ there, readMany limit (before.length + 1) source = some (before ++ [.error .closed], there)
      ∧ source.Ends there := by
  induction count generalizing source results before with
  | zero =>
    cases reads
    exact absurd split.symm (by simp)
  | succ count ih =>
    obtain ⟨incoming, there, others, read, reads', rfl⟩ := readMany_succ_cases reads
    obtain ⟨taken, reason, took, message⟩ := readMessage_took read
    cases before with
    | nil =>
      obtain ⟨rfl, -⟩ := List.cons.inj split
      refine ⟨there, ?_, took.ends message.symm⟩
      rw [List.length_nil, readMany_succ read]
      rfl
    | cons first before =>
      obtain ⟨rfl, split'⟩ := List.cons.inj split
      obtain ⟨begun, chunks, -⟩ := took.begun
      obtain ⟨last, reads'', ends⟩ := ih reads' split'
      refine ⟨last, ?_, ends.of_begun chunks⟩
      rw [List.length_cons, readMany_succ read, reads'']
      rfl

/-- Under the largest limit the first call fails, whatever the source. Under any other limit, however
many calls are made, each of them gives a result. Whenever it is that the connection is closed, the
source seems to end where it has been read up to then; if no chunk is empty, nothing is left of
it. -/
theorem readMany_any_limit (limit : UInt64) (source : Source) (count : Nat) :
    (limit.toNat + 1 = UInt64.size → readMany limit (count + 1) source = none)
      ∧ (limit.toNat + 1 < UInt64.size →
        ∃ results after, readMany limit count source = some (results, after)
          ∧ results.length = count
          ∧ ∀ before later, results = before ++ .error .closed :: later →
            ∃ there, readMany limit (before.length + 1) source
                = some (before ++ [.error .closed], there)
              ∧ source.Ends there ∧ (source.isFull → there.octets = [])) := by
  constructor
  · intro largest
    rw [readMany, readMessage_eq_none_iff.mpr largest]
  · intro usable
    obtain ⟨results, after, reads, length⟩ := exists_readMany usable source count
    refine ⟨results, after, reads, length, ?_⟩
    intro before later split
    obtain ⟨there, reads', ends⟩ := readMany_ends reads split
    exact ⟨there, reads', ends, ends.octets_eq_nil⟩

/-- A line `a`, and an octet that no line feed follows. -/
def unfinished : Source :=
  ⟨[97, 10], [[98]]⟩

/-- The same, with an empty chunk between them. -/
def halting : Source :=
  ⟨[97, 10], [[], [98]]⟩

theorem readMany_any_limit_unfinished :
    (18446744073709551615 : UInt64).toNat + 1 = UInt64.size
      ∧ readMany 18446744073709551615 2 unfinished = none
      ∧ (18446744073709551614 : UInt64).toNat + 1 < UInt64.size
      ∧ unfinished.isFull
      ∧ (∃ there, readMany 18446744073709551614 2 unfinished
          = some ([lineMessage [97], .error .closed], there) ∧ there.octets = [])
      ∧ readMany 18446744073709551614 2 halting
        = some ([lineMessage [97], .error .closed], ⟨[], [[98]]⟩)
      ∧ halting.Ends ⟨[], [[98]]⟩ := by
  have largest : (18446744073709551615 : UInt64).toNat + 1 = UInt64.size := by decide
  have usable : (18446744073709551614 : UInt64).toNat + 1 < UInt64.size := by decide
  have full : unfinished.isFull := by
    rw [Source.isFull]
    decide
  have read : readMany 18446744073709551614 2 unfinished
      = some ([lineMessage [97], .error .closed], ⟨[], []⟩) := rfl
  have halted : readMany 18446744073709551614 2 halting
      = some ([lineMessage [97], .error .closed], ⟨[], [[98]]⟩) := rfl
  obtain ⟨results, after, reads, -, ends⟩ :=
    (readMany_any_limit 18446744073709551614 unfinished 2).2 usable
  obtain ⟨rfl, rfl⟩ := Prod.mk.inj (Option.some.inj (read.symm.trans reads))
  obtain ⟨there, reads, -, nothing⟩ := ends [lineMessage [97]] [] rfl
  obtain ⟨results', after', reads', -, ends'⟩ :=
    (readMany_any_limit 18446744073709551614 halting 2).2 usable
  obtain ⟨rfl, rfl⟩ := Prod.mk.inj (Option.some.inj (halted.symm.trans reads'))
  obtain ⟨there', reads', atChunk, -⟩ := ends' [lineMessage [97]] [] rfl
  cases reads'
  exact ⟨largest, (readMany_any_limit 18446744073709551615 unfinished 1).1 largest, usable, full,
    ⟨there, reads, nothing full⟩, halted, atChunk⟩

/-- A line that is read under the last limit but one, and not under the last. -/
theorem largest_limit_fails :
    (readMany 18446744073709551614 1 (.ofChunks [Message.encode .initAck])).map Prod.fst
        = some [.ok .initAck]
      ∧ readMany 18446744073709551615 1 (.ofChunks [Message.encode .initAck]) = none := by
  constructor
  · rfl
  · rfl

end DebugBridge
