import DebugBridge.Proofs.Wire.Lines
import DebugBridge.Wire.Pipe

/-!
# The end of a stream

One end of a pipe writes and the other reads, in pieces of any size, and either is dropped at some
time. A reader takes the end of the stream to have come when it is given nothing, or a line without
a line feed. That is so when the writer has been dropped and everything has been taken. It also
happens at an empty chunk, with the writer still there and octets behind that chunk; nothing else
looks like the end.

* `Pipe.Use`: what is done with a pipe, and what comes of it.
* `Pipe.Log.AtEnd`, `Pipe.Log.AtEmptyChunk`: the two places that look like the end.

Results:
1. `Source.took`: what is taken for a line, chunk by chunk.
2. `Pipe.Standing.step`: what has been taken, and what is left, after one more use.
3. `Pipe.Run.drained`: whatever has been written can still be read.
4. `Pipe.Run.shows_end`: what the reader is given, over all uses.
5. `Pipe.empty_chunk_shows_end`: an empty chunk looks like the end before the end.
-/

namespace DebugBridge

/-- An entry of a list that has grown at its end is the last one, or was there before. -/
theorem split_snoc {α : Type} {list before later : List α} {last entry : α}
    (eq : list ++ [last] = before ++ entry :: later) :
    list = before ∧ last = entry ∨ ∃ later, list = before ++ entry :: later := by
  rcases List.eq_nil_or_concat later with rfl | ⟨later, last', rfl⟩
  · obtain ⟨same, ends⟩ := List.append_inj' eq rfl
    exact .inl ⟨same, (List.cons.inj ends).1⟩
  · rw [List.concat_eq_append, ← List.cons_append, ← List.append_assoc] at eq
    exact .inr ⟨later, (List.append_inj' eq rfl).1⟩

/-! ## Lines and chunks -/

/-- What has been taken for a line: which chunks have been begun, and why it stops. -/
structure Source.Took (limit : Nat) (source : Source) (taken : List UInt8) (reason : Taken)
    (rest : Source) : Prop where
  begun : ∃ begun, source.behind = begun ++ rest.behind
    ∧ source.current ++ begun.flatten = taken ++ rest.current
  line : reason = .line → taken.getLast? = some 10
  limit : reason = .limit → limit ≤ taken.length
  emptyChunk : reason = .emptyChunk → ∃ begun, source.behind = begun ++ [] :: rest.behind
    ∧ source.current ++ begun.flatten = taken
  everything : reason = .everything → rest = ⟨[], []⟩

theorem takeLine_took (limit : Nat) (current : List UInt8) (behind : List (List UInt8)) :
    Source.Took limit ⟨current, behind⟩ (takeLine limit current behind).1
      (takeLine limit current behind).2.1 (takeLine limit current behind).2.2 := by
  fun_induction takeLine limit current behind with
  | case1 behind limit current start after parts line rest found =>
    obtain ⟨rfl, rfl, -⟩ := splitAt_limit parts
    obtain ⟨before, rfl, -⟩ := splitLine?_line found
    refine ⟨⟨[], rfl, ?_⟩, fun _ => List.getLast?_concat, Taken.noConfusion, Taken.noConfusion,
      Taken.noConfusion⟩
    have whole := splitLine?_append found
    rw [List.flatten_nil, List.append_nil, ← List.append_assoc, whole, List.take_append_drop]
  | case2 behind limit current start after parts none short =>
    obtain ⟨rfl, rfl, inside⟩ := splitAt_limit parts
    refine ⟨⟨[], rfl, ?_⟩, Taken.noConfusion, fun _ => ?_, Taken.noConfusion, Taken.noConfusion⟩
    · rw [List.flatten_nil, List.append_nil, List.take_append_drop]
    · exact Nat.le_of_eq (List.length_take_of_le (inside.mp short)).symm
  | case3 limit current start after parts none long =>
    exact ⟨⟨[], rfl, rfl⟩, Taken.noConfusion, Taken.noConfusion, Taken.noConfusion, fun _ => rfl⟩
  | case4 limit current start after parts none long behind =>
    refine ⟨⟨[[]], rfl, rfl⟩, Taken.noConfusion, Taken.noConfusion, fun _ => ⟨[], rfl, ?_⟩,
      Taken.noConfusion⟩
    rw [List.flatten_nil, List.append_nil]
  | case5 limit current start after parts none long o chunk behind later reason source eq ih =>
    -- The rest of the line is taken from the next chunk, which has been begun with it.
    rw [eq] at ih
    obtain ⟨⟨begun, chunks, octets⟩, line, most, empty, all⟩ := ih
    dsimp only at chunks octets line most empty all ⊢
    refine ⟨⟨(o :: chunk) :: begun, ?_, ?_⟩, fun ended => ?_, fun ended => ?_, fun ended => ?_, all⟩
    · rw [chunks, List.cons_append]
    · rw [List.flatten_cons, octets, List.append_assoc]
    · rw [List.getLast?_append, line ended, Option.some_or]
    · have enough := most ended
      rw [List.length_append]
      omega
    · obtain ⟨begun', chunks', octets'⟩ := empty ended
      refine ⟨(o :: chunk) :: begun', ?_, ?_⟩
      · rw [chunks', List.cons_append]
      · rw [List.flatten_cons, octets']

theorem Source.took {limit : Nat} (some' : limit ≠ 0) (source : Source) :
    source.Took limit (source.takeLine limit).1 (source.takeLine limit).2.1
      (source.takeLine limit).2.2 := by
  unfold Source.takeLine
  rw [if_neg some']
  split
  · next behind =>
    exact ⟨⟨[[]], rfl, rfl⟩, Taken.noConfusion, Taken.noConfusion, fun _ => ⟨[], rfl, rfl⟩,
      Taken.noConfusion⟩
  · next chunk behind _ =>
    obtain ⟨⟨begun, chunks, octets⟩, line, most, empty, all⟩ := takeLine_took limit chunk behind
    dsimp only at chunks octets empty
    refine ⟨⟨chunk :: begun, ?_, octets⟩, line, most, fun ended => ?_, all⟩
    · rw [List.cons_append, ← chunks]
    · obtain ⟨begun', chunks', octets'⟩ := empty ended
      exact ⟨chunk :: begun', by rw [List.cons_append, ← chunks'], octets'⟩
  · exact takeLine_took limit _ _

namespace Pipe

/-! ## Uses -/

/-- What is done with a pipe, and what comes of it. A write is refused when nobody will read; what
has only been looked at has not been taken. -/
inductive Use where
  | wrote (chunk : List UInt8)
  | refused (chunk : List UInt8)
  | read (size : Nat) (taken : List UInt8)
  | looked (seen : List UInt8)
  | consumed (taken : List UInt8)
  | line (taken : List UInt8)
  | writerDropped
  | readerDropped
deriving DecidableEq

namespace Use

/-- The chunk that has been put into the pipe. -/
def given : Use → List (List UInt8)
  | .wrote chunk => [chunk]
  | _ => []

/-- The octets that have been taken out of it. -/
def taken : Use → List UInt8
  | .read _ taken => taken
  | .consumed taken => taken
  | .line taken => taken
  | _ => []

/-- The reader is given nothing although it wants something, or a line without a line feed. -/
inductive ShowsEnd : Use → Prop
  | read {size : Nat} : 0 < size → ShowsEnd (.read size [])
  | looked : ShowsEnd (.looked [])
  | line {taken : List UInt8} : taken.getLast? ≠ some 10 → ShowsEnd (.line taken)

variable {size : Nat} {taken seen : List UInt8}

theorem showsEnd_read : (Use.read size taken).ShowsEnd ↔ 0 < size ∧ taken = [] := by
  constructor
  · intro shows
    cases shows with
    | read some' => exact ⟨some', rfl⟩
  · rintro ⟨some', rfl⟩
    exact .read some'

theorem showsEnd_looked : (Use.looked seen).ShowsEnd ↔ seen = [] := by
  constructor
  · intro shows
    cases shows
    rfl
  · rintro rfl
    exact .looked

theorem showsEnd_line : (Use.line taken).ShowsEnd ↔ taken.getLast? ≠ some 10 := by
  constructor
  · intro shows
    cases shows with
    | line short => exact short
  · exact .line

end Use

/-- What an end that exists can do, and the pipe before and after it. Reading that would have to wait
is no step. -/
inductive Step (pipe : Pipe) : Use → Pipe → Prop
  | wrote {chunk : List UInt8} {after : Pipe} : pipe.writerOpen = true →
      pipe.write chunk = .ok after → Step pipe (.wrote chunk) after
  | refused {chunk : List UInt8} {fault : TransportFault} : pipe.writerOpen = true →
      pipe.write chunk = .error fault → Step pipe (.refused chunk) pipe
  | read {size : Nat} {taken : List UInt8} {after : Pipe} : pipe.readerOpen = true →
      pipe.read? size = some (taken, after) → Step pipe (.read size taken) after
  | looked {seen : List UInt8} {after : Pipe} : pipe.readerOpen = true →
      pipe.look? = some (seen, after) → Step pipe (.looked seen) after
  | consumed {count : Nat} {taken : List UInt8} {after : Pipe} : pipe.readerOpen = true →
      pipe.consume count = (taken, after) → Step pipe (.consumed taken) after
  | line {taken : List UInt8} {after : Pipe} : pipe.readerOpen = true →
      pipe.line? = some (taken, after) → Step pipe (.line taken) after
  | writerDropped : pipe.writerOpen = true → Step pipe .writerDropped pipe.closeWriter
  | readerDropped : pipe.readerOpen = true → Step pipe .readerDropped pipe.closeReader

/-- What has been done with a pipe, the first use first. -/
abbrev Log := List Use

/-- What has been done with a new pipe, and the pipe then. -/
inductive Run : Log → Pipe → Prop
  | fresh : Run [] empty
  | step {log : Log} {pipe after : Pipe} {use : Use} :
      Run log pipe → Step pipe use after → Run (log ++ [use]) after

namespace Log

/-- The chunks that have been written. -/
def chunks (log : Log) : List (List UInt8) :=
  log.flatMap Use.given

/-- The octets that have been written. -/
def written (log : Log) : List UInt8 :=
  log.chunks.flatten

/-- The octets that have been taken. -/
def taken (log : Log) : List UInt8 :=
  log.flatMap Use.taken

/-- The writer has been dropped, and everything has been taken. -/
def AtEnd (log : Log) : Prop :=
  Use.writerDropped ∈ log ∧ log.taken = log.written

/-- An empty chunk is next: just what was written before it has been taken. -/
def AtEmptyChunk (log : Log) : Prop :=
  ∃ before later, log.chunks = before ++ [] :: later ∧ before.flatten = log.taken

variable {log : Log} {use : Use}

theorem chunks_snoc (log : Log) (use : Use) : chunks (log ++ [use]) = log.chunks ++ use.given := by
  simp [chunks]

theorem taken_snoc (log : Log) (use : Use) : taken (log ++ [use]) = log.taken ++ use.taken := by
  simp [taken]

end Log

/-! ## What is left -/

/-- How a pipe stands after what has been done with it. The chunks that have been begun are taken, up
to the rest of the last of them. -/
structure Standing (log : Log) (pipe : Pipe) : Prop where
  begun : ∃ begun, log.chunks = begun ++ pipe.source.behind
    ∧ begun.flatten = log.taken ++ pipe.source.current
  writer : pipe.writerOpen = true ↔ Use.writerDropped ∉ log
  reader : pipe.readerOpen = true ↔ Use.readerDropped ∉ log

variable {log : Log} {pipe after : Pipe} {use : Use}

/-- What has been taken and what has not are all that has been written. -/
theorem Standing.written_eq (standing : Standing log pipe) :
    log.taken ++ pipe.unread = log.written := by
  obtain ⟨begun, chunks, octets⟩ := standing.begun
  rw [Log.written, chunks, List.flatten_append, octets, List.append_assoc]
  rfl

theorem standing_empty : Standing [] empty where
  begun := ⟨[], rfl, rfl⟩
  writer := by simp [empty]
  reader := by simp [empty]

/-- What neither writes nor drops leaves both ends as they are. -/
theorem Standing.of_source (standing : Standing log pipe) {source : Source} (given : use.given = [])
    (begun : ∃ begun, pipe.source.behind = begun ++ source.behind
      ∧ pipe.source.current ++ begun.flatten = use.taken ++ source.current)
    (writer : use ≠ .writerDropped) (reader : use ≠ .readerDropped) :
    Standing (log ++ [use]) { pipe with source := source } where
  begun := by
    obtain ⟨begun, chunks, octets⟩ := begun
    obtain ⟨before, chunks', octets'⟩ := standing.begun
    refine ⟨before ++ begun, ?_, ?_⟩
    · rw [Log.chunks_snoc, given, List.append_nil, chunks', chunks, List.append_assoc]
    · rw [Log.taken_snoc, List.flatten_append, octets', List.append_assoc, octets,
        ← List.append_assoc]
  writer := by simp [standing.writer, writer.symm]
  reader := by simp [standing.reader, reader.symm]

/-- An exhausted chunk gives way to the next one. -/
theorem fill_begun (source : Source) :
    ∃ begun, source.behind = begun ++ source.fill.behind
      ∧ source.current ++ begun.flatten = source.fill.current := by
  unfold Source.fill
  split
  · next chunk behind => exact ⟨[chunk], rfl, by simp⟩
  · exact ⟨[], rfl, by simp⟩

/-- What the end of a stream looks like to a reader that need not wait. -/
theorem fill_nil (standing : Standing log pipe) (ready : pipe.waits = false)
    (nothing : pipe.source.fill.current = []) : log.AtEnd ∨ log.AtEmptyChunk := by
  obtain ⟨⟨current, behind⟩, writerOpen, readerOpen⟩ := pipe
  obtain ⟨begun, chunks, octets⟩ := standing.begun
  have exhausted : current = [] := by
    cases current with
    | nil => rfl
    | cons o current => cases nothing
  cases exhausted
  rw [List.append_nil] at octets
  cases behind with
  | nil =>
    refine .inl ⟨?_, ?_⟩
    · have closed : writerOpen = false := by simpa [waits] using ready
      simpa [closed] using standing.writer
    · rw [Log.written, chunks, List.append_nil, octets]
  | cons chunk behind =>
    cases nothing
    exact .inr ⟨begun, behind, chunks, octets⟩

theorem Log.AtEnd.snoc (atEnd : log.AtEnd) (given : use.given = []) (nothing : use.taken = []) :
    Log.AtEnd (log ++ [use]) := by
  obtain ⟨gone, all⟩ := atEnd
  refine ⟨List.mem_append_left _ gone, ?_⟩
  rw [taken_snoc, written, chunks_snoc, given, nothing, List.append_nil, List.append_nil]
  exact all

theorem Log.AtEmptyChunk.snoc (empty : log.AtEmptyChunk) (given : use.given = [])
    (nothing : use.taken = []) : Log.AtEmptyChunk (log ++ [use]) := by
  obtain ⟨before, later, chunks, octets⟩ := empty
  refine ⟨before, later, ?_, ?_⟩
  · rw [chunks_snoc, given, List.append_nil, chunks]
  · rw [taken_snoc, nothing, List.append_nil, octets]

/-! ## One more use -/

/-- The reader need not believe that the end has come, or it is at a place that looks like it. -/
def Place (log : Log) (use : Use) : Prop :=
  use.ShowsEnd → Log.AtEnd (log ++ [use]) ∨ Log.AtEmptyChunk (log ++ [use])

/-- What takes nothing is at the place where the pipe was before. -/
theorem place_snoc (place : log.AtEnd ∨ log.AtEmptyChunk) (given : use.given = [])
    (nothing : use.taken = []) : Log.AtEnd (log ++ [use]) ∨ Log.AtEmptyChunk (log ++ [use]) :=
  place.imp (fun atEnd => atEnd.snoc given nothing) (fun empty => empty.snoc given nothing)

theorem Standing.wrote {chunk : List UInt8} (standing : Standing log pipe)
    (writes : pipe.write chunk = .ok after) : Standing (log ++ [.wrote chunk]) after := by
  unfold write at writes
  split at writes
  · cases writes
    obtain ⟨begun, chunks, octets⟩ := standing.begun
    refine ⟨⟨begun, ?_, ?_⟩, ?_, ?_⟩
    · rw [Log.chunks_snoc, chunks, List.append_assoc]
      rfl
    · rw [Log.taken_snoc]
      simpa [Use.taken] using octets
    · simpa using standing.writer
    · simpa using standing.reader
  · cases writes

theorem Standing.read {size : Nat} {taken : List UInt8} (standing : Standing log pipe)
    (reads : pipe.read? size = some (taken, after)) :
    Standing (log ++ [.read size taken]) after ∧ Place log (.read size taken) := by
  unfold read? at reads
  split at reads
  · cases reads
  next ready =>
  obtain ⟨rfl, rfl⟩ := Prod.mk.inj (Option.some.inj reads)
  obtain ⟨begun, chunks, octets⟩ := fill_begun pipe.source
  constructor
  · refine standing.of_source rfl ⟨begun, chunks, ?_⟩ nofun nofun
    rw [octets]
    exact (List.take_append_drop size _).symm
  · intro shows
    obtain ⟨some', nothing⟩ := Use.showsEnd_read.mp shows
    have exhausted : pipe.source.fill.current = [] :=
      (List.take_eq_nil_iff.mp nothing).resolve_left (Nat.ne_of_gt some')
    exact place_snoc (fill_nil standing (Bool.eq_false_iff.mpr ready) exhausted) rfl nothing

theorem Standing.looked {seen : List UInt8} (standing : Standing log pipe)
    (looks : pipe.look? = some (seen, after)) :
    Standing (log ++ [.looked seen]) after ∧ Place log (.looked seen) := by
  unfold look? at looks
  split at looks
  · cases looks
  next ready =>
  obtain ⟨rfl, rfl⟩ := Prod.mk.inj (Option.some.inj looks)
  constructor
  · exact standing.of_source rfl (fill_begun pipe.source) nofun nofun
  · intro shows
    have exhausted := Use.showsEnd_looked.mp shows
    exact place_snoc (fill_nil standing (Bool.eq_false_iff.mpr ready) exhausted) rfl rfl

theorem Standing.consumed {count : Nat} {taken : List UInt8} (standing : Standing log pipe)
    (consumes : pipe.consume count = (taken, after)) :
    Standing (log ++ [.consumed taken]) after := by
  obtain ⟨rfl, rfl⟩ := Prod.mk.inj consumes
  refine standing.of_source rfl ⟨[], rfl, ?_⟩ nofun nofun
  rw [List.flatten_nil, List.append_nil]
  exact (List.take_append_drop count _).symm

theorem Standing.line {taken : List UInt8} (standing : Standing log pipe)
    (reads : pipe.line? = some (taken, after)) :
    Standing (log ++ [.line taken]) after ∧ Place log (.line taken) := by
  have took := Source.took (Nat.succ_ne_zero pipe.unread.length) pipe.source
  have all := pipe.source.takeLine_append (pipe.unread.length + 1)
  unfold line? takeLine? at reads
  dsimp only at reads
  generalize pipe.source.takeLine (pipe.unread.length + 1) = result at took all reads
  obtain ⟨taken, reason, rest⟩ := result
  dsimp only at took all reads
  split at reads
  · cases reads
  next ready =>
  cases reads
  have given : (Use.line taken).given = [] := rfl
  have stands := standing.of_source given took.begun nofun nofun
  refine ⟨stands, fun shows => ?_⟩
  have short : taken.getLast? ≠ some 10 := Use.showsEnd_line.mp shows
  cases reason with
  | line => exact absurd (took.line rfl) short
  | limit =>
    -- A line is not longer than everything that has arrived.
    have long : pipe.unread.length + 1 ≤ taken.length := took.limit rfl
    have lengths := congrArg List.length all
    rw [List.length_append] at lengths
    unfold unread at long
    omega
  | emptyChunk =>
    obtain ⟨begun, chunks, octets⟩ := took.emptyChunk rfl
    obtain ⟨before, chunks', octets'⟩ := standing.begun
    have given : (Use.line taken).given = [] := rfl
    refine .inr ⟨before ++ begun, rest.behind, ?_, ?_⟩
    · rw [Log.chunks_snoc, given, List.append_nil, chunks', chunks, List.append_assoc]
    · rw [Log.taken_snoc, List.flatten_append, octets', List.append_assoc, octets]
      rfl
  | everything =>
    have whole := stands.written_eq
    rw [took.everything rfl] at whole
    have closed : pipe.writerOpen = false := by simpa using ready
    have gone : Use.writerDropped ∈ log := by simpa [closed] using standing.writer
    exact .inl ⟨List.mem_append_left _ gone, (List.append_nil _).symm.trans whole⟩

theorem Standing.writerDropped (standing : Standing log pipe) :
    Standing (log ++ [.writerDropped]) pipe.closeWriter where
  begun := by
    simpa [Log.chunks_snoc, Log.taken_snoc, Use.given, Use.taken, closeWriter] using standing.begun
  writer := by simp [closeWriter]
  reader := by simpa [closeWriter] using standing.reader

theorem Standing.readerDropped (standing : Standing log pipe) :
    Standing (log ++ [.readerDropped]) pipe.closeReader where
  begun := by
    simpa [Log.chunks_snoc, Log.taken_snoc, Use.given, Use.taken, closeReader] using standing.begun
  writer := by simpa [closeReader] using standing.writer
  reader := by simp [closeReader]

/-- A use, after what has been done before: how the pipe stands then, and what the reader has been
given. -/
theorem Standing.step (standing : Standing log pipe) (step : Step pipe use after) :
    Standing (log ++ [use]) after ∧ Place log use := by
  cases step with
  | wrote _ writes => exact ⟨standing.wrote writes, nofun⟩
  | refused => exact ⟨standing.of_source rfl ⟨[], rfl, by simp [Use.taken]⟩ nofun nofun, nofun⟩
  | read _ reads => exact standing.read reads
  | looked _ looks => exact standing.looked looks
  | consumed _ consumes => exact ⟨standing.consumed consumes, nofun⟩
  | line _ reads => exact standing.line reads
  | writerDropped => exact ⟨standing.writerDropped, nofun⟩
  | readerDropped => exact ⟨standing.readerDropped, nofun⟩

/-! ## Runs -/

theorem Run.standing (run : Run log pipe) : Standing log pipe := by
  induction run with
  | fresh => exact standing_empty
  | step _ step ih => exact (ih.step step).1

/-- Every use that shows an end is at the end, or at an empty chunk. -/
theorem Run.placed (run : Run log pipe) {before later : Log}
    (eq : log = before ++ use :: later) (shows : use.ShowsEnd) :
    Log.AtEnd (before ++ [use]) ∨ Log.AtEmptyChunk (before ++ [use]) := by
  induction run generalizing later with
  | fresh => exact absurd eq.symm (by simp)
  | step run step ih =>
    rcases split_snoc eq with ⟨rfl, rfl⟩ | ⟨later, eq⟩
    · exact (run.standing.step step).2 shows
    · exact ih eq

/-- What has still to be gone through: octets, and chunks behind the current one. -/
def backlog (pipe : Pipe) : Nat :=
  pipe.source.behind.length + pipe.unread.length

/-- As long as there are octets, a read need not wait, and leaves less to go through. -/
theorem exists_read (left : pipe.unread ≠ []) {size : Nat} (some' : 0 < size) :
    ∃ taken after, pipe.read? size = some (taken, after) ∧ after.backlog < pipe.backlog := by
  obtain ⟨⟨current, behind⟩, writerOpen, readerOpen⟩ := pipe
  cases current with
  | cons o current =>
    refine ⟨_, _, by rw [read?, if_neg (by simp [waits])], ?_⟩
    simp only [backlog, Source.read, Source.fill, unread, Source.octets, List.length_append,
      List.length_drop, List.length_cons]
    omega
  | nil =>
    cases behind with
    | nil => exact absurd rfl left
    | cons chunk behind =>
      refine ⟨_, _, by rw [read?, if_neg (by simp [waits])], ?_⟩
      simp only [backlog, Source.read, Source.fill, unread, Source.octets, List.length_append,
        List.length_drop, List.length_cons, List.nil_append, List.flatten_cons]
      omega

/-- A reader that is still there can read what is left, in pieces of whatever size. -/
theorem Run.drained (run : Run log pipe) (present : Use.readerDropped ∉ log) {size : Nat}
    (some' : 0 < size) :
    ∃ (pieces : List (List UInt8)) (after : Pipe),
      Run (log ++ pieces.map (.read size)) after ∧ log.taken ++ pieces.flatten = log.written := by
  generalize measured : pipe.backlog = measure
  induction measure using Nat.strongRecOn generalizing log pipe with
  | ind measure ih =>
    have standing := run.standing
    by_cases left : pipe.unread = []
    · refine ⟨[], pipe, by simpa using run, ?_⟩
      rw [← standing.written_eq, left]
      rfl
    · obtain ⟨taken, after, reads, less⟩ := exists_read left some'
      have run' := run.step (.read (standing.reader.mpr present) reads)
      have present' : Use.readerDropped ∉ log ++ [.read size taken] := by simpa using present
      obtain ⟨pieces, last, drained, whole⟩ := ih _ (measured ▸ less) run' present' rfl
      refine ⟨taken :: pieces, last, by simpa using drained, ?_⟩
      simpa [Log.taken_snoc, Log.written, Log.chunks_snoc, Use.taken, Use.given] using whole

/-- However a pipe is written to and read from, and whichever end is dropped: what has been taken is
the beginning of what has been written, and a reader that is still there can read the rest. It is
given nothing, or a line without a line feed, only once the writer has been dropped and everything
has been taken, or where an empty chunk has been written. -/
theorem Run.shows_end (run : Run log pipe) :
    log.taken <+: log.written
      ∧ (∀ (before later : Log) use, log = before ++ use :: later → use.ShowsEnd →
        Log.AtEnd (before ++ [use]) ∨ Log.AtEmptyChunk (before ++ [use]))
      ∧ (Use.readerDropped ∉ log → ∀ size, 0 < size →
        ∃ (pieces : List (List UInt8)) (after : Pipe),
          Run (log ++ pieces.map (.read size)) after
            ∧ log.taken ++ pieces.flatten = log.written) := by
  refine ⟨⟨pipe.unread, run.standing.written_eq⟩, ?_, ?_⟩
  · intro before later use eq shows
    exact run.placed eq shows
  · intro present size some'
    exact run.drained present some'

/-- An empty chunk and an octet are written, and the reader is given nothing, with the writer still
there. The octet comes after that. -/
def interrupted : Log :=
  [.wrote [], .wrote [0x78], .read 4 [], .read 4 [0x78]]

theorem run_interrupted : Run interrupted ⟨⟨[], []⟩, true, true⟩ :=
  (((Run.fresh.step (.wrote rfl rfl)).step (.wrote rfl rfl)).step (.read rfl rfl)).step
    (.read rfl rfl)

theorem Run.shows_end_interrupted :
    Run interrupted ⟨⟨[], []⟩, true, true⟩ ∧ interrupted.taken <+: interrupted.written :=
  ⟨run_interrupted, (Run.shows_end run_interrupted).1⟩

/-- So what looks like the end need not be the end. -/
theorem empty_chunk_shows_end :
    Run interrupted ⟨⟨[], []⟩, true, true⟩
      ∧ interrupted = [.wrote [], .wrote [0x78]] ++ .read 4 [] :: [.read 4 [0x78]]
      ∧ (Use.read 4 []).ShowsEnd
      ∧ ¬ Log.AtEnd ([.wrote [], .wrote [0x78]] ++ [.read 4 []]) := by
  refine ⟨run_interrupted, rfl, .read (by decide), fun atEnd => ?_⟩
  exact absurd atEnd.1 (by decide)

end Pipe
end DebugBridge
