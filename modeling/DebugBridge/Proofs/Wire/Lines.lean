import DebugBridge.Wire.Frame

/-!
# The lines of a stream

What a reader takes from a stream, said of the octets alone. How the octets are cut into chunks does
not matter, as long as no chunk is empty; an empty one is taken for the end of the stream.

Results:
1. `Source.takeLine_append`: nothing is lost or repeated, even with empty chunks.
2. `Source.takeLine_eq`: what is taken is the first line, or as much of it as the limit allows.
3. `Source.message_takeLine`: so a message is read as `nextMessage` says.
4. `nextMessage_shortens`: unless the stream has ended, an octet is taken.
-/

namespace DebugBridge

/-! ## The first line -/

theorem splitLine?_cons (o : UInt8) (rest : List UInt8) :
    splitLine? (o :: rest)
      = if o = 10 then some ([o], rest)
        else (splitLine? rest).map fun (line, rest) => (o :: line, rest) := by
  unfold splitLine?
  rw [List.findIdx?_cons]
  by_cases feed : o = 10
  · simp [feed]
  · simp only [feed, beq_iff_eq, if_false, Option.map_map]
    congr 1
    funext place
    simp

theorem splitLine?_eq_none {octets : List UInt8} : splitLine? octets = none ↔ 10 ∉ octets := by
  induction octets with
  | nil => simp [splitLine?]
  | cons o rest ih =>
    rw [splitLine?_cons]
    by_cases h : o = 10
    · simp [h]
    · simp [h, ih, Ne.symm h]

/-- A line and what follows it are all there was. -/
theorem splitLine?_append {octets line rest : List UInt8}
    (found : splitLine? octets = some (line, rest)) : line ++ rest = octets := by
  induction octets generalizing line with
  | nil => simp [splitLine?] at found
  | cons o octets ih =>
    rw [splitLine?_cons] at found
    split at found
    · cases found
      rfl
    · obtain ⟨⟨line', rest'⟩, found', same⟩ := Option.map_eq_some_iff.mp found
      cases same
      rw [List.cons_append, ih found']

/-- Only the last octet of a line is a line feed. -/
theorem splitLine?_line {octets line rest : List UInt8}
    (found : splitLine? octets = some (line, rest)) :
    ∃ before, line = before ++ [10] ∧ 10 ∉ before := by
  induction octets generalizing line with
  | nil => simp [splitLine?] at found
  | cons o octets ih =>
    rw [splitLine?_cons] at found
    split at found
    · next feed =>
      cases found
      exact ⟨[], by rw [feed]; rfl, List.not_mem_nil⟩
    · next other =>
      obtain ⟨⟨line', rest'⟩, found', same⟩ := Option.map_eq_some_iff.mp found
      cases same
      obtain ⟨before, rfl, clean⟩ := ih found'
      exact ⟨o :: before, rfl, by simp [Ne.symm other, clean]⟩

/-- A line feed behind other octets ends a line. -/
theorem splitLine?_of_append {before rest : List UInt8} (clean : 10 ∉ before) :
    splitLine? (before ++ 10 :: rest) = some (before ++ [10], rest) := by
  induction before with
  | nil => exact splitLine?_cons 10 rest
  | cons o before ih =>
    simp only [List.mem_cons, not_or] at clean
    rw [List.cons_append, splitLine?_cons, if_neg (Ne.symm clean.1), ih clean.2]
    rfl

/-- The octets up to and with the first line feed, if there is one among the first `limit`; else the
first `limit`. -/
def firstLine (limit : Nat) (octets : List UInt8) : List UInt8 :=
  match splitLine? (octets.take limit) with
  | some (line, _) => line
  | none => octets.take limit

theorem firstLine_of_feed {limit : Nat} {before rest : List UInt8} (clean : 10 ∉ before)
    (short : before.length < limit) : firstLine limit (before ++ 10 :: rest) = before ++ [10] := by
  obtain ⟨more, rfl⟩ : ∃ more, limit = before.length + (more + 1) :=
    ⟨limit - before.length - 1, by omega⟩
  rw [firstLine, List.take_length_add_append, List.take_succ_cons, splitLine?_of_append clean]

theorem firstLine_of_none {limit : Nat} {octets : List UInt8} (clean : 10 ∉ octets.take limit) :
    firstLine limit octets = octets.take limit := by
  rw [firstLine, splitLine?_eq_none.mpr clean]

/-- Octets without a line feed in front of a stream. -/
theorem firstLine_append {limit : Nat} {before octets : List UInt8} (clean : 10 ∉ before)
    (short : before.length ≤ limit) :
    firstLine limit (before ++ octets) = before ++ firstLine (limit - before.length) octets := by
  obtain ⟨more, rfl⟩ : ∃ more, limit = before.length + more := ⟨limit - before.length, by omega⟩
  rw [Nat.add_sub_cancel_left]
  unfold firstLine
  rw [List.take_length_add_append]
  cases found : splitLine? (octets.take more) with
  | none =>
    have none : splitLine? (before ++ octets.take more) = none :=
      splitLine?_eq_none.mpr fun present =>
        (List.mem_append.mp present).elim clean (splitLine?_eq_none.mp found)
    rw [none]
  | some split =>
    obtain ⟨line, rest⟩ := split
    obtain ⟨inside, rfl, clean'⟩ := splitLine?_line found
    have whole : before ++ octets.take more = (before ++ inside) ++ 10 :: rest := by
      rw [← splitLine?_append found]
      simp
    have cleaner : 10 ∉ before ++ inside := fun present =>
      (List.mem_append.mp present).elim clean clean'
    rw [whole, splitLine?_of_append cleaner]
    simp

/-! ## Taking a line from chunks -/

/-- A chunk cut at the limit, which lies inside of it just when the first part is as long. -/
theorem splitAt_limit {limit : Nat} {current start after : List UInt8}
    (parts : current.splitAt limit = (start, after)) :
    start = current.take limit ∧ after = current.drop limit
      ∧ (limit ≤ start.length ↔ limit ≤ current.length) := by
  rw [List.splitAt_eq] at parts
  cases parts
  refine ⟨rfl, rfl, ?_⟩
  rw [List.length_take, Nat.le_min]
  exact and_iff_right (Nat.le_refl limit)

theorem takeLine_append (limit : Nat) (current : List UInt8) (behind : List (List UInt8)) :
    (takeLine limit current behind).1 ++ (takeLine limit current behind).2.2.octets
      = current ++ behind.flatten := by
  fun_induction takeLine limit current behind with
  | case1 behind limit current start after parts line rest found =>
    obtain ⟨rfl, rfl, -⟩ := splitAt_limit parts
    simp only [Source.octets]
    rw [← List.append_assoc, ← List.append_assoc, splitLine?_append found, List.take_append_drop]
  | case2 behind limit current start after parts none short =>
    obtain ⟨rfl, rfl, -⟩ := splitAt_limit parts
    simp only [Source.octets]
    rw [← List.append_assoc, List.take_append_drop]
  | case3 limit current start after parts none long => simp [Source.octets]
  | case4 limit current start after parts none long behind => simp [Source.octets]
  | case5 limit current start after parts none long o chunk behind later reason source eq ih =>
    rw [eq] at ih
    simp only [List.append_assoc, List.flatten_cons]
    rw [ih]

theorem takeLine_eq (limit : Nat) (current : List UInt8) (behind : List (List UInt8))
    (full : [] ∉ behind) :
    (takeLine limit current behind).1 = firstLine limit (current ++ behind.flatten)
      ∧ [] ∉ (takeLine limit current behind).2.2.behind := by
  fun_induction takeLine limit current behind with
  | case1 behind limit current start after parts line rest found =>
    obtain ⟨rfl, rfl, -⟩ := splitAt_limit parts
    refine ⟨?_, full⟩
    obtain ⟨before, rfl, clean⟩ := splitLine?_line found
    have whole : before ++ 10 :: rest = current.take limit := by
      rw [← splitLine?_append found, List.append_assoc]
      rfl
    have short : before.length < limit := by
      have lengths := congrArg List.length whole
      simp only [List.length_append, List.length_cons, List.length_take] at lengths
      omega
    have all : current ++ behind.flatten
        = before ++ 10 :: (rest ++ (current.drop limit ++ behind.flatten)) := by
      rw [← List.cons_append, ← List.append_assoc, whole, ← List.append_assoc,
        List.take_append_drop]
    rw [all, firstLine_of_feed clean short]
  | case2 behind limit current start after parts none short =>
    -- The limit ends inside of the chunk.
    obtain ⟨rfl, rfl, inside⟩ := splitAt_limit parts
    rw [inside] at short
    refine ⟨?_, full⟩
    have clean := splitLine?_eq_none.mp none
    rw [firstLine_of_none, List.take_append_of_le_length short]
    rwa [List.take_append_of_le_length short]
  | case3 limit current start after parts none long =>
    obtain ⟨rfl, rfl, inside⟩ := splitAt_limit parts
    rw [inside] at long
    have clean := splitLine?_eq_none.mp none
    refine ⟨?_, List.not_mem_nil⟩
    simp only [List.flatten_nil, List.append_nil]
    rw [firstLine_of_none clean, List.take_of_length_le (by omega)]
  | case4 limit current start after parts none long behind => exact absurd List.mem_cons_self full
  | case5 limit current start after parts none long o chunk behind later reason source eq ih =>
    obtain ⟨rfl, rfl, inside⟩ := splitAt_limit parts
    rw [inside] at long
    -- The chunk is taken whole, and as much less is taken from those behind it.
    have clean := splitLine?_eq_none.mp none
    rw [List.take_of_length_le (by omega)] at clean
    rw [eq] at ih
    obtain ⟨first, full'⟩ := ih fun h => full (List.mem_cons_of_mem _ h)
    refine ⟨?_, full'⟩
    rw [firstLine_append clean (by omega)]
    exact congrArg (current ++ ·) first

/-- A source from which chunks are taken without losing an octet. -/
theorem Source.takeLine_append (limit : Nat) (source : Source) :
    (source.takeLine limit).1 ++ (source.takeLine limit).2.2.octets = source.octets := by
  unfold Source.takeLine
  split
  · rfl
  split
  · rfl
  · exact DebugBridge.takeLine_append _ _ _
  · exact DebugBridge.takeLine_append _ _ _

/-- No chunk is empty, apart from one that has been used up. -/
def Source.isFull (source : Source) : Prop :=
  [] ∉ source.behind

theorem Source.takeLine_eq {limit : Nat} {source : Source} (full : source.isFull) :
    (source.takeLine limit).1 = firstLine limit source.octets
      ∧ (source.takeLine limit).2.2.isFull := by
  unfold Source.takeLine
  split
  · next zero =>
    refine ⟨?_, full⟩
    rw [zero]
    rfl
  split
  · exact absurd List.mem_cons_self full
  · next chunk behind _ =>
    exact DebugBridge.takeLine_eq _ _ _ fun h => full (List.mem_cons_of_mem _ h)
  · exact DebugBridge.takeLine_eq _ _ _ full

theorem Source.isFull_ofChunks (chunks : List (List UInt8)) : (Source.ofChunks chunks).isFull := by
  simp [Source.isFull, Source.ofChunks]

theorem Source.octets_ofChunks (chunks : List (List UInt8)) :
    (Source.ofChunks chunks).octets = chunks.flatten := by
  rw [Source.octets, Source.ofChunks, List.nil_append]
  exact List.flatten_filter_not_isEmpty

/-! ## Messages -/

/-- The next message of a stream, and the octets behind it. A line that is longer than the limit is
cut one octet behind the limit; octets that end without a line feed are no line. -/
def nextMessage (limit : UInt64) (octets : List UInt8) : Incoming × List UInt8 :=
  let line := octets.takeWhile (· != 10)
  if line.length < octets.length ∧ line.length ≤ limit.toNat then
    ((Message.decode (dropReturn line)).mapError (.malformed (dropReturn line)),
      octets.drop (line.length + 1))
  else if limit.toNat < octets.length then
    (.error (.tooLong limit), octets.drop (limit.toNat + 1))
  else (.error .closed, [])

theorem messageOf_feed (limit : UInt64) (line : List UInt8) :
    messageOf limit (line ++ [10])
      = (Message.decode (dropReturn line)).mapError (.malformed (dropReturn line)) := by
  simp [messageOf]

theorem messageOf_clean {limit : UInt64} {taken : List UInt8} (clean : 10 ∉ taken) :
    messageOf limit taken
      = if limit.toNat < taken.length then .error (.tooLong limit) else .error .closed := by
  unfold messageOf
  split
  · next last => exact absurd (List.mem_of_getLast? last) clean
  · rfl

/-- Either there is no line feed, or what stands before the first is `takeWhile`. -/
theorem line_cases (octets : List UInt8) :
    (10 ∉ octets ∧ octets.takeWhile (· != 10) = octets)
      ∨ ∃ rest, octets = octets.takeWhile (· != 10) ++ 10 :: rest
        ∧ 10 ∉ octets.takeWhile (· != 10) := by
  induction octets with
  | nil => exact .inl ⟨List.not_mem_nil, rfl⟩
  | cons o octets ih =>
    by_cases feed : o = 10
    · subst feed
      exact .inr ⟨octets, rfl, List.not_mem_nil⟩
    have taken : (o :: octets).takeWhile (· != 10) = o :: octets.takeWhile (· != 10) := by
      simp [feed]
    rw [taken]
    rcases ih with ⟨clean, whole⟩ | ⟨rest, split, clean⟩
    · exact .inl ⟨by simp [Ne.symm feed, clean], by rw [whole]⟩
    · exact .inr ⟨rest, by rw [List.cons_append, ← split], by simp [Ne.symm feed, clean]⟩

/-- What is made of the first line of a stream. -/
theorem messageOf_firstLine (limit : UInt64) (octets : List UInt8) :
    (messageOf limit (firstLine (limit.toNat + 1) octets),
      octets.drop (firstLine (limit.toNat + 1) octets).length) = nextMessage limit octets := by
  -- Without a line feed within the limit: the line is too long, or the stream ends before it does.
  have cut : 10 ∉ octets.take (limit.toNat + 1) →
      ¬ ((octets.takeWhile (· != 10)).length < octets.length
        ∧ (octets.takeWhile (· != 10)).length ≤ limit.toNat) →
      (messageOf limit (firstLine (limit.toNat + 1) octets),
        octets.drop (firstLine (limit.toNat + 1) octets).length) = nextMessage limit octets := by
    intro clean long
    rw [firstLine_of_none clean, messageOf_clean clean, nextMessage, if_neg long,
      List.length_take]
    split
    · next more =>
      rw [if_pos (by omega), Nat.min_eq_left (by omega)]
    · next less =>
      rw [if_neg (by omega), Nat.min_eq_right (by omega), List.drop_length]
  rcases line_cases octets with ⟨clean, whole⟩ | ⟨rest, split, clean⟩
  · refine cut (fun present => clean (List.mem_of_mem_take present)) fun short => ?_
    rw [whole] at short
    exact Nat.lt_irrefl _ short.1
  · by_cases short : (octets.takeWhile (· != 10)).length ≤ limit.toNat
    · have feed : (octets.takeWhile (· != 10)).length < octets.length := by
        have lengths := congrArg List.length split
        rw [List.length_append, List.length_cons] at lengths
        omega
      have first : firstLine (limit.toNat + 1) octets = octets.takeWhile (· != 10) ++ [10] := by
        conv => lhs; rw [split]
        exact firstLine_of_feed clean (Nat.lt_succ_of_le short)
      rw [first, messageOf_feed, nextMessage, if_pos ⟨feed, short⟩, List.length_append]
      rfl
    · refine cut (fun present => ?_) fun both => short both.2
      rw [split, List.take_append_of_le_length (by omega)] at present
      exact clean (List.mem_of_mem_take present)

/-- Reading a message from a source, said of its octets. -/
theorem Source.message_takeLine (limit : UInt64) {source : Source} (full : source.isFull) :
    (messageOf limit (source.takeLine (limit.toNat + 1)).1,
        (source.takeLine (limit.toNat + 1)).2.2.octets) = nextMessage limit source.octets
      ∧ (source.takeLine (limit.toNat + 1)).2.2.isFull := by
  obtain ⟨first, full'⟩ : (source.takeLine (limit.toNat + 1)).1 = _ ∧ _ := Source.takeLine_eq full
  have behind : (source.takeLine (limit.toNat + 1)).2.2.octets
      = source.octets.drop (firstLine (limit.toNat + 1) source.octets).length := by
    rw [← first, ← source.takeLine_append (limit.toNat + 1), List.drop_left]
  refine ⟨?_, full'⟩
  rw [behind, first, messageOf_firstLine]

/-- A message takes at least one octet, unless the stream has ended. -/
theorem nextMessage_shortens (limit : UInt64) (octets : List UInt8) :
    (nextMessage limit octets).1 = .error .closed
      ∨ (nextMessage limit octets).2.length < octets.length := by
  unfold nextMessage
  dsimp only
  split
  · next feed =>
    refine .inr ?_
    rw [List.length_drop]
    omega
  split
  · refine .inr ?_
    rw [List.length_drop]
    omega
  · exact .inl rfl

end DebugBridge
