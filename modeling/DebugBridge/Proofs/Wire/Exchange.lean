import DebugBridge.Proofs.Wire.Lines
import DebugBridge.Proofs.Wire.RoundTrip
import DebugBridge.Wire.Pipe

/-!
# One message under way

Between two parties that take turns at most one message is under way. This module says what the two
ends of a pair can do while nothing is, while one message is, and once one end is gone.

Results:
1. `receive?_fresh`, `receive?_carrying`, `receive?_carrying_long`: who can receive, and what.
2. `receive?_leftGone`, `receive?_parting`: the end of the stream, and what came before it.
3. `Orderly.heard`: what a party can hear in any of these situations.
-/

namespace DebugBridge

namespace Message

/-- What a message has to be so that the other end receives it as it was sent: it is read back, and
its line is not too long. -/
structure Passes (message : Message) : Prop where
  kept : message.resultIs Json.isKept = true
  whole : message.resultIs Json.isWhole = true
  shallow : message.toJson.depth ≤ Json.Read.depthLimit
  short : message.payload.length ≤ defaultLimit.toNat

theorem passes_of_short {message : Message} (noResult : ∀ result, message ≠ .complete result)
    (short : message.payload.length ≤ defaultLimit.toNat) : message.Passes := by
  have free : ∀ test, message.resultIs test = true := by
    intro test
    cases message with
    | complete result => exact absurd rfl (noResult result)
    | _ => rfl
  exact ⟨free _, free _, depth_toJson_le (free _), short⟩

/-- A written message ends in a brace. -/
theorem payload_eq (message : Message) : ∃ before, message.payload = before ++ [125] := by
  refine ⟨Utf8.encode
    ('\x7b' :: Json.membersChars (("type", .string message.kind) :: message.fields)), ?_⟩
  rw [payload_eq_encode, toJson, Json.chars, Utf8.encode_append]
  rfl

theorem dropReturn_payload (message : Message) : dropReturn message.payload = message.payload := by
  obtain ⟨before, eq⟩ := message.payload_eq
  rw [eq, dropReturn, List.reverse_append]
  rfl

/-- That the other end receives a message as it was sent, said of the codec and of the line. -/
structure Transmissible (message : Message) : Prop where
  back : decode message.payload = .ok message
  short : message.payload.length ≤ defaultLimit.toNat

theorem Passes.transmissible {message : Message} (passes : message.Passes) :
    message.Transmissible :=
  ⟨decode_payload passes.kept passes.whole passes.shallow, passes.short⟩

theorem messageOf_encode {message : Message} (back : decode message.payload = .ok message) :
    messageOf defaultLimit message.encode = .ok message := by
  rw [encode_eq, messageOf_feed, dropReturn_payload, back]
  rfl

theorem encode_ne_nil (message : Message) : message.encode ≠ [] := by
  rw [encode_eq]
  exact List.concat_ne_nil 10 message.payload

/-- A line is taken whole from the chunk that it is. -/
theorem takeLine_encode {message : Message} {limit : Nat}
    (short : message.payload.length < limit) (behind : List (List UInt8)) :
    (⟨[], message.encode :: behind⟩ : Source).takeLine limit
      = (message.encode, .line, ⟨[], behind⟩) := by
  have fits : message.encode.length ≤ limit := by
    rw [encode_eq, List.length_append]
    exact short
  have split : splitLine? (message.encode.take limit) = some (message.encode, []) := by
    rw [List.take_of_length_le fits, encode_eq]
    exact splitLine?_of_append message.lineFeed_not_mem_payload
  obtain ⟨o, rest, eq⟩ := List.exists_cons_of_ne_nil message.encode_ne_nil
  rw [eq] at fits split ⊢
  unfold Source.takeLine DebugBridge.takeLine
  rw [if_neg (by omega)]
  simp only [List.splitAt_eq, split, List.drop_eq_nil_of_le fits, List.append_nil]

/-- What is written first is received first. -/
theorem Transmissible.receive? {message : Message} (transmissible : message.Transmissible)
    (behind : List (List UInt8)) (writerOpen readerOpen : Bool) :
    (⟨⟨[], message.encode :: behind⟩, writerOpen, readerOpen⟩ : Pipe).receive?
      = some (.ok message, ⟨⟨[], behind⟩, writerOpen, readerOpen⟩) := by
  rw [Pipe.receive?, Pipe.takeLine?, takeLine_encode (Nat.lt_succ_of_le transmissible.short)]
  simp only [reduceCtorEq, false_and, if_false, Option.map_some,
    messageOf_encode transmissible.back]

/-- Of a line that is too long, as much is taken as the limit allows. -/
theorem takeLine_encode_long {message : Message} {limit : Nat}
    (long : limit ≤ message.payload.length) (some' : limit ≠ 0) (behind : List (List UInt8)) :
    (⟨[], message.encode :: behind⟩ : Source).takeLine limit
      = (message.payload.take limit, .limit, ⟨message.encode.drop limit, behind⟩) := by
  have taken : message.encode.take limit = message.payload.take limit := by
    rw [encode_eq, List.take_append_of_le_length long]
  have clean : splitLine? (message.payload.take limit) = none :=
    splitLine?_eq_none.mpr fun present =>
      message.lineFeed_not_mem_payload (List.mem_of_mem_take present)
  have least : limit ≤ (message.payload.take limit).length := by
    rw [List.length_take]
    exact Nat.le_min.mpr ⟨Nat.le_refl limit, long⟩
  obtain ⟨o, rest, eq⟩ := List.exists_cons_of_ne_nil message.encode_ne_nil
  rw [eq] at taken ⊢
  unfold Source.takeLine DebugBridge.takeLine
  rw [if_neg some']
  simp only [List.splitAt_eq, taken, clean, if_pos least]

/-- A line that is too long is noticed, and the rest of it stays where it is. -/
theorem receive?_long {message : Message} (long : defaultLimit.toNat < message.payload.length)
    (behind : List (List UInt8)) (writerOpen readerOpen : Bool) :
    (⟨⟨[], message.encode :: behind⟩, writerOpen, readerOpen⟩ : Pipe).receive?
      = some (.error (.tooLong defaultLimit),
        ⟨⟨message.encode.drop (defaultLimit.toNat + 1), behind⟩, writerOpen, readerOpen⟩) := by
  have clean : 10 ∉ message.payload.take (defaultLimit.toNat + 1) := fun present =>
    message.lineFeed_not_mem_payload (List.mem_of_mem_take present)
  have taken : (message.payload.take (defaultLimit.toNat + 1)).length = defaultLimit.toNat + 1 :=
    List.length_take_of_le long
  rw [Pipe.receive?, Pipe.takeLine?, takeLine_encode_long long (Nat.succ_ne_zero _)]
  simp only [reduceCtorEq, false_and, if_false, Option.map_some, messageOf_clean clean, taken,
    if_pos (Nat.lt_succ_self _)]

end Message

/-! ## Pairs -/

def Side.other : Side → Side
  | .left => .right
  | .right => .left

theorem Side.eq_other {side side' : Side} (different : side ≠ side') : side = side'.other := by
  cases side with
  | left =>
    cases side' with
    | left => exact absurd rfl different
    | right => rfl
  | right =>
    cases side' with
    | left => rfl
    | right => exact absurd rfl different

namespace Pair

/-- Both ends exist, and a message that one of them has sent is all that is under way. -/
def carrying (side : Side) (message : Message) : Pair :=
  fresh.setOutgoing ⟨⟨[], [message.encode]⟩, true, true⟩ side

theorem send_fresh (side : Side) (message : Message) :
    fresh.send side message = .ok (carrying side message) := by
  cases side <;> rfl

theorem isOpen_carrying (side : Side) (message : Message) (end' : Side) :
    (carrying side message).isOpen end' = true := by
  cases side <;> cases end' <;> rfl

theorem receive?_fresh (side : Side) : fresh.receive? side = none := by
  cases side <;> decide

theorem receive?_carrying_self (side : Side) (message : Message) :
    (carrying side message).receive? side = none := by
  cases side with
  | left => exact receive?_fresh .left
  | right => exact receive?_fresh .right

/-- The other end receives what has been sent, and then nothing is under way. -/
theorem receive?_carrying {message : Message} (passes : message.Passes) (side : Side) :
    (carrying side message).receive? side.other = some (.ok message, fresh) := by
  have received : (⟨⟨[], [message.encode]⟩, true, true⟩ : Pipe).receive?
      = some (.ok message, .empty) := passes.transmissible.receive? [] true true
  have incoming : (carrying side message).incoming side.other
      = ⟨⟨[], [message.encode]⟩, true, true⟩ := by
    cases side <;> rfl
  have cleared : (carrying side message).setIncoming .empty side.other = fresh := by
    cases side <;> rfl
  rw [Pair.receive?, incoming, received, Option.map_some]
  simp only [cleared]

/-- The other end notices that what has been sent is too long; it sees nothing else of the pair
change. -/
theorem receive?_carrying_long {message : Message}
    (long : defaultLimit.toNat < message.payload.length) (side : Side) :
    ∃ pipe, pipe.writerOpen = true
      ∧ (carrying side message).receive? side.other
        = some (.error (.tooLong defaultLimit), fresh.setOutgoing pipe side) := by
  have received := Message.receive?_long long [] true true
  refine ⟨⟨⟨message.encode.drop (defaultLimit.toNat + 1), []⟩, true, true⟩, rfl, ?_⟩
  cases side with
  | left => exact congrArg (Option.map _) received
  | right => exact congrArg (Option.map _) received

/-! ## Ends that are gone -/

/-- The left end is gone, and nothing was under way. -/
def leftGone : Pair := fresh.drop .left

/-- Both ends are gone. -/
def bothGone : Pair := leftGone.drop .right

theorem receive?_leftGone : leftGone.receive? .right = some (.error .closed, leftGone) :=
  rfl

/-- A pair between parties that take turns: nothing or one message is under way, or the left end is
gone, and then perhaps the right one. -/
inductive Orderly : Pair → Prop
  | fresh : Orderly fresh
  | carrying (side : Side) {message : Message} : message.Passes → Orderly (carrying side message)
  | leftGone : Orderly leftGone
  | bothGone : Orderly bothGone

/-- Whoever listens hears a message, or that the left end is gone. -/
theorem Orderly.heard {pair after : Pair} (orderly : pair.Orderly) {side : Side}
    (open' : pair.isOpen side = true) {incoming : Incoming}
    (received : pair.receive? side = some (incoming, after)) :
    (∃ message, incoming = .ok message)
      ∨ incoming = .error .closed ∧ side = .right ∧ pair.isOpen .left = false := by
  cases orderly with
  | fresh =>
    rw [receive?_fresh] at received
    cases received
  | carrying sender passes =>
    -- What is under way is for the other end only.
    by_cases same : side = sender
    · rw [same, receive?_carrying_self] at received
      cases received
    · rw [Side.eq_other same, receive?_carrying passes] at received
      cases received
      exact .inl ⟨_, rfl⟩
  | leftGone =>
    cases side with
    | left => cases open'
    | right =>
      rw [receive?_leftGone] at received
      cases received
      exact .inr ⟨rfl, rfl, rfl⟩
  | bothGone => cases side <;> cases open'

end Pair
end DebugBridge
