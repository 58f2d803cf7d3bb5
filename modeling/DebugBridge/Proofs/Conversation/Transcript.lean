import DebugBridge.Conversation.Turn
import DebugBridge.Proofs.Wire.Lines

/-!
# What is said and heard

A conversation is looked at from one side. A transcript lists what a party has sent, with the
outcome, and what it has received. Whether a party may have a transcript (`Turn.Course`) does not
depend on the line; whether a line makes for it (`Line.Performs`) does not depend on the party.

Results:
1. `Turn.exists_course`: a run that has come to its end has a transcript of both kinds.
2. `Line.Streams.run_ended`: over a line on which a stream comes in, a party that counts down with
   every turn comes to its end.
3. `Line.Streams.consumes`: the stream is used up message by message, only by receiving.
4. `Mailbox.streams`, `Mailbox.sent_of_performs`: a mailbox is such a line and keeps what is sent.
-/

namespace DebugBridge

/-! ## Transcripts -/

/-- What a party does in a turn and what comes of it. -/
inductive Act where
  | sent (message : Message) (outcome : Except TransportFault Unit)
  | received (incoming : Incoming)

/-- The messages that have been sent. -/
def said (acts : List Act) : List Message :=
  acts.filterMap fun
    | .sent message (.ok ()) => some message
    | _ => none

theorem said_append (acts later : List Act) : said (acts ++ later) = said acts ++ said later :=
  List.filterMap_append

section Party

variable {α : Type} {turn : α → Turn α}

/-- A transcript that a party may have, from a state to the state in which it has ended. -/
inductive Turn.Course (turn : α → Turn α) : α → List Act → α → Prop
  | ended {party : α} : turn party = .ended → Course turn party [] party
  | sent {party final : α} {message : Message} {next : Except TransportFault Unit → α}
      {outcome : Except TransportFault Unit} {acts : List Act} :
      turn party = .send message next → Course turn (next outcome) acts final →
      Course turn party (.sent message outcome :: acts) final
  | received {party final : α} {next : Incoming → α} {incoming : Incoming} {acts : List Act} :
      turn party = .receive next → Course turn (next incoming) acts final →
      Course turn party (.received incoming :: acts) final

theorem Turn.Course.of_ended {party final : α} {acts : List Act} (ended : turn party = .ended)
    (course : Course turn party acts final) : acts = [] ∧ final = party := by
  cases course with
  | ended _ => exact ⟨rfl, rfl⟩
  | sent eq _ => rw [ended] at eq; cases eq
  | received eq _ => rw [ended] at eq; cases eq

theorem Turn.Course.of_send {party final : α} {acts : List Act} {message : Message}
    {next : Except TransportFault Unit → α} (sends : turn party = .send message next)
    (course : Course turn party acts final) :
    ∃ outcome later, acts = .sent message outcome :: later
      ∧ Course turn (next outcome) later final := by
  cases course with
  | ended eq => rw [sends] at eq; cases eq
  | sent eq course =>
    rw [sends] at eq
    cases eq
    exact ⟨_, _, rfl, course⟩
  | received eq _ => rw [sends] at eq; cases eq

theorem Turn.Course.of_receive {party final : α} {acts : List Act} {next : Incoming → α}
    (receives : turn party = .receive next) (course : Course turn party acts final) :
    ∃ incoming later, acts = .received incoming :: later
      ∧ Course turn (next incoming) later final := by
  cases course with
  | ended eq => rw [receives] at eq; cases eq
  | sent eq _ => rw [receives] at eq; cases eq
  | received eq course =>
    rw [receives] at eq
    cases eq
    exact ⟨_, _, rfl, course⟩

end Party

/-- A transcript that a line makes for, from a state of the line to another. -/
inductive Line.Performs {ν : Type} (line : Line ν) : ν → List Act → ν → Prop
  | nil (state : ν) : Performs line state [] state
  | sent {state final : ν} {message : Message} {acts : List Act} :
      Performs line (line.send message state).2 acts final →
      Performs line state (.sent message (line.send message state).1 :: acts) final
  | received {state final : ν} {acts : List Act} :
      Performs line (line.receive state).2 acts final →
      Performs line state (.received (line.receive state).1 :: acts) final

section Run

variable {α ν : Type} {line : Line ν} {turn : α → Turn α}

theorem Turn.step?_send {party : α} {state after : ν} {message : Message}
    {next : Except TransportFault Unit → α} {outcome : Except TransportFault Unit}
    (sends : turn party = .send message next) (sent : line.send message state = (outcome, after)) :
    step? line turn party state = some (next outcome, after) := by
  rw [step?, sends]
  simp only [sent]

theorem Turn.step?_receive {party : α} {state after : ν} {next : Incoming → α}
    {incoming : Incoming} (receives : turn party = .receive next)
    (received : line.receive state = (incoming, after)) :
    step? line turn party state = some (next incoming, after) := by
  rw [step?, receives]
  simp only [received]

theorem Turn.step?_ended {party : α} (ended : turn party = .ended) (state : ν) :
    step? line turn party state = none := by
  rw [step?, ended]

theorem Turn.run_send {count : Nat} {party : α} {state : ν} {message : Message}
    {next : Except TransportFault Unit → α} (sends : turn party = .send message next) :
    run line turn (count + 1) party state
      = run line turn count (next (line.send message state).1) (line.send message state).2 := by
  rw [run, step?, sends]

theorem Turn.run_receive {count : Nat} {party : α} {state : ν} {next : Incoming → α}
    (receives : turn party = .receive next) :
    run line turn (count + 1) party state
      = run line turn count (next (line.receive state).1) (line.receive state).2 := by
  rw [run, step?, receives]

/-- The transcript of a run that has come to its end. -/
theorem Turn.exists_course {count : Nat} {party : α} {state : ν}
    (ended : turn (run line turn count party state).1 = .ended) :
    ∃ acts, Course turn party acts (run line turn count party state).1
      ∧ line.Performs state acts (run line turn count party state).2 := by
  induction count generalizing party state with
  | zero => exact ⟨[], .ended ended, .nil state⟩
  | succ count ih =>
    unfold run step? at ended ⊢
    cases eq : turn party with
    | send message next =>
      simp only [eq] at ended ⊢
      obtain ⟨acts, course, performs⟩ := ih ended
      exact ⟨_, .sent eq course, .sent performs⟩
    | receive next =>
      simp only [eq] at ended ⊢
      obtain ⟨acts, course, performs⟩ := ih ended
      exact ⟨_, .received eq course, .received performs⟩
    | ended => exact ⟨[], .ended eq, .nil state⟩

/-! ## Streams -/

/-- Over a line comes a stream, and then its end, whatever is sent. `coming` tells which octets can
still come in a state of the line. -/
structure Line.Streams (line : Line ν) (coming : ν → List UInt8 → Prop) : Prop where
  send : ∀ {state : ν} {octets : List UInt8} (message : Message),
    coming state octets → coming (line.send message state).2 octets
  receive : ∀ {state : ν} {octets : List UInt8}, coming state octets →
    (line.receive state).1 = (nextMessage defaultLimit octets).1
      ∧ coming (line.receive state).2 (nextMessage defaultLimit octets).2

/-- How a stream is used up: only by receiving, one message at a time. -/
inductive Consumes : List UInt8 → List Act → List UInt8 → Prop
  | nil (octets : List UInt8) : Consumes octets [] octets
  | sent {octets rest : List UInt8} {message : Message} {outcome : Except TransportFault Unit}
      {acts : List Act} :
      Consumes octets acts rest → Consumes octets (.sent message outcome :: acts) rest
  | received {octets rest : List UInt8} {acts : List Act} :
      Consumes (nextMessage defaultLimit octets).2 acts rest →
      Consumes octets (.received (nextMessage defaultLimit octets).1 :: acts) rest

variable {coming : ν → List UInt8 → Prop}

theorem Line.Streams.consumes (streams : line.Streams coming) {state final : ν} {acts : List Act}
    {octets : List UInt8} (before : coming state octets)
    (performs : line.Performs state acts final) :
    ∃ rest, Consumes octets acts rest ∧ coming final rest := by
  induction performs generalizing octets with
  | nil state => exact ⟨octets, .nil octets, before⟩
  | sent _ ih =>
    obtain ⟨rest, consumes, after⟩ := ih (streams.send _ before)
    exact ⟨rest, .sent consumes, after⟩
  | received _ ih =>
    obtain ⟨same, behind⟩ := streams.receive before
    obtain ⟨rest, consumes, after⟩ := ih behind
    rw [same]
    exact ⟨rest, .received consumes, after⟩

/-- A party comes to its end when every turn brings it nearer to it, whatever becomes of what it
sends and whatever it receives. Receiving a message takes an octet from the stream. -/
theorem Line.Streams.run_ended (streams : line.Streams coming) {left : α → List UInt8 → Nat}
    (sends : ∀ {party message next}, turn party = .send message next → ∀ outcome octets,
      left (next outcome) octets < left party octets)
    (receives : ∀ {party next incoming octets behind}, turn party = .receive next →
      incoming = .error .closed ∨ behind.length < octets.length →
      left (next incoming) behind < left party octets)
    {count : Nat} {party : α} {state : ν} {octets : List UInt8} (before : coming state octets)
    (enough : left party octets ≤ count) :
    turn (Turn.run line turn count party state).1 = .ended := by
  induction count generalizing party state octets with
  | zero =>
    cases eq : turn party with
    | send message next => exact absurd (sends eq (.ok ()) octets) (by omega)
    | receive next =>
      exact absurd (receives eq (nextMessage_shortens defaultLimit octets)) (by omega)
    | ended => exact eq
  | succ count ih =>
    unfold Turn.run Turn.step?
    cases eq : turn party with
    | send message next =>
      have nearer := sends eq (line.send message state).1 octets
      exact ih (streams.send message before) (Nat.le_of_lt_succ (Nat.lt_of_lt_of_le nearer enough))
    | receive next =>
      obtain ⟨same, behind⟩ := streams.receive before
      have nearer := receives eq (nextMessage_shortens defaultLimit octets)
      -- What the line hands over is the next message of the stream.
      rw [← same] at nearer
      exact ih behind (Nat.le_of_lt_succ (Nat.lt_of_lt_of_le nearer enough))
    | ended => exact eq

end Run

/-! ## Mailboxes -/

namespace Mailbox

/-- What can still come into a mailbox. -/
def Coming (mailbox : Mailbox) (octets : List UInt8) : Prop :=
  mailbox.incoming.isFull ∧ mailbox.incoming.octets = octets

theorem coming_ofChunks (chunks : List (List UInt8)) (attended : Bool) :
    (ofChunks chunks attended).Coming chunks.flatten :=
  ⟨Source.isFull_ofChunks chunks, Source.octets_ofChunks chunks⟩

theorem incoming_send (message : Message) (mailbox : Mailbox) :
    (mailbox.send message).2.incoming = mailbox.incoming := by
  unfold send
  split <;> rfl

theorem streams : line.Streams Coming where
  send message before := by
    rw [Coming, line, incoming_send]
    exact before
  receive before := by
    obtain ⟨full, rfl⟩ := before
    obtain ⟨same, full'⟩ := Source.message_takeLine defaultLimit full
    rw [← same]
    exact ⟨rfl, full', rfl⟩

/-- Of what is sent to a mailbox nothing is lost if somebody is there, and nothing is kept if not.
-/
theorem sent_of_performs {mailbox final : Mailbox} {acts : List Act}
    (performs : line.Performs mailbox acts final) :
    final.sent = mailbox.sent ++ said acts ∧ final.attended = mailbox.attended
      ∧ ∀ message outcome, .sent message outcome ∈ acts →
        outcome = if mailbox.attended then .ok () else .error .disconnected := by
  induction performs with
  | nil mailbox => exact ⟨by simp [said], rfl, by simp⟩
  | @sent mailbox final message acts _ ih =>
    obtain ⟨kept, same, outcomes⟩ := ih
    have sending : (line.send message mailbox).1
          = (if mailbox.attended then .ok () else .error .disconnected)
        ∧ (line.send message mailbox).2.attended = mailbox.attended
        ∧ (line.send message mailbox).2.sent ++ said acts
          = mailbox.sent ++ said (.sent message (line.send message mailbox).1 :: acts) := by
      cases attended : mailbox.attended <;> simp [line, send, attended, said]
    obtain ⟨outcome, still, more⟩ := sending
    refine ⟨kept.trans more, same.trans still, fun message' outcome' present => ?_⟩
    rcases List.mem_cons.mp present with first | later
    · cases first
      exact outcome
    · rw [← still]
      exact outcomes message' outcome' later
  | received _ ih =>
    obtain ⟨kept, same, outcomes⟩ := ih
    refine ⟨kept, same, fun message outcome present => ?_⟩
    exact outcomes message outcome ((List.mem_cons.mp present).resolve_left (by simp))

end Mailbox
end DebugBridge
