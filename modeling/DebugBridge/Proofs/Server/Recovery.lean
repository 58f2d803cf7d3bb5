import DebugBridge.Proofs.Conversation.Passage
import DebugBridge.Proofs.Json.Trailing
import DebugBridge.Proofs.Server.Transcript
import DebugBridge.Proofs.Wire.Exchange

/-!
# Lines that are no messages

A client's line that is no message is answered by an error and forgotten, as long as the server
waits for the handshake or for a command. So two clients that differ only in such lines have the
same session, but for the errors. Where the answer to an event is awaited, such a line ends the
session.

The client is one that stays to hear what it is told. Where its stream is cut into chunks does not
matter.

Results:
1. `decode_dropReturn`: a line that is no message is none without its carriage return either.
2. `passage_refused`: any number of such lines leave the server where it was.
3. `Exchanged.inserted`, `Exchanged.interrupted`: a session with such lines, from one without.
4. `serve_inserted`: what becomes of a session when such lines are put in at any point of it.
-/

namespace DebugBridge.Server

variable {ε : Type} {engine : Engine ε}

/-! ## Lines -/

/-- Octets that a reader takes for one line. -/
structure IsLine (line : List UInt8) : Prop where
  clean : 10 ∉ line
  short : line.length ≤ defaultLimit.toNat

/-- A line that is no message. -/
structure Undecodable (line : List UInt8) : Prop extends IsLine line where
  fails : ∃ fault, Message.decode line = .error fault

/-- Lines as a client sends them. -/
def joined (lines : List (List UInt8)) : List UInt8 :=
  lines.flatMap fun line => line ++ [10]

theorem joined_append (lines more : List (List UInt8)) :
    joined (lines ++ more) = joined lines ++ joined more :=
  List.flatMap_append

theorem joined_cons (line : List UInt8) (lines : List (List UInt8)) (behind : List UInt8) :
    joined (line :: lines) ++ behind = line ++ 10 :: (joined lines ++ behind) := by
  simp [joined]

/-- A carriage return at the end of a line is white space behind the message. -/
theorem decode_dropReturn {line : List UInt8} {fault : Json.Fault}
    (fails : Message.decode line = .error fault) :
    ∃ fault', Message.decode (dropReturn line) = .error fault' := by
  rcases return_cases line with plain | ⟨before, rfl⟩
  · exact ⟨fault, by rw [dropReturn_eq_self plain, fails]⟩
  · rw [dropReturn_append]
    cases read : Message.decode before with
    | error fault' => exact ⟨fault', rfl⟩
    | ok message =>
      have blank : Json.Read.isSpace 13 = true := rfl
      cases (Json.Read.readText_append blank read).symm.trans fails

/-- The server reads of such a line that it is malformed. -/
theorem Undecodable.framed {line : List UInt8} (undecodable : Undecodable line) :
    ∃ fault, ∀ behind, Framed defaultLimit (line ++ 10 :: behind)
      (.error (.malformed (dropReturn line) fault)) behind := by
  obtain ⟨fault, fails⟩ := undecodable.fails
  obtain ⟨fault', fails'⟩ := decode_dropReturn fails
  refine ⟨fault', fun behind => ?_⟩
  rw [framed_iff, nextMessage_line undecodable.clean undecodable.short, lineMessage, fails']
  rfl

/-! ## Refusals -/

/-- What is heard and said of lines that are no messages: each is answered by an error that quotes
it. -/
inductive Refused : List (List UInt8) → List Act → Prop
  | nil : Refused [] []
  | cons {line : List UInt8} {lines : List (List UInt8)} {acts : List Act} (fault : Json.Fault) :
      Refused lines acts →
      Refused (line :: lines)
        (.received (.error (.malformed (dropReturn line) fault))
          :: .sent (complaint (.malformed (dropReturn line) fault)) (.ok ()) :: acts)

/-- There are as many errors as lines, and nothing else is said. -/
theorem Refused.said {lines : List (List UInt8)} {acts : List Act} (refused : Refused lines acts) :
    (said acts).length = lines.length
      ∧ ∀ message, message ∈ said acts → ∃ text, message = .error text := by
  induction refused with
  | nil => exact ⟨rfl, fun message present => nomatch present⟩
  | cons fault _ ih =>
    obtain ⟨length, errors⟩ := ih
    refine ⟨congrArg (· + 1) length, fun message present => ?_⟩
    rcases List.mem_cons.mp present with rfl | later
    · exact ⟨_, rfl⟩
    · exact errors message later

/-- Where a line that is no message does no harm. -/
def Stage.isPatient : Stage ε → Prop
  | .greeting => True
  | .idle _ => True
  | .asking .. => False

theorem received_malformed (engine : Engine ε) {stage : Stage ε} (patient : stage.isPatient)
    (line : List UInt8) (fault : Json.Fault) :
    stage.received engine (.error (.malformed line fault))
        = .sending (complaint (.malformed line fault)) (.stage stage)
      ∧ stage.named? (.error (.malformed line fault)) = none := by
  cases stage with
  | greeting => exact ⟨rfl, rfl⟩
  | idle attached => exact ⟨rfl, rfl⟩
  | asking kind request resume => exact patient.elim

namespace Session

/-- Lines that are no messages leave the server where it was, each with its answer. -/
theorem passage_refused (engine : Engine ε) {stage : Stage ε} (patient : stage.isPatient)
    (binary : Option String) {lines : List (List UInt8)}
    (undecodable : ∀ line, line ∈ lines → Undecodable line) (behind : List UInt8) :
    ∃ acts, Refused lines acts
      ∧ Passage (turn engine) ⟨.receiving stage, binary⟩ (joined lines ++ behind) acts
        ⟨.receiving stage, binary⟩ behind := by
  induction lines with
  | nil => exact ⟨[], .nil, .nil _ _⟩
  | cons line lines ih =>
    obtain ⟨acts, refused, onward⟩ := ih fun line' later => undecodable line' (.tail _ later)
    obtain ⟨fault, framed⟩ := (undecodable line List.mem_cons_self).framed
    refine ⟨_, .cons fault refused, ?_⟩
    rw [joined_cons]
    refine .received rfl (framed _) ?_
    obtain ⟨answered, unnamed⟩ :=
      received_malformed engine patient (dropReturn line) fault
    rw [answered, unnamed, Option.or_none]
    exact .sent rfl onward

/-! ## Sessions -/

/-- A session that still waits for a message has not found the end of its stream. -/
theorem unclosed {session final : Session ε} {stage : Stage ε} {octets rest : List UInt8}
    {acts : List Act} (passage : Passage (turn engine) session octets acts final rest)
    (waits : final.phase = .receiving stage) : .received (.error .closed) ∉ acts := by
  induction passage with
  | nil _ _ => exact List.not_mem_nil
  | sent _ _ ih =>
    intro present
    rcases List.mem_cons.mp present with eq | later
    · cases eq
    · exact ih waits later
  | @received party final _ _ _ acts incoming next receives framed onward ih =>
    intro present
    rcases List.mem_cons.mp present with eq | later
    · -- What follows the end of the stream is the end of the session.
      cases eq
      obtain ⟨phase, binary⟩ := party
      cases phase with
      | sending message after => cases receives
      | ended ending left => cases receives
      | receiving stage' =>
        cases receives
        obtain ⟨ending, left, closes⟩ := received_closed engine stage'
        dsimp only at onward
        rw [closes] at onward
        obtain ⟨-, rfl, -⟩ := onward.of_ended rfl
        cases waits
    · exact ih waits later

/-- What is said and heard in the session with a client that sends these octets and hears all that
it is told, and how the session ends. -/
def Exchanged (engine : Engine ε) (octets : List UInt8) (acts : List Act) (final : Session ε) :
    Prop :=
  ∃ rest, Passage (turn engine) start octets acts final rest ∧ turn engine final = .ended

theorem Exchanged.unique {octets : List UInt8} {acts acts' : List Act} {final final' : Session ε}
    (exchanged : Exchanged engine octets acts final)
    (exchanged' : Exchanged engine octets acts' final') : acts' = acts ∧ final' = final := by
  obtain ⟨rest, passage, ended⟩ := exchanged
  obtain ⟨rest', passage', ended'⟩ := exchanged'
  obtain ⟨sameActs, sameFinal, -⟩ := passage.unique ended passage' ended'
  exact ⟨sameActs, sameFinal⟩

/-- The session that is served is such an exchange, and the mailbox keeps what the client has been
told. -/
theorem serve_exchanged (engine : Engine ε) (chunks : List (List UInt8)) :
    ∃ acts, Exchanged engine chunks.flatten acts (serve engine (.ofChunks chunks true)).1
      ∧ (serve engine (.ofChunks chunks true)).2.sent = said acts := by
  obtain ⟨acts, rest, passage, -, sent⟩ :=
    Mailbox.exists_passage (turn engine) _ start (Mailbox.coming_ofChunks chunks true) rfl
  exact ⟨acts, ⟨rest, passage, turn_serve engine chunks⟩, sent.trans (List.nil_append _)⟩

section Insertion

variable {lines bad : List (List UInt8)} {position : Nat} {stage : Stage ε}
  {binary : Option String} {before : List Act}

/-- Up to a point at which the server waits, what comes behind that point does not matter. -/
theorem passage_take
    (waits : Passage (turn engine) start (joined lines) before ⟨.receiving stage, binary⟩
      (joined (lines.drop position))) (behind : List UInt8) :
    Passage (turn engine) start (joined (lines.take position) ++ behind) before
      ⟨.receiving stage, binary⟩ behind := by
  obtain ⟨consumed, split, onward⟩ := waits.exists_consumed (unclosed waits rfl)
  have parts : joined (lines.take position) ++ joined (lines.drop position)
      = consumed ++ joined (lines.drop position) := by
    rw [← split, ← joined_append, List.take_append_drop]
  rw [List.append_cancel_right parts]
  exact onward behind

/-- The exchange with lines put in where they do no harm, from the one without. -/
theorem Exchanged.inserted (patient : stage.isPatient)
    (undecodable : ∀ line, line ∈ bad → Undecodable line)
    (waits : Passage (turn engine) start (joined lines) before ⟨.receiving stage, binary⟩
      (joined (lines.drop position)))
    {acts : List Act} {final : Session ε} (exchanged : Exchanged engine (joined lines) acts final) :
    ∃ refusals after, acts = before ++ after ∧ Refused bad refusals
      ∧ Exchanged engine (joined (lines.take position ++ bad ++ lines.drop position))
        (before ++ refusals ++ after) final := by
  obtain ⟨rest, passage, ended⟩ := exchanged
  obtain ⟨after, same, onward⟩ := waits.continues passage ended
  obtain ⟨refusals, refused, refusing⟩ :=
    passage_refused engine patient binary undecodable (joined (lines.drop position))
  refine ⟨refusals, after, same, refused, rest, ?_, ended⟩
  rw [joined_append, joined_append, List.append_assoc, List.append_assoc]
  exact (passage_take waits _).append (refusing.append onward)

/-- The exchange with a line put in where the answer to an event is awaited: it ends there. -/
theorem Exchanged.interrupted {kind : CommandKind} {request : Request}
    {resume : Reply → Work (Except Report Json × ε)} {line : List UInt8}
    (undecodable : Undecodable line)
    (waits : Passage (turn engine) start (joined lines) before
      ⟨.receiving (.asking kind request resume), binary⟩ (joined (lines.drop position))) :
    ∃ fault, Exchanged engine
      (joined (lines.take position ++ (line :: bad) ++ lines.drop position))
      (before ++ [.received (.error (.malformed (dropReturn line) fault))])
      ⟨abandon kind (resume (.error (.noAnswer (.malformed (dropReturn line) fault)))),
        binary⟩ := by
  obtain ⟨fault, framed⟩ := undecodable.framed
  have unnamed : (Stage.asking kind request resume).named?
      (.error (.malformed (dropReturn line) fault)) = none := rfl
  refine ⟨fault, joined bad ++ joined (lines.drop position), ?_, rfl⟩
  rw [joined_append, joined_append, List.append_assoc, joined_cons]
  refine (passage_take waits _).append (.received rfl (framed _) ?_)
  rw [unnamed, Option.or_none]
  exact .nil _ _

/-- Lines that are no messages, put in at any point of a session at which the server waits. While it
waits for the handshake or for a command, they change nothing but that each is answered by an error
at that point: the same is said and heard before and after, the rest of what is sent is the same,
and the session comes to the same end with the engine in the same state. While it waits for the
answer to an event, the session ends by a failure and nothing more is said. -/
theorem serve_inserted (engine : Engine ε) {chunks chunks' : List (List UInt8)} {count : Nat}
    {mailbox : Mailbox} (sends : chunks.flatten = joined lines)
    (inserts : chunks'.flatten = joined (lines.take position ++ bad ++ lines.drop position))
    (undecodable : ∀ line, line ∈ bad → Undecodable line)
    (waits : Turn.run Mailbox.line (turn engine) count start (.ofChunks chunks true)
      = (⟨.receiving stage, binary⟩, mailbox))
    (behind : mailbox.incoming.octets = joined (lines.drop position)) :
    (stage.isPatient → ∃ before refusals after,
        Exchanged engine chunks.flatten (before ++ after) (serve engine (.ofChunks chunks true)).1
        ∧ Exchanged engine chunks'.flatten (before ++ refusals ++ after)
          (serve engine (.ofChunks chunks' true)).1
        ∧ (serve engine (.ofChunks chunks' true)).1 = (serve engine (.ofChunks chunks true)).1
        ∧ Refused bad refusals ∧ (said refusals).length = bad.length
        ∧ (∀ message, message ∈ said refusals → ∃ text, message = .error text)
        ∧ mailbox.sent = said before
        ∧ (serve engine (.ofChunks chunks true)).2.sent = mailbox.sent ++ said after
        ∧ (serve engine (.ofChunks chunks' true)).2.sent
          = mailbox.sent ++ said refusals ++ said after)
      ∧ (¬ stage.isPatient → bad ≠ [] →
        (∃ report, (serve engine (.ofChunks chunks' true)).1.ending? = some (.error report))
        ∧ (serve engine (.ofChunks chunks' true)).2.sent = mailbox.sent) := by
  obtain ⟨before, rest, waits', coming, told⟩ :=
    Mailbox.exists_passage (turn engine) count start (Mailbox.coming_ofChunks chunks true) rfl
  rw [waits] at waits' coming told
  rw [← coming.2, behind, sends] at waits'
  have told : mailbox.sent = said before := told.trans (List.nil_append _)
  obtain ⟨acts, exchanged, sent⟩ := serve_exchanged engine chunks
  obtain ⟨acts', exchanged', sent'⟩ := serve_exchanged engine chunks'
  constructor
  · intro patient
    rw [sends] at exchanged
    obtain ⟨refusals, after, rfl, refused, expected⟩ :=
      exchanged.inserted patient undecodable waits'
    rw [← inserts] at expected
    obtain ⟨rfl, same⟩ := expected.unique exchanged'
    obtain ⟨length, errors⟩ := refused.said
    refine ⟨before, refusals, after, ?_, exchanged', same, refused, length, errors, told, ?_, ?_⟩
    · rw [sends]
      exact exchanged
    · rw [sent, told, said_append]
    · rw [sent', told, said_append, said_append]
  · intro impatient some
    cases bad with
    | nil => exact absurd rfl some
    | cons line bad =>
      cases stage with
      | greeting => exact absurd trivial impatient
      | idle attached => exact absurd trivial impatient
      | asking kind request resume =>
        obtain ⟨fault, expected⟩ :=
          Exchanged.interrupted (undecodable line List.mem_cons_self) waits'
        rw [← inserts] at expected
        obtain ⟨rfl, same⟩ := expected.unique exchanged'
        refine ⟨⟨failure kind _, by rw [same]; rfl⟩, ?_⟩
        rw [sent', told, said_append]
        exact List.append_nil _

end Insertion

/-- An engine that asks where the program was loaded before it answers. -/
def curious : Engine Unit where
  attach _ := .ok ()
  handle _ _ := .ask .baseAddress fun _ => .done (.ok .null, ())

/-- A client that names a binary and gives a command. -/
def requests : List Message :=
  [.init "a", .command ⟨.eval, []⟩]

/-- A brace that is never closed, and an empty line. -/
def noise : List (List UInt8) :=
  [[123], []]

/-- What the client sends when noise comes in at a point. -/
def noisy (position : Nat) : List (List UInt8) :=
  let lines := requests.map Message.payload
  [joined (lines.take position ++ noise ++ lines.drop position)]

/-- A message that is a chunk of its own is received with it. -/
theorem receive_encode {message : Message} (transmissible : message.Transmissible)
    (behind : List (List UInt8)) (attended : Bool) (sent : List Message) :
    Mailbox.line.receive ⟨⟨[], message.encode :: behind⟩, attended, sent⟩
      = (.ok message, ⟨⟨[], behind⟩, attended, sent⟩) := by
  have taken := Message.takeLine_encode (Nat.lt_succ_of_le transmissible.short) behind
  have read := Message.messageOf_encode transmissible.back
  simp only [Mailbox.line, Mailbox.receive, taken, read]

/-- Between the two requests the noise is answered by two errors. Behind them it ends the session,
because then the answer to an event is awaited. -/
theorem serve_inserted_curious :
    ((serve curious (.ofChunks (noisy 1) true)).1
        = (serve curious (.ofChunks (requests.map Message.encode) true)).1
      ∧ (serve curious (.ofChunks (noisy 1) true)).2.sent.length
        = (serve curious (.ofChunks (requests.map Message.encode) true)).2.sent.length + 2)
      ∧ ∃ report,
        (serve curious (.ofChunks (noisy 2) true)).1.ending? = some (.error report) := by
  have undecodable : ∀ line, line ∈ noise → Undecodable line := by
    intro line present
    simp only [noise, List.mem_cons, List.not_mem_nil, or_false] at present
    rcases present with rfl | rfl
    · exact ⟨⟨by decide, by decide⟩, _, rfl⟩
    · exact ⟨⟨by decide, by decide⟩, _, rfl⟩
  have named : (Message.init "a").Passes := Message.passes_of_short (by simp) (by decide)
  have commanded : (Message.command ⟨.eval, []⟩).Passes :=
    Message.passes_of_short (by simp) (by decide)
  have sends : (requests.map Message.encode).flatten = joined (requests.map Message.payload) := rfl
  have greets : Mailbox.line.receive (.ofChunks (requests.map Message.encode) true)
      = (.ok (.init "a"), ⟨⟨[], [Message.encode (.command ⟨.eval, []⟩)]⟩, true, []⟩) :=
    receive_encode named.transmissible _ true []
  have asks : Mailbox.line.receive
        ⟨⟨[], [Message.encode (.command ⟨.eval, []⟩)]⟩, true, [.initAck]⟩
      = (.ok (.command ⟨.eval, []⟩), ⟨⟨[], []⟩, true, [.initAck]⟩) :=
    receive_encode commanded.transmissible [] true [.initAck]
  have started : ∀ more, Turn.run Mailbox.line (turn curious) (more + 2) start
        (.ofChunks (requests.map Message.encode) true)
      = Turn.run Mailbox.line (turn curious) more ⟨.receiving (.idle ()), some "a"⟩
        ⟨⟨[], [Message.encode (.command ⟨.eval, []⟩)]⟩, true, [.initAck]⟩ := by
    intro more
    refine (Turn.run_receive rfl).trans ?_
    rw [greets]
    rfl
  have asking : Turn.run Mailbox.line (turn curious) 4 start
        (.ofChunks (requests.map Message.encode) true)
      = (⟨.receiving (.asking .eval .baseAddress fun _ => .done (.ok .null, ())), some "a"⟩,
        ⟨⟨[], []⟩, true, [.initAck, .event .baseAddress]⟩) := by
    refine (started 2).trans ((Turn.run_receive rfl).trans ?_)
    rw [asks]
    rfl
  have between : (noisy 1).flatten
      = joined ((requests.map Message.payload).take 1 ++ noise
        ++ (requests.map Message.payload).drop 1) := List.append_nil _
  have behind : (noisy 2).flatten
      = joined ((requests.map Message.payload).take 2 ++ noise
        ++ (requests.map Message.payload).drop 2) := List.append_nil _
  obtain ⟨before, refusals, after, -, -, same, -, length, -, -, sent, sent'⟩ :=
    (serve_inserted curious sends between undecodable (started 0) rfl).1 trivial
  obtain ⟨failed, -⟩ := (serve_inserted curious sends behind undecodable asking rfl).2
    (fun patient => patient) (by decide)
  refine ⟨⟨same, ?_⟩, failed⟩
  rw [sent, sent', List.length_append, List.length_append, List.length_append, length]
  exact Nat.add_right_comm ..

end Session
end DebugBridge.Server
