import DebugBridge.Client.Network
import DebugBridge.Proofs.Conversation.Transcript
import DebugBridge.Wire.Encoding

/-!
# What a client says and hears

The server may send anything: any octets, cut off anywhere, and sending to it may fail at any time.
Whatever it does, the client's side of the conversation is one of those described here.

* `Opened`: one line that names the binary, and the answer to it.
* `Serviced`: events, each answered by what the debugger makes of it before anything else is read,
  up to the first message that is no event.
* `Executed`: one line with a command, and then that.
* `Worked`: commands one after the other, until one breaks the session. The others fail without
  anything being said, heard or done.

Results:
1. `exists_serviced`, `exists_worked`: the stages of a session.
2. `run_transcript`: a session comes to its end and has such a transcript, which uses up the stream
   message by message.
-/

namespace DebugBridge.Client.Session

variable {σ : Type}

/-! ## Transcripts -/

/-- The opening of a session for a binary. -/
inductive Opened (binary : Path) : List Act → Except SessionFault Unit → Prop
  | accepted :
      Opened binary [.sent (.init binary.text) (.ok ()), .received (.ok .initAck)] (.ok ())
  | rejected (reason : String) :
      Opened binary [.sent (.init binary.text) (.ok ()), .received (.ok (.error reason))]
        (.error (.rejected reason))
  | surprised {message : Message} : message ≠ .initAck → (∀ reason, message ≠ .error reason) →
      Opened binary [.sent (.init binary.text) (.ok ()), .received (.ok message)]
        (.error (.protocol ("expected InitAck, got " ++ message.kind)))
  | unanswered (fault : TransportFault) :
      Opened binary [.sent (.init binary.text) (.ok ()), .received (.error fault)]
        (.error (.ofTransport fault))
  | unsent (fault : TransportFault) :
      Opened binary [.sent (.init binary.text) (.error fault)] (.error (.ofTransport fault))

/-- What happens after a command has been sent: from a state of the debugger, what comes of the
command and the state of the debugger then. -/
inductive Serviced (backend : Backend σ) : σ → List Act → Attempt → σ → Prop
  | answered {before after final : σ} {request : Request} {response : Response}
      {acts : List Act} {attempt : Attempt} :
      dispatch backend request before = (response, after) →
      Serviced backend after acts attempt final →
      Serviced backend before
        (.received (.ok (.event request)) :: .sent (.eventResponse response) (.ok ()) :: acts)
        attempt final
  | unsent {before after : σ} {request : Request} {response : Response} (fault : TransportFault) :
      dispatch backend request before = (response, after) →
      Serviced backend before
        [.received (.ok (.event request)), .sent (.eventResponse response) (.error fault)]
        (.error (.ofTransport fault)) after
  | complete (state : σ) (result : Json) :
      Serviced backend state [.received (.ok (.complete result))] (.ok (.complete result)) state
  | failed (state : σ) (error : String) :
      Serviced backend state [.received (.ok (.error error))] (.ok (.failed error)) state
  | surprised (state : σ) {message : Message} : (∀ request, message ≠ .event request) →
      (∀ result, message ≠ .complete result) → (∀ error, message ≠ .error error) →
      Serviced backend state [.received (.ok message)]
        (.error (.protocol ("unexpected " ++ message.kind ++ " while awaiting a response"))) state
  | unanswered (state : σ) (fault : TransportFault) :
      Serviced backend state [.received (.error fault)] (.error (.ofTransport fault)) state

/-- A command in a usable session. -/
inductive Executed (backend : Backend σ) (command : Command) :
    σ → List Act → Attempt → σ → Prop
  | sent {before after : σ} {acts : List Act} {attempt : Attempt} :
      Serviced backend before acts attempt after →
      Executed backend command before (.sent (.command command) (.ok ()) :: acts) attempt after
  | unsent (state : σ) (fault : TransportFault) :
      Executed backend command state [.sent (.command command) (.error fault)]
        (.error (.ofTransport fault)) state

/-- Commands in a usable session: what came of each, with the debugger as it was then, the debugger
at the end, and whether the session is still usable. -/
inductive Worked (backend : Backend σ) :
    σ → List Command → List Act → List (Attempt × σ) → σ → Bool → Prop
  | done (state : σ) : Worked backend state [] [] [] state true
  | next {before after final : σ} {command : Command} {commands : List Command}
      {acts later : List Act} {outcome : Outcome} {results : List (Attempt × σ)} {usable : Bool} :
      Executed backend command before acts (.ok outcome) after →
      Worked backend after commands later results final usable →
      Worked backend before (command :: commands) (acts ++ later)
        ((.ok outcome, after) :: results) final usable
  | broken {before after : σ} {command : Command} {commands : List Command} {acts : List Act}
      {fault : SessionFault} :
      Executed backend command before acts (.error fault) after →
      Worked backend before (command :: commands) acts
        ((.error fault, after) :: commands.map fun _ => (.error .broken, after)) after false

/-- A whole session, and how it is left. -/
inductive Transcript (backend : Backend σ) (binary : Path) (debugger : σ)
    (commands : List Command) : List Act → Session σ → Prop
  | refused {acts : List Act} {fault : SessionFault} : Opened binary acts (.error fault) →
      Transcript backend binary debugger commands acts
        ⟨binary, .refused fault, debugger, commands, []⟩
  | opened {opening later : List Act} {session : Session σ} : Opened binary opening (.ok ()) →
      session.refusal? = none →
      Worked backend debugger commands later session.results session.debugger
        session.phase.isUsable →
      Transcript backend binary debugger commands (opening ++ later) session

/-! ## Stages -/

variable {backend : Backend σ} {session final : Session σ} {acts : List Act}

open Turn (Course)

/-- While a command runs, events are serviced until it is settled. -/
theorem exists_serviced (awaiting : session.phase = .awaiting)
    (course : Course (turn backend) session acts final) :
    ∃ first later attempt after, acts = first ++ later
      ∧ Serviced backend session.debugger first attempt after
      ∧ Course (turn backend) ({ session with debugger := after }.settle attempt) later final := by
  induction size : acts.length using Nat.strongRecOn generalizing session acts with
  | ind size ih =>
    have receives : turn backend session = .receive (session.received backend) := by
      rw [turn, awaiting]
    obtain ⟨incoming, rest, rfl, going⟩ := course.of_receive receives
    -- Everything but an event settles the command at once.
    have settled : ∀ {attempt}, session.received backend incoming = session.settle attempt →
        Serviced backend session.debugger [.received incoming] attempt session.debugger →
        ∃ first later attempt after, Act.received incoming :: rest = first ++ later
          ∧ Serviced backend session.debugger first attempt after
          ∧ Course (turn backend) ({ session with debugger := after }.settle attempt) later
            final := by
      intro attempt same serviced
      rw [same] at going
      exact ⟨[.received incoming], rest, attempt, session.debugger, rfl, serviced, going⟩
    cases incoming with
    | error fault => exact settled rfl (.unanswered _ fault)
    | ok message =>
      cases message with
      | event request =>
        obtain ⟨response, after, answer⟩ : ∃ response after,
            dispatch backend request session.debugger = (response, after) := ⟨_, _, rfl⟩
        rw [received, answer] at going
        obtain ⟨outcome, later, rfl, onward⟩ := going.of_send rfl
        -- The debugger has been asked by now, also when the answer does not get through.
        cases outcome with
        | error fault =>
          exact ⟨[.received (.ok (.event request)), .sent (.eventResponse response) (.error fault)],
            later, _, after, rfl, .unsent fault answer, onward⟩
        | ok _ =>
          obtain ⟨first, behind, attempt, after', rfl, serviced, course⟩ :=
            ih later.length (by rw [← size]; simp only [List.length_cons]; omega) rfl onward rfl
          exact ⟨_ :: _ :: first, behind, attempt, after', rfl, .answered answer serviced, course⟩
      | complete result => exact settled rfl (.complete _ result)
      | error error => exact settled rfl (.failed _ error)
      | init binary => exact settled rfl (.surprised _ (by simp) (by simp) (by simp))
      | initAck => exact settled rfl (.surprised _ (by simp) (by simp) (by simp))
      | command given => exact settled rfl (.surprised _ (by simp) (by simp) (by simp))
      | eventResponse response => exact settled rfl (.surprised _ (by simp) (by simp) (by simp))

/-- Commands are worked off in order. -/
theorem exists_worked (idle : session.phase = .idle)
    (course : Course (turn backend) session acts final) :
    ∃ results, final.results = session.attempts ++ results ∧ final.refusal? = none
      ∧ Worked backend session.debugger session.remaining acts results final.debugger
        final.phase.isUsable := by
  obtain ⟨commands, remaining⟩ : ∃ commands, session.remaining = commands := ⟨_, rfl⟩
  induction commands generalizing session acts with
  | nil =>
    have ended : turn backend session = .ended := by
      rw [turn, idle]
      simp only [remaining]
    obtain ⟨rfl, rfl⟩ := course.of_ended ended
    refine ⟨[], by simp [results, remaining], by simp [refusal?, idle], ?_⟩
    rw [remaining, idle]
    exact .done _
  | cons command commands ih =>
    have sends : turn backend session = .send (.command command)
        { session with remaining := commands }.awaitServer := by
      rw [turn, idle]
      simp only [remaining]
    obtain ⟨outcome, rest, rfl, going⟩ := course.of_send sends
    -- A session that is settled by a fault has ended.
    have broken : ∀ {first later fault after}, rest = first ++ later →
        Executed backend command session.debugger (.sent (.command command) outcome :: first)
          (.error fault) after →
        Course (turn backend) ({ session with
          remaining := commands, debugger := after }.settle (.error fault)) later final →
        ∃ results, final.results = session.attempts ++ results ∧ final.refusal? = none
          ∧ Worked backend session.debugger session.remaining
            (.sent (.command command) outcome :: rest) results final.debugger
            final.phase.isUsable := by
      intro first later fault after split executed going
      obtain ⟨rfl, rfl⟩ := going.of_ended rfl
      rw [split, List.append_nil, remaining]
      exact ⟨_, by simp [results, settle], rfl, .broken executed⟩
    cases outcome with
    | error fault => exact broken (List.nil_append rest).symm (.unsent _ fault) going
    | ok _ =>
      obtain ⟨first, later, attempt, after, split, serviced, onward⟩ := exists_serviced rfl going
      cases attempt with
      | error fault => exact broken split (.sent serviced) onward
      | ok outcome =>
        obtain ⟨results, same, opened, worked⟩ := ih rfl onward rfl
        refine ⟨(.ok outcome, after) :: results, ?_, opened, ?_⟩
        · rw [same]
          simp [settle, awaitServer]
        · rw [remaining, split]
          exact .next (.sent serviced) worked

/-- What an answer to the naming of the binary comes to. -/
theorem opened_acknowledged (binary : Path) (incoming : Incoming) :
    (acknowledged incoming = .idle
        ∧ Opened binary [.sent (.init binary.text) (.ok ()), .received incoming] (.ok ()))
      ∨ ∃ fault, acknowledged incoming = .refused fault
        ∧ Opened binary [.sent (.init binary.text) (.ok ()), .received incoming]
          (.error fault) := by
  cases incoming with
  | error fault => exact .inr ⟨_, rfl, .unanswered fault⟩
  | ok message =>
    cases message with
    | initAck => exact .inl ⟨rfl, .accepted⟩
    | error reason => exact .inr ⟨_, rfl, .rejected reason⟩
    | init binary => exact .inr ⟨_, rfl, .surprised (by simp) (by simp)⟩
    | command given => exact .inr ⟨_, rfl, .surprised (by simp) (by simp)⟩
    | event request => exact .inr ⟨_, rfl, .surprised (by simp) (by simp)⟩
    | eventResponse response => exact .inr ⟨_, rfl, .surprised (by simp) (by simp)⟩
    | complete result => exact .inr ⟨_, rfl, .surprised (by simp) (by simp)⟩

/-- A session that has ended has such a transcript. -/
theorem transcript_of_course {binary : Path} {debugger : σ} {commands : List Command}
    (course : Course (turn backend) (start binary debugger commands) acts final) :
    Transcript backend binary debugger commands acts final := by
  obtain ⟨outcome, rest, rfl, going⟩ := course.of_send rfl
  cases outcome with
  | error fault =>
    obtain ⟨rfl, rfl⟩ := going.of_ended rfl
    exact .refused (.unsent fault)
  | ok _ =>
    obtain ⟨incoming, later, rfl, onward⟩ := going.of_receive rfl
    rcases opened_acknowledged binary incoming with ⟨idle, opened⟩ | ⟨fault, refused, opened⟩
    · rw [idle] at onward
      obtain ⟨results, same, accepted, worked⟩ := exists_worked rfl onward
      have whole : Transcript backend binary debugger commands
          ([.sent (.init binary.text) (.ok ()), .received incoming] ++ later) final := by
        refine .opened opened accepted ?_
        rw [same]
        exact worked
      exact whole
    · rw [refused] at onward
      obtain ⟨rfl, rfl⟩ := onward.of_ended rfl
      exact .refused opened

/-! ## Runs -/

/-- How many turns are left, at most, when these octets can still come in. -/
def turnsLeft (session : Session σ) (octets : List UInt8) : Nat :=
  match session.phase with
  | .greeting | .answering _ => 2 * octets.length + session.remaining.length + 2
  | .awaitingAck | .idle | .awaiting => 2 * octets.length + session.remaining.length + 1
  | .refused _ | .broken => 0

theorem turnsLeft_settle (attempt : Attempt) (session : Session σ) (octets : List UInt8) :
    turnsLeft (session.settle attempt) octets
      ≤ 2 * octets.length + session.remaining.length + 1 := by
  cases attempt with
  | ok outcome => exact Nat.le_refl _
  | error fault => exact Nat.zero_le _

theorem turnsLeft_awaitServer (outcome : Except TransportFault Unit) (session : Session σ)
    (octets : List UInt8) :
    turnsLeft (session.awaitServer outcome) octets
      ≤ 2 * octets.length + session.remaining.length + 1 := by
  cases outcome with
  | ok _ => exact Nat.le_refl _
  | error fault => exact turnsLeft_settle _ session octets

theorem turnsLeft_send {message : Message} {next : Except TransportFault Unit → Session σ}
    (sends : turn backend session = .send message next) (outcome : Except TransportFault Unit)
    (octets : List UInt8) : turnsLeft (next outcome) octets < turnsLeft session octets := by
  obtain ⟨binary, phase, debugger, commands, attempts⟩ := session
  cases phase with
  | greeting =>
    cases sends
    cases outcome with
    | ok _ => exact Nat.lt_succ_self _
    | error fault => exact Nat.zero_lt_succ _
  | idle =>
    cases commands with
    | nil => cases sends
    | cons command commands =>
      cases sends
      exact Nat.lt_succ_of_le (turnsLeft_awaitServer _ _ octets)
  | answering response =>
    cases sends
    exact Nat.lt_succ_of_le (turnsLeft_awaitServer _ _ octets)
  | awaitingAck => cases sends
  | awaiting => cases sends
  | refused fault => cases sends
  | broken => cases sends

theorem turnsLeft_received (session : Session σ) (incoming : Incoming) (octets : List UInt8) :
    turnsLeft (session.received backend incoming) octets
      ≤ 2 * octets.length + session.remaining.length + 2 := by
  have settled : ∀ attempt, turnsLeft (session.settle attempt) octets
      ≤ 2 * octets.length + session.remaining.length + 2 :=
    fun attempt => Nat.le_succ_of_le (turnsLeft_settle attempt session octets)
  cases incoming with
  | error fault => exact settled _
  | ok message =>
    cases message with
    | event request => exact Nat.le_refl _
    | init binary => exact settled _
    | initAck => exact settled _
    | command given => exact settled _
    | eventResponse response => exact settled _
    | complete result => exact settled _
    | error error => exact settled _

/-- Unless the stream has ended, receiving takes an octet; and then no more than one turn follows
until the next is received. -/
theorem turnsLeft_receive {next : Incoming → Session σ} {incoming : Incoming}
    {octets behind : List UInt8} (receives : turn backend session = .receive next)
    (shortens : incoming = .error .closed ∨ behind.length < octets.length) :
    turnsLeft (next incoming) behind < turnsLeft session octets := by
  obtain ⟨binary, phase, debugger, commands, attempts⟩ := session
  cases phase with
  | awaitingAck =>
    cases receives
    rcases shortens with rfl | shorter
    · exact Nat.zero_lt_succ _
    rcases opened_acknowledged binary incoming with ⟨idle, -⟩ | ⟨fault, refused, -⟩
    · simp only [turnsLeft, idle]
      omega
    · simp only [turnsLeft, refused]
      omega
  | awaiting =>
    cases receives
    rcases shortens with rfl | shorter
    · exact Nat.zero_lt_succ _
    refine Nat.lt_of_le_of_lt (turnsLeft_received _ incoming behind) ?_
    simp only [turnsLeft]
    omega
  | greeting => cases receives
  | idle => cases commands <;> cases receives
  | answering response => cases receives
  | refused fault => cases receives
  | broken => cases receives

/-- Whatever comes in over a line, and whatever becomes of what is sent: a session comes to its end,
and what was said and heard until then is a transcript, which the line has made for, and which has
used up the stream message by message. -/
theorem run_transcript (backend : Backend σ) {ν : Type} {line : Line ν}
    {coming : ν → List UInt8 → Prop} (streams : line.Streams coming) (binary : Path)
    (debugger : σ) (commands : List Command) {state : ν} {octets : List UInt8}
    (before : coming state octets) {count : Nat}
    (enough : 2 * octets.length + commands.length + 2 ≤ count) :
    ∃ acts rest,
      Transcript backend binary debugger commands acts
        (Turn.run line (turn backend) count (start binary debugger commands) state).1
      ∧ line.Performs state acts
        (Turn.run line (turn backend) count (start binary debugger commands) state).2
      ∧ Consumes octets acts rest
      ∧ coming (Turn.run line (turn backend) count (start binary debugger commands) state).2
        rest := by
  have ended : turn backend
      (Turn.run line (turn backend) count (start binary debugger commands) state).1 = .ended :=
    streams.run_ended turnsLeft_send turnsLeft_receive before enough
  obtain ⟨acts, course, performs⟩ := Turn.exists_course ended
  obtain ⟨rest, consumes, after⟩ := streams.consumes before performs
  exact ⟨acts, rest, transcript_of_course course, performs, consumes, after⟩

/-- A server that accepts the binary, asks for the frame and stops in the middle of a line. -/
def cutOff : Mailbox :=
  .ofChunks [Message.initAck.encode ++ (Message.event .frameInfo).encode, [123, 34]] true

/-- Two commands, of which the second is never sent. -/
def twoCommands : List Command := [⟨.eval, ["1"]⟩, ⟨.functions, []⟩]

theorem run_transcript_cutOff :
    ∃ acts rest,
      Transcript .absent (.ofText "/bin/true") () twoCommands acts
        (converse .absent (start (.ofText "/bin/true") () twoCommands) cutOff).1
      ∧ Mailbox.line.Performs cutOff acts
        (converse .absent (start (.ofText "/bin/true") () twoCommands) cutOff).2
      ∧ Consumes cutOff.incoming.octets acts rest
      ∧ (converse .absent (start (.ofText "/bin/true") () twoCommands) cutOff).2.Coming rest := by
  have enough : 2 * cutOff.incoming.octets.length + twoCommands.length + 2
      ≤ 2 * cutOff.bound + twoCommands.length + 1 := by
    simp only [Mailbox.bound]
    omega
  exact run_transcript .absent Mailbox.streams (.ofText "/bin/true") () twoCommands
    ⟨Source.isFull_ofChunks _, rfl⟩ enough

end DebugBridge.Client.Session
