import DebugBridge.Proofs.Conversation.Transcript
import DebugBridge.Server.Session

/-!
# What a server says and hears

The client may send anything: any octets, cut off anywhere. As long as it stays to hear what it is
told, the server's side of the conversation is one of those described here, whatever the engine.

* `Carried`, `Lost`: the work on a command. Every event is followed by the receiving of one message.
  When that is an answer to the event the work goes on, and it ends with one completion or error;
  when it is anything else nothing more is said.
* `Commanded`: commands one after the other. A line that is no message is answered by one error. The
  end of the stream and a line that is too long end the session without a word, and so does a
  message that is no command; a shutdown is completed first.
* `Greeted`: the same around the first message, which has to name a binary.

Results:
1. `exists_carried`, `exists_commanded`, `exists_greeted`: the stages of a session.
2. `turn_serve`, `serve_transcript`: a session comes to its end and has such a transcript, which
   uses up the stream message by message and tells all that the client has been sent.
-/

namespace DebugBridge

theorem Request.reply_eq_ok_iff {request : Request} {incoming : Incoming} {response : Response} :
    request.reply incoming = .ok response
      ↔ incoming = .ok (.eventResponse response) ∧ response.answers request = true := by
  unfold reply
  split
  · next other =>
    split
    · next answers =>
      simp only [Except.ok.injEq, Message.eventResponse.injEq]
      constructor
      · rintro rfl
        exact ⟨rfl, answers⟩
      · exact And.left
    · next mismatched =>
      constructor
      · intro same
        cases same
      · rintro ⟨same, answers⟩
        cases same
        exact absurd answers mismatched
  · next message other =>
    constructor
    · intro same
      cases same
    · rintro ⟨same, -⟩
      exact absurd (Except.ok.inj same) (other _)
  · constructor
    · intro same
      cases same
    · rintro ⟨same, -⟩
      cases same

namespace Server.Session

variable {ε : Type}

/-! ## Transcripts -/

/-- Work on a command that is brought to its end: from the work to the engine after it. -/
inductive Carried : Work (Except Report Json × ε) → List Act → ε → Prop
  | completed (value : Json) (engine : ε) :
      Carried (.done (.ok value, engine)) [.sent (.complete value) (.ok ())] engine
  | failed (report : Report) (engine : ε) :
      Carried (.done (.error report, engine)) [.sent (.error report.text) (.ok ())] engine
  | asked {request : Request} {resume : Reply → Work (Except Report Json × ε)}
      {response : Response} {acts : List Act} {engine : ε} :
      response.answers request = true → Carried (resume (.ok response)) acts engine →
      Carried (.ask request resume)
        (.sent (.event request) (.ok ()) :: .received (.ok (.eventResponse response)) :: acts)
        engine

/-- Work on a command during which an exchange fails: from the work to what it comes to then, which
the client is not told, and the engine. -/
inductive Lost : Work (Except Report Json × ε) → List Act → Except Report Json → ε → Prop
  | unanswered {request : Request} {resume : Reply → Work (Except Report Json × ε)}
      {incoming : Incoming} {fault : ExchangeFault} {result : Except Report Json} {engine : ε} :
      (∀ response, response.answers request = true → incoming ≠ .ok (.eventResponse response)) →
      request.reply incoming = .error fault → (resume (.error fault)).abandoned = (result, engine) →
      Lost (.ask request resume) [.sent (.event request) (.ok ()), .received incoming] result engine
  | asked {request : Request} {resume : Reply → Work (Except Report Json × ε)}
      {response : Response} {acts : List Act} {result : Except Report Json} {engine : ε} :
      response.answers request = true → Lost (resume (.ok response)) acts result engine →
      Lost (.ask request resume)
        (.sent (.event request) (.ok ()) :: .received (.ok (.eventResponse response)) :: acts)
        result engine

/-- Commands for an engine, up to the end of the session and the engine at the end. -/
inductive Commanded (engine : Engine ε) : ε → List Act → Ending → ε → Prop
  | carried {before after final : ε} {command : Command} {acts later : List Act} {ending : Ending} :
      command.kind ≠ .shutdown → Carried (engine.handle before command) acts after →
      Commanded engine after later ending final →
      Commanded engine before (.received (.ok (.command command)) :: (acts ++ later)) ending final
  | lost {before after : ε} {command : Command} {acts : List Act} {result : Except Report Json} :
      command.kind ≠ .shutdown → Lost (engine.handle before command) acts result after →
      Commanded engine before (.received (.ok (.command command)) :: acts)
        (.error (failure command.kind result)) after
  | stopped (state : ε) (arguments : List String) :
      Commanded engine state
        [.received (.ok (.command ⟨.shutdown, arguments⟩)), .sent (.complete .null) (.ok ())]
        (.ok .shutdown) state
  | violated (state : ε) {message : Message} : (∀ command, message ≠ .command command) →
      Commanded engine state [.received (.ok message)]
        (.error
          ⟨"protocol violation: unexpected " ++ message.kind ++ " while awaiting a command", []⟩)
        state
  | malformed {state final : ε} {line : List UInt8} {fault : Json.Fault} {acts : List Act}
      {ending : Ending} : Commanded engine state acts ending final →
      Commanded engine state
        (.received (.error (.malformed line fault))
          :: .sent (.error ("malformed message: "
            ++ TransportFault.message (.malformed line fault))) (.ok ()) :: acts) ending final
  | left (state : ε) :
      Commanded engine state [.received (.error .closed)] (.ok .disconnected) state
  | failed (state : ε) {fault : TransportFault} : fault ≠ .closed →
      (∀ line cause, fault ≠ .malformed line cause) →
      Commanded engine state [.received (.error fault)]
        (.error ((Report.ofTransport fault).wrap "awaiting a command")) state

/-- A whole session, up to its end and the engine at the end, if one has been attached. -/
inductive Greeted (engine : Engine ε) : List Act → Ending → Option ε → Prop
  | accepted {path : String} {attached final : ε} {acts : List Act} {ending : Ending} :
      engine.attach path = .ok attached → Commanded engine attached acts ending final →
      Greeted engine (.received (.ok (.init path)) :: .sent .initAck (.ok ()) :: acts) ending
        (some final)
  | rejected {path : String} {report : Report} : engine.attach path = .error report →
      Greeted engine [.received (.ok (.init path)), .sent (.error report.text) (.ok ())]
        (.ok .rejected) none
  | stopped (arguments : List String) :
      Greeted engine
        [.received (.ok (.command ⟨.shutdown, arguments⟩)), .sent (.complete .null) (.ok ())]
        (.ok .shutdown) none
  | violated {message : Message} : (∀ path, message ≠ .init path) →
      (∀ arguments, message ≠ .command ⟨.shutdown, arguments⟩) →
      Greeted engine
        [.received (.ok message),
          .sent (.error ("protocol violation: expected Init, got " ++ message.kind)) (.ok ())]
        (.error ⟨"protocol violation: expected Init, got " ++ message.kind, []⟩) none
  | malformed {line : List UInt8} {fault : Json.Fault} {acts : List Act} {ending : Ending}
      {final : Option ε} : Greeted engine acts ending final →
      Greeted engine
        (.received (.error (.malformed line fault))
          :: .sent (.error ("malformed message: "
            ++ TransportFault.message (.malformed line fault))) (.ok ()) :: acts) ending final
  | left : Greeted engine [.received (.error .closed)] (.ok .disconnected) none
  | failed {fault : TransportFault} : fault ≠ .closed →
      (∀ line cause, fault ≠ .malformed line cause) →
      Greeted engine [.received (.error fault)]
        (.error ((Report.ofTransport fault).wrap "awaiting Init")) none

/-! ## Stages -/

/-- Everything that is sent gets through. -/
def Heard (acts : List Act) : Prop :=
  ∀ message outcome, .sent message outcome ∈ acts → outcome = .ok ()

theorem Heard.tail {act : Act} {acts : List Act} (heard : Heard (act :: acts)) : Heard acts :=
  fun message outcome present => heard message outcome (List.mem_cons_of_mem _ present)

theorem Heard.right {first later : List Act} (heard : Heard (first ++ later)) : Heard later :=
  fun message outcome present => heard message outcome (List.mem_append_right _ present)

open Turn (Course)

variable {engine : Engine ε} {session final : Session ε} {acts : List Act}

/-- What has been sent has got through, and its successor is reached. -/
theorem course_sending {binary : Option String} {message : Message} {next : Next ε}
    (heard : Heard acts)
    (course : Course (turn engine) ⟨.sending message next, binary⟩ acts final) :
    ∃ later, acts = .sent message (.ok ()) :: later ∧ Heard later
      ∧ Course (turn engine) ⟨next.sent, binary⟩ later final := by
  obtain ⟨outcome, later, rfl, onward⟩ := course.of_send rfl
  cases heard message outcome List.mem_cons_self
  exact ⟨later, rfl, heard.tail, onward⟩

theorem course_ended {binary : Option String} {ending : Ending} {left : Option ε}
    (course : Course (turn engine) ⟨.ended ending left, binary⟩ acts final) :
    acts = [] ∧ final.phase = .ended ending left := by
  obtain ⟨rfl, rfl⟩ := course.of_ended rfl
  exact ⟨rfl, rfl⟩

theorem course_receiving {binary : Option String} {stage : Stage ε}
    (course : Course (turn engine) ⟨.receiving stage, binary⟩ acts final) :
    ∃ incoming later binary', acts = .received incoming :: later
      ∧ Course (turn engine) ⟨stage.received engine incoming, binary'⟩ later final := by
  obtain ⟨incoming, later, rfl, onward⟩ := course.of_receive rfl
  exact ⟨incoming, later, _, rfl, onward⟩

/-- The work on a command comes to its end, or the session does. -/
theorem exists_carried {kind : CommandKind} {work : Work (Except Report Json × ε)}
    {binary : Option String} (heard : Heard acts)
    (course : Course (turn engine) ⟨proceed kind work, binary⟩ acts final) :
    (∃ first later after binary', acts = first ++ later ∧ Carried work first after
        ∧ Course (turn engine) ⟨.receiving (.idle after), binary'⟩ later final)
      ∨ ∃ result after, Lost work acts result after
        ∧ final.phase = .ended (.error (failure kind result)) (some after) := by
  induction work generalizing acts binary with
  | done finished =>
    obtain ⟨result, after⟩ := finished
    obtain ⟨later, rfl, -, onward⟩ := course_sending heard course
    refine .inl ⟨[_], later, after, binary, rfl, ?_, onward⟩
    cases result with
    | ok value => exact .completed value after
    | error report => exact .failed report after
  | ask request resume ih =>
    obtain ⟨rest, rfl, heard, asking⟩ := course_sending heard course
    obtain ⟨incoming, later, binary', rfl, onward⟩ := course_receiving asking
    rw [Stage.received] at onward
    cases reply : request.reply incoming with
    | ok response =>
      rw [reply] at onward
      obtain ⟨rfl, answers⟩ := Request.reply_eq_ok_iff.mp reply
      rcases ih (.ok response) heard.tail onward with
        ⟨first, behind, after, binary', rfl, carried, idle⟩ | ⟨result, after, lost, ended⟩
      · exact .inl ⟨_ :: _ :: first, behind, after, binary', rfl, .asked answers carried, idle⟩
      · exact .inr ⟨result, after, .asked answers lost, ended⟩
    | error fault =>
      rw [reply] at onward
      obtain ⟨rfl, ended⟩ := course_ended onward
      have none : ∀ response, response.answers request = true →
          incoming ≠ .ok (.eventResponse response) := fun response answers same =>
        nomatch (Request.reply_eq_ok_iff.mpr ⟨same, answers⟩).symm.trans reply
      exact .inr ⟨_, _, .unanswered none reply rfl, ended⟩

theorem commanded_command (attached : ε) {command : Command} (other : command.kind ≠ .shutdown) :
    commanded engine attached (.command command)
      = proceed command.kind (engine.handle attached command) := by
  obtain ⟨kind, arguments⟩ := command
  cases kind with
  | shutdown => exact absurd rfl other
  | eval => rfl
  | print => rfl
  | methods => rfl
  | functions => rfl

/-- What a failure to receive leads to: the end without a word, unless a line was no message. -/
theorem course_missed {awaited : String} {stage : Stage ε} {left : Option ε}
    {fault : TransportFault} {binary : Option String} (heard : Heard acts)
    (course : Course (turn engine) ⟨missed awaited stage left fault, binary⟩ acts final) :
    (fault = .closed ∧ acts = [] ∧ final.phase = .ended (.ok .disconnected) left)
      ∨ (∃ line cause later, fault = .malformed line cause
        ∧ acts = .sent (complaint fault) (.ok ()) :: later ∧ Heard later
        ∧ Course (turn engine) ⟨.receiving stage, binary⟩ later final)
      ∨ fault ≠ .closed ∧ (∀ line cause, fault ≠ .malformed line cause) ∧ acts = []
        ∧ final.phase
          = .ended (.error ((Report.ofTransport fault).wrap ("awaiting " ++ awaited))) left := by
  cases fault with
  | closed =>
    obtain ⟨rfl, ended⟩ := course_ended course
    exact .inl ⟨rfl, rfl, ended⟩
  | malformed line cause =>
    obtain ⟨later, rfl, heard', waiting⟩ := course_sending heard course
    exact .inr (.inl ⟨line, cause, later, rfl, rfl, heard', waiting⟩)
  | io text =>
    obtain ⟨rfl, ended⟩ := course_ended course
    exact .inr (.inr ⟨nofun, nofun, rfl, ended⟩)
  | tooLong limit =>
    obtain ⟨rfl, ended⟩ := course_ended course
    exact .inr (.inr ⟨nofun, nofun, rfl, ended⟩)

/-- What a shutdown leads to, before and after the handshake. -/
theorem course_stop {binary : Option String} {left : Option ε} (heard : Heard acts)
    (course : Course (turn engine) ⟨stop left, binary⟩ acts final) :
    acts = [.sent (.complete .null) (.ok ())] ∧ final.phase = .ended (.ok .shutdown) left := by
  obtain ⟨later, rfl, -, stopped⟩ := course_sending heard course
  obtain ⟨rfl, ended⟩ := course_ended stopped
  exact ⟨rfl, ended⟩

/-- Commands are carried out until the session ends. -/
theorem exists_commanded {attached : ε} {binary : Option String} (heard : Heard acts)
    (course : Course (turn engine) ⟨.receiving (.idle attached), binary⟩ acts final) :
    ∃ ending after, Commanded engine attached acts ending after
      ∧ final.phase = .ended ending (some after) := by
  induction size : acts.length using Nat.strongRecOn generalizing attached binary acts with
  | ind size ih =>
    obtain ⟨incoming, rest, binary', rfl, onward⟩ := course_receiving course
    cases incoming with
    | error fault =>
      rcases course_missed heard.tail onward with ⟨rfl, rfl, ended⟩
        | ⟨line, cause, later, rfl, rfl, heard', waiting⟩ | ⟨open', fatal, rfl, ended⟩
      · exact ⟨_, _, .left attached, ended⟩
      · obtain ⟨ending, after, commanded, ended⟩ :=
          ih later.length (by rw [← size]; simp only [List.length_cons]; omega) heard' waiting rfl
        exact ⟨ending, after, .malformed commanded, ended⟩
      · exact ⟨_, _, .failed attached open' fatal, ended⟩
    | ok message =>
      rw [Stage.received] at onward
      -- Whatever is no command ends the session at once.
      have violated : (∀ command, message ≠ .command command) →
          ∃ ending after, Commanded engine attached (.received (.ok message) :: rest) ending after
            ∧ final.phase = .ended ending (some after) := by
        intro other
        have ended : commanded engine attached message = .ended (.error
            ⟨"protocol violation: unexpected " ++ message.kind ++ " while awaiting a command", []⟩)
            (some attached) := by
          cases message with
          | command command => exact absurd rfl (other command)
          | _ => rfl
        rw [ended] at onward
        obtain ⟨rfl, ended⟩ := course_ended onward
        exact ⟨_, _, .violated attached other, ended⟩
      cases message with
      | command command =>
        by_cases shutdown : command.kind = .shutdown
        · obtain ⟨kind, arguments⟩ := command
          subst shutdown
          obtain ⟨rfl, ended⟩ := course_stop heard.tail onward
          exact ⟨_, _, .stopped attached arguments, ended⟩
        · rw [commanded_command attached shutdown] at onward
          rcases exists_carried heard.tail onward with
            ⟨first, later, after, binary', rfl, carried, waiting⟩ | ⟨result, after, lost, ended⟩
          · obtain ⟨ending, final', commanded, ended⟩ :=
              ih later.length
                (by rw [← size]; simp only [List.length_cons, List.length_append]; omega)
                heard.tail.right waiting rfl
            exact ⟨ending, final', .carried shutdown carried commanded, ended⟩
          · exact ⟨_, after, .lost shutdown lost, ended⟩
      | init path => exact violated (by simp)
      | initAck => exact violated (by simp)
      | event request => exact violated (by simp)
      | eventResponse response => exact violated (by simp)
      | complete result => exact violated (by simp)
      | error text => exact violated (by simp)

/-- A session that has ended has such a transcript. -/
theorem exists_greeted {binary : Option String} (heard : Heard acts)
    (course : Course (turn engine) ⟨.receiving .greeting, binary⟩ acts final) :
    ∃ ending left, Greeted engine acts ending left ∧ final.phase = .ended ending left := by
  induction size : acts.length using Nat.strongRecOn generalizing binary acts with
  | ind size ih =>
    obtain ⟨incoming, rest, binary', rfl, onward⟩ := course_receiving course
    cases incoming with
    | error fault =>
      rcases course_missed heard.tail onward with ⟨rfl, rfl, ended⟩
        | ⟨line, cause, later, rfl, rfl, heard', waiting⟩ | ⟨open', fatal, rfl, ended⟩
      · exact ⟨_, _, .left, ended⟩
      · obtain ⟨ending, left, greeted, ended⟩ :=
          ih later.length (by rw [← size]; simp only [List.length_cons]; omega) heard' waiting rfl
        exact ⟨ending, left, .malformed greeted, ended⟩
      · exact ⟨_, _, .failed open' fatal, ended⟩
    | ok message =>
      rw [Stage.received] at onward
      -- Whatever neither names a binary nor asks to stop is answered by an error, and that is all.
      have violated : (∀ path, message ≠ .init path) →
          (∀ arguments, message ≠ .command ⟨.shutdown, arguments⟩) →
          ∃ ending left, Greeted engine (.received (.ok message) :: rest) ending left
            ∧ final.phase = .ended ending left := by
        intro other running
        have answered : greeted engine message
            = .sending (.error ("protocol violation: expected Init, got " ++ message.kind))
              (.finish (.error ⟨"protocol violation: expected Init, got " ++ message.kind, []⟩)
                none) := by
          cases message with
          | init path => exact absurd rfl (other path)
          | command command =>
            obtain ⟨kind, arguments⟩ := command
            cases kind with
            | shutdown => exact absurd rfl (running arguments)
            | _ => rfl
          | _ => rfl
        rw [answered] at onward
        obtain ⟨later, rfl, -, finished⟩ := course_sending heard.tail onward
        obtain ⟨rfl, ended⟩ := course_ended finished
        exact ⟨_, _, .violated other running, ended⟩
      cases message with
      | init path =>
        rw [greeted, bindBinary] at onward
        cases attached : engine.attach path with
        | ok state =>
          rw [attached] at onward
          obtain ⟨later, rfl, heard', waiting⟩ := course_sending heard.tail onward
          obtain ⟨ending, after, commanded, ended⟩ := exists_commanded heard' waiting
          exact ⟨ending, some after, .accepted attached commanded, ended⟩
        | error report =>
          rw [attached] at onward
          obtain ⟨later, rfl, -, finished⟩ := course_sending heard.tail onward
          obtain ⟨rfl, ended⟩ := course_ended finished
          exact ⟨_, none, .rejected attached, ended⟩
      | command command =>
        by_cases shutdown : command.kind = .shutdown
        · obtain ⟨kind, arguments⟩ := command
          subst shutdown
          obtain ⟨rfl, ended⟩ := course_stop heard.tail onward
          exact ⟨_, none, .stopped arguments, ended⟩
        · refine violated (by simp) fun arguments same => shutdown ?_
          cases same
          rfl
      | initAck => exact violated (by simp) (by simp)
      | event request => exact violated (by simp) (by simp)
      | eventResponse response => exact violated (by simp) (by simp)
      | complete result => exact violated (by simp) (by simp)
      | error text => exact violated (by simp) (by simp)

/-! ## Runs -/

/-- How many turns are left, at most, when these octets can still come in. -/
def turnsLeft (session : Session ε) (octets : List UInt8) : Nat :=
  match session.phase with
  | .receiving _ => 2 * octets.length + 2
  | .sending .. => 2 * octets.length + 3
  | .ended .. => 0

theorem turnsLeft_le (session : Session ε) (octets : List UInt8) :
    turnsLeft session octets ≤ 2 * octets.length + 3 := by
  unfold turnsLeft
  split <;> omega

theorem turnsLeft_send {message : Message} {next : Except TransportFault Unit → Session ε}
    (sends : turn engine session = .send message next) (outcome : Except TransportFault Unit)
    (octets : List UInt8) : turnsLeft (next outcome) octets < turnsLeft session octets := by
  obtain ⟨phase, binary⟩ := session
  cases phase with
  | receiving stage => cases sends
  | ended ending left => cases sends
  | sending said after =>
    cases sends
    -- What follows the sending of a message is never the sending of another one.
    have follows : (∃ stage, after.after outcome = .receiving stage)
        ∨ ∃ ending left, after.after outcome = .ended ending left := by
      cases outcome with
      | ok _ =>
        cases after with
        | stage awaited => exact .inl ⟨_, rfl⟩
        | finish ending left => exact .inr ⟨_, _, rfl⟩
      | error fault =>
        refine .inr ?_
        match after with
        | .stage .greeting => exact ⟨_, _, rfl⟩
        | .stage (.idle _) => exact ⟨_, _, rfl⟩
        | .stage (.asking _ _ _) => exact ⟨_, _, rfl⟩
        | .finish (.ok _) _ => exact ⟨_, _, rfl⟩
        | .finish (.error _) _ => exact ⟨_, _, rfl⟩
    rcases follows with ⟨stage, same⟩ | ⟨ending, left, same⟩
    · simp only [turnsLeft, same]
      omega
    · simp only [turnsLeft, same]
      omega

/-- The end of the stream ends a session in every stage. -/
theorem received_closed (engine : Engine ε) (stage : Stage ε) :
    ∃ ending left, stage.received engine (.error .closed) = .ended ending left := by
  cases stage with
  | greeting => exact ⟨_, _, rfl⟩
  | idle attached => exact ⟨_, _, rfl⟩
  | asking kind request resume => exact ⟨_, _, rfl⟩

theorem turnsLeft_receive {next : Incoming → Session ε} {incoming : Incoming}
    {octets behind : List UInt8} (receives : turn engine session = .receive next)
    (shortens : incoming = .error .closed ∨ behind.length < octets.length) :
    turnsLeft (next incoming) behind < turnsLeft session octets := by
  obtain ⟨phase, binary⟩ := session
  cases phase with
  | sending message after => cases receives
  | ended ending left => cases receives
  | receiving stage =>
    cases receives
    rcases shortens with rfl | shorter
    · obtain ⟨ending, left, same⟩ := received_closed engine stage
      simp only [turnsLeft, same]
      omega
    · refine Nat.lt_of_le_of_lt (turnsLeft_le _ behind) ?_
      simp only [turnsLeft]
      omega

/-- A session comes to its end. -/
theorem turn_serve (engine : Engine ε) (chunks : List (List UInt8)) :
    turn engine (serve engine (.ofChunks chunks true)).1 = .ended := by
  have coming := Mailbox.coming_ofChunks chunks true
  refine Mailbox.streams.run_ended turnsLeft_send turnsLeft_receive coming ?_
  simp only [turnsLeft, start, Mailbox.bound, coming.2]
  omega

/-- A session with a client that sends any octets, however they are cut, and then no more: it comes
to its end, and what was said and heard until then is a transcript. It uses up the stream message by
message, and tells all that the client has been sent. -/
theorem serve_transcript (engine : Engine ε) (chunks : List (List UInt8)) :
    ∃ acts ending rest,
      Greeted engine acts ending (serve engine (.ofChunks chunks true)).1.engine?
      ∧ (serve engine (.ofChunks chunks true)).1.ending? = some ending
      ∧ Consumes chunks.flatten acts rest
      ∧ (serve engine (.ofChunks chunks true)).2.incoming.octets = rest
      ∧ (serve engine (.ofChunks chunks true)).2.sent = said acts := by
  obtain ⟨acts, course, performs⟩ := Turn.exists_course (turn_serve engine chunks)
  obtain ⟨rest, consumes, after⟩ :=
    Mailbox.streams.consumes (Mailbox.coming_ofChunks chunks true) performs
  obtain ⟨sent, -, outcomes⟩ := Mailbox.sent_of_performs performs
  obtain ⟨ending, left, greeted, last⟩ := exists_greeted outcomes course
  have same : (serve engine (.ofChunks chunks true)).1.engine? = left
      ∧ (serve engine (.ofChunks chunks true)).1.ending? = some ending := by
    simp only [engine?, ending?]
    unfold serve
    rw [last]
    exact ⟨rfl, rfl⟩
  exact ⟨acts, ending, rest, same.1 ▸ greeted, same.2, consumes, after.2, sent⟩

end Server.Session
end DebugBridge
