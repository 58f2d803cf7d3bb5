import DebugBridge.Proofs.Client.Observation
import DebugBridge.Proofs.Conversation.Settling

/-!
# One command on a connection

A client opens a session on a connection and has commands carried out in it, one at a time. While
one is carried out the two sides stand to each other in one of a few ways (`Errand`). When it is
done, the connection is as it was after the opening (`Link.ready`): the server remembers nothing of
it. When it breaks the session, the server has not been asked to stop.

Results:
1. `opening_cases`: how a session is opened, and in which two states that leaves the connection.
2. `Errand.step`, `Errand.run`: one turn of the client, and all of them. The command is done after
   six.
-/

namespace DebugBridge

open Client.Session (resume start)
open Server (Stage)

/-! ## The work on a command -/

/-- Work that asks at most so many times, gives a result that can be sent, and leaves the probe as
it was. -/
def Work.Serves (binary : String) (count : Nat) (work : Work (Except Report Json × Probe)) : Prop :=
  work.Bounded (fun outcome => outcome.2 = ⟨binary⟩
    ∧ ∀ value, outcome.1 = .ok value → Probe.Reportable value) count

theorem Probe.serves_handle (isFile : String → Bool) (binary : String) (command : Command) :
    Work.Serves binary 2 ((Probe.engine isFile).handle ⟨binary⟩ command) := by
  show Work.Bounded _ (2 + 0) ((Probe.handle ⟨binary⟩ command).run.bind _)
  refine Work.bounded_bind (Probe.bounded_handle ⟨binary⟩ command) fun result reportable => ?_
  exact Work.bounded_done_iff.mpr ⟨rfl, reportable⟩

namespace Link

variable {σ : Type} {backend : Backend σ} {isFile : String → Bool} {binary : Path} {left : Nat}
  {session : Client.Session σ} {link : Link}

/-- A connection on which a session has been opened and nothing is under way. -/
def ready (binary : Path) : Link :=
  ⟨⟨.receiving (.idle ⟨binary.text⟩), some binary.text⟩, .fresh⟩

/-! ## Opening a session -/

/-- A client that opens a session on a new connection, and the connection then. -/
def opening (isFile : String → Bool) (binary : Path) : Client.Session Unit × Link :=
  Turn.run (line (Probe.engine isFile)) (Client.Session.turn .absent) 2 (start binary () []) fresh

/-- The client hears that it is refused. -/
theorem refusal?_acknowledged {incoming : Incoming} (other : incoming ≠ .ok .initAck) :
    ∃ fault, Client.Session.acknowledged incoming = .refused fault := by
  cases incoming with
  | error fault => exact ⟨_, rfl⟩
  | ok message =>
    cases message with
    | initAck => exact absurd rfl other
    | _ => exact ⟨_, rfl⟩

/-- Two turns: the binary is named, and the answer comes in. -/
theorem opening_eq {between after : Link} {incoming : Incoming}
    (sent : send (Probe.engine isFile) (.init binary.text) fresh = (.ok (), between))
    (received : receive (Probe.engine isFile) between = (incoming, after)) :
    opening isFile binary
      = (⟨binary, Client.Session.acknowledged incoming, (), [], []⟩, after) := by
  have sent' : (line (Probe.engine isFile)).send (.init binary.text) fresh
      = (.ok (), between) := sent
  have received' : (line (Probe.engine isFile)).receive between = (incoming, after) := received
  simp only [opening, Turn.run, Turn.step?, start, Client.Session.turn, sent', received']

/-- A session is opened, or refused by a server that has not been asked to stop. -/
theorem opening_cases (isFile : String → Bool) (binary : Path) :
    ((opening isFile binary).1.refusal? = none ∧ (opening isFile binary).2 = ready binary)
      ∨ ∃ fault, (opening isFile binary).1.refusal? = some fault
        ∧ (opening isFile binary).2.Calm := by
  have noResult : ∀ result, Message.init binary.text ≠ .complete result :=
    fun _ same => Message.noConfusion same
  have unlike : ∀ {fault}, (.error fault : Incoming) ≠ .ok .initAck := by
    intro fault same
    cases same
  have refuses : ∀ {between after : Link} {incoming : Incoming},
      send (Probe.engine isFile) (.init binary.text) fresh = (.ok (), between) →
      receive (Probe.engine isFile) between = (incoming, after) →
      incoming ≠ .ok .initAck → after.Calm →
      ∃ fault, (opening isFile binary).1.refusal? = some fault
        ∧ (opening isFile binary).2.Calm := by
    intro between after incoming sent received other calm
    obtain ⟨fault, refused⟩ := refusal?_acknowledged other
    rw [opening_eq sent received, refused]
    exact ⟨fault, rfl, calm⟩
  by_cases exists' : isFile binary.text = true
  · have accepts : (Stage.greeting).received (Probe.engine isFile) (.ok (.init binary.text))
        = .sending .initAck (.stage (.idle ⟨binary.text⟩)) := by
      show Server.bindBinary (Probe.engine isFile) binary.text = _
      simp only [Server.bindBinary, Probe.engine, exists', if_true]
    obtain ⟨between, sent, lost | rfl⟩ :=
      exists_told (Bridge.sayable_of_noResult noResult) accepts none
    · exact .inr (refuses sent (lost.receive _) unlike lost.calm)
    · have noResult' : ∀ result, Message.initAck ≠ .complete result :=
        fun _ same => Message.noConfusion same
      rcases receive_carrying (Bridge.sayable_of_noResult noResult') (Probe.engine isFile)
        (.idle ⟨binary.text⟩) (some binary.text) with heard | ⟨after, missed, calm⟩
      · refine .inl ?_
        rw [opening_eq sent heard]
        exact ⟨rfl, rfl⟩
      · exact .inr (refuses sent missed unlike calm)
  · have rejects : ∃ text, (Stage.greeting).received (Probe.engine isFile) (.ok (.init binary.text))
        = .sending (.error text) (.finish (.ok .rejected) none) := by
      refine ⟨Report.text ⟨"binary not found: " ++ binary.text, []⟩, ?_⟩
      show Server.bindBinary (Probe.engine isFile) binary.text = _
      simp only [Server.bindBinary, Probe.engine, exists', Bool.false_eq_true, if_false]
    obtain ⟨text, rejects⟩ := rejects
    have noResult' : ∀ result, Message.error text ≠ .complete result :=
      fun _ same => Message.noConfusion same
    obtain ⟨between, sent, lost | rfl⟩ :=
      exists_told_last (Bridge.sayable_of_noResult noResult) rejects none
    · exact .inr (refuses sent (lost.receive _) unlike lost.calm)
    · have other : (.ok .rejected : Server.Ending) ≠ .ok .shutdown := by
        intro same
        cases same
      obtain ⟨incoming, after, received, either, calm⟩ :=
        receive_last (Bridge.sayable_of_noResult noResult') (Probe.engine isFile) other none
          (some binary.text)
      have surprise : incoming ≠ .ok .initAck := by
        intro same
        rcases either with rfl | rfl <;> cases same
      exact .inr (refuses sent received surprise calm)

/-! ## A command -/

/-- How a client that has one command carried out, and its connection, stand to each other. The
number bounds the turns that the client has left. -/
inductive Errand (binary : Path) : Nat → Client.Session σ → Link → Prop
  | idle (debugger : σ) {command : Command} : command.kind ≠ .shutdown →
      Errand binary 6 (resume binary debugger [command]) (ready binary)
  | asked (debugger : σ) (kind : CommandKind) (request : Request)
      {resume : Reply → Work (Except Report Json × Probe)} {count : Nat} :
      (∀ reply, (resume reply).Serves binary.text count) →
      Errand binary (2 * count + 3) ⟨binary, .awaiting, debugger, [], []⟩
        ⟨⟨.receiving (.asking kind request resume), some binary.text⟩,
          .carrying .right (.event request)⟩
  | answering (debugger : σ) (kind : CommandKind) {request : Request} {response : Response}
      {resume : Reply → Work (Except Report Json × Probe)} {count : Nat} :
      response.answers request = true → (∀ reply, (resume reply).Serves binary.text count) →
      Errand binary (2 * count + 2) ⟨binary, .answering response, debugger, [], []⟩
        ⟨⟨.receiving (.asking kind request resume), some binary.text⟩, .fresh⟩
  | concluded (debugger : σ) {result : Except Report Json} :
      (∀ value, result = .ok value → Probe.Reportable value) →
      Errand binary 1 ⟨binary, .awaiting, debugger, [], []⟩
        ⟨⟨.receiving (.idle ⟨binary.text⟩), some binary.text⟩,
          .carrying .right (Server.conclusion result)⟩
  | lost (debugger : σ) {link : Link} : link.Lost →
      Errand binary 1 ⟨binary, .awaiting, debugger, [], []⟩ link
  | settled (outcome : Outcome) (debugger : σ) :
      Errand binary 0 ⟨binary, .idle, debugger, [], [(.ok outcome, debugger)]⟩ (ready binary)
  | broken (fault : SessionFault) (debugger : σ) {link : Link} : link.Calm →
      Errand binary 0 ⟨binary, .broken, debugger, [], [(.error fault, debugger)]⟩ link

/-- At no time has the server been asked to stop. -/
theorem Errand.stopped (errand : Errand binary left session link) : link.stopped = false := by
  cases errand with
  | idle debugger running => rfl
  | asked debugger kind request further => rfl
  | answering debugger kind answers further => rfl
  | concluded debugger reportable => rfl
  | lost debugger lost => exact lost.calm.stopped
  | settled outcome debugger => rfl
  | broken fault debugger calm => exact calm.stopped

/-- What has come of the command so far. Once it is done the connection is as before. -/
theorem Errand.attempts_cases (errand : Errand binary left session link) :
    (session.attempts = [] ∧ left ≠ 0)
      ∨ (∃ outcome debugger, session.attempts = [(.ok outcome, debugger)] ∧ link = ready binary)
      ∨ ∃ fault debugger, session.attempts = [(.error fault, debugger)] ∧ link.Calm := by
  cases errand with
  | idle debugger running => exact .inl ⟨rfl, by decide⟩
  | asked debugger kind request further => exact .inl ⟨rfl, Nat.succ_ne_zero _⟩
  | answering debugger kind answers further => exact .inl ⟨rfl, Nat.succ_ne_zero _⟩
  | concluded debugger reportable => exact .inl ⟨rfl, Nat.one_ne_zero⟩
  | lost debugger lost => exact .inl ⟨rfl, Nat.one_ne_zero⟩
  | settled outcome debugger => exact .inr (.inl ⟨outcome, debugger, rfl, rfl⟩)
  | broken fault debugger calm => exact .inr (.inr ⟨fault, debugger, rfl, calm⟩)

/-- Whatever the work on a command comes to next, the server says something about it. -/
theorem exists_proceed (kind : CommandKind) {work : Work (Except Report Json × Probe)} {count : Nat}
    (serves : work.Serves binary.text count) (debugger : σ) :
    ∃ reply stage less, Server.proceed kind work = .sending reply (.stage stage)
      ∧ less ≤ 2 * count + 1
      ∧ Errand binary less ⟨binary, .awaiting, debugger, [], []⟩
        ⟨⟨.receiving stage, some binary.text⟩, .carrying .right reply⟩ := by
  cases work with
  | done outcome =>
    obtain ⟨result, probe⟩ := outcome
    obtain ⟨same, reportable⟩ := Work.bounded_done_iff.mp serves
    cases same
    exact ⟨_, _, 1, rfl, Nat.le_add_left 1 _, .concluded debugger reportable⟩
  | ask request resume =>
    obtain ⟨less, rfl, further⟩ := serves.of_ask
    exact ⟨_, _, _, rfl, Nat.le_refl _, .asked debugger kind request further⟩

/-! ## The client's turns -/

/-- The client says what leads to more work on the command. -/
theorem exists_said {message : Message} {stage : Stage Probe} {count : Nat}
    (noResult : ∀ result, message ≠ .complete result) (kind : CommandKind)
    {work : Work (Except Report Json × Probe)} (serves : work.Serves binary.text count)
    (received : stage.received (Probe.engine isFile) (.ok message) = Server.proceed kind work)
    (debugger : σ) :
    ∃ less link, less ≤ 2 * count + 1
      ∧ send (Probe.engine isFile) message ⟨⟨.receiving stage, some binary.text⟩, .fresh⟩
        = (.ok (), link)
      ∧ Errand binary less ⟨binary, .awaiting, debugger, [], []⟩ link := by
  obtain ⟨reply, later, less, proceeds, few, errand⟩ := exists_proceed kind serves debugger
  obtain ⟨link, sent, lost | rfl⟩ := exists_told (Bridge.sayable_of_noResult noResult)
    (received.trans proceeds) (some binary.text)
  · exact ⟨1, link, Nat.le_add_left 1 _, sent, .lost debugger lost⟩
  · exact ⟨less, _, few, sent, errand⟩

/-- A client makes an answer of every event. -/
theorem exists_answered (backend : Backend σ) (binary : Path) (request : Request) (debugger : σ) :
    ∃ response after, response.answers request = true
      ∧ Client.Session.received backend ⟨binary, .awaiting, debugger, [], []⟩ (.ok (.event request))
        = ⟨binary, .answering response, after, [], []⟩ :=
  ⟨_, _, dispatch_answers backend request debugger, rfl⟩

/-- A client that waits hears something. -/
theorem step?_awaiting {incoming : Incoming} {after : Link} (awaiting : session.phase = .awaiting)
    (received : receive (Probe.engine isFile) link = (incoming, after)) :
    Turn.step? (line (Probe.engine isFile)) (Client.Session.turn backend) session link
      = some (session.received backend incoming, after) :=
  Turn.step?_receive (Bridge.turn_awaiting awaiting) received

variable (backend isFile) in
/-- One turn of the client, if it has one left. -/
theorem Errand.step (errand : Errand binary left session link) :
    left = 0 ∧ Turn.step? (line (Probe.engine isFile)) (Client.Session.turn backend) session link
        = none
      ∨ ∃ less after link', less < left
        ∧ Turn.step? (line (Probe.engine isFile)) (Client.Session.turn backend) session link
          = some (after, link')
        ∧ Errand binary less after link' := by
  cases errand with
  | @idle debugger command running =>
    have received : (Stage.idle ⟨binary.text⟩).received (Probe.engine isFile)
          (.ok (.command command))
        = Server.proceed command.kind ((Probe.engine isFile).handle ⟨binary.text⟩ command) :=
      Server.Session.commanded_command (Probe.mk binary.text) running
    have noResult : ∀ result, Message.command command ≠ .complete result := nofun
    obtain ⟨less, link', few, sent, errand⟩ := exists_said noResult command.kind
      (Probe.serves_handle isFile binary.text command) received debugger
    exact .inr ⟨less, _, link', Nat.lt_succ_of_le few, Turn.step?_send rfl sent, errand⟩
  | @asked debugger kind request resume count further =>
    have sayable : Bridge.Sayable (.event request) := Bridge.sayable_of_noResult nofun
    rcases receive_carrying sayable (Probe.engine isFile) (.asking kind request resume)
      (some binary.text) with heard | ⟨link', missed, calm⟩
    · obtain ⟨response, after, answers, answered⟩ :=
        exists_answered backend binary request debugger
      refine .inr ⟨2 * count + 2, _, _, Nat.lt_succ_self _, step?_awaiting rfl heard, ?_⟩
      rw [answered]
      exact .answering after kind answers further
    · exact .inr ⟨0, _, link', Nat.succ_pos _, step?_awaiting rfl missed,
        .broken _ debugger calm⟩
  | @answering debugger kind request response resume count answers further =>
    have noResult : ∀ result, Message.eventResponse response ≠ .complete result := nofun
    have received : (Stage.asking kind request resume).received (Probe.engine isFile)
        (.ok (.eventResponse response)) = Server.proceed kind (resume (.ok response)) := by
      show Server.replied kind resume (request.reply (.ok (.eventResponse response))) = _
      rw [Request.reply, if_pos answers]
      rfl
    obtain ⟨less, link', few, sent, errand⟩ :=
      exists_said noResult kind (further (.ok response)) received debugger
    exact .inr ⟨less, _, link', Nat.lt_succ_of_le few, Turn.step?_send rfl sent, errand⟩
  | @concluded debugger result reportable =>
    rcases receive_carrying (Bridge.sayable_conclusion reportable) (Probe.engine isFile)
      (.idle ⟨binary.text⟩) (some binary.text) with heard | ⟨link', missed, calm⟩
    · refine .inr ⟨0, _, _, Nat.one_pos, step?_awaiting rfl heard, ?_⟩
      rw [Bridge.received_conclusion]
      exact .settled _ debugger
    · exact .inr ⟨0, _, link', Nat.one_pos, step?_awaiting rfl missed,
        .broken _ debugger calm⟩
  | lost debugger lost =>
    exact .inr ⟨0, _, link, Nat.one_pos, step?_awaiting rfl (lost.receive _),
      .broken _ debugger lost.calm⟩
  | settled outcome debugger => exact .inl ⟨rfl, rfl⟩
  | broken fault debugger calm => exact .inl ⟨rfl, rfl⟩

variable (backend isFile) in
/-- All turns of the client. -/
theorem Errand.run (errand : Errand binary left session link) (count : Nat) :
    ∃ less after link', less ≤ left - count
      ∧ Turn.run (line (Probe.engine isFile)) (Client.Session.turn backend) count session link
        = (after, link')
      ∧ Errand binary less after link' := by
  induction count generalizing left session link with
  | zero => exact ⟨left, session, link, Nat.le_refl left, rfl, errand⟩
  | succ count ih =>
    unfold Turn.run
    rcases errand.step backend isFile with
      ⟨rfl, unmoved⟩ | ⟨less, after, link', few, moves, onward⟩
    · rw [unmoved]
      exact ⟨0, session, link, Nat.zero_le _, rfl, errand⟩
    · rw [moves]
      obtain ⟨least, final, last, fewer, runs, errand⟩ := ih onward
      exact ⟨least, final, last, by omega, runs, errand⟩

end Link
end DebugBridge
