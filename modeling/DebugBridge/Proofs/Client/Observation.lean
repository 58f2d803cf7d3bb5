import DebugBridge.Client.Manager
import DebugBridge.Proofs.Client.Transcript

/-!
# A network that is watched

Of a manager one would like to know what it does to its network: when it looks for a server, starts
one or connects, what is said and heard on which connection, and when a connection is closed. A
watched network behaves like the one that it watches and keeps a list of all that.

Nothing is assumed of the network. In particular it may give the same connection twice, so the
connections are told apart by numbers, in the order in which they are opened.

Every result says what a course of action comes to on the network itself and on the watched one,
side by side, with what has been done.

Results:
1. `exists_conversation`: a conversation on a connection.
2. `exists_opening`: the opening of a session.
3. `exists_execution`: a command in an open session.
-/

namespace DebugBridge

/-- Something that is done to a network. -/
inductive Effect where
  | probed (reachable : Bool)
  | launched (result : Except String Unit)
  | waited
  /-- The number of the connection, or why there is none. -/
  | connected (result : Except String Nat)
  | acted (number : Nat) (act : Act)
  | closed (number : Nat)

namespace Effect

/-- Whether a server is only looked for, or started. -/
def isLook : Effect → Bool
  | .probed _ => true
  | .launched _ => true
  | .waited => true
  | _ => false

/-- Whether a connection is opened. -/
def isOpening : Effect → Bool
  | .connected (.ok _) => true
  | _ => false

end Effect

/-- How many connections have been opened. -/
def opened (effects : List Effect) : Nat :=
  effects.countP Effect.isOpening

@[simp] theorem opened_append (effects more : List Effect) :
    opened (effects ++ more) = opened effects + opened more :=
  List.countP_append

/-- What is said and heard on a connection. -/
def effectsOn (number : Nat) (acts : List Act) : List Effect :=
  acts.map (.acted number)

/-- A network with what has been done to it. -/
structure Observed (ν : Type) where
  state : ν
  effects : List Effect

namespace Observed

variable {ν κ : Type} (world : Network ν κ)

/-- What there is after more has been done. -/
def after (seen : Observed ν) (effects : List Effect) (state : ν) : Observed ν :=
  ⟨state, seen.effects ++ effects⟩

theorem after_nil (seen : Observed ν) : seen.after [] seen.state = seen := by
  rw [after, List.append_nil]

theorem after_after (seen : Observed ν) (effects more : List Effect) (between state : ν) :
    (seen.after effects between).after more state = seen.after (effects ++ more) state := by
  rw [after, after, after, List.append_assoc]

def probe (seen : Observed ν) : Bool × Observed ν :=
  let (reachable, state) := world.probe seen.state
  (reachable, seen.after [.probed reachable] state)

def launch (seen : Observed ν) : Except String Unit × Observed ν :=
  let (result, state) := world.launch seen.state
  (result, seen.after [.launched result] state)

def connect (seen : Observed ν) : Except String (Nat × κ) × Observed ν :=
  let number := opened seen.effects
  match world.connect seen.state with
  | (.error text, state) => (.error text, seen.after [.connected (.error text)] state)
  | (.ok connection, state) =>
    (.ok (number, connection), seen.after [.connected (.ok number)] state)

def line (connection : Nat × κ) : Line (Observed ν) where
  send message seen :=
    let (outcome, state) := (world.line connection.2).send message seen.state
    (outcome, seen.after [.acted connection.1 (.sent message outcome)] state)
  receive seen :=
    let (incoming, state) := (world.line connection.2).receive seen.state
    (incoming, seen.after [.acted connection.1 (.received incoming)] state)

/-- The network that is watched. -/
def network : Network (Observed ν) (Nat × κ) where
  probe := probe world
  launch := launch world
  wait seen := seen.after [.waited] (world.wait seen.state)
  connect := connect world
  line := line world
  close connection seen := seen.after [.closed connection.1] (world.close connection.2 seen.state)

end Observed

/-! ## Conversations -/

section Conversation

variable {ν κ α : Type} (world : Network ν κ) {turn : α → Turn α}

variable (turn) in
theorem run_observed (connection : Nat × κ) (count : Nat) (party : α) (seen : Observed ν) :
    (Turn.run (Observed.line world connection) turn count party seen).1
        = (Turn.run (world.line connection.2) turn count party seen.state).1
      ∧ (Turn.run (Observed.line world connection) turn count party seen).2.state
        = (Turn.run (world.line connection.2) turn count party seen.state).2 := by
  induction count generalizing party seen with
  | zero => exact ⟨rfl, rfl⟩
  | succ count ih =>
    unfold Turn.run Turn.step?
    cases turn party with
    | send message next => exact ih _ _
    | receive next => exact ih _ _
    | ended => exact ⟨rfl, rfl⟩

theorem effects_of_performs {connection : Nat × κ} {seen final : Observed ν} {acts : List Act}
    (performs : (Observed.line world connection).Performs seen acts final) :
    final.effects = seen.effects ++ effectsOn connection.1 acts := by
  induction performs with
  | nil seen => exact (List.append_nil _).symm
  | sent _ ih => exact ih.trans (List.append_assoc ..)
  | received _ ih => exact ih.trans (List.append_assoc ..)

/-- A conversation that has come to its end. -/
theorem exists_conversation {connection : Nat × κ} {count : Nat} {party : α} {seen : Observed ν}
    (ended : turn (Turn.run (world.line connection.2) turn count party seen.state).1 = .ended) :
    ∃ acts final state, Turn.Course turn party acts final
      ∧ Turn.run (world.line connection.2) turn count party seen.state = (final, state)
      ∧ Turn.run (Observed.line world connection) turn count party seen
        = (final, seen.after (effectsOn connection.1 acts) state) := by
  obtain ⟨sameParty, sameState⟩ := run_observed world turn connection count party seen
  rw [← sameParty] at ended
  obtain ⟨acts, course, performs⟩ := Turn.exists_course ended
  have effects := effects_of_performs world performs
  refine ⟨acts, _, _, course, Prod.ext sameParty.symm sameState.symm, Prod.ext rfl ?_⟩
  rw [Observed.after, ← effects]

end Conversation

/-! ## Sessions -/

namespace Client.Session

variable {ν κ σ : Type} {backend : Backend σ}

variable (backend) in
/-- Two turns open a session that has nothing to do, or refuse to. -/
theorem turn_opened (line : Line ν) (binary : Path) (debugger : σ) (state : ν) :
    turn backend (Turn.run line (turn backend) 2 (start binary debugger []) state).1 = .ended := by
  obtain ⟨outcome, between, sends⟩ : ∃ outcome between,
      line.send (.init binary.text) state = (outcome, between) := ⟨_, _, rfl⟩
  cases outcome with
  | error fault => simp only [Turn.run, Turn.step?, start, turn, sends]
  | ok _ =>
    obtain ⟨incoming, behind, receives⟩ : ∃ incoming behind,
        line.receive between = (incoming, behind) := ⟨_, _, rfl⟩
    rcases opened_acknowledged binary incoming with ⟨idle, -⟩ | ⟨fault, refused, -⟩
    · simp only [Turn.run, Turn.step?, start, turn, sends, receives, idle]
    · simp only [Turn.run, Turn.step?, start, turn, sends, receives, refused]

/-- The states of a session in which one command is carried out. -/
inductive Single (command : Command) : Session σ → Prop
  | ready (binary : Path) (debugger : σ) : Single command (resume binary debugger [command])
  | awaiting (binary : Path) (debugger : σ) :
      Single command ⟨binary, .awaiting, debugger, [], []⟩
  | answering (binary : Path) (response : Response) (debugger : σ) :
      Single command ⟨binary, .answering response, debugger, [], []⟩
  | settled (binary : Path) (attempt : Attempt) (debugger : σ) :
      Single command
        ⟨binary, if attempt.isOk then .idle else .broken, debugger, [], [(attempt, debugger)]⟩

/-- Everything but an event settles the command. -/
theorem Single.settle {command : Command} (binary : Path) (attempt : Attempt) (debugger : σ) :
    Single command (settle attempt ⟨binary, .awaiting, debugger, [], []⟩) :=
  .settled binary attempt debugger

theorem Single.received {command : Command} (binary : Path) (debugger : σ) (incoming : Incoming) :
    Single command (received backend ⟨binary, .awaiting, debugger, [], []⟩ incoming) := by
  cases incoming with
  | error fault => exact .settled binary _ debugger
  | ok message =>
    cases message with
    | event request => exact .answering binary _ _
    | complete result => exact .settled binary _ debugger
    | error error => exact .settled binary _ debugger
    | init binary' => exact .settled binary _ debugger
    | initAck => exact .settled binary _ debugger
    | command given => exact .settled binary _ debugger
    | eventResponse response => exact .settled binary _ debugger

theorem Single.run {line : Line ν} {command : Command} {session : Session σ}
    (single : Single command session) (count : Nat) (state : ν) :
    Single command (Turn.run line (turn backend) count session state).1 := by
  induction count generalizing session state with
  | zero => exact single
  | succ count ih =>
    unfold Turn.run Turn.step?
    cases single with
    | ready binary debugger =>
      refine ih ?_ _
      cases (line.send (.command command) state).1 with
      | ok _ => exact .awaiting binary debugger
      | error fault => exact .settled binary _ debugger
    | awaiting binary debugger => exact ih (.received binary debugger _) _
    | answering binary response debugger =>
      refine ih ?_ _
      cases (line.send (.eventResponse response) state).1 with
      | ok _ => exact .awaiting binary debugger
      | error fault => exact .settled binary _ debugger
    | settled binary attempt debugger =>
      cases attempt with
      | ok outcome => exact .settled binary (.ok outcome) debugger
      | error fault => exact .settled binary (.error fault) debugger

variable (backend) in
/-- Once there is something to tell of a single command, the session has ended. -/
theorem Single.turn_eq {command : Command} {session : Session σ} (single : Single command session)
    (told : session.attempts ≠ []) : turn backend session = .ended ∧ session.remaining = [] := by
  cases single with
  | ready binary debugger => exact absurd rfl told
  | awaiting binary debugger => exact absurd rfl told
  | answering binary response debugger => exact absurd rfl told
  | settled binary attempt debugger => cases attempt <;> exact ⟨rfl, rfl⟩

theorem Worked.of_nil {before final : σ} {acts : List Act} {results : List (Attempt × σ)}
    {usable : Bool} (worked : Worked backend before [] acts results final usable) : acts = [] := by
  cases worked with
  | done _ => rfl

theorem Worked.of_single {before final : σ} {command : Command} {acts : List Act}
    {results : List (Attempt × σ)} {usable : Bool}
    (worked : Worked backend before [command] acts results final usable) :
    ∃ attempt after, Executed backend command before acts attempt after
      ∧ results = [(attempt, after)] := by
  cases worked with
  | next executed worked =>
    cases worked with
    | done _ =>
      rw [List.append_nil]
      exact ⟨_, _, executed, rfl⟩
  | broken executed => exact ⟨_, _, executed, rfl⟩

/-- The opening of a session, and that the connection is closed when it fails. -/
theorem exists_opening (world : Network ν κ) (connection : Nat × κ) (binary : Path)
    (seen : Observed ν) :
    ∃ acts result state, Opened binary acts result
      ∧ world.openSession connection.2 binary seen.state = (result, state)
      ∧ (Observed.network world).openSession connection binary seen
        = (result, seen.after (effectsOn connection.1 acts
          ++ if result.isOk then [] else [.closed connection.1]) state) := by
  obtain ⟨acts, final, state, course, plain, observed⟩ :=
    exists_conversation world (turn_opened .absent (world.line connection.2) binary () seen.state)
  have observed : Turn.run ((Observed.network world).line connection)
      (turn .absent) 2 (start binary () []) seen = _ := observed
  cases transcript_of_course course with
  | refused opened =>
    refine ⟨acts, _, world.close connection.2 state, opened, ?_, ?_⟩
    · simp only [Network.openSession, plain, refusal?]
    · simp only [Network.openSession, observed, refusal?]
      exact congrArg (Prod.mk _) (Observed.after_after ..)
  | opened opened accepted worked =>
    obtain rfl := worked.of_nil
    rw [List.append_nil] at observed
    refine ⟨_, .ok (), state, opened, ?_, ?_⟩
    · simp only [Network.openSession, plain, accepted]
    · simp only [Network.openSession, observed, accepted, Except.isOk, Except.toBool, if_true,
        List.append_nil]

/-- A command in an open session, if it comes to an end. -/
theorem exists_execution (world : Network ν κ) (connection : Nat × κ) (binary : Path)
    (command : Command) (debugger : σ) (count : Nat) (seen : Observed ν)
    (told : (Turn.run (world.line connection.2) (turn backend) count
      (resume binary debugger [command]) seen.state).1.attempts ≠ []) :
    ∃ acts final attempt after state, Executed backend command debugger acts attempt after
      ∧ final.attempts = [(attempt, after)]
      ∧ Turn.run (world.line connection.2) (turn backend) count (resume binary debugger [command])
          seen.state = (final, state)
      ∧ Turn.run (Observed.line world connection) (turn backend) count
          (resume binary debugger [command]) seen
        = (final, seen.after (effectsOn connection.1 acts) state) := by
  have single : Single command (Turn.run (world.line connection.2) (turn backend) count
      (resume binary debugger [command]) seen.state).1 :=
    Single.run (.ready binary debugger) count _
  obtain ⟨ended, nothing⟩ := single.turn_eq backend told
  obtain ⟨acts, final, state, course, plain, observed⟩ := exists_conversation world ended
  rw [plain] at nothing
  obtain ⟨results, same, -, worked⟩ := exists_worked rfl course
  obtain ⟨attempt, after, executed, rfl⟩ := worked.of_single
  refine ⟨acts, final, attempt, after, state, executed, ?_, plain, observed⟩
  rw [Session.results, nothing] at same
  exact (List.append_nil _).symm.trans same

end Client.Session
end DebugBridge
