import DebugBridge.Proofs.Conversation.Chronicle
import DebugBridge.Proofs.Conversation.Transparency
import DebugBridge.Proofs.Debugger.Answers
import DebugBridge.Proofs.Server.Transcript

/-!
# Where a client and a server stand

A client and a server talk in turns. In each quarter of an exchange one thing can happen:

* `Tells`: the client is about to say something, and the server waits.
* `Told`: that is under way.
* `Speaks`: the server is about to say something, and the client waits.
* `Spoken`: that is under way, and the server waits for what follows.

Once the server has ended (`Parting`), the client may find out early or late, and either side can be
faster. Which of these it is, and what has happened since the server's last event, is a
`Situation`. Every deed of either side leads from one situation to another, whatever the engine.

Results:
1. `Situation.left`, `Situation.right`: one step of the client, and one of the server.
2. `situation_of_run`: there is a situation after every step of a run.
3. `Situation.few`, `Situation.gone`: how much can be under way, and where the two come to a halt.
-/

namespace DebugBridge.Bridge

variable {σ ε : Type}

/-! ## What is known of a history -/

/-- The event that the server has sent last, if it has sent nothing since, and what has been done
since: how one more deed changes it. -/
def since (past : Option (Request × History)) : Side × Deed → Option (Request × History)
  | (.right, .act (.sent (.event request) (.ok ()))) => some (request, [])
  | (.right, .act (.sent _ _)) => none
  | entry => past.map fun (request, during) => (request, during ++ [entry])

def sinceEvent? (history : History) : Option (Request × History) :=
  history.foldl since none

/-- The commands that have been sent and not answered: how one more deed changes them. A result or
an error answers the one that has been waiting for longest. -/
def owing (commands : List Command) : Side × Deed → List Command
  | (.left, .act (.sent (.command command) (.ok ()))) => commands ++ [command]
  | (.left, .act (.received (.ok (.complete _)))) => commands.tail
  | (.left, .act (.received (.ok (.error _)))) => commands.tail
  | _ => commands

def outstanding (history : History) : List Command :=
  history.foldl owing []

/-- What is done about an event: the client receives it and sends a response, and the server
receives that. -/
def service (request : Request) (response : Response) : History :=
  [(.left, .act (.received (.ok (.event request)))),
    (.left, .act (.sent (.eventResponse response) (.ok ()))),
    (.right, .act (.received (.ok (.eventResponse response))))]

/-- The server's last event has been answered, if it has sent nothing since. -/
def Answered (past : Option (Request × History)) : Prop :=
  ∀ request during, past = some (request, during) →
    ∃ response, response.answers request = true ∧ during = service request response

/-- What matters of a history: the messages that are under way from either side, the last event, and
the commands without an answer. -/
structure Standing (history : History) (left right : List Message)
    (past : Option (Request × History)) (owed : List Command) : Prop where
  left : history.underWay .left = left
  right : history.underWay .right = right
  past : sinceEvent? history = past
  owed : outstanding history = owed

section Standing

variable {history : History} {left right : List Message} {past : Option (Request × History)}
  {owed : List Command}

theorem sinceEvent?_snoc (history : History) (entry : Side × Deed) :
    sinceEvent? (history ++ [entry]) = since (sinceEvent? history) entry := by
  rw [sinceEvent?, List.foldl_append]
  rfl

theorem outstanding_snoc (history : History) (entry : Side × Deed) :
    outstanding (history ++ [entry]) = owing (outstanding history) entry := by
  rw [outstanding, List.foldl_append]
  rfl

theorem since_of_silent {request : Request} {during : History} {entry : Side × Deed}
    (silent : ∀ message outcome, entry ≠ (.right, .act (.sent message outcome))) :
    since (some (request, during)) entry = some (request, during ++ [entry]) := by
  unfold since
  split
  · exact absurd rfl (silent _ _)
  · exact absurd rfl (silent _ _)
  · rfl

/-- All that has been done since an event, as long as the server has sent nothing. -/
theorem sinceEvent?_append {request : Request} {before during : History}
    (silent : ∀ message outcome, (.right, .act (.sent message outcome)) ∉ during) :
    sinceEvent? (before ++ (.right, .act (.sent (.event request) (.ok ()))) :: during)
      = some (request, during) := by
  have onward : ∀ done : History, during.foldl since (some (request, done))
      = some (request, done ++ during) := by
    induction during with
    | nil => simp
    | cons entry during ih =>
      intro done
      rw [List.foldl_cons, since_of_silent fun message outcome same =>
        silent message outcome (same ▸ List.mem_cons_self),
        ih fun message outcome present => silent message outcome (List.mem_cons_of_mem _ present)]
      simp
  rw [sinceEvent?, List.foldl_append]
  exact onward []

/-- What the client says is under way from then on. -/
theorem Standing.says_left (standing : Standing history [] right past owed)
    (ordered : history.Ordered) (message : Message) :
    Standing (history ++ [(.left, .act (.sent message (.ok ())))]) [message] right
      (since past (.left, .act (.sent message (.ok ()))))
      (owing owed (.left, .act (.sent message (.ok ())))) where
  left := by
    rw [History.underWay_act_self ordered, standing.left]
    rfl
  right := History.underWay_act_other .left standing.right
  past := by rw [sinceEvent?_snoc, standing.past]
  owed := by rw [outstanding_snoc, standing.owed]

theorem Standing.says_right (standing : Standing history left [] past owed)
    (ordered : history.Ordered) (message : Message) :
    Standing (history ++ [(.right, .act (.sent message (.ok ())))]) left [message]
      (since past (.right, .act (.sent message (.ok ())))) owed where
  left := History.underWay_act_other .right standing.left
  right := by
    rw [History.underWay_act_self ordered, standing.right]
    rfl
  past := by rw [sinceEvent?_snoc, standing.past]
  owed := by
    rw [outstanding_snoc, standing.owed]
    rfl

/-- What the client hears is under way no more. -/
theorem Standing.hears_left {message : Message}
    (standing : Standing history left [message] past owed) (ordered : history.Ordered) :
    Standing (history ++ [(.left, .act (.received (.ok message)))]) left []
      (since past (.left, .act (.received (.ok message))))
      (owing owed (.left, .act (.received (.ok message)))) where
  left := by
    rw [History.underWay_act_self ordered, standing.left]
    exact List.append_nil left
  right := History.underWay_act_other .left standing.right
  past := by rw [sinceEvent?_snoc, standing.past]
  owed := by rw [outstanding_snoc, standing.owed]

theorem Standing.hears_right {message : Message}
    (standing : Standing history [message] right past owed) (ordered : history.Ordered) :
    Standing (history ++ [(.right, .act (.received (.ok message)))]) [] right
      (since past (.right, .act (.received (.ok message)))) owed where
  left := History.underWay_act_other .right standing.left
  right := by
    rw [History.underWay_act_self ordered, standing.right]
    exact List.append_nil right
  past := by rw [sinceEvent?_snoc, standing.past]
  owed := by
    rw [outstanding_snoc, standing.owed]
    rfl

/-- When it fails, a party says and hears nothing. -/
theorem Standing.fails (standing : Standing history left right past owed)
    (ordered : history.Ordered) {act : Act} (silent : said [act] = []) (deaf : heard [act] = [])
    (doer : Side) :
    Standing (history ++ [(doer, .act act)]) left right (since past (doer, .act act))
      (owing owed (doer, .act act)) where
  left := (History.underWay_silent ordered silent deaf doer _).trans standing.left
  right := (History.underWay_silent ordered silent deaf doer _).trans standing.right
  past := by rw [sinceEvent?_snoc, standing.past]
  owed := by rw [outstanding_snoc, standing.owed]

theorem Standing.dropped (standing : Standing history left right past owed) (doer : Side) :
    Standing (history ++ [(doer, .dropped)]) left right (since past (doer, .dropped)) owed where
  left := by rw [History.underWay_dropped, standing.left]
  right := by rw [History.underWay_dropped, standing.right]
  past := by rw [sinceEvent?_snoc, standing.past]
  owed := by
    rw [outstanding_snoc, standing.owed]
    cases doer <;> rfl

end Standing

/-! ## Situations -/

open Client (Phase)
open Server (Stage Next)

/-- The client's move: its phase, and the stage at which the server waits for it. -/
inductive Tells : Phase → Stage ε → Option (Request × History) → List Command → Prop
  | greeting : Tells .greeting .greeting none []
  | idle (attached : ε) : Tells .idle (.idle attached) none []
  | answering {kind : CommandKind} {request : Request}
      {resume : Reply → Work (Except Report Json × ε)} {response : Response} {command : Command} :
      response.answers request = true →
      Tells (.answering response) (.asking kind request resume)
        (some (request, (service request response).take 1)) [command]

/-- What the client has said is under way. -/
inductive Told : Phase → Message → Stage ε → Option (Request × History) → List Command → Prop
  | named (path : String) : Told .awaitingAck (.init path) .greeting none []
  | commanded (command : Command) (attached : ε) :
      Told .awaiting (.command command) (.idle attached) none [command]
  | answered {kind : CommandKind} {request : Request}
      {resume : Reply → Work (Except Report Json × ε)} {response : Response} {command : Command} :
      response.answers request = true →
      Told .awaiting (.eventResponse response) (.asking kind request resume)
        (some (request, (service request response).take 2)) [command]

/-- The server's move: what it says, and what follows. -/
inductive Speaks : Phase → Message → Next ε → Option (Request × History) → List Command → Prop
  | accepting (attached : ε) : Speaks .awaitingAck .initAck (.stage (.idle attached)) none []
  | refusing (text : String) :
      Speaks .awaitingAck (.error text) (.finish (.ok .rejected) none) none []
  | concluding {past : Option (Request × History)} {command : Command}
      (result : Except Report Json) (attached : ε) : Answered past →
      Speaks .awaiting (Server.conclusion result) (.stage (.idle attached)) past [command]
  | asking {past : Option (Request × History)} {command : Command} {kind : CommandKind}
      {request : Request} {resume : Reply → Work (Except Report Json × ε)} : Answered past →
      Speaks .awaiting (.event request) (.stage (.asking kind request resume)) past [command]
  | stopping (command : Command) (attached : ε) :
      Speaks .awaiting (.complete .null) (.finish (.ok .shutdown) (some attached)) none [command]

/-- What the server has said is under way, and it waits at a stage. -/
inductive Spoken : Phase → Message → Stage ε → Option (Request × History) → List Command → Prop
  | accepted (attached : ε) : Spoken .awaitingAck .initAck (.idle attached) none []
  | concluded (result : Except Report Json) (attached : ε) (command : Command) :
      Spoken .awaiting (Server.conclusion result) (.idle attached) none [command]
  | asked {kind : CommandKind} {request : Request}
      {resume : Reply → Work (Except Report Json × ε)} (command : Command) :
      Spoken .awaiting (.event request) (.asking kind request resume) (some (request, [])) [command]

/-- The server has ended: the client's phase, and what is under way from either side. -/
inductive Parting : Phase → List Message → List Message → List Command → Prop
  | refusing (text : String) : Parting .awaitingAck [] [.error text] []
  | refused (fault : SessionFault) : Parting (.refused fault) [] [] []
  | stopping (command : Command) : Parting .awaiting [] [.complete .null] [command]
  | idle : Parting .idle [] [] []
  | unheard (command : Command) : Parting .awaiting [.command command] [] [command]
  | broken : Parting .broken [] [] []
  | cutOff (command : Command) : Parting .broken [.command command] [] [command]

/-- Both ends exist. -/
def Attended (history : History) : Prop :=
  ∀ side, history.gone side = false

inductive Situation : Phase → Server.Phase ε → History → Prop
  | telling {phase : Phase} {stage : Stage ε} {past : Option (Request × History)}
      {owed : List Command} {history : History} : Tells phase stage past owed →
      Standing history [] [] past owed → Attended history →
      Situation phase (.receiving stage) history
  | told {phase : Phase} {message : Message} {stage : Stage ε}
      {past : Option (Request × History)} {owed : List Command} {history : History} :
      Told phase message stage past owed → Standing history [message] [] past owed →
      Attended history → Situation phase (.receiving stage) history
  | speaking {phase : Phase} {message : Message} {next : Next ε}
      {past : Option (Request × History)} {owed : List Command} {history : History} :
      Speaks phase message next past owed → Standing history [] [] past owed →
      Attended history → Situation phase (.sending message next) history
  | spoken {phase : Phase} {message : Message} {stage : Stage ε}
      {past : Option (Request × History)} {owed : List Command} {history : History} :
      Spoken phase message stage past owed → Standing history [] [message] past owed →
      Attended history → Situation phase (.receiving stage) history
  | leaving (attached : ε) {history : History} : Standing history [] [] none [] →
      history.gone .left = true → history.gone .right = false →
      Situation .idle (.receiving (.idle attached)) history
  | parting {phase : Phase} {ending : Server.Ending} {engine : Option ε} {left right : List Message}
      {past : Option (Request × History)} {owed : List Command} {history : History} :
      Parting phase left right owed → Standing history left right past owed →
      Situation phase (.ended ending engine) history

theorem Attended.act {history : History} (attended : Attended history) (doer : Side) (act : Act) :
    Attended (history ++ [(doer, .act act)]) := by
  intro side
  rw [History.gone_act]
  exact attended side

/-! ## The client -/

section Client

variable {backend : Backend σ} {session after : Client.Session σ} {phase : Phase}
  {history : History} {deed : Deed} {past : Option (Request × History)} {owed : List Command}
  {message : Message}

/-- The client says what it has to say, or leaves. -/
theorem Tells.left {stage : Stage ε} (tells : Tells phase stage past owed)
    (here : session.phase = phase) (standing : Standing history [] [] past owed)
    (attended : Attended history) (ordered : history.Ordered)
    (takes : Turn.Takes (Client.Session.turn backend) session deed after)
    (due : deed.Due history .left) :
    Situation after.phase (.receiving stage) (history ++ [(.left, deed)]) := by
  have there : history.gone (Side.other .left) = false := attended .right
  cases tells with
  | greeting =>
    obtain ⟨rfl, rfl⟩ := takes.sent_there (by rw [Client.Session.turn, here]) due there
    exact .told (.named session.binary.text) (standing.says_left ordered _) (attended.act _ _)
  | idle attached =>
    cases commands : session.remaining with
    | nil =>
      obtain ⟨rfl, rfl⟩ := takes.dropped (by rw [Client.Session.turn, here, commands])
      rw [here]
      exact .leaving attached (standing.dropped .left) History.gone_dropped_self
        (History.gone_dropped_other.trans there)
    | cons command rest =>
      obtain ⟨rfl, rfl⟩ := takes.sent_there (by rw [Client.Session.turn, here, commands]) due there
      exact .told (.commanded command attached) (standing.says_left ordered _) (attended.act _ _)
  | answering answers =>
    obtain ⟨rfl, rfl⟩ := takes.sent_there (turn_answering here) due there
    exact .told (.answered answers) (standing.says_left ordered _) (attended.act _ _)

/-- A client that waits, in each of the two phases in which it does. -/
theorem exists_turn_waiting (backend : Backend σ)
    (waits : phase = .awaitingAck ∨ phase = .awaiting)
    (here : session.phase = phase) :
    ∃ onward, session.turn backend = .receive onward := by
  rcases waits with rfl | rfl
  · exact ⟨_, by rw [Client.Session.turn, here]⟩
  · exact ⟨_, turn_awaiting here⟩

/-- The client hears what the server has said, and it is its move. -/
theorem Spoken.left {stage : Stage ε} (spoken : Spoken phase message stage past owed)
    (here : session.phase = phase) (standing : Standing history [] [message] past owed)
    (attended : Attended history) (ordered : history.Ordered)
    (takes : Turn.Takes (Client.Session.turn backend) session deed after)
    (due : deed.Due history .left) :
    Situation after.phase (.receiving stage) (history ++ [(.left, deed)]) := by
  cases spoken with
  | accepted attached =>
    obtain ⟨rfl, rfl⟩ := takes.received_message (by rw [Client.Session.turn, here]) due
      standing.right
    exact .telling (.idle attached) (standing.hears_left ordered) (attended.act _ _)
  | concluded result attached command =>
    obtain ⟨rfl, rfl⟩ := takes.received_message (turn_awaiting here) due standing.right
    rw [received_conclusion]
    have after := standing.hears_left ordered
    refine .telling (.idle attached) ?_ (attended.act _ _)
    cases result with
    | ok value => exact after
    | error report => exact after
  | asked command =>
    obtain ⟨rfl, rfl⟩ := takes.received_message (turn_awaiting here) due standing.right
    exact .telling (.answering (dispatch_answers ..)) (standing.hears_left ordered)
      (attended.act _ _)

/-- What a client does when the server has ended. -/
theorem Parting.left {left right : List Message} (parting : Parting phase left right owed)
    (here : session.phase = phase) (standing : Standing history left right past owed)
    (ordered : history.Ordered)
    (takes : Turn.Takes (Client.Session.turn backend) session deed after)
    (due : deed.Due history .left) (ending : Server.Ending) (engine : Option ε) :
    Situation after.phase (.ended ending engine) (history ++ [(.left, deed)]) := by
  cases parting with
  | refusing text =>
    obtain ⟨rfl, rfl⟩ := takes.received_message (by rw [Client.Session.turn, here]) due
      standing.right
    exact .parting (.refused _) (standing.hears_left ordered)
  | refused fault =>
    obtain ⟨rfl, rfl⟩ := takes.dropped (by rw [Client.Session.turn, here])
    exact here ▸ .parting (.refused fault) (standing.dropped .left)
  | stopping command =>
    obtain ⟨rfl, rfl⟩ := takes.received_message (turn_awaiting here) due standing.right
    exact .parting .idle (standing.hears_left ordered)
  | idle =>
    cases commands : session.remaining with
    | nil =>
      obtain ⟨rfl, rfl⟩ := takes.dropped (by rw [Client.Session.turn, here, commands])
      exact here ▸ .parting .idle (standing.dropped .left)
    | cons command rest =>
      -- The server may have dropped its end or not.
      rcases takes.sent_due (by rw [Client.Session.turn, here, commands]) due with
        ⟨-, rfl, rfl⟩ | ⟨-, rfl, rfl⟩
      · exact .parting (.unheard command) (standing.says_left ordered _)
      · exact .parting .broken (standing.fails ordered rfl rfl .left)
  | unheard command =>
    obtain ⟨-, rfl, rfl⟩ := takes.received_closed (turn_awaiting here) due standing.right
    exact .parting (.cutOff command) (standing.fails ordered rfl rfl .left)
  | broken =>
    obtain ⟨rfl, rfl⟩ := takes.dropped (by rw [Client.Session.turn, here])
    exact here ▸ .parting .broken (standing.dropped .left)
  | cutOff command =>
    obtain ⟨rfl, rfl⟩ := takes.dropped (by rw [Client.Session.turn, here])
    exact here ▸ .parting (.cutOff command) (standing.dropped .left)

theorem Told.waits {stage : Stage ε} (told : Told phase message stage past owed) :
    phase = .awaitingAck ∨ phase = .awaiting := by
  cases told <;> simp

theorem Speaks.waits {next : Next ε} (speaks : Speaks phase message next past owed) :
    phase = .awaitingAck ∨ phase = .awaiting := by
  cases speaks <;> simp

/-- A step of the client. -/
theorem Situation.left {server : Server.Phase ε}
    (situation : Situation session.phase server history) (ordered : history.Ordered)
    (present : history.gone .left = false)
    (takes : Turn.Takes (Client.Session.turn backend) session deed after)
    (due : deed.Due history .left) :
    Situation after.phase server (history ++ [(.left, deed)]) := by
  generalize here : session.phase = phase at situation
  cases situation with
  | telling tells standing attended => exact tells.left here standing attended ordered takes due
  | told told standing attended =>
    obtain ⟨onward, receives⟩ := exists_turn_waiting backend told.waits here
    exact (takes.not_waiting receives due standing.right (attended .right)).elim
  | speaking speaks standing attended =>
    obtain ⟨onward, receives⟩ := exists_turn_waiting backend speaks.waits here
    exact (takes.not_waiting receives due standing.right (attended .right)).elim
  | spoken spoken standing attended => exact spoken.left here standing attended ordered takes due
  | leaving attached standing gone there =>
    rw [present] at gone
    cases gone
  | parting parting standing => exact parting.left here standing ordered takes due ..

end Client

/-! ## The server -/

section Server

variable {engine : Engine ε} {session after : Server.Session ε} {phase : Phase}
  {history : History} {deed : Deed} {past : Option (Request × History)} {owed : List Command}
  {message : Message}

theorem answered_none : Answered none := by
  intro request during same
  cases same

theorem Speaks.answered {next : Next ε} (speaks : Speaks phase message next past owed) :
    Answered past := by
  cases speaks with
  | accepting attached => exact answered_none
  | refusing text => exact answered_none
  | concluding result attached answered => exact answered
  | asking answered => exact answered
  | stopping command attached => exact answered_none

theorem turn_of_receiving {stage : Stage ε} (here : session.phase = .receiving stage) :
    session.turn engine = .receive fun incoming =>
      ⟨stage.received engine incoming, session.binary.or (stage.named? incoming)⟩ := by
  rw [Server.Session.turn, here]

theorem turn_of_sending {next : Next ε} (here : session.phase = .sending message next) :
    session.turn engine = .send message fun outcome =>
      { session with phase := next.after outcome } := by
  rw [Server.Session.turn, here]

/-- However the work on a command goes on, the server says something about it. -/
theorem situation_proceed {kind : CommandKind} (work : Work (Except Report Json × ε))
    {command : Command} (answered : Answered past)
    (standing : Standing history [] [] past [command]) (attended : Attended history) :
    Situation .awaiting (Server.proceed kind work) history := by
  cases work with
  | done outcome => exact .speaking (.concluding outcome.1 outcome.2 answered) standing attended
  | ask request resume => exact .speaking (.asking answered) standing attended

/-- The server hears what the client has said, and it is its move. -/
theorem Told.right {stage : Stage ε} (told : Told phase message stage past owed)
    (here : session.phase = .receiving stage) (standing : Standing history [message] [] past owed)
    (attended : Attended history) (ordered : history.Ordered)
    (takes : Turn.Takes (Server.Session.turn engine) session deed after)
    (due : deed.Due history .right) :
    Situation phase after.phase (history ++ [(.right, deed)]) := by
  obtain ⟨rfl, rfl⟩ := takes.received_message (turn_of_receiving here) due standing.left
  have standing' := standing.hears_right ordered
  have attended' := attended.act .right (.received (.ok message))
  cases told with
  | named path =>
    show Situation _ (Server.bindBinary engine path) _
    unfold Server.bindBinary
    cases engine.attach path with
    | ok attached => exact .speaking (.accepting attached) standing' attended'
    | error report => exact .speaking (.refusing report.text) standing' attended'
  | commanded command attached =>
    show Situation _ (Server.commanded engine attached (.command command)) _
    by_cases stops : command.kind = .shutdown
    · obtain ⟨kind, arguments⟩ := command
      cases stops
      exact .speaking (.stopping _ attached) standing' attended'
    · rw [Server.Session.commanded_command attached stops]
      exact situation_proceed _ answered_none standing' attended'
  | @answered kind request resume response command answers =>
    have replied : request.reply (.ok (.eventResponse response)) = .ok response := by
      rw [Request.reply, if_pos answers]
    show Situation _ (Server.replied kind resume (request.reply _)) _
    rw [replied]
    refine situation_proceed _ ?_ standing' attended'
    intro request' during same
    cases same
    exact ⟨response, answers, rfl⟩

/-- The server says what it has to say, and waits or has ended. -/
theorem Speaks.right {next : Next ε} (speaks : Speaks phase message next past owed)
    (here : session.phase = .sending message next) (standing : Standing history [] [] past owed)
    (attended : Attended history) (ordered : history.Ordered)
    (takes : Turn.Takes (Server.Session.turn engine) session deed after)
    (due : deed.Due history .right) :
    Situation phase after.phase (history ++ [(.right, deed)]) := by
  obtain ⟨rfl, rfl⟩ := takes.sent_there (turn_of_sending here) due (attended .left)
  have standing' := standing.says_right ordered message
  have attended' := attended.act .right (.sent message (.ok ()))
  cases speaks with
  | accepting attached => exact .spoken (.accepted attached) standing' attended'
  | refusing text => exact .parting (.refusing text) standing'
  | @concluding _ command result attached answered =>
    refine .spoken (.concluded result attached command) ?_ attended'
    cases result with
    | ok value => exact standing'
    | error report => exact standing'
  | asking answered => exact .spoken (.asked _) standing' attended'
  | stopping command attached => exact .parting (.stopping command) standing'

/-- A step of the server. -/
theorem Situation.right (situation : Situation phase session.phase history)
    (ordered : history.Ordered)
    (takes : Turn.Takes (Server.Session.turn engine) session deed after)
    (due : deed.Due history .right) :
    Situation phase after.phase (history ++ [(.right, deed)]) := by
  generalize here : session.phase = server at situation
  cases situation with
  | telling tells standing attended =>
    exact (takes.not_waiting (turn_of_receiving here) due standing.left (attended .left)).elim
  | told told standing attended => exact told.right here standing attended ordered takes due
  | speaking speaks standing attended =>
    exact speaks.right here standing attended ordered takes due
  | spoken spoken standing attended =>
    exact (takes.not_waiting (turn_of_receiving here) due standing.left (attended .left)).elim
  | leaving attached standing gone there =>
    obtain ⟨-, rfl, rfl⟩ := takes.received_closed (turn_of_receiving here) due standing.left
    exact .parting .idle (standing.fails ordered rfl rfl .right)
  | parting parting standing =>
    obtain ⟨rfl, rfl⟩ := takes.dropped (by rw [Server.Session.turn, here])
    exact here ▸ .parting parting (standing.dropped .right)

/-- Whenever the server says something, its last event has been answered. -/
theorem Situation.answered (situation : Situation phase session.phase history)
    {onward : Except TransportFault Unit → Server.Session ε}
    (sends : session.turn engine = .send message onward) : Answered (sinceEvent? history) := by
  generalize here : session.phase = server at situation
  have receiving : ∀ {stage : Stage ε}, session.phase ≠ .receiving stage := by
    intro stage here
    rw [turn_of_receiving here] at sends
    cases sends
  cases situation with
  | telling _ _ _ => exact absurd here receiving
  | told _ _ _ => exact absurd here receiving
  | speaking speaks standing attended => exact standing.past ▸ speaks.answered
  | spoken _ _ _ => exact absurd here receiving
  | leaving _ _ _ _ => exact absurd here receiving
  | parting _ _ =>
    rw [Server.Session.turn, here] at sends
    cases sends

end Server

/-! ## Runs -/

section Run

variable {backend : Backend σ} {engine : Engine ε} {history : History}
  {bridge : Meeting (Client.Session σ) (Server.Session ε)}

/-- The ends of a bridge, and everything that can happen between them. -/
abbrev Happens (backend : Backend σ) (engine : Engine ε) (binary : Path) (debugger : σ)
    (commands : List Command) : History → Meeting (Client.Session σ) (Server.Session ε) → Prop :=
  Meeting.Run (Client.Session.turn backend) (Server.Session.turn engine)
    (.start (.start binary debugger commands) .start)

/-- At every point of a run there is a situation. -/
theorem situation_of_run {binary : Path} {debugger : σ} {commands : List Command}
    (run : Happens backend engine binary debugger commands history bridge)
    (transmissible : ∀ side message, message ∈ said (history.acts side) → message.Transmissible) :
    Situation bridge.left.phase bridge.right.phase history
      ∧ ∀ (before : History) message outcome later,
        history = before ++ (.right, .act (.sent message outcome)) :: later →
        Answered (sinceEvent? before) := by
  induction run with
  | start => exact ⟨.telling .greeting ⟨rfl, rfl, rfl, rfl⟩ (fun _ => rfl), by simp⟩
  | @step history bridge next side deed run does moves ih =>
    have earlier : ∀ side message, message ∈ said (history.acts side) → message.Transmissible :=
      fun side message sent => transmissible side message (History.said_acts_append sent)
    obtain ⟨situation, answered⟩ := ih earlier
    obtain ⟨ordered, pair, -⟩ := (run.pair rfl).sound earlier
    obtain ⟨step, taken⟩ := Meeting.takes_of_step? moves does
    rw [pair] at step
    obtain ⟨due, -, -⟩ := step.due ordered fun message under =>
      earlier side.other message (History.said_of_underWay under)
    rcases taken with ⟨rfl, takes, same⟩ | ⟨rfl, takes, same⟩
    · refine ⟨same ▸ situation.left ordered step.present takes due, ?_⟩
      intro before message outcome later eq
      rcases split_snoc eq with ⟨-, last⟩ | ⟨later, eq⟩
      · cases last
      · exact answered before message outcome later eq
    · refine ⟨same ▸ situation.right ordered takes due, ?_⟩
      intro before message outcome later eq
      rcases split_snoc eq with ⟨rfl, last⟩ | ⟨later, eq⟩
      · cases last
        obtain ⟨onward, sends, -⟩ := takes.exists_send
        exact situation.answered sends
      · exact answered before message outcome later eq

/-- One message at most is under way, and one command at most has not been answered. -/
theorem Situation.few {phase : Phase} {server : Server.Phase ε}
    (situation : Situation phase server history) :
    (history.underWay .left).length + (history.underWay .right).length ≤ 1
      ∧ (outstanding history).length ≤ 1 := by
  have counted : ∀ {left right past owed}, Standing history left right past owed →
      left.length + right.length ≤ 1 → owed.length ≤ 1 →
      (history.underWay .left).length + (history.underWay .right).length ≤ 1
        ∧ (outstanding history).length ≤ 1 := by
    intro left right past owed standing messages commands
    rw [standing.left, standing.right, standing.owed]
    exact ⟨messages, commands⟩
  cases situation with
  | telling tells standing _ => exact counted standing (by simp) (by cases tells <;> simp)
  | told told standing _ => exact counted standing (by simp) (by cases told <;> simp)
  | speaking speaks standing _ => exact counted standing (by simp) (by cases speaks <;> simp)
  | spoken spoken standing _ => exact counted standing (by simp) (by cases spoken <;> simp)
  | leaving attached standing _ _ => exact counted standing (by simp) (by simp)
  | parting parting standing =>
    exact counted standing (by cases parting <;> simp) (by cases parting <;> simp)

theorem Tells.moves {stage : Stage ε} {session : Client.Session σ} {phase : Phase}
    {past : Option (Request × History)} {owed : List Command} (tells : Tells phase stage past owed)
    (here : session.phase = phase) (onward : Incoming → Client.Session σ) :
    session.turn backend ≠ .receive onward := by
  intro receives
  cases tells with
  | greeting =>
    rw [Client.Session.turn, here] at receives
    cases receives
  | idle attached =>
    cases commands : session.remaining with
    | nil =>
      rw [Client.Session.turn, here, commands] at receives
      cases receives
    | cons command rest =>
      rw [Client.Session.turn, here, commands] at receives
      cases receives
  | answering answers =>
    rw [turn_answering here] at receives
    cases receives

/-- No side can take a turn only when both are gone. -/
theorem Situation.gone (situation : Situation bridge.left.phase bridge.right.phase history)
    (ordered : history.Ordered) (pair : bridge.pair = history.between)
    (transmissible : ∀ side message, message ∈ said (history.acts side) → message.Transmissible)
    (finished : Meeting.Over (Client.Session.turn backend) (Server.Session.turn engine) bridge)
    (side : Side) : history.gone side = true := by
  have client := Option.map_eq_none_iff.mp (finished .left)
  have server := Option.map_eq_none_iff.mp (finished .right)
  rw [pair] at client server
  have under : ∀ side message, message ∈ history.underWay side → message.Transmissible :=
    fun side message present => transmissible side message (History.said_of_underWay present)
  replace client := (Meeting.turn?_eq_none_iff ordered (under _)).mp client
  replace server := (Meeting.turn?_eq_none_iff ordered (under _)).mp server
  generalize here : bridge.left.phase = phase at situation
  generalize here' : bridge.right.phase = server' at situation
  cases situation with
  | telling tells standing attended =>
    rcases client with gone | ⟨⟨onward, receives⟩, -⟩
    · exact absurd ((attended .left).symm.trans gone) (by decide)
    · exact absurd receives (tells.moves here onward)
  | told told standing attended =>
    rcases server with gone | ⟨-, nothing, -⟩
    · exact absurd ((attended .right).symm.trans gone) (by decide)
    · exact absurd (standing.left.symm.trans nothing) (by simp)
  | speaking speaks standing attended =>
    rcases server with gone | ⟨⟨onward, receives⟩, -⟩
    · exact absurd ((attended .right).symm.trans gone) (by decide)
    · rw [turn_of_sending here'] at receives
      cases receives
  | spoken spoken standing attended =>
    rcases client with gone | ⟨-, nothing, -⟩
    · exact absurd ((attended .left).symm.trans gone) (by decide)
    · exact absurd (standing.right.symm.trans nothing) (by simp)
  | leaving attached standing gone there =>
    rcases server with gone' | ⟨-, -, there'⟩
    · exact absurd (there.symm.trans gone') (by decide)
    · exact absurd (gone.symm.trans there') (by decide)
  | parting parting standing =>
    have serverGone : history.gone .right = true := by
      rcases server with gone | ⟨⟨onward, receives⟩, -⟩
      · exact gone
      · rw [Server.Session.turn, here'] at receives
        cases receives
    have clientGone : history.gone .left = true := by
      rcases client with gone | ⟨-, -, there⟩
      · exact gone
      · exact absurd (serverGone.symm.trans there) (by decide)
    cases side with
    | left => exact clientGone
    | right => exact serverGone

end Run

end DebugBridge.Bridge
