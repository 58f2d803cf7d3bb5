import DebugBridge.Proofs.Server.Transcript
import DebugBridge.Proofs.Wire.Exchange
import DebugBridge.Server.Task

/-!
# Work over a line

Work is carried out over a line, request by request, until an exchange fails; from then on every
further request fails at once and the line is left alone (`Work.conduct`). Whatever the work makes
of the failures, the tally keeps that there was one, and the session looks at nothing else.

* `Hears`: a request can be sent, and this is what comes in next.
* `Settled`: what one exchange gives, by what comes in.
* `Task.Single`, `Task.Twofold`: the requests an engine can put, with one exchange or up to two.

Results:
1. `conduct_bind`, `conduct_broken`, `conduct_tallied`: parts of work, work on a line that is given
   up, and the tally that work keeps of itself.
2. `Task.Single.settled`: every exchange, for all requests at once.
3. `Session.run_proceed`: a session conducts the work on a command, and then concludes or ends.
4. `Session.failed_exchange_shows`: that a failed exchange cannot be hidden.
-/

namespace DebugBridge

/-! ## Exchanges -/

variable {α β ν : Type} {line : Line ν}

/-- One exchange: what comes of a request, and the state of the line behind it. Once an exchange has
failed, nothing is sent and nothing received. -/
def Line.exchange (line : Line ν) (request : Request) (broken : Bool) (state : ν) : Reply × ν :=
  if broken then (.error .unusable, state)
  else
    match line.send (.event request) state with
    | (.error fault, state) => (.error (.notSent fault), state)
    | (.ok (), state) =>
      let (incoming, state) := line.receive state
      (request.reply incoming, state)

/-- What work comes to over a line, the tally of its exchanges, and the state of the line then. -/
def Work.conduct (line : Line ν) : Work α → Tally → ν → α × Tally × ν
  | .done result, tally, state => (result, tally, state)
  | .ask request resume, tally, state =>
    let (reply, state) := line.exchange request tally.broken state
    (resume reply).conduct line (tally.after reply) state

/-- The same of a task. -/
def Task.conduct (line : Line ν) (task : Task α) (tally : Tally) (state : ν) :
    Except Report α × Tally × ν :=
  task.run.conduct line tally state

/-- A request can be sent, and this is what is received next. -/
def Hears (line : Line ν) (request : Request) (state : ν) (incoming : Incoming) : Prop :=
  ∃ between, line.send (.event request) state = (.ok (), between)
    ∧ (line.receive between).1 = incoming

/-- An exchange succeeds when an answer to the request comes in. -/
theorem Line.exchange_eq_ok_iff (line : Line ν) (request : Request) (state : ν)
    (response : Response) :
    (line.exchange request false state).1 = .ok response
      ↔ Hears line request state (.ok (.eventResponse response))
        ∧ response.answers request = true := by
  unfold exchange Hears
  rw [if_neg (by decide)]
  match line.send (.event request) state with
  | (.error fault, after) => simp
  | (.ok (), between) => simp [Request.reply_eq_ok_iff]

theorem Tally.broken_after (tally : Tally) (reply : Reply) :
    (tally.after reply).broken = true ↔ tally.broken = true ∨ ∃ fault, reply = .error fault := by
  match reply with
  | .ok response => simp [after]
  | .error .unusable => simp [after]
  | .error (.notSent fault) => simp [after]
  | .error (.noAnswer fault) => simp [after]
  | .error (.mismatched response request) => simp [after]
  | .error (.unexpected message) => simp [after]

namespace Work

theorem conduct_bind (work : Work α) (next : α → Work β) (tally : Tally) (state : ν) :
    (work.bind next).conduct line tally state
      = match work.conduct line tally state with
        | (a, tally, state) => (next a).conduct line tally state := by
  induction work generalizing tally state with
  | done a => rfl
  | ask request resume ih => exact ih _ _ _

/-- Work on a line that is given up. -/
theorem conduct_broken {tally : Tally} (broken : tally.broken = true) (work : Work α) (state : ν) :
    work.conduct line tally state = (work.abandoned, tally, state) := by
  have same : tally.after (.error .unusable) = tally := by
    rw [Tally.after, ← broken]
  induction work with
  | done a => rfl
  | ask request resume ih =>
    rw [conduct, Line.exchange, if_pos broken, abandoned]
    exact same.symm ▸ ih (.error .unusable)

/-- The tally that work keeps of itself is the one of its conduct. -/
theorem conduct_tallied (work : Work α) (tally : Tally) (state : ν) :
    (work.tallied tally).conduct line tally state
      = match work.conduct line tally state with
        | (a, tally, state) => ((a, tally), tally, state) := by
  induction work generalizing tally state with
  | done a => rfl
  | ask request resume ih => exact ih _ _ _

end Work

/-! ## What is asked of the client -/

namespace Task

/-- Requests that take one exchange, and the answers of their category, by what is wanted of them.
The first half of a call is one of them. -/
inductive Single : {α : Type} → Task α → Request → (α → Response) → Prop
  | readMemory (address size : UInt64) :
      Single (readMemory address size) (.readMemory address size) .memoryData
  | writeMemory (address : UInt64) (data : List UInt8) :
      Single (writeMemory address data) (.writeMemory address data) fun _ => .memoryWritten
  | readRegister (name : String) :
      Single (readRegister name) (.readRegister name) .registerData
  | frameInfo : Single frameInfo .frameInfo fun (pc, sp, fp) => .frameInfo pc sp fp
  | threadInfo : Single threadInfo .threadInfo fun (tid, name) => .threadInfo tid name
  | baseAddress : Single baseAddress .baseAddress .baseAddress
  | evaluate (expression : String) :
      Single (evaluate expression) (.evaluate expression) .expressionResult
  | variableType (name : String) :
      Single (variableType name) (.variableType name) .variableType
  | allocate (size : UInt64) : Single (allocate size) (.allocate size) .memoryAllocated
  | functionResult (function : UInt64) (arguments : List Argument) (returnSize : Option UInt64) :
      Single
        (ask (.callFunction function arguments returnSize) fun
          | .functionResult result => some result
          | _ => none)
        (.callFunction function arguments returnSize) .functionResult
  | methodResult (method receiver : UInt64) (arguments : List Argument)
      (returnSize : Option UInt64) :
      Single
        (ask (.callMethod method receiver arguments returnSize) fun
          | .methodResult result => some result
          | _ => none)
        (.callMethod method receiver arguments returnSize) .methodResult

/-- The calls, and their first halves. -/
inductive Twofold : Task Returned → Task CallResult → Prop
  | callFunction (function : UInt64) (arguments : List Argument) (returnSize : Option UInt64) :
      Twofold (callFunction function arguments returnSize)
        (ask (.callFunction function arguments returnSize) fun
          | .functionResult result => some result
          | _ => none)
  | callMethod (method receiver : UInt64) (arguments : List Argument)
      (returnSize : Option UInt64) :
      Twofold (callMethod method receiver arguments returnSize)
        (ask (.callMethod method receiver arguments returnSize) fun
          | .methodResult result => some result
          | _ => none)

variable {task : Task α} {request : Request} {answer : α → Response}

/-- The answers to a request are errors and those of its category. -/
theorem Single.answers_iff (single : Single task request answer) (response : Response) :
    response.answers request = true
      ↔ (∃ text, response = .error text) ∨ ∃ a, response = answer a := by
  cases single <;> cases response <;> simp [Response.answers]

theorem Single.answer_ne_error (single : Single task request answer) (a : α) (text : String) :
    answer a ≠ .error text := by
  cases single <;> simp

/-- What is wanted of an answer of the category is found in it. -/
theorem Single.exists_extract (single : Single task request answer) :
    ∃ extract, task = ask request extract ∧ ∀ a, extract (answer a) = some a := by
  cases single <;> exact ⟨_, rfl, fun _ => rfl⟩

theorem Twofold.exists_single {call : Task Returned} {first : Task CallResult}
    (twofold : Twofold call first) :
    call = first >>= materialize ∧ ∃ request answer, Single first request answer := by
  cases twofold with
  | callFunction function arguments returnSize => exact ⟨rfl, _, _, .functionResult ..⟩
  | callMethod method receiver arguments returnSize => exact ⟨rfl, _, _, .methodResult ..⟩

/-! ## Tasks -/

variable {tally : Tally} {state : ν}

theorem conduct_bind (task : Task α) (next : α → Task β) (tally : Tally) (state : ν) :
    (task >>= next).conduct line tally state
      = match task.conduct line tally state with
        | (.ok a, tally, state) => (next a).conduct line tally state
        | (.error report, tally, state) => (.error report, tally, state) := by
  refine (Work.conduct_bind task.run _ tally state).trans ?_
  unfold conduct
  match task.run.conduct line tally state with
  | (.ok a, tally, state) => rfl
  | (.error report, tally, state) => rfl

theorem conduct_within (label : String) (task : Task α) (tally : Tally) (state : ν) :
    (within label task).conduct line tally state
      = match task.conduct line tally state with
        | (result, tally, state) => (result.mapError (Report.wrap label), tally, state) :=
  Work.conduct_bind task.run _ tally state

theorem conduct_request (request : Request) (tally : Tally) (state : ν) :
    (Task.request request).conduct line tally state
      = match line.exchange request tally.broken state with
        | (reply, state) => (reply.mapError ExchangeFault.report, tally.after reply, state) :=
  rfl

theorem conduct_ask (request : Request) (extract : Response → Option α) (tally : Tally)
    (state : ν) :
    (ask request extract).conduct line tally state
      = match line.exchange request tally.broken state with
        | (.ok response, state) =>
          (payload request extract response, tally.after (.ok response), state)
        | (.error fault, state) => (.error fault.report, tally.after (.error fault), state) := by
  rw [ask, conduct_bind, conduct_request]
  match line.exchange request tally.broken state with
  | (.ok response, state) => rfl
  | (.error fault, state) => rfl

end Task

/-! ## Single exchanges -/

/-- What an exchange gives, on a line that is not given up. -/
structure Settled (line : Line ν) (request : Request) (answer : α → Response) (tally : Tally)
    (state : ν) (outcome : Except Report α × Tally × ν) : Prop where
  /-- The request is sent, and when that goes well one message is received. -/
  once : outcome.2.2 = match line.send (.event request) state with
    | (.ok (), between) => (line.receive between).2
    | (.error _, after) => after
  given : ∀ a, outcome.1 = .ok a
    ↔ Hears line request state (.ok (.eventResponse (answer a)))
  refused : ∀ text, outcome.1 = .error ⟨text, []⟩ ∧ outcome.2.1.broken = false
    ↔ Hears line request state (.ok (.eventResponse (.error text)))
  /-- In every other case the line is given up. -/
  broken : outcome.2.1.broken = true ↔ ∀ response,
    Hears line request state (.ok (.eventResponse response)) → response.answers request = false
  failed : outcome.2.1.broken = true → ∃ report, outcome.1 = .error report

namespace Task

variable {task : Task α} {request : Request} {answer : α → Response}

theorem exchange_state (line : Line ν) (request : Request) (state : ν) :
    (line.exchange request false state).2 = match line.send (.event request) state with
      | (.ok (), between) => (line.receive between).2
      | (.error _, after) => after := by
  unfold Line.exchange
  rw [if_neg (by decide)]
  match line.send (.event request) state with
  | (.error fault, after) => rfl
  | (.ok (), between) => rfl

theorem Single.payload_answer (single : Single task request answer) {extract : Response → Option α}
    (extracts : ∀ a, extract (answer a) = some a) (a : α) :
    payload request extract (answer a) = .ok a := by
  unfold payload
  split
  · next text same => exact absurd same (single.answer_ne_error a text)
  · rw [extracts]

variable {extract : Response → Option α} {tally : Tally} {state after : ν}

/-- An answer has come in. It is an error, or what is wanted can be taken from it. -/
theorem Single.settled_ok (single : Single task request answer)
    (extracts : ∀ a, extract (answer a) = some a) (usable : tally.broken = false)
    {response : Response} (exchanged : line.exchange request false state = (.ok response, after)) :
    Settled line request answer tally state
      (payload request extract response, tally.after (.ok response), after) := by
  have ok := line.exchange_eq_ok_iff request state
  have once := exchange_state line request state
  rw [exchanged] at ok once
  obtain ⟨hears, answers⟩ := (ok response).mp rfl
  have only : ∀ {other}, Hears line request state (.ok (.eventResponse other)) →
      other.answers request = true → response = other := by
    intro other heard answers
    exact Except.ok.inj ((ok other).mpr ⟨heard, answers⟩)
  have whole : (tally.after (.ok response)).broken = false := usable
  have answer_cases := (single.answers_iff response).mp answers
  refine ⟨once, ?_, ?_, ?_, ?_⟩
  · intro a
    constructor
    · intro same
      rcases answer_cases with ⟨text, rfl⟩ | ⟨a', rfl⟩
      · cases same
      · cases (single.payload_answer extracts a').symm.trans same
        exact hears
    · intro heard
      rw [only heard ((single.answers_iff _).mpr (.inr ⟨a, rfl⟩))]
      exact single.payload_answer extracts a
  · intro text
    constructor
    · rintro ⟨same, -⟩
      rcases answer_cases with ⟨text', rfl⟩ | ⟨a, rfl⟩
      · cases same
        exact hears
      · cases (single.payload_answer extracts a).symm.trans same
    · intro heard
      refine ⟨?_, whole⟩
      rw [only heard rfl]
      rfl
  · constructor
    · intro broken
      exact absurd (whole.symm.trans broken) (by decide)
    · intro silent
      exact absurd ((silent response hears).symm.trans answers) (by decide)
  · intro broken
    exact absurd (whole.symm.trans broken) (by decide)

/-- No answer to the request has come in. -/
theorem Single.settled_error (single : Single task request answer) {fault : ExchangeFault}
    (exchanged : line.exchange request false state = (.error fault, after)) :
    Settled line request answer tally state
      (.error fault.report, tally.after (.error fault), after) := by
  have ok := line.exchange_eq_ok_iff request state
  have once := exchange_state line request state
  rw [exchanged] at ok once
  have unanswered : ∀ {response}, Hears line request state (.ok (.eventResponse response)) →
      response.answers request ≠ true := by
    intro response heard answers
    cases (ok response).mpr ⟨heard, answers⟩
  have broken : (tally.after (.error fault)).broken = true :=
    (Tally.broken_after ..).mpr (.inr ⟨fault, rfl⟩)
  refine ⟨once, ?_, ?_, ?_, ?_⟩
  · intro a
    constructor
    · intro same
      cases same
    · intro heard
      exact absurd ((single.answers_iff _).mpr (.inr ⟨a, rfl⟩)) (unanswered heard)
  · intro text
    constructor
    · rintro ⟨-, whole⟩
      exact absurd (broken.symm.trans whole) (by decide)
    · intro heard
      exact absurd rfl (unanswered heard)
  · constructor
    · intro _ response heard
      exact Bool.eq_false_iff.mpr (unanswered heard)
    · intro _
      exact broken
  · intro _
    exact ⟨fault.report, rfl⟩

theorem Single.settled (single : Single task request answer) (usable : tally.broken = false)
    (state : ν) : Settled line request answer tally state (task.conduct line tally state) := by
  obtain ⟨extract, rfl, extracts⟩ := single.exists_extract
  rw [conduct_ask, usable]
  cases exchanged : line.exchange request false state with
  | mk reply after =>
    cases reply with
    | ok response => exact single.settled_ok extracts usable exchanged
    | error fault => exact single.settled_error exchanged

/-- Every request fails at once on a line that is given up, also as the first half of a task. -/
theorem conduct_request_broken (request : Request) (next : Response → Task α) {tally : Tally}
    (broken : tally.broken = true) (state : ν) :
    (Task.request request >>= next).conduct line tally state
      = (.error ExchangeFault.unusable.report, tally, state) := by
  rw [conduct, Work.conduct_broken broken]
  rfl

theorem Single.broken (single : Single task request answer) {tally : Tally}
    (broken : tally.broken = true) (state : ν) :
    task.conduct line tally state = (.error ExchangeFault.unusable.report, tally, state) := by
  obtain ⟨extract, rfl, -⟩ := single.exists_extract
  exact conduct_request_broken request _ broken state

/-- A call goes on with the reading of an aggregate, or is over. -/
theorem Twofold.conduct {call : Task Returned} {first : Task CallResult}
    (twofold : Twofold call first) (tally : Tally) (state : ν) :
    call.conduct line tally state = match first.conduct line tally state with
      | (.ok (.register value _), tally, state) => (.ok (.register value), tally, state)
      | (.ok (.buffer address size _), tally, state) =>
        match (readMemory address size).conduct line tally state with
        | (.ok data, tally, state) => (.ok (.octets data), tally, state)
        | (.error report, tally, state) =>
          (.error (report.wrap (readBackLabel address size)), tally, state)
      | (.error report, tally, state) => (.error report, tally, state) := by
  obtain ⟨rfl, -⟩ := twofold.exists_single
  rw [conduct_bind]
  match first.conduct line tally state with
  | (.error report, tally, state) => rfl
  | (.ok (.register value returnType), tally, state) => rfl
  | (.ok (.buffer address size returnType), tally, state) =>
    simp only [materialize]
    rw [conduct_bind, conduct_within]
    match (readMemory address size).conduct line tally state with
    | (.ok data, tally, state) => rfl
    | (.error report, tally, state) => rfl

end Task

/-! ## Sessions -/

namespace Server.Session

variable {ε : Type}

/-- The turns in which a request is sent and its reply comes in, or in which sending fails. -/
theorem run_asking (line : Line ν) (engine : Engine ε) (kind : CommandKind) (binary : Option String)
    (request : Request) (resume : Reply → Work (Except Report Json × ε)) (state : ν) :
    ∃ turns, ∀ count,
      Turn.run line (turn engine) (turns + count)
          ⟨proceed kind (.ask request resume), binary⟩ state
        = match line.exchange request false state with
          | (reply, state) =>
            Turn.run line (turn engine) count ⟨replied kind resume reply, binary⟩ state := by
  unfold Line.exchange
  rw [if_neg (by decide)]
  cases sends : line.send (.event request) state with
  | mk outcome between =>
    cases outcome with
    | error fault =>
      refine ⟨1, ?_⟩
      intro count
      rw [Nat.add_comm]
      simp [Turn.run, Turn.step?, proceed, turn, sends, Next.after, Next.unsent, replied]
    | ok _ =>
      refine ⟨2, ?_⟩
      intro count
      rw [Nat.add_comm]
      simp [Turn.run, Turn.step?, proceed, turn, sends, Next.after, Next.sent, Stage.received,
        Stage.named?]

/-- A session conducts the work on a command. It concludes the command when no exchange has failed;
when one has, it ends with a failure, whatever the result. -/
theorem run_proceed (engine : Engine ε) (kind : CommandKind) (binary : Option String)
    (work : Work (Except Report Json × ε)) (tally : Tally) (usable : tally.broken = false)
    (state : ν) :
    ∃ count, Turn.run line (turn engine) count ⟨proceed kind work, binary⟩ state
      = match work.conduct line tally state with
        | ((result, after), tally, state) =>
          (⟨if tally.broken then .ended (.error (failure kind result)) (some after)
            else .sending (conclusion result) (.stage (.idle after)), binary⟩, state) := by
  induction work generalizing tally state with
  | done result => exact ⟨0, by simp [proceed, Work.conduct, Turn.run, usable]⟩
  | ask request resume ih =>
    obtain ⟨turns, asked⟩ := run_asking line engine kind binary request resume state
    rw [Work.conduct, usable]
    generalize line.exchange request false state = exchanged at asked ⊢
    obtain ⟨reply, between⟩ := exchanged
    cases reply with
    | ok response =>
      obtain ⟨count, rest⟩ := ih (.ok response) (tally.after (.ok response)) usable between
      exact ⟨turns + count, (asked count).trans rest⟩
    | error fault =>
      have broken : (tally.after (.error fault)).broken = true :=
        (Tally.broken_after ..).mpr (.inr ⟨fault, rfl⟩)
      refine ⟨turns + 0, (asked 0).trans ?_⟩
      simp only [Work.conduct_broken broken, broken, if_true]
      rfl

/-- Over a line, as long as no exchange has failed: an exchange gives the response that comes in
next when that answers the request. A request for one thing gives it just when the message that
comes in next is an answer of its category, fails with the client's words just when that is an
error, and else fails and gives up the line. From every answer but an error, what is wanted can be
taken. A call is one such request or two. What an exchange that failed is followed by does not touch
the line, and every request in it fails. Whatever an engine makes of that, the session ends with a
failure when an exchange has failed, and concludes the command when none has. -/
theorem failed_exchange_shows (line : Line ν) :
    (∀ request state response, (line.exchange request false state).1 = .ok response
        ↔ Hears line request state (.ok (.eventResponse response))
          ∧ response.answers request = true)
      ∧ (∀ {α : Type} {task : Task α} {request : Request} {answer : α → Response},
        Task.Single task request answer →
        (∀ response, response.answers request = true
          ↔ (∃ text, response = .error text) ∨ ∃ a, response = answer a)
        ∧ (∃ extract, task = Task.ask request extract ∧ (∀ a, extract (answer a) = some a)
          ∧ ∀ response, response.answers request = true → (∀ text, response ≠ .error text) →
            extract response ≠ none)
        ∧ ∀ tally state,
          (tally.broken = false →
            Settled line request answer tally state (task.conduct line tally state))
          ∧ (tally.broken = true →
            task.conduct line tally state = (.error ExchangeFault.unusable.report, tally, state)))
      ∧ (∀ {call : Task Returned} {first : Task CallResult}, Task.Twofold call first →
        (∃ request answer, Task.Single first request answer)
        ∧ ∀ tally state, call.conduct line tally state = match first.conduct line tally state with
          | (.ok (.register value _), tally, state) => (.ok (.register value), tally, state)
          | (.ok (.buffer address size _), tally, state) =>
            match (Task.readMemory address size).conduct line tally state with
            | (.ok data, tally, state) => (.ok (.octets data), tally, state)
            | (.error report, tally, state) =>
              (.error (report.wrap (Task.readBackLabel address size)), tally, state)
          | (.error report, tally, state) => (.error report, tally, state))
      ∧ (∀ {α : Type} (request : Request) (resume : Reply → Work α) (fault : ExchangeFault) tally
          state, (line.exchange request tally.broken state).1 = .error fault →
        ∃ after, (Work.ask request resume).conduct line tally state
            = ((resume (.error fault)).abandoned, after,
              (line.exchange request tally.broken state).2)
          ∧ after.broken = true)
      ∧ ∀ {ε : Type} (engine : Engine ε) (attached : ε) {command : Command},
        command.kind ≠ .shutdown → ∀ binary state, ∃ count,
          Turn.run line (turn engine) count
              ⟨(Stage.idle attached).received engine (.ok (.command command)), binary⟩ state
            = match (engine.handle attached command).conduct line {} state with
              | ((result, after), tally, state) =>
                (⟨if tally.broken then .ended (.error (failure command.kind result)) (some after)
                  else .sending (conclusion result) (.stage (.idle after)), binary⟩, state) := by
  refine ⟨line.exchange_eq_ok_iff, ?_, ?_, ?_, ?_⟩
  · intro α task request answer single
    obtain ⟨extract, asks, extracts⟩ := single.exists_extract
    refine ⟨single.answers_iff, ⟨extract, asks, extracts, ?_⟩, ?_⟩
    · intro response answers noError
      rcases (single.answers_iff response).mp answers with ⟨text, same⟩ | ⟨a, rfl⟩
      · exact absurd same (noError text)
      · rw [extracts]
        simp
    · intro tally state
      exact ⟨fun usable => single.settled usable state, fun broken => single.broken broken state⟩
  · intro call first twofold
    exact ⟨twofold.exists_single.2, twofold.conduct⟩
  · intro α request resume fault tally state failed
    have broken : (tally.after (.error fault)).broken = true :=
      (Tally.broken_after ..).mpr (.inr ⟨fault, rfl⟩)
    refine ⟨_, ?_, broken⟩
    rw [Work.conduct]
    match line.exchange request tally.broken state, failed with
    | (.error _, after), rfl => exact Work.conduct_broken broken _ after
  · intro ε engine attached command other binary state
    have begun : (Stage.idle attached).received engine (.ok (.command command))
        = proceed command.kind (engine.handle attached command) :=
      commanded_command attached other
    rw [begun]
    exact run_proceed engine command.kind binary _ _ rfl state

end Server.Session

/-- An engine that does not look at what comes of its request. -/
def careless : Engine Unit where
  attach _ := .ok ()
  handle _ _ := .ask .baseAddress fun _ => .done (.ok .null, ())

/-- A client that has answered another request than the one it will get. -/
def misled : Mailbox :=
  ⟨⟨[], [Message.encode (.eventResponse (.registerData 1))]⟩, true, []⟩

theorem Server.Session.failed_exchange_shows_careless :
    ∃ count, Turn.run Mailbox.line (turn careless) count
        ⟨(Stage.idle ()).received careless (.ok (.command ⟨.eval, []⟩)), none⟩ misled
      = (⟨.ended (.error ⟨"running eval", ["engine ignored a failed event exchange"]⟩) (some ()),
          none⟩, ⟨⟨[], []⟩, true, [.event .baseAddress]⟩) := by
  have other : (⟨.eval, []⟩ : Command).kind ≠ .shutdown := by decide
  obtain ⟨count, ran⟩ := (failed_exchange_shows Mailbox.line).2.2.2.2 careless () other none misled
  have passes : (Message.eventResponse (.registerData 1)).Passes :=
    Message.passes_of_short (by simp) (by decide)
  have received : Mailbox.line.receive ⟨misled.incoming, true, [.event .baseAddress]⟩
      = (.ok (.eventResponse (.registerData 1)), ⟨⟨[], []⟩, true, [.event .baseAddress]⟩) := by
    have taken := Message.takeLine_encode (Nat.lt_succ_of_le passes.short) []
    have read := Message.messageOf_encode passes.transmissible.back
    simp only [Mailbox.line, Mailbox.receive, misled, taken, read]
  have failed : Mailbox.line.exchange .baseAddress false misled
      = (.error (.mismatched (.registerData 1) .baseAddress),
        ⟨⟨[], []⟩, true, [.event .baseAddress]⟩) := by
    have sent : Mailbox.line.send (.event .baseAddress) misled
        = (.ok (), ⟨misled.incoming, true, [.event .baseAddress]⟩) := rfl
    simp only [Line.exchange, sent, received, Bool.false_eq_true, if_false]
    rfl
  refine ⟨count, ran.trans ?_⟩
  simp only [careless, Work.conduct, failed]
  rfl

end DebugBridge
