import DebugBridge.Proofs.Conversation.Transparency
import DebugBridge.Proofs.Server.Conduct
import DebugBridge.Proofs.Server.Expressions

/-!
# What the probe engine asks of a client

A command asks nothing, or the one thing that its expression says. When that is a call that has left
an aggregate in the client's memory, the aggregate is read at once, and that is all. The client may
answer as it likes, as long as every answer is of the category that is asked for.

* `Work.Takes`: the exchanges that work takes, and what it comes to.
* `Query.Course`: the ways in which a query goes.

Results:
1. `Task.Single.takes`: single requests.
2. `Query.course_carryOut`: queries.
3. `Probe.handle_asks`: commands.
-/

namespace DebugBridge

variable {α β σ : Type} {answer : Request → σ → Response × σ} {state between after : σ}
  {earlier later : List (Request × Response)}

/-! ## Work and tasks -/

/-- The exchanges that work takes when every request is answered at once, what it comes to, and the
state of the one who answers. -/
structure Work.Takes (answer : Request → σ → Response × σ) (work : Work α) (state : σ)
    (exchanges : List (Request × Response)) (result : α) (after : σ) : Prop where
  asks : work.exchanges answer state = exchanges
  gives : work.answeredBy answer state = (result, after)

theorem Work.takes_done (result : α) (state : σ) :
    (Work.done result).Takes answer state [] result state :=
  ⟨rfl, rfl⟩

theorem Work.takes_ask {request : Request} {response : Response} {resume : Reply → Work α}
    {result : α} (answered : answer request state = (response, between))
    (rest : (resume (.ok response)).Takes answer between later result after) :
    (Work.ask request resume).Takes answer state ((request, response) :: later) result after := by
  obtain ⟨asks, gives⟩ := rest
  constructor
  · rw [Work.exchanges, answered, ← asks]
  · rw [Work.answeredBy, answered, ← gives]

theorem Work.Takes.bind {work : Work α} {next : α → Work β} {a : α} {b : β}
    (first : work.Takes answer state earlier a between)
    (second : (next a).Takes answer between later b after) :
    (work.bind next).Takes answer state (earlier ++ later) b after := by
  induction work generalizing state earlier with
  | done a' =>
    obtain ⟨rfl, gives⟩ := first
    cases gives
    exact second
  | ask request resume ih =>
    obtain ⟨rfl, gives⟩ := first
    obtain ⟨asks', gives'⟩ := ih _ ⟨rfl, gives⟩
    exact ⟨congrArg (_ :: ·) asks', gives'⟩

/-- What is done with the result may take no further exchanges. -/
theorem Work.Takes.bind_done {work : Work α} {next : α → Work β} {a : α} {b : β}
    (takes : work.Takes answer state earlier a after) (finished : next a = .done b) :
    (work.bind next).Takes answer state earlier b after := by
  have rest : (next a).Takes answer after [] b after := by
    rw [finished]
    exact takes_done b after
  have both := takes.bind rest
  rwa [List.append_nil] at both

namespace Task

variable {task : Task α} {next : α → Task β} {report : Report}

/-- The same of a task. -/
abbrev Takes (answer : Request → σ → Response × σ) (task : Task α) (state : σ)
    (exchanges : List (Request × Response)) (result : Except Report α) (after : σ) : Prop :=
  Work.Takes answer task.run state exchanges result after

theorem takes_pure (a : α) (state : σ) : (pure a : Task α).Takes answer state [] (.ok a) state :=
  Work.takes_done (Except.ok a) state

theorem takes_bind {a : α} {result : Except Report β}
    (first : task.Takes answer state earlier (.ok a) between)
    (second : (next a).Takes answer between later result after) :
    (task >>= next).Takes answer state (earlier ++ later) result after :=
  Work.Takes.bind first second

/-- A task that fails is not gone on with. -/
theorem takes_bind_error (failed : task.Takes answer state earlier (.error report) after) :
    (task >>= next).Takes answer state earlier (.error report) after :=
  Work.Takes.bind_done failed rfl

theorem takes_bind_pure {a : α} {made : α → β}
    (done : task.Takes answer state earlier (.ok a) after) :
    (task >>= fun a => pure (made a)).Takes answer state earlier (.ok (made a)) after :=
  Work.Takes.bind_done done rfl

theorem takes_within (label : String) {result : Except Report α}
    (takes : task.Takes answer state earlier result after) :
    (within label task).Takes answer state earlier (result.mapError (Report.wrap label)) after :=
  Work.Takes.bind_done takes rfl

/-- A single request is answered by an error, or by what is wanted of it. -/
theorem Single.takes {request : Request} {category : α → Response}
    (single : Single task request category)
    (honest : ∀ request state, (answer request state).1.answers request = true) (state : σ) :
    ∃ after,
      (∃ message, task.Takes answer state [(request, .error message)] (.error ⟨message, []⟩)
        after) ∨
      ∃ a, task.Takes answer state [(request, category a)] (.ok a) after := by
  obtain ⟨extract, rfl, extracts⟩ := single.exists_extract
  obtain ⟨response, after, answered⟩ : ∃ response after,
      answer request state = (response, after) := ⟨_, _, rfl⟩
  have answers := honest request state
  rw [answered] at answers
  have takes : (ask request extract).Takes answer state [(request, response)]
      (payload request extract response) after :=
    Work.takes_ask answered (Work.takes_done (payload request extract response) after)
  refine ⟨after, ?_⟩
  rcases (single.answers_iff response).mp answers with ⟨message, rfl⟩ | ⟨a, rfl⟩
  · exact .inl ⟨message, takes⟩
  · rw [single.payload_answer extracts] at takes
    exact .inr ⟨a, takes⟩

/-- A register is at hand. -/
theorem takes_materialize (answer : Request → σ → Response × σ) (value : UInt64)
    (returnType : String) (state : σ) :
    (materialize (.register value returnType)).Takes answer state [] (.ok (.register value)) state :=
  takes_pure (Returned.register value) state

/-- An aggregate is read where it lies; that is answered by an error, or by its octets. -/
theorem takes_readBack
    (honest : ∀ request state, (answer request state).1.answers request = true)
    (address size : UInt64) (returnType : String) (state : σ) :
    ∃ after,
      (∃ message, (materialize (.buffer address size returnType)).Takes answer state
        [(.readMemory address size, .error message)]
        (.error (Report.wrap (readBackLabel address size) ⟨message, []⟩)) after) ∨
      ∃ data, (materialize (.buffer address size returnType)).Takes answer state
        [(.readMemory address size, .memoryData data)] (.ok (.octets data)) after := by
  obtain ⟨after, ⟨message, failed⟩ | ⟨data, read⟩⟩ :=
    (Single.readMemory address size).takes honest state
  · exact ⟨after, .inl ⟨message,
      takes_bind_error (takes_within (readBackLabel address size) failed)⟩⟩
  · exact ⟨after, .inr ⟨data,
      takes_bind_pure (takes_within (readBackLabel address size) read)⟩⟩

end Task

/-! ## Queries -/

namespace Query

variable {query : Query} {category : CallResult → Response}

/-- The event that a query makes. -/
def request : Query → Request
  | .register name => .readRegister name
  | .memory address size => .readMemory address size
  | .frame => .frameInfo
  | .thread => .threadInfo
  | .base => .baseAddress
  | .typeOf name => .variableType name
  | .allocate size => .allocate size
  | .function address arguments returnSize => .callFunction address arguments returnSize
  | .method address receiver arguments returnSize =>
    .callMethod address receiver arguments returnSize
  | .native expression => .evaluate expression

/-- The queries that call, and the answers that say what the call has given back. -/
inductive Calls : Query → (CallResult → Response) → Prop
  | function (address : UInt64) (arguments : List Argument) (returnSize : Option UInt64) :
      Calls (.function address arguments returnSize) .functionResult
  | method (address receiver : UInt64) (arguments : List Argument) (returnSize : Option UInt64) :
      Calls (.method address receiver arguments returnSize) .methodResult

/-- The ways in which a query goes: its exchanges, and what it comes to. -/
inductive Course (query : Query) : List (Request × Response) → Except Report Json → Prop
  | refused (message : String) :
      Course query [(query.request, .error message)] (.error ⟨message, []⟩)
  /-- What is no call is over when it is answered. -/
  | answered {response : Response} {value : Json} :
      (∀ category, ¬ query.Calls category) → (∀ message, response ≠ .error message) →
      Course query [(query.request, response)] (.ok value)
  | register {category : CallResult → Response} (value : UInt64) (returnType : String) :
      query.Calls category →
      Course query [(query.request, category (.register value returnType))]
        (.ok (Probe.result [("value", .natural value)]))
  | readBack {category : CallResult → Response} (address size : UInt64) (returnType : String)
      (data : List UInt8) : query.Calls category →
      Course query
        [(query.request, category (.buffer address size returnType)),
          (.readMemory address size, .memoryData data)]
        (.ok (Probe.result [("bytes", .octets data)]))
  | unread {category : CallResult → Response} (address size : UInt64) (returnType : String)
      (message : String) : query.Calls category →
      Course query
        [(query.request, category (.buffer address size returnType)),
          (.readMemory address size, .error message)]
        (.error (Report.wrap (Task.readBackLabel address size) ⟨message, []⟩))

/-- A query that does not call is a single request. -/
theorem exists_single (plain : ∀ category, ¬ query.Calls category) (probe : Probe) :
    ∃ (α : Type) (task : Task α) (category : α → Response) (shown : α → Json),
      Task.Single task query.request category ∧
        probe.carryOut query = task >>= fun a => pure (shown a) := by
  cases query with
  | register name => exact ⟨_, _, _, _, .readRegister name, rfl⟩
  | memory address size => exact ⟨_, _, _, _, .readMemory address size, rfl⟩
  | frame => exact ⟨_, _, _, _, .frameInfo, rfl⟩
  | thread => exact ⟨_, _, _, _, .threadInfo, rfl⟩
  | base => exact ⟨_, _, _, _, .baseAddress, rfl⟩
  | typeOf name => exact ⟨_, _, _, _, .variableType name, rfl⟩
  | allocate size => exact ⟨_, _, _, _, .allocate size, rfl⟩
  | native expression => exact ⟨_, _, _, _, .evaluate expression, rfl⟩
  | function address arguments returnSize => exact absurd (.function ..) (plain _)
  | method address receiver arguments returnSize => exact absurd (.method ..) (plain _)

/-- A query that calls is a single request, and then what becomes of its answer. -/
theorem Calls.exists_single (calls : query.Calls category) (probe : Probe) :
    ∃ first, Task.Single first query.request category ∧
      probe.carryOut query
        = (first >>= Task.materialize) >>= fun returned => pure (Probe.returned returned) := by
  cases calls with
  | function address arguments returnSize => exact ⟨_, .functionResult .., rfl⟩
  | method address receiver arguments returnSize => exact ⟨_, .methodResult .., rfl⟩

section
variable (honest : ∀ request state, (answer request state).1.answers request = true)
include honest

theorem course_plain (plain : ∀ category, ¬ query.Calls category) (probe : Probe) (state : σ) :
    ∃ exchanges result after,
      (probe.carryOut query).Takes answer state exchanges result after ∧
        query.Course exchanges result := by
  obtain ⟨α, task, category, shown, single, carries⟩ := exists_single plain probe
  rw [carries]
  obtain ⟨after, ⟨message, refused⟩ | ⟨a, takes⟩⟩ := single.takes honest state
  · exact ⟨_, _, after, Task.takes_bind_error refused, .refused message⟩
  · exact ⟨_, _, after, Task.takes_bind_pure takes,
      .answered plain fun message => single.answer_ne_error a message⟩

theorem course_call (calls : query.Calls category) (probe : Probe) (state : σ) :
    ∃ exchanges result after,
      (probe.carryOut query).Takes answer state exchanges result after ∧
        query.Course exchanges result := by
  obtain ⟨first, single, carries⟩ := calls.exists_single probe
  rw [carries]
  obtain ⟨between, ⟨message, refused⟩ | ⟨given, takes⟩⟩ := single.takes honest state
  · exact ⟨_, _, between, Task.takes_bind_error (Task.takes_bind_error refused), .refused message⟩
  cases given with
  | register value returnType =>
    have returned := Task.takes_materialize answer value returnType between
    exact ⟨_, _, between, Task.takes_bind_pure (Task.takes_bind takes returned),
      .register value returnType calls⟩
  | buffer address size returnType =>
    obtain ⟨after, ⟨message, unread⟩ | ⟨data, readBack⟩⟩ :=
      Task.takes_readBack honest address size returnType between
    · exact ⟨_, _, after, Task.takes_bind_error (Task.takes_bind takes unread),
        .unread address size returnType message calls⟩
    · exact ⟨_, _, after, Task.takes_bind_pure (Task.takes_bind takes readBack),
        .readBack address size returnType data calls⟩

theorem course_carryOut (query : Query) (probe : Probe) (state : σ) :
    ∃ exchanges result after,
      (probe.carryOut query).Takes answer state exchanges result after ∧
        query.Course exchanges result := by
  by_cases plain : ∀ category, ¬ query.Calls category
  · exact course_plain honest plain probe state
  · obtain ⟨category, calls⟩ := Classical.not_forall_not.mp plain
    exact course_call honest calls probe state

end

theorem Course.length_le {exchanges : List (Request × Response)} {result : Except Report Json}
    (course : query.Course exchanges result) : exchanges.length ≤ 2 := by
  cases course <;> simp

end Query

/-! ## Commands -/

namespace Probe

variable {command : Command}

/-- The commands that ask the client nothing. -/
inductive Silent (command : Command) : Prop
  | other : command.kind = .functions ∨ command.kind = .methods ∨ command.kind = .shutdown →
      Silent command
  /-- There is no expression, or it is blank. -/
  | blank : (∀ text, command.expression? = some text →
      ∀ c ∈ text.toList, Text.isBlank c = true) → Silent command
  | malformed {text : String} : command.expression? = some text →
      ¬ Query.WellFormed (Text.trim text.toList) → Silent command

/-- The query that the expression of a command makes. -/
def Makes (command : Command) (query : Query) : Prop :=
  ∃ text, command.expression? = some text ∧ Text.trim text.toList ≠ [] ∧
    Query.read (Text.trim text.toList) = .ok query

/-- The work on an expression that makes no query is over before it has begun. -/
theorem evaluate_cases (probe : Probe) (command : Command) :
    (Silent command ∧ ∃ report, probe.evaluate command = throw report) ∨
      ∃ query, Makes command query ∧ probe.evaluate command = probe.carryOut query := by
  unfold evaluate
  cases given : expression? command with
  | none =>
    refine .inl ⟨.blank fun text first => ?_, _, rfl⟩
    unfold expression? at given
    rw [first] at given
    exact Text.trim_eq_nil_iff.mp (by simpa [Option.filter] using given)
  | some expression =>
    obtain ⟨trimmed, visible⟩ := Option.filter_eq_some_iff.mp given
    obtain ⟨text, first, rfl⟩ := Option.map_eq_some_iff.mp trimmed
    dsimp only
    cases read : Query.read (Text.trim text.toList) with
    | error fault =>
      refine .inl ⟨.malformed first fun formed => ?_, _, rfl⟩
      obtain ⟨query, read'⟩ := (Query.read_isOk_iff _).mpr formed
      exact nomatch read.symm.trans read'
    | ok query => exact .inr ⟨query, ⟨text, first, by simpa using visible, read⟩, rfl⟩

/-- A command takes an expression. -/
def Evaluates (command : Command) : Prop :=
  command.kind = .eval ∨ command.kind = .print

theorem Makes.loud {query : Query} (makes : Makes command query) (evaluates : Evaluates command) :
    ¬ Silent command := by
  obtain ⟨text, first, visible, read⟩ := makes
  intro silent
  cases silent with
  | other kind =>
    unfold Evaluates at evaluates
    rcases kind with kind | kind | kind <;> simp [kind] at evaluates
  | blank blank => exact visible (Text.trim_eq_nil_iff.mpr (blank text first))
  | malformed first' malformed =>
    cases first.symm.trans first'
    exact malformed ((Query.read_isOk_iff _).mp ⟨query, read⟩)

theorem handle_of_evaluates (evaluates : Evaluates command) (probe : Probe) :
    probe.handle command = probe.evaluate command := by
  obtain ⟨kind, arguments⟩ := command
  rcases evaluates with rfl | rfl <;> rfl

/-- A command asks what its query asks, or it is silent and asks nothing. -/
theorem handle_cases (probe : Probe) (command : Command) :
    (Silent command ∧ ∃ result, (probe.handle command).run = .done result) ∨
      ¬ Silent command ∧
        ∃ query, Makes command query ∧ probe.handle command = probe.carryOut query := by
  by_cases evaluates : Evaluates command
  · rw [handle_of_evaluates evaluates]
    rcases evaluate_cases probe command with ⟨silent, report, fails⟩ | ⟨query, makes, carries⟩
    · exact .inl ⟨silent, .error report, congrArg ExceptT.run fails⟩
    · exact .inr ⟨makes.loud evaluates, query, makes, carries⟩
  · obtain ⟨kind, arguments⟩ := command
    left
    cases kind with
    | eval => exact absurd (.inl rfl) evaluates
    | print => exact absurd (.inr rfl) evaluates
    | functions => exact ⟨.other (.inl rfl), _, rfl⟩
    | methods => exact ⟨.other (.inr (.inl rfl)), _, rfl⟩
    | shutdown => exact ⟨.other (.inr (.inr rfl)), _, rfl⟩

/-- Whatever the client answers, as long as each answer is of the category that is asked for, a
silent command asks nothing, and any other command goes the course of its query. So at most two
events are ever put, the second of them only to read what a call has left behind. -/
theorem handle_asks (honest : ∀ request state, (answer request state).1.answers request = true)
    (probe : Probe) (command : Command) (state : σ) :
    (Silent command → (probe.handle command).run.exchanges answer state = []) ∧
      (¬ Silent command → ∃ query, Makes command query ∧
        query.Course ((probe.handle command).run.exchanges answer state)
          ((probe.handle command).run.answeredBy answer state).1) ∧
      ((probe.handle command).run.exchanges answer state).length ≤ 2 := by
  rcases handle_cases probe command with ⟨silent, result, done⟩ | ⟨loud, query, makes, carries⟩
  · rw [done]
    exact ⟨fun _ => rfl, fun loud => absurd silent loud, Nat.zero_le 2⟩
  · rw [carries]
    obtain ⟨exchanges, result, after, ⟨asks, gives⟩, course⟩ :=
      Query.course_carryOut honest query probe state
    rw [asks, gives]
    exact ⟨fun silent => absurd silent loud, fun _ => ⟨query, makes, course⟩, course.length_le⟩

/-- A client that has lost what a call has left behind. -/
def forgetful : Request → Unit → Response × Unit
  | .callFunction .., _ => (.functionResult (.ofBuffer 0x7ffff000 3), ())
  | .callMethod .., _ => (.methodResult (.ofBuffer 0x7ffff000 3), ())
  | _, _ => (.error "gone", ())

theorem handle_asks_forgetful :
    (∀ request state, (forgetful request state).1.answers request = true) ∧
      ((⟨"prog"⟩ : Probe).handle ⟨.eval, ["call 0x4100@it int:1 -> 3"]⟩).run.exchanges forgetful ()
        = [] ∧
      ∃ query, Makes ⟨.print, [" call 0x4100 int:1 -> 3 "]⟩ query ∧
        query.Course
          [(.callFunction 0x4100 [⟨"1", .integer⟩] (some 3),
              .functionResult (.ofBuffer 0x7ffff000 3)),
            (.readMemory 0x7ffff000 3, .error "gone")]
          (.error ⟨"reading 3 byte return value at 0x7ffff000", ["gone"]⟩) := by
  have honest : ∀ request state, (forgetful request state).1.answers request = true := by
    intro request state
    cases request <;> rfl
  have malformed : Silent ⟨.eval, ["call 0x4100@it int:1 -> 3"]⟩ := by
    refine .malformed rfl fun formed => ?_
    obtain ⟨query, read⟩ := (Query.read_isOk_iff _).mpr formed
    have unread : (Query.read (Text.trim "call 0x4100@it int:1 -> 3".toList)).toOption = none := by
      decide +kernel
    rw [read] at unread
    cases unread
  have makes : Makes ⟨.print, [" call 0x4100 int:1 -> 3 "]⟩
      (.function 0x4100 [⟨"1", .integer⟩] (some 3)) :=
    ⟨_, rfl, by decide +kernel, Result.eq_ok_of_toOption (by decide +kernel)⟩
  obtain ⟨query, makes', course⟩ :=
    (handle_asks honest ⟨"prog"⟩ ⟨.print, [" call 0x4100 int:1 -> 3 "]⟩ ()).2.1
      (makes.loud (.inr rfl))
  refine ⟨honest, (handle_asks honest ⟨"prog"⟩ _ ()).1 malformed, query, makes', ?_⟩
  exact course

end Probe
end DebugBridge
