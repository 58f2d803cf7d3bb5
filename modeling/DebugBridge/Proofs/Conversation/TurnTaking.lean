import DebugBridge.Proofs.Conversation.Arrival

/-!
# Taking turns

A client that opens a session, has commands carried out and leaves, and a server with the probe
engine, take turns: whatever the debugger, the binary and the commands are, and whichever side is
faster.

* `InTurn`: that they have taken turns in a history, and where this leaves them.

Result: `takes_turns`, of every state that can be reached and every way in which it can be reached.
-/

namespace DebugBridge.Bridge

variable {σ : Type}

/-- What holds of a client and a server, and of all that they have done. -/
structure InTurn (backend : Backend σ) (isFile : String → Bool) (history : History)
    (bridge : State σ) : Prop where
  /-- One message at most has been sent and not received, and its line is all that can be read. -/
  single : ∃ left right : List Message, left.length + right.length ≤ 1
    ∧ said (history.acts .left) = heard (history.acts .right) ++ left
    ∧ said (history.acts .right) = heard (history.acts .left) ++ right
    ∧ bridge.pair.fromLeft.unread = left.flatMap Message.encode
    ∧ bridge.pair.fromRight.unread = right.flatMap Message.encode
  /-- The two do not wait for each other. -/
  unblocked : ¬((∃ onward, Client.Session.turn backend bridge.left = .receive onward)
    ∧ (∃ onward, Server.Session.turn (Probe.engine isFile) bridge.right = .receive onward)
    ∧ ∀ side, bridge.pair.isOpen side = true ∧ (bridge.pair.outgoing side).unread = [])
  /-- They stop only when both are gone. -/
  halts : Meeting.Over (Client.Session.turn backend)
    (Server.Session.turn (Probe.engine isFile)) bridge → ∀ side, bridge.pair.isOpen side = false
  /-- From an event to what the server says next, the client receives the event and sends one
  response to it, and the server receives that. -/
  served : ∀ (before during later : History) request message outcome,
    history = before ++ (.right, .act (.sent (.event request) (.ok ()))) :: during
      ++ (.right, .act (.sent message outcome)) :: later →
    (∀ message outcome, (.right, .act (.sent message outcome)) ∉ during) →
    ∃ response, response.answers request = true
      ∧ during = [(.left, .act (.received (.ok (.event request)))),
        (.left, .act (.sent (.eventResponse response) (.ok ()))),
        (.right, .act (.received (.ok (.eventResponse response))))]
  /-- One command at most has been sent and not answered. -/
  unanswered : (outstanding history).length ≤ 1

/-- Whoever goes first, and whatever the debugger, the binary and the commands are, as long as no
line is too long: in every state that a bridge can reach, and of every way in which it can be
reached, the two parties have taken turns. -/
theorem takes_turns (backend : Backend σ) (isFile : String → Bool) (binary : Path) (debugger : σ)
    (commands : List Command) :
    (∀ bridge : State σ,
        Meeting.Reaches (Client.Session.turn backend) (Server.Session.turn (Probe.engine isFile))
          (.start (.start binary debugger commands) .start) bridge
        ↔ ∃ history, Happens backend (Probe.engine isFile) binary debugger commands history bridge)
      ∧ ∀ history bridge,
        Happens backend (Probe.engine isFile) binary debugger commands history bridge →
        (∀ side message, message ∈ said (history.acts side) → Fits message) →
        InTurn backend isFile history bridge := by
  constructor
  · intro bridge
    constructor
    · intro reaches
      exact reaches.exists_run .start
    · rintro ⟨history, run⟩
      exact run.reaches
  intro history bridge run fits
  have transmissible := transmissible_of_fits run fits
  obtain ⟨ordered, pair, -⟩ := (run.pair rfl).sound transmissible
  obtain ⟨situation, answered⟩ := situation_of_run run transmissible
  obtain ⟨messages, commands⟩ := situation.few
  have halts : Meeting.Over (Client.Session.turn backend)
      (Server.Session.turn (Probe.engine isFile)) bridge →
      ∀ side, bridge.pair.isOpen side = false := by
    intro finished side
    rw [pair, Pair.isOpen_between, situation.gone ordered pair transmissible finished side]
    rfl
  refine ⟨⟨history.underWay .left, history.underWay .right, messages, (ordered .left).symm,
    (ordered .right).symm, ?_, ?_⟩, ?_, halts, ?_, commands⟩
  · rw [pair]
    exact history.unread_road .left
  · rw [pair]
    exact history.unread_road .right
  · -- If both waited, none could take a turn, so both would be gone.
    rintro ⟨⟨onward, receives⟩, ⟨onward', receives'⟩, idle⟩
    have closed := halts (Meeting.over_of_waiting ordered pair receives receives' idle) .left
    rw [(idle .left).1] at closed
    cases closed
  · intro before during later request message outcome eq silent
    exact answered _ message outcome later eq request during (sinceEvent?_append silent)

/-- What is reported of where the program was loaded. -/
def loaded : Message :=
  .complete (Probe.result
    [("binary", .string "/bin/true"), ("base_address", .natural 93824992231424)])

/-- A command in which one event is put. -/
def oneEvent : History :=
  [(.left, .act (.sent (.init "/bin/true") (.ok ()))),
    (.right, .act (.received (.ok (.init "/bin/true")))),
    (.right, .act (.sent .initAck (.ok ()))),
    (.left, .act (.received (.ok .initAck))),
    (.left, .act (.sent (.command ⟨.eval, ["base"]⟩) (.ok ()))),
    (.right, .act (.received (.ok (.command ⟨.eval, ["base"]⟩)))),
    (.right, .act (.sent (.event .baseAddress) (.ok ()))),
    (.left, .act (.received (.ok (.event .baseAddress)))),
    (.left, .act (.sent (.eventResponse (.baseAddress 93824992231424)) (.ok ()))),
    (.right, .act (.received (.ok (.eventResponse (.baseAddress 93824992231424))))),
    (.right, .act (.sent loaded (.ok ()))),
    (.left, .act (.received (.ok loaded))),
    (.left, .dropped), (.right, .act (.received (.error .closed))), (.right, .dropped)]

theorem takes_turns_oneEvent :
    (∀ side message, message ∈ said (oneEvent.acts side) → Fits message)
      ∧ ∃ bridge, Happens Simulator.backend (Probe.engine fun _ => true) (.ofText "/bin/true")
          Simulator.fresh [⟨.eval, ["base"]⟩] oneEvent bridge
        ∧ InTurn Simulator.backend (fun _ => true) oneEvent bridge := by
  have fits : ∀ side message, message ∈ said (oneEvent.acts side) → Fits message := by
    intro side
    cases side with
    | left => decide +kernel
    | right => decide +kernel
  have onward : ∀ count {bridge},
      Happens Simulator.backend (Probe.engine fun _ => true) (.ofText "/bin/true") Simulator.fresh
        [⟨.eval, ["base"]⟩] (oneEvent.take count) bridge →
      ∀ side message, message ∈ said (History.acts (oneEvent.take count) side) →
        message.Transmissible := by
    intro count bridge run
    refine transmissible_of_fits run fun side message sent => fits side message ?_
    rw [← List.take_append_drop count oneEvent]
    exact History.said_acts_append sent
  have named : Happens Simulator.backend (Probe.engine fun _ => true) (.ofText "/bin/true")
      Simulator.fresh [⟨.eval, ["base"]⟩] (oneEvent.take 1) ⟨_, _, History.between (oneEvent.take 1)⟩ :=
    Meeting.Run.left .start rfl (onward 0 .start) rfl (.sent rfl) (.sent rfl)
  have greeted := named.right rfl (onward 1 named) rfl (.received rfl) (.received rfl)
  have accepted := greeted.right rfl (onward 2 greeted) rfl (.sent rfl) (.sent rfl)
  have opened := accepted.left rfl (onward 3 accepted) rfl (.received rfl) (.received rfl)
  have commanded := opened.left rfl (onward 4 opened) rfl (.sent rfl) (.sent rfl)
  have taken := commanded.right rfl (onward 5 commanded) rfl (.received rfl) (.received rfl)
  have asked := taken.right rfl (onward 6 taken) rfl (.sent rfl) (.sent rfl)
  have heard := asked.left rfl (onward 7 asked) rfl (.received rfl) (.received rfl)
  have answered := heard.left rfl (onward 8 heard) rfl (.sent rfl) (.sent rfl)
  have resumed := answered.right rfl (onward 9 answered) rfl (.received rfl) (.received rfl)
  have concluded := resumed.right rfl (onward 10 resumed) rfl (.sent rfl) (.sent rfl)
  have settled := concluded.left rfl (onward 11 concluded) rfl (.received rfl) (.received rfl)
  have left := settled.left rfl (onward 12 settled) rfl (.ended rfl) .dropped
  have noticed := left.right rfl (onward 13 left) rfl (.received rfl) (.closed rfl rfl)
  have finished := noticed.right rfl (onward 14 noticed) rfl (.ended rfl) .dropped
  exact ⟨fits, _, finished, (takes_turns ..).2 _ _ finished fits⟩

end DebugBridge.Bridge
