import DebugBridge.Conversation.Host
import DebugBridge.Proofs.Conversation.Arrival

/-!
# One connection of a host

Each time a client has done something on a connection of a host, the server does there what it can,
and no other connection matters. So a connection makes a line by itself, `Link.line`.

In between the server waits for the client or has ended (`Calm`). It has been asked to stop only if
the client has done so.

Results:
1. `settle_answers`, `settle_finishes`, `settle_ends`: what the server comes to when something has
   come in.
2. `exists_told`, `receive_carrying`: what a client can find out on saying something and on hearing
   something, whether or not it fits on a line.
3. `Calm.close`: closing a connection asks no server to stop.
-/

namespace DebugBridge

open Server (Stage Ending)

namespace Link

section Line

variable (engine : Engine Probe)

/-- The client says something, and the server does what it can. -/
def send (message : Message) (link : Link) : Except TransportFault Unit × Link :=
  match link.pair.send .left message with
  | .error fault => (.error fault, link)
  | .ok pair => (.ok (), { link with pair }.settle engine)

/-- The client hears something. When there is nothing to hear there never will be. -/
def receive (link : Link) : Incoming × Link :=
  match link.pair.receive? .left with
  | none => (.error .closed, link)
  | some (incoming, pair) => (incoming, { link with pair }.settle engine)

/-- The client leaves. -/
def close (link : Link) : Link :=
  { link with pair := link.pair.drop .left }.settle engine

def line : Line Link := ⟨send engine, receive engine⟩

/-- The server has to wait, or has dropped its end. -/
def Rests (link : Link) : Prop :=
  Meeting.turn? .right (Server.Session.turn engine) link.session link.pair = none

end Line

variable {engine : Engine Probe} {link : Link} {session next : Server.Session Probe}
  {stage later : Stage Probe} {binary : Option String} {pair after : Pair} {incoming : Incoming}
  {message reply : Message} {ending : Ending} {state : Option Probe}

/-! ## The server's turns -/

theorem serve_rests (rests : link.Rests engine) (count : Nat) : link.serve engine count = link := by
  cases count with
  | zero => rfl
  | succ count => rw [serve, rests]

theorem serve_moves
    (moves : Meeting.turn? .right (Server.Session.turn engine) session pair = some (next, after))
    (count : Nat) :
    (⟨session, pair⟩ : Link).serve engine (count + 1)
      = (⟨next, after⟩ : Link).serve engine count := by
  rw [serve, moves]

/-- Once the server rests, more turns change nothing. -/
theorem serve_of_le {count more : Nat} (le : count ≤ more)
    (rests : (link.serve engine count).Rests engine) :
    link.serve engine more = link.serve engine count := by
  induction count generalizing link more with
  | zero => exact serve_rests rests more
  | succ count ih =>
    obtain ⟨more, rfl⟩ := Nat.exists_eq_add_one_of_ne_zero (Nat.ne_zero_of_lt le)
    unfold serve at rests ⊢
    split
    · next moves =>
      rw [moves] at rests
      exact ih (Nat.le_of_succ_le_succ le) rests
    · rfl

/-- There are always turns enough to deal with one thing that has come in. -/
theorem settle_eq (count : Nat) {last : Link} (served : link.serve engine count = last)
    (few : count ≤ 4) (rests : last.Rests engine) : link.settle engine = last := by
  subst served
  refine serve_of_le ?_ rests
  omega

theorem settle_rests (rests : link.Rests engine) : link.settle engine = link :=
  settle_eq 0 (serve_rests rests 0) (Nat.zero_le 4) rests

theorem rests_gone (gone : link.pair.isOpen .right = false) : link.Rests engine :=
  Meeting.turn?_gone gone

theorem rests_receiving (nothing : pair.receive? .right = none) :
    (⟨⟨.receiving stage, binary⟩, pair⟩ : Link).Rests engine :=
  Meeting.turn?_waits (Bridge.turn_receiving engine stage binary) nothing

/-- What comes in makes the server say something and wait again. -/
theorem settle_answers (there : pair.isOpen .right = true)
    (received : pair.receive? .right = some (incoming, .fresh))
    (answers : stage.received engine incoming = .sending reply (.stage later)) :
    (⟨⟨.receiving stage, binary⟩, pair⟩ : Link).settle engine
      = ⟨⟨.receiving later, binary.or (stage.named? incoming)⟩, .carrying .right reply⟩ := by
  refine settle_eq 2 ?_ (by decide)
    (rests_receiving (Pair.receive?_carrying_self .right reply))
  have hears := Meeting.turn?_receive (Bridge.turn_receiving engine stage binary) there received
  rw [serve_moves hears, answers,
    serve_moves (Meeting.turn?_send (Bridge.turn_sending engine reply _ _) .right)]
  rfl

/-- What comes in makes the server say something and leave. -/
theorem settle_finishes (there : pair.isOpen .right = true)
    (received : pair.receive? .right = some (incoming, .fresh))
    (answers : stage.received engine incoming = .sending reply (.finish ending state)) :
    (⟨⟨.receiving stage, binary⟩, pair⟩ : Link).settle engine
      = ⟨⟨.ended ending state, binary.or (stage.named? incoming)⟩,
        (Pair.carrying .right reply).drop .right⟩ := by
  refine settle_eq 3 ?_ (by decide) (rests_gone rfl)
  have hears := Meeting.turn?_receive (Bridge.turn_receiving engine stage binary) there received
  rw [serve_moves hears, answers,
    serve_moves (Meeting.turn?_send (Bridge.turn_sending engine reply _ _) .right),
    serve_moves (Meeting.turn?_ended rfl (Pair.isOpen_carrying .right reply .right))]
  rfl

/-- What comes in makes the server leave. -/
theorem settle_ends (there : pair.isOpen .right = true)
    (received : pair.receive? .right = some (incoming, after)) (there' : after.isOpen .right = true)
    (ends : stage.received engine incoming = .ended ending state) :
    (⟨⟨.receiving stage, binary⟩, pair⟩ : Link).settle engine
      = ⟨⟨.ended ending state, binary.or (stage.named? incoming)⟩, after.drop .right⟩ := by
  refine settle_eq 2 ?_ (by decide) (rests_gone rfl)
  have hears := Meeting.turn?_receive (Bridge.turn_receiving engine stage binary) there received
  rw [serve_moves hears, ends, serve_moves (Meeting.turn?_ended rfl there')]
  rfl

/-! ## Between what the client does -/

/-- The server waits for the client with nothing left to read, or it has ended without having been
asked to stop. -/
inductive Calm : Link → Prop
  | waiting (stage : Stage Probe) (binary : Option String) {pipe : Pipe} :
      pipe.writerOpen = true → Calm ⟨⟨.receiving stage, binary⟩, ⟨.empty, pipe⟩⟩
  | gone {ending : Ending} (state : Option Probe) (binary : Option String) {pair : Pair} :
      ending ≠ .ok .shutdown → pair.isOpen .right = false →
      Calm ⟨⟨.ended ending state, binary⟩, pair⟩

/-- The server has ended with a failure, and nothing is left to hear of it. -/
inductive Lost : Link → Prop
  | intro (report : Report) (state : Option Probe) (binary : Option String) (pipe : Pipe) :
      Lost ⟨⟨.ended (.error report) state, binary⟩, ⟨pipe, Pipe.empty.closeWriter⟩⟩

theorem stopped_ended (other : ending ≠ .ok .shutdown) (state : Option Probe)
    (binary : Option String) (pair : Pair) :
    stopped ⟨⟨.ended ending state, binary⟩, pair⟩ = false := by
  unfold stopped Server.Session.ending?
  split
  · next same =>
    cases same
    exact absurd rfl other
  · rfl

theorem Calm.stopped (calm : link.Calm) : link.stopped = false := by
  cases calm with
  | waiting stage binary there => rfl
  | gone state binary other gone => exact stopped_ended other state binary _

theorem Calm.rests (calm : link.Calm) (engine : Engine Probe) : link.Rests engine := by
  cases calm with
  | waiting stage binary there => exact rests_receiving rfl
  | gone state binary other gone => exact rests_gone gone

theorem Lost.calm (lost : link.Lost) : link.Calm := by
  cases lost with
  | intro report state binary pipe => exact .gone state binary nofun rfl

/-- When the client leaves, the server ends, and not because it was asked to stop. -/
theorem exists_leaving (engine : Engine Probe) (stage : Stage Probe) :
    ∃ ending state, stage.received engine (.error .closed) = .ended ending state
      ∧ ending ≠ .ok .shutdown := by
  cases stage with
  | greeting => exact ⟨_, _, rfl, nofun⟩
  | idle attached => exact ⟨_, _, rfl, nofun⟩
  | asking kind request resume => exact ⟨_, _, rfl, nofun⟩

/-- A line that is too long makes the server fail, whatever it waits for. -/
theorem exists_failing (engine : Engine Probe) (stage : Stage Probe) (limit : UInt64) :
    ∃ report state,
      stage.received engine (.error (.tooLong limit)) = .ended (.error report) state := by
  cases stage with
  | greeting => exact ⟨_, _, rfl⟩
  | idle attached => exact ⟨_, _, rfl⟩
  | asking kind request resume => exact ⟨_, _, rfl⟩

/-- Closing a connection asks no server to stop. -/
theorem Calm.close (calm : link.Calm) (engine : Engine Probe) :
    (link.close engine).stopped = false := by
  cases calm with
  | @waiting stage binary pipe there =>
    obtain ⟨ending, state, ends, other⟩ := exists_leaving engine stage
    have there' : Pair.isOpen ⟨Pipe.empty.closeWriter, pipe.closeReader⟩ .right = true := there
    have closed : Pair.receive? .right ⟨Pipe.empty.closeWriter, pipe.closeReader⟩
        = some (.error .closed, ⟨Pipe.empty.closeWriter, pipe.closeReader⟩) := rfl
    have settled : close engine ⟨⟨.receiving stage, binary⟩, ⟨.empty, pipe⟩⟩ = _ :=
      settle_ends there' closed there' ends
    rw [settled]
    exact stopped_ended other state _ _
  | @gone ending state binary pair other gone =>
    have gone' : (pair.drop .left).isOpen .right = false := gone
    have settled : close engine ⟨⟨.ended ending state, binary⟩, pair⟩ = _ :=
      settle_rests (rests_gone gone')
    rw [settled]
    exact stopped_ended other state binary _

/-! ## What the client does -/

theorem send_fresh (message : Message) (session : Server.Session Probe) :
    send engine message ⟨session, .fresh⟩
      = (.ok (), (⟨session, .carrying .left message⟩ : Link).settle engine) := by
  simp only [send, Pair.send_fresh]

/-- What has been said to a server that waits is heard, or it is too long and the server fails. -/
theorem heard_or_lost (sayable : Bridge.Sayable message) (engine : Engine Probe)
    (stage : Stage Probe) (binary : Option String) :
    (Pair.carrying .left message).receive? .right = some (.ok message, .fresh)
      ∨ ((⟨⟨.receiving stage, binary⟩, .carrying .left message⟩ : Link).settle engine).Lost := by
  by_cases fits : Bridge.Fits message
  · exact .inl (Pair.receive?_carrying (sayable fits) .left)
  · obtain ⟨pipe, there, received⟩ := Pair.receive?_carrying_long (Nat.lt_of_not_le fits) .left
    obtain ⟨report, state, ends⟩ := exists_failing engine stage defaultLimit
    rw [settle_ends rfl received rfl ends]
    exact .inr (.intro report state _ _)

/-- The client says something that the server answers and goes on from. -/
theorem exists_told (sayable : Bridge.Sayable message)
    (answers : stage.received engine (.ok message) = .sending reply (.stage later))
    (binary : Option String) :
    ∃ link, send engine message ⟨⟨.receiving stage, binary⟩, .fresh⟩ = (.ok (), link)
      ∧ (link.Lost
        ∨ link = ⟨⟨.receiving later, binary.or (stage.named? (.ok message))⟩,
          .carrying .right reply⟩) := by
  refine ⟨_, send_fresh message _, ?_⟩
  rcases heard_or_lost sayable engine stage binary with heard | lost
  · exact .inr (settle_answers rfl heard answers)
  · exact .inl lost

/-- The client says something that the server answers and leaves after. -/
theorem exists_told_last (sayable : Bridge.Sayable message)
    (answers : stage.received engine (.ok message) = .sending reply (.finish ending state))
    (binary : Option String) :
    ∃ link, send engine message ⟨⟨.receiving stage, binary⟩, .fresh⟩ = (.ok (), link)
      ∧ (link.Lost
        ∨ link = ⟨⟨.ended ending state, binary.or (stage.named? (.ok message))⟩,
          (Pair.carrying .right reply).drop .right⟩) := by
  refine ⟨_, send_fresh message _, ?_⟩
  rcases heard_or_lost sayable engine stage binary with heard | lost
  · exact .inr (settle_finishes rfl heard answers)
  · exact .inl lost

/-- The client hears what the server has said, or it is too long. The server goes on waiting. -/
theorem receive_carrying (sayable : Bridge.Sayable message) (engine : Engine Probe)
    (stage : Stage Probe) (binary : Option String) :
    receive engine ⟨⟨.receiving stage, binary⟩, .carrying .right message⟩
        = (.ok message, ⟨⟨.receiving stage, binary⟩, .fresh⟩)
      ∨ ∃ link, receive engine ⟨⟨.receiving stage, binary⟩, .carrying .right message⟩
          = (.error (.tooLong defaultLimit), link) ∧ link.Calm := by
  by_cases fits : Bridge.Fits message
  · have received := Pair.receive?_carrying (sayable fits) .right
    left
    unfold receive
    rw [show Pair.receive? .left _ = _ from received]
    exact congrArg (Prod.mk _) (settle_rests (rests_receiving (Pair.receive?_fresh .right)))
  · obtain ⟨pipe, there, received⟩ := Pair.receive?_carrying_long (Nat.lt_of_not_le fits) .right
    have calm : Calm ⟨⟨.receiving stage, binary⟩, ⟨.empty, pipe⟩⟩ := .waiting stage binary there
    right
    refine ⟨_, ?_, calm⟩
    unfold receive
    rw [show Pair.receive? .left _ = _ from received]
    exact congrArg (Prod.mk _) (settle_rests (calm.rests engine))

/-- The server's last word can be heard when it has left. -/
theorem receive_last (sayable : Bridge.Sayable message) (engine : Engine Probe)
    (other : ending ≠ .ok .shutdown) (state : Option Probe) (binary : Option String) :
    ∃ incoming link,
      receive engine ⟨⟨.ended ending state, binary⟩, (Pair.carrying .right message).drop .right⟩
        = (incoming, link)
      ∧ (incoming = .ok message ∨ incoming = .error (.tooLong defaultLimit)) ∧ link.Calm := by
  obtain ⟨incoming, pipe, received, gone, either⟩ : ∃ incoming pipe,
      (⟨⟨[], [message.encode]⟩, false, true⟩ : Pipe).receive? = some (incoming, pipe)
        ∧ pipe.writerOpen = false
        ∧ (incoming = .ok message ∨ incoming = .error (.tooLong defaultLimit)) := by
    by_cases fits : Bridge.Fits message
    · exact ⟨_, _, (sayable fits).transmissible.receive? [] false true, rfl, .inl rfl⟩
    · exact ⟨_, _, Message.receive?_long (Nat.lt_of_not_le fits) [] false true, rfl, .inr rfl⟩
  have heard : Pair.receive? .left ((Pair.carrying .right message).drop .right)
      = some (incoming, ⟨Pipe.empty.closeReader, pipe⟩) := congrArg (Option.map _) received
  have calm : Calm ⟨⟨.ended ending state, binary⟩, ⟨Pipe.empty.closeReader, pipe⟩⟩ :=
    .gone state binary other gone
  refine ⟨incoming, _, ?_, either, calm⟩
  unfold receive
  rw [heard]
  exact congrArg (Prod.mk _) (settle_rests (calm.rests engine))

theorem Lost.receive (lost : link.Lost) (engine : Engine Probe) :
    link.receive engine = (.error .closed, link) := by
  cases lost with
  | intro report state binary pipe =>
    exact congrArg (Prod.mk _) (settle_rests (rests_gone rfl))

/-! ## A server that has been asked to stop -/

theorem turn_stopped (engine : Engine Probe) (stopped : link.stopped = true) :
    Server.Session.turn engine link.session = .ended := by
  unfold Link.stopped Server.Session.ending? at stopped
  unfold Server.Session.turn
  cases phase : link.session.phase with
  | ended ending state => rfl
  | receiving stage =>
    rw [phase] at stopped
    cases stopped
  | sending message next =>
    rw [phase] at stopped
    cases stopped

theorem stopped_serve (stopped : link.stopped = true) (count : Nat) :
    (link.serve engine count).stopped = true := by
  induction count generalizing link with
  | zero => exact stopped
  | succ count ih =>
    unfold serve
    split
    · next session pair moves =>
      refine ih ?_
      rw [Meeting.eq_of_turn?_ended (turn_stopped engine stopped) moves]
      exact stopped
    · exact stopped

theorem stopped_send (stopped : link.stopped = true) (message : Message) :
    (link.send engine message).2.stopped = true := by
  have kept : ∀ pair, Link.stopped ⟨link.session, pair⟩ = true := fun _ => stopped
  unfold send
  split
  · exact stopped
  · exact stopped_serve (kept _) _

theorem stopped_receive (stopped : link.stopped = true) :
    (link.receive engine).2.stopped = true := by
  have kept : ∀ pair, Link.stopped ⟨link.session, pair⟩ = true := fun _ => stopped
  unfold receive
  split
  · exact stopped
  · exact stopped_serve (kept _) _

/-- It stays so, whatever the client does. -/
theorem stopped_run {α : Type} {turn : α → Turn α} (stopped : link.stopped = true) (count : Nat)
    (party : α) : (Turn.run (line engine) turn count party link).2.stopped = true := by
  induction count generalizing link party with
  | zero => exact stopped
  | succ count ih =>
    unfold Turn.run Turn.step?
    cases turn party with
    | send message next => exact ih (stopped_send stopped message) _
    | receive next => exact ih (stopped_receive stopped) _
    | ended => exact stopped

end Link

/-! ## One connection among others -/

namespace Host

variable {number : Nat} {link : Link} {host : Host}

/-- The host with one connection in another state. -/
def put (number : Nat) (link : Link) (host : Host) : Host :=
  { host with links := host.links.set number link }

theorem put_put (number : Nat) (first second : Link) (host : Host) :
    (host.put number first).put number second = host.put number second := by
  unfold put
  rw [List.set_set]

theorem put_same (there : host.links[number]? = some link) : host.put number link = host := by
  obtain ⟨within, rfl⟩ := List.getElem?_eq_some_iff.mp there
  unfold put
  rw [List.set_getElem_self]

theorem links_put (there : host.links[number]? = some link) (other : Link) :
    (host.put number other).links[number]? = some other := by
  obtain ⟨within, -⟩ := List.getElem?_eq_some_iff.mp there
  exact List.getElem?_set_self within

theorem update_eq (running : (link.settle host.engine).stopped = false) :
    host.update number link = host.put number (link.settle host.engine) := by
  unfold update put
  simp only [running, Bool.not_false, Bool.or_true, Bool.and_true]

theorem send_eq (there : host.links[number]? = some link) (message : Message)
    (running : (link.send host.engine message).2.stopped = false) :
    host.send number message
      = ((link.send host.engine message).1, host.put number (link.send host.engine message).2) := by
  unfold Link.send at running ⊢
  unfold send
  cases sent : link.pair.send .left message with
  | error fault =>
    simp only [there, sent]
    rw [put_same there]
  | ok pair =>
    simp only [sent] at running
    simp only [there, sent]
    rw [update_eq running]

theorem receive_eq (there : host.links[number]? = some link)
    (running : (link.receive host.engine).2.stopped = false) :
    host.receive number
      = ((link.receive host.engine).1, host.put number (link.receive host.engine).2) := by
  unfold Link.receive at running ⊢
  unfold receive
  cases received : link.pair.receive? .left with
  | none =>
    simp only [there, received]
    rw [put_same there]
  | some heard =>
    obtain ⟨incoming, pair⟩ := heard
    simp only [received] at running
    simp only [there, received]
    rw [update_eq running]

theorem close_eq (there : host.links[number]? = some link)
    (running : (link.close host.engine).stopped = false) :
    host.close number = host.put number (link.close host.engine) := by
  unfold close
  rw [there]
  exact update_eq running

/-- A conversation on one connection is the same as by itself, unless the server is asked to
stop. -/
theorem run_eq {α : Type} (turn : α → Turn α) (there : host.links[number]? = some link)
    (count : Nat) (party : α)
    (running : (Turn.run (Link.line host.engine) turn count party link).2.stopped = false) :
    Turn.run (network.line number) turn count party host
      = ((Turn.run (Link.line host.engine) turn count party link).1,
        host.put number (Turn.run (Link.line host.engine) turn count party link).2) := by
  induction count generalizing party link host with
  | zero => exact congrArg (Prod.mk _) (put_same there).symm
  | succ count ih =>
    -- Had the server been asked to stop during the first turn, it would have stopped at the end.
    have earlier : ∀ {party : α} {between : Link},
        (Turn.run (Link.line host.engine) turn count party between).2.stopped = false →
        between.stopped = false := by
      intro party between later
      refine Bool.eq_false_iff.mpr fun stopped => ?_
      rw [Link.stopped_run stopped] at later
      cases later
    cases does : turn party with
    | send message next =>
      rw [Turn.run_send does] at running ⊢
      rw [Turn.run_send does]
      have sent : (network.line number).send message host = _ :=
        send_eq there message (earlier running)
      rw [sent]
      have onward := ih (links_put there _) (next (link.send host.engine message).1) running
      rw [put_put] at onward
      exact onward
    | receive next =>
      rw [Turn.run_receive does] at running ⊢
      rw [Turn.run_receive does]
      have received : (network.line number).receive host = _ := receive_eq there (earlier running)
      rw [received]
      have onward := ih (links_put there _) (next (link.receive host.engine).1) running
      rw [put_put] at onward
      exact onward
    | ended =>
      simp only [Turn.run, Turn.step?_ended does]
      rw [put_same there]

end Host
end DebugBridge
