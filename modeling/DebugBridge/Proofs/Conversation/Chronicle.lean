import DebugBridge.Proofs.Conversation.Delivery
import DebugBridge.Proofs.Conversation.Meeting

/-!
# What has happened in a meeting

A run of a meeting with its history: in every step a side does what its turn says. A step falls
apart into what the party makes of a deed (`Turn.Takes`) and what the deed is to the pair
(`Pair.Step`), so all that is known of pairs holds of the histories of meetings.

Results:
1. `Reaches.exists_run`, `Run.reaches`: whatever can be reached has a history, and only that.
2. `Run.pair`: the history is one of the pair.
3. `turn?_eq_none_iff`: who cannot take a turn.
-/

namespace DebugBridge

variable {α β γ : Type}

/-! ## Deeds -/

/-- What a turn at an end of a pair is, once it can be taken. -/
def Turn.deed? (side : Side) (pair : Pair) : Turn γ → Option Deed
  | .send message _ => some (.act (.sent message ((pair.send side message).map fun _ => ())))
  | .receive _ => (pair.receive? side).map fun (incoming, _) => .act (.received incoming)
  | .ended => some .dropped

/-- What a party makes of a deed in its turn. -/
inductive Turn.Takes (turn : γ → Turn γ) (party : γ) : Deed → γ → Prop
  | sent {message : Message} {next : Except TransportFault Unit → γ}
      {outcome : Except TransportFault Unit} : turn party = .send message next →
      Takes turn party (.act (.sent message outcome)) (next outcome)
  | received {next : Incoming → γ} {incoming : Incoming} : turn party = .receive next →
      Takes turn party (.act (.received incoming)) (next incoming)
  | ended : turn party = .ended → Takes turn party .dropped party

/-! ## What a party has to do -/

namespace Turn.Takes

variable {turn : γ → Turn γ} {party next : γ} {side : Side} {history : History} {deed : Deed}
  {message : Message}

theorem exists_send {outcome : Except TransportFault Unit}
    (takes : Takes turn party (.act (.sent message outcome)) next) :
    ∃ onward, turn party = .send message onward ∧ next = onward outcome := by
  cases takes with
  | sent sends => exact ⟨_, sends, rfl⟩

theorem sent_due (takes : Takes turn party deed next) {onward : Except TransportFault Unit → γ}
    (sends : turn party = .send message onward) (due : deed.Due history side) :
    history.gone side.other = false ∧ deed = .act (.sent message (.ok ())) ∧ next = onward (.ok ())
      ∨ history.gone side.other = true ∧ deed = .act (.sent message (.error .disconnected))
        ∧ next = onward (.error .disconnected) := by
  cases takes with
  | sent eq =>
    rw [sends] at eq
    cases eq
    cases due with
    | sent there => exact .inl ⟨there, rfl, rfl⟩
    | unsent gone => exact .inr ⟨gone, rfl, rfl⟩
  | received eq => rw [sends] at eq; cases eq
  | ended eq => rw [sends] at eq; cases eq

/-- To an end that exists, a party sends without failure. -/
theorem sent_there (takes : Takes turn party deed next) {onward : Except TransportFault Unit → γ}
    (sends : turn party = .send message onward) (due : deed.Due history side)
    (there : history.gone side.other = false) :
    deed = .act (.sent message (.ok ())) ∧ next = onward (.ok ()) := by
  rcases takes.sent_due sends due with ⟨-, done⟩ | ⟨gone, -⟩
  · exact done
  · rw [there] at gone
    cases gone

theorem received_due (takes : Takes turn party deed next) {onward : Incoming → γ}
    (receives : turn party = .receive onward) (due : deed.Due history side) :
    (∃ message later, history.underWay side.other = message :: later
        ∧ deed = .act (.received (.ok message)) ∧ next = onward (.ok message))
      ∨ history.underWay side.other = [] ∧ history.gone side.other = true
        ∧ deed = .act (.received (.error .closed)) ∧ next = onward (.error .closed) := by
  cases takes with
  | sent eq => rw [receives] at eq; cases eq
  | received eq =>
    rw [receives] at eq
    cases eq
    cases due with
    | received under => exact .inl ⟨_, _, under, rfl, rfl⟩
    | closed gone under => exact .inr ⟨under, gone, rfl, rfl⟩
  | ended eq => rw [receives] at eq; cases eq

/-- What is under way is what comes in. -/
theorem received_message (takes : Takes turn party deed next) {onward : Incoming → γ}
    (receives : turn party = .receive onward) (due : deed.Due history side)
    (under : history.underWay side.other = [message]) :
    deed = .act (.received (.ok message)) ∧ next = onward (.ok message) := by
  rcases takes.received_due receives due with ⟨message', later, under', done⟩ | ⟨under', -⟩
  · rw [under] at under'
    cases under'
    exact done
  · rw [under] at under'
    cases under'

/-- Nothing is under way, so what comes in is that the other end is gone. -/
theorem received_closed (takes : Takes turn party deed next) {onward : Incoming → γ}
    (receives : turn party = .receive onward) (due : deed.Due history side)
    (under : history.underWay side.other = []) :
    history.gone side.other = true ∧ deed = .act (.received (.error .closed))
      ∧ next = onward (.error .closed) := by
  rcases takes.received_due receives due with ⟨message', later, under', -⟩ | ⟨-, done⟩
  · rw [under] at under'
    cases under'
  · exact done

/-- A party that waits for an end that exists does nothing. -/
theorem not_waiting (takes : Takes turn party deed next) {onward : Incoming → γ}
    (receives : turn party = .receive onward) (due : deed.Due history side)
    (under : history.underWay side.other = []) (there : history.gone side.other = false) :
    False := by
  obtain ⟨gone, -⟩ := takes.received_closed receives due under
  rw [there] at gone
  cases gone

theorem dropped (takes : Takes turn party deed next) (ended : turn party = .ended) :
    deed = .dropped ∧ next = party := by
  cases takes with
  | sent eq => rw [ended] at eq; cases eq
  | received eq => rw [ended] at eq; cases eq
  | ended _ => exact ⟨rfl, rfl⟩

end Turn.Takes

namespace Meeting

variable {turnLeft : α → Turn α} {turnRight : β → Turn β} {first meeting next last : Meeting α β}

/-- What a turn of a side is. -/
def deed? (turnLeft : α → Turn α) (turnRight : β → Turn β) (side : Side) (meeting : Meeting α β) :
    Option Deed :=
  match side with
  | .left => (turnLeft meeting.left).deed? .left meeting.pair
  | .right => (turnRight meeting.right).deed? .right meeting.pair

/-- Turns of either side, and what has been done in them. -/
inductive Run (turnLeft : α → Turn α) (turnRight : β → Turn β) (first : Meeting α β) :
    History → Meeting α β → Prop
  | start : Run turnLeft turnRight first [] first
  | step {history : History} {meeting next : Meeting α β} {side : Side} {deed : Deed} :
      Run turnLeft turnRight first history meeting →
      deed? turnLeft turnRight side meeting = some deed →
      step? turnLeft turnRight side meeting = some next →
      Run turnLeft turnRight first (history ++ [(side, deed)]) next

/-! ## Turns and steps -/

section Turn

variable {turn : γ → Turn γ} {party next : γ} {side : Side} {pair after : Pair} {deed : Deed}

theorem exists_deed (moves : turn? side turn party pair = some (next, after)) :
    ∃ deed, (turn party).deed? side pair = some deed := by
  unfold turn? at moves
  cases eq : turn party with
  | send message onward => exact ⟨_, rfl⟩
  | receive onward =>
    cases received : pair.receive? side with
    | none => simp [eq, received] at moves
    | some heard => exact ⟨_, by rw [Turn.deed?, received]; rfl⟩
  | ended => exact ⟨_, rfl⟩

/-- A turn is a step of the pair, and the party goes on as the turn says. -/
theorem takes_of_turn? (moves : turn? side turn party pair = some (next, after))
    (does : (turn party).deed? side pair = some deed) :
    Turn.Takes turn party deed next ∧ Pair.Step side pair deed after := by
  unfold turn? at moves
  split at moves
  · next isOpen =>
    cases eq : turn party with
    | send message onward =>
      simp only [eq] at moves does
      cases sends : pair.send side message with
      | ok pair' =>
        simp only [sends] at moves
        rw [Turn.deed?, sends] at does
        cases moves
        cases does
        exact ⟨.sent eq, .sent isOpen sends⟩
      | error fault =>
        simp only [sends] at moves
        rw [Turn.deed?, sends] at does
        cases moves
        cases does
        exact ⟨.sent eq, .unsent isOpen sends⟩
    | receive onward =>
      simp only [eq] at moves does
      cases receives : pair.receive? side with
      | none => simp [receives] at moves
      | some heard =>
        obtain ⟨incoming, pair'⟩ := heard
        rw [receives] at moves
        rw [Turn.deed?, receives] at does
        cases moves
        cases does
        exact ⟨.received eq, .received isOpen receives⟩
    | ended =>
      simp only [eq] at moves does
      cases moves
      cases does
      exact ⟨.ended eq, .dropped isOpen⟩
  · cases moves

/-- And such a step can be taken. -/
theorem turn?_of_takes (takes : Turn.Takes turn party deed next)
    (step : Pair.Step side pair deed after) :
    turn? side turn party pair = some (next, after)
      ∧ (turn party).deed? side pair = some deed := by
  unfold turn? Turn.deed?
  cases step with
  | sent isOpen sends =>
    obtain ⟨onward, eq, rfl⟩ := takes.exists_send
    rw [if_pos isOpen, eq]
    simp only [sends, Except.map, and_self]
  | unsent isOpen sends =>
    obtain ⟨onward, eq, rfl⟩ := takes.exists_send
    rw [if_pos isOpen, eq]
    simp only [sends, Except.map, and_self]
  | received isOpen receives =>
    cases takes with
    | received eq =>
      rw [if_pos isOpen, eq]
      simp only [receives]
      exact ⟨rfl, rfl⟩
  | dropped isOpen =>
    cases takes with
    | ended eq =>
      rw [if_pos isOpen, eq]
      exact ⟨rfl, rfl⟩

/-- A side is gone, or it waits for a message that is not under way from an end that exists. -/
theorem turn?_eq_none_iff {history : History} (ordered : history.Ordered)
    (transmissible : ∀ message, message ∈ history.underWay side.other → message.Transmissible) :
    turn? side turn party history.between = none
      ↔ history.gone side = true
        ∨ (∃ onward, turn party = .receive onward) ∧ history.underWay side.other = []
          ∧ history.gone side.other = false := by
  unfold turn?
  rw [Pair.isOpen_between]
  cases gone : history.gone side with
  | true => simp
  | false =>
    have receives := Pair.receive?_between ordered transmissible
    cases eq : turn party with
    | send message onward =>
      cases sends : history.between.send side message <;> simp [sends]
    | receive onward =>
      rw [receives]
      cases under : history.underWay side.other with
      | nil => cases there : history.gone side.other <;> simp
      | cons message later => simp
    | ended => simp

end Turn

/-- Two parties that wait for each other can go on no more. -/
theorem over_of_waiting {history : History} {onward : Incoming → α} {onward' : Incoming → β}
    (ordered : history.Ordered) (pair : meeting.pair = history.between)
    (receives : turnLeft meeting.left = .receive onward)
    (receives' : turnRight meeting.right = .receive onward')
    (idle : ∀ side, meeting.pair.isOpen side = true ∧ (meeting.pair.outgoing side).unread = []) :
    Over turnLeft turnRight meeting := by
  rw [pair] at idle
  have there : ∀ side, history.gone side = false := by
    intro side
    simpa [Pair.isOpen_between] using (idle side).1
  have nothing : ∀ side, history.underWay side = [] := by
    intro side
    apply History.underWay_eq_nil
    rw [← Pair.outgoing_between]
    exact (idle side).2
  have stuck : ∀ {γ : Type} {turn : γ → Turn γ} {party : γ} {onward : Incoming → γ} (side : Side),
      turn party = .receive onward → turn? side turn party meeting.pair = none := by
    intro γ turn party onward side receives
    rw [pair, turn?_eq_none_iff ordered (by simp [nothing])]
    exact .inr ⟨⟨onward, receives⟩, nothing _, there _⟩
  intro side
  cases side with
  | left => rw [step?, stuck .left receives, Option.map_none]
  | right => rw [step?, stuck .right receives', Option.map_none]

/-! ## Histories -/

variable {history : History} {side : Side} {deed : Deed}

theorem exists_deed?_of_step? (moves : step? turnLeft turnRight side meeting = some next) :
    ∃ deed, deed? turnLeft turnRight side meeting = some deed := by
  cases side with
  | left =>
    obtain ⟨⟨party, after⟩, turned, -⟩ := Option.map_eq_some_iff.mp moves
    exact exists_deed turned
  | right =>
    obtain ⟨⟨party, after⟩, turned, -⟩ := Option.map_eq_some_iff.mp moves
    exact exists_deed turned

/-- In a step of one side, that party goes on as its turn says, and the other stays as it is. -/
theorem takes_of_step? (moves : step? turnLeft turnRight side meeting = some next)
    (does : deed? turnLeft turnRight side meeting = some deed) :
    Pair.Step side meeting.pair deed next.pair
      ∧ (side = .left ∧ Turn.Takes turnLeft meeting.left deed next.left
          ∧ next.right = meeting.right
        ∨ side = .right ∧ Turn.Takes turnRight meeting.right deed next.right
          ∧ next.left = meeting.left) := by
  cases side with
  | left =>
    obtain ⟨⟨party, after⟩, turned, rfl⟩ := Option.map_eq_some_iff.mp moves
    obtain ⟨takes, step⟩ := takes_of_turn? turned does
    exact ⟨step, .inl ⟨rfl, takes, rfl⟩⟩
  | right =>
    obtain ⟨⟨party, after⟩, turned, rfl⟩ := Option.map_eq_some_iff.mp moves
    obtain ⟨takes, step⟩ := takes_of_turn? turned does
    exact ⟨step, .inr ⟨rfl, takes, rfl⟩⟩

/-- The history of a meeting is that of its pair. -/
theorem Run.pair (run : Run turnLeft turnRight first history meeting)
    (fresh : first.pair = .fresh) : Pair.Run history meeting.pair := by
  induction run with
  | start => exact fresh ▸ .fresh
  | step _ does moves ih => exact ih.step (takes_of_step? moves does).1

/-- A party does what is due and in its turn. -/
theorem Run.left {right : β} {left left' : α}
    (run : Run turnLeft turnRight first history ⟨left, right, history.between⟩)
    (fresh : first.pair = .fresh)
    (transmissible : ∀ side message, message ∈ said (history.acts side) → message.Transmissible)
    (present : history.gone .left = false) (takes : Turn.Takes turnLeft left deed left')
    (due : deed.Due history .left) :
    Run turnLeft turnRight first (history ++ [(.left, deed)])
      ⟨left', right, History.between (history ++ [(.left, deed)])⟩ := by
  obtain ⟨ordered, -, -⟩ := (run.pair fresh).sound transmissible
  obtain ⟨turned, does⟩ := turn?_of_takes takes (.of_due ordered
    (fun message under => transmissible _ message (History.said_of_underWay under)) present due)
  have moves : step? turnLeft turnRight .left ⟨left, right, history.between⟩
      = some ⟨left', right, History.between (history ++ [(.left, deed)])⟩ := by
    rw [step?, turned]
    rfl
  exact run.step does moves

theorem Run.right {right right' : β} {left : α}
    (run : Run turnLeft turnRight first history ⟨left, right, history.between⟩)
    (fresh : first.pair = .fresh)
    (transmissible : ∀ side message, message ∈ said (history.acts side) → message.Transmissible)
    (present : history.gone .right = false) (takes : Turn.Takes turnRight right deed right')
    (due : deed.Due history .right) :
    Run turnLeft turnRight first (history ++ [(.right, deed)])
      ⟨left, right', History.between (history ++ [(.right, deed)])⟩ := by
  obtain ⟨ordered, -, -⟩ := (run.pair fresh).sound transmissible
  obtain ⟨turned, does⟩ := turn?_of_takes takes (.of_due ordered
    (fun message under => transmissible _ message (History.said_of_underWay under)) present due)
  have moves : step? turnLeft turnRight .right ⟨left, right, history.between⟩
      = some ⟨left, right', History.between (history ++ [(.right, deed)])⟩ := by
    rw [step?, turned]
    rfl
  exact run.step does moves

theorem Reaches.snoc (reaches : Reaches turnLeft turnRight first meeting)
    (moves : step? turnLeft turnRight side meeting = some next) :
    Reaches turnLeft turnRight first next := by
  induction reaches with
  | refl _ => exact .step side moves (.refl next)
  | step side' moves' _ ih => exact .step side' moves' (ih moves)

theorem Run.reaches (run : Run turnLeft turnRight first history meeting) :
    Reaches turnLeft turnRight first meeting := by
  induction run with
  | start => exact .refl first
  | step _ _ moves ih => exact ih.snoc moves

/-- Whatever can be reached has a history. -/
theorem Reaches.exists_run (reaches : Reaches turnLeft turnRight meeting last)
    (run : Run turnLeft turnRight first history meeting) :
    ∃ history, Run turnLeft turnRight first history last := by
  induction reaches generalizing history with
  | refl _ => exact ⟨history, run⟩
  | step side moves _ ih =>
    obtain ⟨deed, does⟩ := exists_deed?_of_step? moves
    exact ih (run.step does moves)

end Meeting
end DebugBridge
