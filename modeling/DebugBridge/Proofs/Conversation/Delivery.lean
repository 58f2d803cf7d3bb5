import DebugBridge.Proofs.Conversation.Transcript
import DebugBridge.Proofs.Wire.Ending
import DebugBridge.Proofs.Wire.Exchange

/-!
# What goes through a pair

Two ends send, receive and are dropped in any order. The history lists what they have done. Nothing
else has to be known: from the history follows what lies between the ends (`History.between`), chunk
by chunk, and with it what comes of whatever an end does next (`Deed.Due`).

Results:
1. `Pair.Step.due`: one step, after a history.
2. `Pair.Run.sound`: all steps of a run, and what lies between the ends behind it.
3. `Pair.Run.receives`: an end can receive all that is under way to it, and then no more.
4. `Pair.Run.delivers`: nothing is lost, doubled or put in another order.
-/

namespace DebugBridge

/-- The messages that have been received. -/
def heard (acts : List Act) : List Message :=
  acts.filterMap fun
    | .received (.ok message) => some message
    | _ => none

/-- What an end has done, or that it has been dropped. -/
inductive Deed where
  | act (act : Act)
  | dropped

/-- What both ends have done, the first deed first. -/
abbrev History := List (Side × Deed)

namespace History

/-- What one end has sent and received. -/
def acts (history : History) (side : Side) : List Act :=
  history.filterMap fun
    | (doer, .act act) => if doer = side then some act else none
    | (_, .dropped) => none

/-- Whether an end has been dropped. -/
def gone (history : History) (side : Side) : Bool :=
  history.any fun
    | (doer, .dropped) => decide (doer = side)
    | _ => false

/-- What an end has sent and the other end has not received. -/
def underWay (history : History) (side : Side) : List Message :=
  (said (history.acts side)).drop (heard (history.acts side.other)).length

/-- The pipe in which an end sends: every message that is under way is a chunk of its own. -/
def road (history : History) (side : Side) : Pipe :=
  ⟨⟨[], (history.underWay side).map Message.encode⟩, !history.gone side,
    !history.gone side.other⟩

/-- What lies between the ends. -/
def between (history : History) : Pair :=
  ⟨history.road .left, history.road .right⟩

/-- What has been received is the beginning of what has been sent. -/
def Ordered (history : History) : Prop :=
  ∀ side, heard (history.acts side.other) ++ history.underWay side = said (history.acts side)

end History

/-- What comes of a deed of an end, after what has been done before. -/
inductive Deed.Due (history : History) (side : Side) : Deed → Prop
  | sent {message : Message} : history.gone side.other = false →
      Due history side (.act (.sent message (.ok ())))
  | unsent {message : Message} : history.gone side.other = true →
      Due history side (.act (.sent message (.error .disconnected)))
  | received {message : Message} {later : List Message} :
      history.underWay side.other = message :: later →
      Due history side (.act (.received (.ok message)))
  | closed : history.gone side.other = true → history.underWay side.other = [] →
      Due history side (.act (.received (.error .closed)))
  | dropped : Due history side .dropped

/-! ## Steps -/

namespace Pair

/-- What an end that exists can do, and what lies between the ends before and after it. -/
inductive Step (side : Side) (pair : Pair) : Deed → Pair → Prop
  | sent {message : Message} {after : Pair} : pair.isOpen side = true →
      pair.send side message = .ok after → Step side pair (.act (.sent message (.ok ()))) after
  | unsent {message : Message} {fault : TransportFault} : pair.isOpen side = true →
      pair.send side message = .error fault →
      Step side pair (.act (.sent message (.error fault))) pair
  | received {incoming : Incoming} {after : Pair} : pair.isOpen side = true →
      pair.receive? side = some (incoming, after) →
      Step side pair (.act (.received incoming)) after
  | dropped : pair.isOpen side = true → Step side pair .dropped (pair.drop side)

/-- What the ends of a new pair have done one after the other, and what lies between them then. -/
inductive Run : History → Pair → Prop
  | fresh : Run [] fresh
  | step {history : History} {pair after : Pair} {side : Side} {deed : Deed} :
      Run history pair → Step side pair deed after → Run (history ++ [(side, deed)]) after

end Pair

/-! ## One more deed -/

@[simp] theorem Side.other_other (side : Side) : side.other.other = side := by
  cases side <;> rfl

theorem Side.other_ne (side : Side) : side.other ≠ side := by
  cases side <;> decide

theorem heard_append (acts later : List Act) : heard (acts ++ later) = heard acts ++ heard later :=
  List.filterMap_append

namespace History

variable {history : History} {side : Side} {message : Message}

theorem acts_append (history later : History) (side : Side) :
    acts (history ++ later) side = history.acts side ++ later.acts side :=
  List.filterMap_append

/-- What has been sent stays sent. -/
theorem said_acts_append {later : History} (sent : message ∈ said (history.acts side)) :
    message ∈ said (acts (history ++ later) side) := by
  rw [acts_append, said_append]
  exact List.mem_append_left _ sent

/-- What is under way has been sent. -/
theorem said_of_underWay (under : message ∈ history.underWay side) :
    message ∈ said (history.acts side) :=
  List.mem_of_mem_drop under

/-- What has been sent was sent before, or in the last deed. -/
theorem sent_snoc {doer : Side} {deed : Deed}
    (sent : message ∈ said (acts (history ++ [(doer, deed)]) side)) :
    message ∈ said (history.acts side)
      ∨ doer = side ∧ deed = .act (.sent message (.ok ())) := by
  rw [acts_append, said_append] at sent
  apply (List.mem_append.mp sent).imp_right
  intro now
  obtain ⟨act, present, told⟩ := List.mem_filterMap.mp now
  obtain ⟨entry, only, does⟩ := List.mem_filterMap.mp present
  obtain rfl := List.mem_singleton.mp only
  cases deed with
  | dropped => cases does
  | act act' =>
    dsimp only at does
    split at does
    · next same =>
      cases does
      split at told
      · cases told
        exact ⟨same, rfl⟩
      · cases told
    · cases does

@[simp] theorem acts_act_self (act : Act) :
    acts (history ++ [(side, .act act)]) side = history.acts side ++ [act] := by
  simp [acts]

@[simp] theorem acts_act_other (act : Act) :
    acts (history ++ [(side, .act act)]) side.other = history.acts side.other := by
  simp [acts, (Side.other_ne side).symm]

@[simp] theorem acts_dropped (doer : Side) :
    acts (history ++ [(doer, .dropped)]) side = history.acts side := by
  simp [acts]

@[simp] theorem gone_act (doer : Side) (act : Act) :
    gone (history ++ [(doer, .act act)]) side = history.gone side := by
  simp [gone]

@[simp] theorem gone_dropped_self : gone (history ++ [(side, .dropped)]) side = true := by
  simp [gone]

@[simp] theorem gone_dropped_other :
    gone (history ++ [(side, .dropped)]) side.other = history.gone side.other := by
  simp [gone, (Side.other_ne side).symm]

/-- Nothing is sent by receiving. -/
theorem said_acts_received (doer : Side) (incoming : Incoming) :
    said (acts (history ++ [(doer, .act (.received incoming))]) side)
      = said (history.acts side) := by
  by_cases same : doer = side
  · rw [same, acts_act_self, said_append]
    exact List.append_nil _
  · rw [acts_append]
    simp [acts, same]

/-- What is sent is under way from then on. -/
theorem underWay_act_self (ordered : history.Ordered) (act : Act) :
    underWay (history ++ [(side, .act act)]) side = history.underWay side ++ said [act] := by
  have received : (heard (history.acts side.other)).length ≤ (said (history.acts side)).length := by
    rw [← ordered side, List.length_append]
    exact Nat.le_add_right _ _
  rw [underWay, acts_act_self, acts_act_other, said_append]
  exact List.drop_append_of_le_length received

/-- What is received is under way no longer. -/
theorem underWay_act_other (side : Side) {act : Act} {later : List Message}
    (next : history.underWay side.other = heard [act] ++ later) :
    underWay (history ++ [(side, .act act)]) side.other = later := by
  rw [underWay, Side.other_other] at next
  rw [underWay, acts_act_other, Side.other_other, acts_act_self, heard_append, List.length_append,
    ← List.drop_drop, next, List.drop_left]

/-- What neither sends nor receives a message changes nothing. -/
theorem underWay_silent (ordered : history.Ordered) {act : Act} (silent : said [act] = [])
    (deaf : heard [act] = []) (doer side : Side) :
    underWay (history ++ [(doer, .act act)]) side = history.underWay side := by
  by_cases same : side = doer
  · rw [same, underWay_act_self ordered, silent, List.append_nil]
  · rw [Side.eq_other same]
    refine underWay_act_other doer ?_
    rw [deaf, List.nil_append]

@[simp] theorem underWay_dropped (doer : Side) :
    underWay (history ++ [(doer, .dropped)]) side = history.underWay side := by
  simp [underWay]

theorem ordered_act (ordered : history.Ordered) {act : Act} {later : List Message}
    (next : history.underWay side.other = heard [act] ++ later) :
    Ordered (history ++ [(side, .act act)]) := by
  intro sender
  by_cases same : sender = side
  · rw [same, underWay_act_self ordered, acts_act_other, acts_act_self, said_append,
      ← List.append_assoc, ordered side]
  · obtain rfl := Side.eq_other same
    rw [underWay_act_other side next, Side.other_other, acts_act_other, acts_act_self, heard_append,
      List.append_assoc, ← next]
    simpa using ordered side.other

theorem ordered_dropped (ordered : history.Ordered) (doer : Side) :
    Ordered (history ++ [(doer, .dropped)]) := by
  intro sender
  simpa using ordered sender

theorem road_act_self (ordered : history.Ordered) (act : Act) :
    road (history ++ [(side, .act act)]) side
      = ⟨⟨[], (history.underWay side).map Message.encode ++ (said [act]).map Message.encode⟩,
        !history.gone side, !history.gone side.other⟩ := by
  rw [road, underWay_act_self ordered, List.map_append, gone_act, gone_act]

theorem road_act_other {act : Act} {later : List Message}
    (next : history.underWay side.other = heard [act] ++ later) :
    road (history ++ [(side, .act act)]) side.other
      = ⟨⟨[], later.map Message.encode⟩, !history.gone side.other, !history.gone side⟩ := by
  rw [road, underWay_act_other side next, gone_act, gone_act, Side.other_other]

theorem unread_road (history : History) (side : Side) :
    (history.road side).unread = (history.underWay side).flatMap Message.encode := by
  simp [road, Pipe.unread, Source.octets, List.flatMap]

/-- Every message has octets. -/
theorem underWay_eq_nil (nothing : (history.road side).unread = []) :
    history.underWay side = [] := by
  rw [unread_road, List.flatMap_eq_nil_iff] at nothing
  apply List.eq_nil_iff_forall_not_mem.mpr
  intro message under
  exact absurd (nothing message under) (by simp [Message.encode])

theorem road_dropped_self : road (history ++ [(side, .dropped)]) side
    = (history.road side).closeWriter := by
  simp [road, Pipe.closeWriter]

theorem road_dropped_other : road (history ++ [(side, .dropped)]) side.other
    = (history.road side.other).closeReader := by
  simp [road, Pipe.closeReader]

end History

/-! ## What lies between the ends -/

namespace Pair

variable {history : History} {side : Side}

theorem outgoing_between (history : History) (side : Side) :
    history.between.outgoing side = history.road side := by
  cases side <;> rfl

theorem incoming_between (history : History) (side : Side) :
    history.between.incoming side = history.road side.other := by
  cases side <;> rfl

theorem isOpen_between (history : History) (side : Side) :
    history.between.isOpen side = !history.gone side := by
  rw [isOpen, outgoing_between]
  rfl

theorem eq_between {pair : Pair} (side : Side) (out : pair.outgoing side = history.road side)
    (inc : pair.incoming side = history.road side.other) : pair = history.between := by
  cases side with
  | left => exact congr (congrArg Pair.mk out) inc
  | right => exact congr (congrArg Pair.mk inc) out

theorem incoming_setOutgoing (pair : Pair) (pipe : Pipe) (side : Side) :
    (pair.setOutgoing pipe side).incoming side = pair.incoming side := by
  cases side <;> rfl

theorem outgoing_setOutgoing (pair : Pair) (pipe : Pipe) (side : Side) :
    (pair.setOutgoing pipe side).outgoing side = pipe := by
  cases side <;> rfl

theorem incoming_setIncoming (pair : Pair) (pipe : Pipe) (side : Side) :
    (pair.setIncoming pipe side).incoming side = pipe := by
  cases side <;> rfl

theorem outgoing_setIncoming (pair : Pair) (pipe : Pipe) (side : Side) :
    (pair.setIncoming pipe side).outgoing side = pair.outgoing side := by
  cases side <;> rfl

/-- Sending fails once the other end is gone, and else adds to what is under way. -/
theorem send_between (ordered : history.Ordered) (side : Side) (message : Message) :
    history.between.send side message
      = if history.gone side.other then .error .disconnected
        else .ok (History.between (history ++ [(side, .act (.sent message (.ok ())))])) := by
  cases gone : history.gone side.other with
  | true =>
    rw [send, outgoing_between, History.road, gone]
    rfl
  | false =>
    have written : (history.road side).send message
        = .ok (History.road (history ++ [(side, .act (.sent message (.ok ())))]) side) := by
      rw [History.road_act_self ordered, History.road, gone]
      rfl
    rw [send, outgoing_between, written]
    refine congrArg Except.ok (eq_between side (outgoing_setOutgoing ..) ?_)
    have kept : history.underWay side.other
        = heard [.sent message (.ok ())] ++ history.underWay side.other := rfl
    rw [incoming_setOutgoing, incoming_between, History.road_act_other kept, History.road,
      Side.other_other]

theorem between_silent (ordered : history.Ordered) (doer : Side) {act : Act}
    (silent : said [act] = []) (deaf : heard [act] = []) :
    History.between (history ++ [(doer, .act act)]) = history.between := by
  have same : ∀ side, History.road (history ++ [(doer, .act act)]) side = history.road side := by
    intro side
    rw [History.road, History.underWay_silent ordered silent deaf, History.gone_act,
      History.gone_act, History.road]
  rw [History.between, History.between, same, same]

/-- An end receives what has been under way to it for longest, and learns that the other end is gone
when nothing is. -/
theorem receive?_between (ordered : history.Ordered)
    (transmissible : ∀ message, message ∈ history.underWay side.other → message.Transmissible) :
    history.between.receive? side
      = match history.underWay side.other with
        | message :: _ => some (.ok message,
            History.between (history ++ [(side, .act (.received (.ok message)))]))
        | [] =>
          if history.gone side.other then some (.error .closed, history.between) else none := by
  rw [receive?, incoming_between, History.road, Side.other_other]
  cases under : history.underWay side.other with
  | nil =>
    cases gone : history.gone side.other with
    | true =>
      have same : history.between.setIncoming ⟨⟨[], []⟩, false, !history.gone side⟩ side
          = history.between := by
        refine eq_between side ?_ ?_
        · rw [outgoing_setIncoming, outgoing_between]
        · rw [incoming_setIncoming, History.road, under, gone, Side.other_other]
          rfl
      exact congrArg (fun pair => some (Except.error TransportFault.closed, pair)) same
    | false => rfl
  | cons message later =>
    have first := (transmissible message (under ▸ List.mem_cons_self)).receive?
      (later.map Message.encode) (!history.gone side.other) (!history.gone side)
    have taken : history.between.setIncoming
        ⟨⟨[], later.map Message.encode⟩, !history.gone side.other, !history.gone side⟩ side
        = History.between (history ++ [(side, .act (.received (.ok message)))]) := by
      refine eq_between side ?_ ?_
      · rw [outgoing_setIncoming, outgoing_between, History.road_act_self ordered, History.road]
        simp [said]
      · rw [incoming_setIncoming, History.road_act_other under]
    rw [List.map_cons, first]
    exact congrArg (fun pair => some (Except.ok message, pair)) taken

theorem drop_between (history : History) (side : Side) :
    history.between.drop side = History.between (history ++ [(side, .dropped)]) := by
  refine eq_between side ?_ ?_
  · rw [History.road_dropped_self, ← outgoing_between]
    cases side <;> rfl
  · rw [History.road_dropped_other, ← incoming_between]
    cases side <;> rfl

/-! ## Runs -/

variable {pair after : Pair} {deed : Deed}

theorem Step.present (step : Step side history.between deed after) :
    history.gone side = false := by
  have isOpen : history.between.isOpen side = true := by
    cases step <;> assumption
  rw [isOpen_between] at isOpen
  simpa using isOpen

/-- What comes of a step, and what lies between the ends behind it. -/
theorem Step.due (ordered : history.Ordered)
    (transmissible : ∀ message, message ∈ history.underWay side.other → message.Transmissible)
    (step : Step side history.between deed after) :
    deed.Due history side ∧ History.Ordered (history ++ [(side, deed)])
      ∧ after = History.between (history ++ [(side, deed)]) := by
  cases step with
  | sent _ sends =>
    rw [send_between ordered] at sends
    split at sends
    · cases sends
    · next there =>
      cases sends
      exact ⟨.sent (Bool.eq_false_iff.mpr there), History.ordered_act ordered rfl, rfl⟩
  | unsent _ sends =>
    rw [send_between ordered] at sends
    split at sends
    · next gone =>
      cases sends
      exact ⟨.unsent gone, History.ordered_act ordered rfl,
        (between_silent ordered side rfl rfl).symm⟩
    · cases sends
  | received _ receives =>
    rw [receive?_between ordered transmissible] at receives
    split at receives
    · next message later under =>
      cases receives
      exact ⟨.received under, History.ordered_act ordered under, rfl⟩
    · next under =>
      split at receives
      · next gone =>
        cases receives
        exact ⟨.closed gone under, History.ordered_act ordered rfl,
          (between_silent ordered side rfl rfl).symm⟩
      · cases receives
  | dropped _ =>
    exact ⟨.dropped, History.ordered_dropped ordered side, drop_between history side⟩

/-- An end that exists can do whatever is due. -/
theorem Step.of_due (ordered : history.Ordered)
    (transmissible : ∀ message, message ∈ history.underWay side.other → message.Transmissible)
    (present : history.gone side = false) (due : deed.Due history side) :
    Step side history.between deed (History.between (history ++ [(side, deed)])) := by
  have isOpen : history.between.isOpen side = true := by
    rw [isOpen_between, present]
    rfl
  have receives := receive?_between ordered transmissible
  cases due with
  | sent there =>
    refine .sent isOpen ?_
    rw [send_between ordered, there]
    rfl
  | unsent gone =>
    rw [between_silent ordered side rfl rfl]
    refine .unsent isOpen ?_
    rw [send_between ordered, gone]
    rfl
  | received under =>
    refine .received isOpen ?_
    rw [receives, under]
  | closed gone under =>
    rw [between_silent ordered side rfl rfl]
    refine .received isOpen ?_
    rw [receives, under, gone]
    rfl
  | dropped =>
    rw [← drop_between]
    exact .dropped isOpen

/-- Every deed of a run is due after what was done before, by an end that exists, and what lies
between the ends follows from the deeds. -/
theorem Run.sound (run : Run history pair)
    (transmissible : ∀ side message, message ∈ said (history.acts side) → message.Transmissible) :
    history.Ordered ∧ pair = history.between
      ∧ ∀ (before : History) side deed later, history = before ++ (side, deed) :: later →
        before.Ordered ∧ before.gone side = false ∧ deed.Due before side := by
  induction run with
  | fresh => exact ⟨fun _ => rfl, rfl, fun before _ _ _ eq => absurd eq.symm (by simp)⟩
  | @step history _ after side deed _ step ih =>
    obtain ⟨ordered, rfl, due⟩ := ih fun side message sent =>
      transmissible side message (History.said_acts_append sent)
    obtain ⟨due', ordered', between⟩ := step.due ordered fun message under =>
      transmissible side.other message (History.said_acts_append (History.said_of_underWay under))
    refine ⟨ordered', between, ?_⟩
    intro before side' deed' later eq
    rcases split_snoc eq with ⟨rfl, same⟩ | ⟨later, eq⟩
    · cases same
      exact ⟨ordered, step.present, due'⟩
    · exact due before side' deed' later eq

/-- A run goes on with whatever is due. -/
theorem Run.next (run : Run history history.between)
    (transmissible : ∀ side message, message ∈ said (history.acts side) → message.Transmissible)
    (present : history.gone side = false) (due : deed.Due history side) :
    Run (history ++ [(side, deed)]) (History.between (history ++ [(side, deed)])) :=
  run.step (.of_due (run.sound transmissible).1
    (fun message under => transmissible side.other message (History.said_of_underWay under))
    present due)

/-- An end that exists can receive all that is under way to it. -/
theorem Run.receives (run : Run history pair)
    (transmissible : ∀ side message, message ∈ said (history.acts side) → message.Transmissible)
    (present : history.gone side = false) {rest : List Message}
    (under : history.underWay side.other = rest) :
    ∃ after, Run (history ++ rest.map fun message => (side, .act (.received (.ok message)))) after
      ∧ after.receive? side
        = if history.gone side.other then some (.error .closed, after) else none := by
  induction rest generalizing history pair with
  | nil =>
    obtain ⟨ordered, rfl, -⟩ := run.sound transmissible
    have next := receive?_between ordered fun message under =>
      transmissible side.other message (History.said_of_underWay under)
    rw [under] at next
    exact ⟨history.between, by simpa using run, next⟩
  | cons message rest ih =>
    obtain ⟨ordered, rfl, -⟩ := run.sound transmissible
    have taken := run.next transmissible present (.received under)
    obtain ⟨after, run', ends⟩ := ih taken
      (fun side' message' sent =>
        transmissible side' message' (History.said_acts_received _ _ ▸ sent))
      (by simpa using present) (History.underWay_act_other side under)
    exact ⟨after, by simpa using run', by simpa using ends⟩

/-- However two ends send, receive and are dropped, as long as what they send can be read back: what
an end has received is the beginning of what the other has sent. It learns that the other end is
gone when it is and everything it sent has been received, and nothing else goes wrong. Sending fails
just when the other end is gone. And an end that exists can receive the rest of what the other has
sent, in order, and then waits or learns that the other end is gone. -/
theorem Run.delivers (run : Run history pair)
    (transmissible : ∀ side message, message ∈ said (history.acts side) → message.Transmissible)
    (side : Side) :
    heard (history.acts side) <+: said (history.acts side.other)
      ∧ (∀ (before : History) later incoming,
        history = before ++ (side, .act (.received incoming)) :: later →
        (∃ message, incoming = .ok message)
          ∨ incoming = .error .closed ∧ before.gone side.other = true
            ∧ heard (before.acts side) = said (before.acts side.other))
      ∧ (∀ (before : History) later message outcome,
        history = before ++ (side, .act (.sent message outcome)) :: later →
        outcome = if before.gone side.other then .error .disconnected else .ok ())
      ∧ (history.gone side = false →
        ∃ rest, said (history.acts side.other) = heard (history.acts side) ++ rest
          ∧ ∃ after,
            Run (history ++ rest.map fun message => (side, .act (.received (.ok message)))) after
              ∧ after.receive? side
                = if history.gone side.other then some (.error .closed, after) else none) := by
  obtain ⟨ordered, -, due⟩ := run.sound transmissible
  have received := ordered side.other
  rw [Side.other_other] at received
  refine ⟨⟨_, received⟩, ?_, ?_, ?_⟩
  · intro before later incoming eq
    obtain ⟨ordered', -, due'⟩ := due _ _ _ _ eq
    cases due' with
    | received under => exact .inl ⟨_, rfl⟩
    | closed gone under =>
      have all := ordered' side.other
      rw [Side.other_other, under, List.append_nil] at all
      exact .inr ⟨rfl, gone, all⟩
  · intro before later message outcome eq
    obtain ⟨-, -, due'⟩ := due _ _ _ _ eq
    cases due' with
    | sent there =>
      rw [there]
      rfl
    | unsent gone =>
      rw [gone]
      rfl
  · intro present
    exact ⟨_, received.symm, run.receives transmissible present rfl⟩

end Pair

/-- The left end sends two messages and is dropped. The right end cannot send any more, and receives
both before it learns why. -/
def parting : History :=
  [(.left, .act (.sent .initAck (.ok ()))), (.left, .act (.sent (.error "gone") (.ok ()))),
    (.right, .act (.received (.ok .initAck))), (.left, .dropped),
    (.right, .act (.sent .initAck (.error .disconnected))),
    (.right, .act (.received (.ok (.error "gone")))),
    (.right, .act (.received (.error .closed)))]

theorem Pair.Run.delivers_parting :
    Run parting parting.between
      ∧ (∀ side message, message ∈ said (parting.acts side) → message.Transmissible)
      ∧ heard (parting.acts .right) <+: said (parting.acts .left) := by
  have known : ∀ message : Message, message = .initAck ∨ message = .error "gone" →
      message.Transmissible := by
    rintro message (rfl | rfl)
    · exact (Message.passes_of_short (by simp) (by decide)).transmissible
    · exact (Message.passes_of_short (by simp) (by decide)).transmissible
  have transmissible : ∀ count side message,
      message ∈ said (History.acts (parting.take count) side) → message.Transmissible := by
    intro count side message sent
    refine known message ?_
    have among : message ∈ said (parting.acts side) := by
      rw [← List.take_append_drop count parting]
      exact History.said_acts_append sent
    cases side with
    | left => simpa [parting, History.acts, said] using among
    | right => simp [parting, History.acts, said] at among
  have run : Run parting parting.between :=
    ((((((Run.fresh.next (transmissible 0) rfl (.sent rfl)).next (transmissible 1) rfl
      (.sent rfl)).next (transmissible 2) rfl (.received rfl)).next (transmissible 3) rfl
      .dropped).next (transmissible 4) rfl (.unsent rfl)).next (transmissible 5) rfl
      (.received rfl)).next (transmissible 6) rfl (.closed rfl rfl)
  exact ⟨run, transmissible 7, (run.delivers (transmissible 7) .right).1⟩

end DebugBridge
