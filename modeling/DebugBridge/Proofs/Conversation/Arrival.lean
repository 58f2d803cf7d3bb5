import DebugBridge.Proofs.Conversation.Situation
import DebugBridge.Proofs.Server.Probe

/-!
# What a bridge says arrives

All that a client and a server with the probe engine say can be read back by the other side, unless
it is too long for a line. Of a server this depends on its phase: on what it is about to say, and on
the work that it has begun (`Honest`).

Result: `transmissible_of_fits`.
-/

namespace DebugBridge.Bridge

open Server (Stage Next)

variable {σ : Type} {backend : Backend σ} {isFile : String → Bool} {history : History} {deed : Deed}

/-- What work of the probe engine gives can be sent. -/
def Reporting (work : Work (Except Report Json × Probe)) : Prop :=
  ∃ count, work.Bounded
    (fun outcome => ∀ value, outcome.1 = .ok value → Probe.Reportable value) count

/-- A message arrives as it was sent, unless it is too long. -/
def Sayable (message : Message) : Prop :=
  Fits message → message.Passes

def HonestStage : Stage Probe → Prop
  | .asking _ _ resume => ∀ reply, Reporting (resume reply)
  | _ => True

/-- What a server says now or later, as far as it depends on the phase, arrives as it was sent. -/
def Honest : Server.Phase Probe → Prop
  | .receiving stage => HonestStage stage
  | .sending message (.stage stage) => Sayable message ∧ HonestStage stage
  | .sending message (.finish _ _) => Sayable message
  | .ended _ _ => True

theorem sayable_of_noResult {message : Message} (noResult : ∀ result, message ≠ .complete result) :
    Sayable message :=
  Message.passes_of_short noResult

theorem sayable_conclusion {result : Except Report Json}
    (reportable : ∀ value, result = .ok value → Probe.Reportable value) :
    Sayable (Server.conclusion result) :=
  passes_conclusion reportable

theorem reporting_handle (isFile : String → Bool) (probe : Probe) (command : Command) :
    Reporting ((Probe.engine isFile).handle probe command) := by
  refine ⟨2 + 0, Work.bounded_bind (Probe.bounded_handle probe command) ?_⟩
  intro result reportable
  exact Work.bounded_done_iff.mpr reportable

theorem honest_proceed (kind : CommandKind) {work : Work (Except Report Json × Probe)}
    (reporting : Reporting work) : Honest (Server.proceed kind work) := by
  obtain ⟨count, bounded⟩ := reporting
  cases work with
  | done outcome =>
    exact ⟨sayable_conclusion (Work.bounded_done_iff.mp bounded), trivial⟩
  | ask request resume =>
    obtain ⟨less, -, further⟩ := bounded.of_ask
    exact ⟨sayable_of_noResult (by simp), fun reply => ⟨less, further reply⟩⟩

theorem honest_stop (engine : Option Probe) : Honest (Server.stop engine) := by
  have reportable : ∀ value, (.ok .null : Except Report Json) = .ok value →
      Probe.Reportable value := by
    intro value same
    cases same
    exact ⟨rfl, rfl, by decide⟩
  exact sayable_conclusion reportable

theorem honest_missed (awaited : String) {stage : Stage Probe} (honest : HonestStage stage)
    (engine : Option Probe) (fault : TransportFault) :
    Honest (Server.missed awaited stage engine fault) := by
  unfold Server.missed
  split
  · trivial
  split
  · exact ⟨sayable_of_noResult (by simp [Server.complaint]), honest⟩
  · trivial

theorem honest_received {stage : Stage Probe} (honest : HonestStage stage) (incoming : Incoming) :
    Honest (stage.received (Probe.engine isFile) incoming) := by
  cases stage with
  | greeting =>
    cases incoming with
    | error fault => exact honest_missed "Init" honest none fault
    | ok message =>
      show Honest (Server.greeted _ message)
      unfold Server.greeted
      split
      · next path =>
        unfold Server.bindBinary
        split
        · exact ⟨sayable_of_noResult (by simp), trivial⟩
        · exact sayable_of_noResult (by simp)
      · exact honest_stop none
      · exact sayable_of_noResult (by simp)
  | idle attached =>
    cases incoming with
    | error fault => exact honest_missed "a command" honest (some attached) fault
    | ok message =>
      show Honest (Server.commanded _ attached message)
      unfold Server.commanded
      split
      · exact honest_stop (some attached)
      · exact honest_proceed _ (reporting_handle isFile attached _)
      · trivial
  | asking kind request resume =>
    show Honest (Server.replied kind resume _)
    unfold Server.replied
    split
    · exact honest_proceed kind (honest _)
    · trivial

theorem honest_after {message : Message} {next : Next Probe}
    (honest : Honest (.sending message next)) (outcome : Except TransportFault Unit) :
    Honest (next.after outcome) := by
  cases outcome with
  | ok done =>
    cases next with
    | stage stage => exact honest.2
    | finish ending engine => trivial
  | error fault =>
    cases next with
    | stage stage => cases stage <;> trivial
    | finish ending engine => cases ending <;> trivial

/-- What the server does leaves it honest, and what it says arrives. -/
theorem honest_takes {session after : Server.Session Probe} (honest : Honest session.phase)
    (takes : Turn.Takes (Server.Session.turn (Probe.engine isFile)) session deed after) :
    Honest after.phase
      ∧ ∀ message outcome, deed = .act (.sent message outcome) → Sayable message := by
  cases here : session.phase with
  | receiving stage =>
    rw [here] at honest
    cases takes with
    | sent sends =>
      rw [turn_of_receiving here] at sends
      cases sends
    | received receives =>
      rw [turn_of_receiving here] at receives
      cases receives
      refine ⟨honest_received honest _, ?_⟩
      intro message outcome same
      cases same
    | ended ended =>
      rw [turn_of_receiving here] at ended
      cases ended
  | sending message next =>
    rw [here] at honest
    cases takes with
    | sent sends =>
      rw [turn_of_sending here] at sends
      cases sends
      refine ⟨honest_after honest _, ?_⟩
      intro message' outcome same
      cases same
      cases next with
      | stage stage => exact honest.1
      | finish ending engine => exact honest
    | received receives =>
      rw [turn_of_sending here] at receives
      cases receives
    | ended ended =>
      rw [turn_of_sending here] at ended
      cases ended
  | ended ending engine =>
    obtain ⟨rfl, rfl⟩ := takes.dropped (by rw [Server.Session.turn, here])
    refine ⟨honest, ?_⟩
    intro message outcome same
    cases same

/-- A client completes nothing, so what it says arrives. -/
theorem sayable_client {session : Client.Session σ} {message : Message}
    {onward : Except TransportFault Unit → Client.Session σ}
    (sends : session.turn backend = .send message onward) : Sayable message := by
  apply sayable_of_noResult
  rintro result rfl
  unfold Client.Session.turn at sends
  split at sends
  · cases sends
  · cases sends
  · split at sends
    · cases sends
    · cases sends
  · cases sends
  · cases sends
  · cases sends
  · cases sends

theorem passes_of_run {binary : Path} {debugger : σ} {commands : List Command}
    {bridge : State σ}
    (run : Happens backend (Probe.engine isFile) binary debugger commands history bridge) :
    Honest bridge.right.phase
      ∧ ∀ side message, message ∈ said (history.acts side) → Sayable message := by
  induction run with
  | start => exact ⟨trivial, fun side message sent => absurd sent (by simp [History.acts, said])⟩
  | step run does moves ih =>
    obtain ⟨honest, sayable⟩ := ih
    obtain ⟨-, ⟨rfl, takes, same⟩ | ⟨rfl, takes, same⟩⟩ := Meeting.takes_of_step? moves does
    · refine ⟨same ▸ honest, ?_⟩
      intro side message sent
      rcases History.sent_snoc sent with before | ⟨-, rfl⟩
      · exact sayable side message before
      · obtain ⟨onward, sends, -⟩ := takes.exists_send
        exact sayable_client sends
    · obtain ⟨honest', saying⟩ := honest_takes honest takes
      refine ⟨honest', ?_⟩
      intro side message sent
      rcases History.sent_snoc sent with before | ⟨-, rfl⟩
      · exact sayable side message before
      · exact saying message _ rfl

theorem transmissible_of_fits {binary : Path} {debugger : σ} {commands : List Command}
    {bridge : State σ}
    (run : Happens backend (Probe.engine isFile) binary debugger commands history bridge)
    (fits : ∀ side message, message ∈ said (history.acts side) → Fits message) :
    ∀ side message, message ∈ said (history.acts side) → message.Transmissible :=
  fun side message sent =>
    ((passes_of_run run).2 side message sent (fits side message sent)).transmissible

end DebugBridge.Bridge
