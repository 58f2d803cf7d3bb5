import DebugBridge.Proofs.Conversation.Transparency
import DebugBridge.Proofs.Debugger.Levels
import DebugBridge.Proofs.Debugger.Memory
import DebugBridge.Proofs.Server.Conduct

/-!
# A client that answers with a debugger

Whatever a server asks, and whatever is missing, fails or panics in the debugger, the client has one
answer, of the category that is asked for, and the line that it writes is read back as that answer.
So the server never gives up the line on account of what an answer says, but only if it is longer
than a line may be. While that does not happen, work that is conducted over the line comes to what
it comes to with the debugger at hand.

Results:
1. `Message.decode_eventResponse`: every answer is read back.
2. `Backend.exchange_line_of_fits`, `Backend.exchange_line_of_long`: one exchange with a debugger.
   `Work.conduct_line`: work over a line to a debugger.
3. `Backend.dispatch_in_category`: that every event is answered in its category, and when by an
   error. `Backend.answer_too_long`: an answer in its category that does not fit.
-/

namespace DebugBridge

/-! ## Answers as lines -/

theorem Message.decode_eventResponse (response : Response) :
    decode (encode (.eventResponse response)) = .ok (.eventResponse response) := by
  rw [encode_eq]
  exact decode_written rfl rfl (depth_toJson_le rfl) rfl

/-- An octet of memory takes at least two on a line. -/
theorem Message.two_mul_length_lt_payload (data : List UInt8) :
    2 * data.length < (payload (.eventResponse (.memoryData data))).length := by
  have items : 2 * data.length
      ≤ (Json.itemsChars (data.map fun octet => .natural octet.toUInt64)).length + 1 := by
    have shown : ∀ item, item ∈ data.map (fun octet => Json.natural octet.toUInt64) →
        item.chars ≠ [] := by
      intro item present
      obtain ⟨octet, -, rfl⟩ := List.mem_map.mp present
      exact Numeral.decimal_ne_nil _
    have long := Json.two_mul_length_le shown
    rwa [List.length_map] at long
  rw [payload_eq_encode]
  refine Nat.lt_of_lt_of_le ?_ (Utf8.length_le_encode _)
  rw [toJson, fields, Response.members, Response.fields, Json.chars]
  simp only [Json.membersChars, Json.octets, Json.chars, List.length_cons, List.length_append]
  omega

variable {α σ : Type}

open Bridge (Fits)

/-! ## A line to a debugger -/

/-- A line to a client that answers every event at once. It writes its answers to a pipe, out of
which they are read as every message is. -/
def Backend.line (backend : Backend σ) : Line (σ × Pipe) where
  send
    | .event request, (debugger, pipe) =>
      let (response, debugger) := dispatch backend request debugger
      match pipe.send (.eventResponse response) with
      | .ok pipe => (.ok (), debugger, pipe)
      | .error _ => (.ok (), debugger, pipe)
    | _, state => (.ok (), state)
  receive := fun (debugger, pipe) =>
    match pipe.receive? with
    | some (incoming, pipe) => (incoming, debugger, pipe)
    | none => (.error .closed, debugger, pipe)

/-- An exchange over the line, by what is read of the answer that has been written. -/
theorem Backend.exchange_line (backend : Backend σ) (request : Request) (debugger : σ)
    {incoming : Incoming} {after : Pipe}
    (reads : (⟨⟨[], [Message.encode (.eventResponse (dispatch backend request debugger).1)]⟩, true,
      true⟩ : Pipe).receive? = some (incoming, after)) :
    backend.line.exchange request false (debugger, .empty)
      = (request.reply incoming, (dispatch backend request debugger).2, after) := by
  have written : Pipe.send (.eventResponse (dispatch backend request debugger).1) .empty
      = .ok ⟨⟨[], [Message.encode (.eventResponse (dispatch backend request debugger).1)]⟩, true,
        true⟩ := rfl
  unfold Line.exchange
  rw [if_neg (by decide)]
  simp only [line, written, reads]

/-- An exchange succeeds, with the debugger's answer, if that fits on a line. -/
theorem Backend.exchange_line_of_fits (backend : Backend σ) {request : Request} {debugger : σ}
    (fits : Fits (.eventResponse (dispatch backend request debugger).1)) :
    backend.line.exchange request false (debugger, .empty)
      = (.ok (dispatch backend request debugger).1, (dispatch backend request debugger).2,
        .empty) := by
  have passes : Message.Passes (.eventResponse (dispatch backend request debugger).1) :=
    Message.passes_of_short nofun fits
  rw [backend.exchange_line request debugger (passes.transmissible.receive? [] true true),
    Request.reply_eq_ok_iff.mpr ⟨rfl, dispatch_answers backend request debugger⟩]
  rfl

/-- The only other way is that the answer is longer than a line may be. -/
theorem Backend.exchange_line_of_long (backend : Backend σ) {request : Request} {debugger : σ}
    (long : ¬ Fits (.eventResponse (dispatch backend request debugger).1)) :
    ∃ after, backend.line.exchange request false (debugger, .empty)
      = (.error (.noAnswer (.tooLong defaultLimit)), (dispatch backend request debugger).2,
        after) :=
  ⟨_, backend.exchange_line request debugger
    (Message.receive?_long (Nat.lt_of_not_le long) [] true true)⟩

/-- Every answer that work is given with the debugger at hand fits on a line. -/
def Work.AnswersFit (backend : Backend σ) (work : Work α) (debugger : σ) : Prop :=
  ∀ exchange, exchange ∈ work.exchanges (dispatch backend) debugger →
    Fits (.eventResponse exchange.2)

theorem Work.answersFit_ask {backend : Backend σ} {request : Request} {resume : Reply → Work α}
    {debugger : σ} :
    (Work.ask request resume).AnswersFit backend debugger
      ↔ Fits (.eventResponse (dispatch backend request debugger).1)
        ∧ (resume (.ok (dispatch backend request debugger).1)).AnswersFit backend
          (dispatch backend request debugger).2 :=
  List.forall_mem_cons

/-- Over the line, work comes to what it comes to with the debugger at hand, and the line is not
broken; or there is an answer that does not fit, and the line is. -/
theorem Work.conduct_line (backend : Backend σ) (work : Work α) {tally : Tally}
    (usable : tally.broken = false) (debugger : σ) :
    (work.AnswersFit backend debugger
        ∧ ∃ sent, work.conduct backend.line tally (debugger, .empty)
          = ((work.answeredBy (dispatch backend) debugger).1, ⟨sent, false⟩,
            (work.answeredBy (dispatch backend) debugger).2, .empty))
      ∨ ¬ work.AnswersFit backend debugger
        ∧ (work.conduct backend.line tally (debugger, .empty)).2.1.broken = true := by
  induction work generalizing tally debugger with
  | done result =>
    refine .inl ⟨fun exchange present => (nomatch present), tally.sent, ?_⟩
    rw [conduct, answeredBy, ← usable]
  | ask request resume ih =>
    rw [answersFit_ask, conduct, answeredBy, usable]
    by_cases fits : Fits (.eventResponse (dispatch backend request debugger).1)
    · have whole : (tally.after (.ok (dispatch backend request debugger).1)).broken = false :=
        usable
      rw [backend.exchange_line_of_fits fits]
      rcases ih (.ok (dispatch backend request debugger).1) whole
        (dispatch backend request debugger).2 with ⟨all, whole⟩ | ⟨some, broken⟩
      · exact .inl ⟨⟨fits, all⟩, whole⟩
      · exact .inr ⟨fun both => some both.2, broken⟩
    · obtain ⟨after, exchanged⟩ := backend.exchange_line_of_long fits
      have broken : (tally.after (.error (.noAnswer (.tooLong defaultLimit)))).broken = true := rfl
      rw [exchanged]
      refine .inr ⟨fun both => fits both.1, ?_⟩
      dsimp only
      rw [Work.conduct_broken broken]
      exact broken

/-! ## The answers of a debugger -/

/-- Every event is answered, by an answer to it that is read back from its line as it was. In a
debugger that has a target and a process, the events that read a level fail just when what they read
is missing. And whatever work a server carries out, over a line that is read with the usual limit,
no answer makes it give up the line that fits on one; one that does not is noticed as too long. -/
theorem Backend.dispatch_in_category (backend : Backend σ) :
    (∀ request before, ∃ response after, dispatch backend request before = (response, after)
        ∧ response.answers request = true
        ∧ Message.decode (Message.encode (.eventResponse response)) = .ok (.eventResponse response))
      ∧ (∀ {before running}, backend.Running before running → backend.RefusesOnly before running)
      ∧ (∀ {α : Type} (work : Work α) (tally : Tally), tally.broken = false → ∀ debugger,
        (work.AnswersFit backend debugger →
          ∃ sent, work.conduct backend.line tally (debugger, .empty)
            = ((work.answeredBy (dispatch backend) debugger).1, ⟨sent, false⟩,
              (work.answeredBy (dispatch backend) debugger).2, .empty))
        ∧ ((work.conduct backend.line tally (debugger, .empty)).2.1.broken = true
          ↔ ¬ work.AnswersFit backend debugger))
      ∧ ∀ request debugger, ¬ Fits (.eventResponse (dispatch backend request debugger).1) →
        (backend.line.exchange request false (debugger, .empty)).1
          = .error (.noAnswer (.tooLong defaultLimit)) := by
  refine ⟨fun request before => ?_, refusesOnly_of_running, ?_, ?_⟩
  · exact ⟨_, _, rfl, dispatch_answers backend request before, Message.decode_eventResponse _⟩
  · intro α work tally usable debugger
    rcases work.conduct_line backend usable debugger with ⟨fit, sent, whole⟩ | ⟨long, broken⟩
    · refine ⟨fun _ => ⟨sent, whole⟩, ?_⟩
      rw [whole]
      exact iff_of_false Bool.false_ne_true (not_not_intro fit)
    · exact ⟨fun fit => absurd fit long, iff_of_true broken long⟩
  · intro request debugger long
    obtain ⟨after, exchanged⟩ := backend.exchange_line_of_long long
    rw [exchanged]

/-- A debugger with a thread but no frame, and an expression that makes it panic. -/
def frameless : Simulator :=
  Simulator.fresh.setUp [.withoutFrame, .expressionPanic "boom"]

/-- A server's way of looking for a value: it asks for the frame, and whatever comes of that, for an
expression. -/
def stubborn : Work Reply :=
  .ask .frameInfo fun _ => .ask (.evaluate "boom") .done

theorem Backend.dispatch_in_category_frameless :
    Simulator.backend.Running frameless frameless
      ∧ (dispatch Simulator.backend .frameInfo frameless).1.IsError
      ∧ (dispatch Simulator.backend (.readRegister "rip") frameless).1.IsError
      ∧ ¬ (dispatch Simulator.backend (.variableType "x") frameless).1.IsError
      ∧ ¬ (dispatch Simulator.backend .threadInfo frameless).1.IsError
      ∧ ¬ (dispatch Simulator.backend .baseAddress frameless).1.IsError
      ∧ ∃ sent, stubborn.conduct Simulator.backend.line {} (frameless, .empty)
          = (.ok (.error "Event handling error: boom"), ⟨sent, false⟩,
            (stubborn.answeredBy (dispatch Simulator.backend) frameless).2, .empty) := by
  have running : Simulator.backend.Running frameless frameless := ⟨frameless, rfl, rfl⟩
  have selects : Simulator.backend.Selects frameless (some ⟨4242, some "main"⟩) none frameless :=
    .thread rfl rfl
  have category := dispatch_in_category Simulator.backend
  have refuses := category.2.1 running
  refine ⟨running, (refuses.frameInfo selects).mpr (.inr rfl),
    (refuses.readRegister selects "rip").mpr (.inr (.inl rfl)),
    refuses.variableType selects "x" nofun, fun error => ?_, fun error => ?_, ?_⟩
  · have sees : Simulator.backend.thread frameless
        = (.ok (some ⟨4242, some "main"⟩), frameless) := rfl
    cases (refuses.threadInfo sees).mp error
  · have sees : Simulator.backend.baseAddress frameless
        = (.ok (some 0x555555554000), frameless) := rfl
    cases (refuses.baseAddress sees).mp error
  · have fit : stubborn.AnswersFit Simulator.backend frameless := by
      unfold Work.AnswersFit
      decide +kernel
    exact (category.2.2.1 stubborn {} rfl frameless).1 fit

/-- A debugger after an allocation of 32 MiB. -/
def spacious : Simulator :=
  Simulator.updateProcess (.map ⟨Simulator.heapBase, .blank 0x2000000, true⟩) .fresh

theorem dispatch_spacious :
    dispatch Simulator.backend (.readMemory Simulator.heapBase 0x2000000) spacious
      = (.memoryData (List.replicate 0x2000000 0), spacious) := by
  have found : (spacious.process?.bind fun process => process.region? Simulator.heapBase)
      = some ⟨Simulator.heapBase, .blank 0x2000000, true⟩ := by decide
  have slice : (Extent.blank 0x2000000).slice? 0 0x2000000
      = some (List.replicate 0x2000000 0) := by
    rw [Extent.slice?_eq, if_pos (by decide), Extent.toList_blank, List.drop_zero,
      List.take_replicate, Nat.min_self]
  obtain ⟨process, running, here⟩ := Option.bind_eq_some_iff.mp found
  rw [Simulator.dispatch_readMemory running, SimulatedProcess.memory?, here]
  exact congrArg (fun read => (Simulator.readAnswer Simulator.heapBase read, spacious)) slice

/-- An answer of the right category may still be too long for the line, and then breaks it. -/
theorem Backend.answer_too_long :
    (dispatch Simulator.backend (.readMemory Simulator.heapBase 0x2000000) spacious).1
        = .memoryData (List.replicate 0x2000000 0)
      ∧ ((Work.ask (.readMemory Simulator.heapBase 0x2000000) .done).conduct
        Simulator.backend.line {} (spacious, .empty)).2.1.broken = true := by
  refine ⟨congrArg Prod.fst dispatch_spacious, ?_⟩
  rcases Work.conduct_line Simulator.backend
      (.ask (.readMemory Simulator.heapBase 0x2000000) .done)
      (show ({} : Tally).broken = false from rfl) spacious with ⟨fit, -⟩ | ⟨-, broken⟩
  · have short := (Work.answersFit_ask.mp fit).1
    have long := Message.two_mul_length_lt_payload (List.replicate 0x2000000 0)
    rw [List.length_replicate] at long
    have limit : defaultLimit.toNat = 2 * 0x2000000 := by decide
    rw [dispatch_spacious, Fits, limit] at short
    exact absurd long (Nat.not_lt.mpr short)
  · exact broken

end DebugBridge
