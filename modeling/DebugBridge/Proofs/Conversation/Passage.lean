import DebugBridge.Proofs.Conversation.Transcript
import DebugBridge.Proofs.Wire.Framing

/-!
# A stretch of a conversation

A party takes turns while a stream comes in, and whatever it sends gets through. A passage is what
it says and hears from one point to another, with what is left of the stream at both.

Results:
1. `Passage.append`, `Passage.continues`: passages are put together, and of two from the same point
   one begins with the other.
2. `Passage.unique`: there is one passage to the end.
3. `Passage.exists_consumed`: as long as the end of the stream has not been reached, a passage does
   not depend on what is behind the octets that it takes.
4. `Mailbox.exists_passage`: what happens over a mailbox is a passage.
-/

namespace DebugBridge

/-! ## Messages of a stream -/

/-- A message is read from octets that are taken whole, whatever stands behind them. -/
theorem Framed.exists_consumed {limit : UInt64} {octets rest : List UInt8} {incoming : Incoming}
    (framed : Framed limit octets incoming rest) (message : incoming ≠ .error .closed) :
    ∃ consumed, octets = consumed ++ rest
      ∧ ∀ other, Framed limit (consumed ++ other) incoming other := by
  cases framed with
  | @line line _ clean short plain =>
    refine ⟨line ++ [10], by simp, fun other => ?_⟩
    rw [List.append_assoc]
    exact .line clean short plain
  | @returned line _ clean short =>
    refine ⟨line ++ [13, 10], by simp, fun other => ?_⟩
    rw [List.append_assoc]
    exact .returned clean short
  | @tooLong start _ clean long => exact ⟨start, rfl, fun other => .tooLong clean long⟩
  | ended _ _ => exact absurd rfl message

variable {α : Type} {turn : α → Turn α}

/-- What a party says and hears between two points, when all that it says gets through. -/
inductive Passage (turn : α → Turn α) : α → List UInt8 → List Act → α → List UInt8 → Prop
  | nil (party : α) (octets : List UInt8) : Passage turn party octets [] party octets
  | sent {party final : α} {octets rest : List UInt8} {acts : List Act} {message : Message}
      {next : Except TransportFault Unit → α} : turn party = .send message next →
      Passage turn (next (.ok ())) octets acts final rest →
      Passage turn party octets (.sent message (.ok ()) :: acts) final rest
  | received {party final : α} {octets behind rest : List UInt8} {acts : List Act}
      {incoming : Incoming} {next : Incoming → α} : turn party = .receive next →
      Framed defaultLimit octets incoming behind →
      Passage turn (next incoming) behind acts final rest →
      Passage turn party octets (.received incoming :: acts) final rest

namespace Passage

variable {party middle final : α} {octets between rest : List UInt8} {acts later : List Act}

theorem append (first : Passage turn party octets acts middle between)
    (last : Passage turn middle between later final rest) :
    Passage turn party octets (acts ++ later) final rest := by
  induction first with
  | nil _ _ => exact last
  | sent sends _ ih => exact .sent sends (ih last)
  | received receives framed _ ih => exact .received receives framed (ih last)

/-- A party that has ended says and hears nothing. -/
theorem of_ended (ended : turn party = .ended)
    (passage : Passage turn party octets acts final rest) :
    acts = [] ∧ final = party ∧ rest = octets := by
  cases passage with
  | nil _ _ => exact ⟨rfl, rfl, rfl⟩
  | sent sends _ => cases ended.symm.trans sends
  | received receives _ _ => cases ended.symm.trans receives

/-- A passage to the end begins with every other one from the same point. -/
theorem continues {whole : List Act} (first : Passage turn party octets acts middle between)
    (complete : Passage turn party octets whole final rest) (ended : turn final = .ended) :
    ∃ later, whole = acts ++ later ∧ Passage turn middle between later final rest := by
  induction first generalizing whole with
  | nil _ _ => exact ⟨whole, rfl, complete⟩
  | sent sends _ ih =>
    cases complete with
    | nil _ _ => cases ended.symm.trans sends
    | sent sends' complete =>
      cases sends.symm.trans sends'
      obtain ⟨later, rfl, onward⟩ := ih complete
      exact ⟨later, rfl, onward⟩
    | received receives _ _ => cases sends.symm.trans receives
  | received receives framed _ ih =>
    cases complete with
    | nil _ _ => cases ended.symm.trans receives
    | sent sends _ => cases receives.symm.trans sends
    | received receives' framed' complete =>
      cases receives.symm.trans receives'
      cases framed.nextMessage.symm.trans framed'.nextMessage
      obtain ⟨later, rfl, onward⟩ := ih complete
      exact ⟨later, rfl, onward⟩

/-- There is one way to the end. -/
theorem unique {acts' : List Act} {final' : α} {rest' : List UInt8}
    (complete : Passage turn party octets acts final rest) (ended : turn final = .ended)
    (complete' : Passage turn party octets acts' final' rest') (ended' : turn final' = .ended) :
    acts' = acts ∧ final' = final ∧ rest' = rest := by
  obtain ⟨later, rfl, onward⟩ := complete.continues complete' ended'
  obtain ⟨rfl, same, same'⟩ := onward.of_ended ended
  exact ⟨List.append_nil acts, same, same'⟩

/-- What is behind the octets that a passage takes does not matter, unless it has found the end of
the stream. -/
theorem exists_consumed (passage : Passage turn party octets acts final rest)
    (unclosed : .received (.error .closed) ∉ acts) :
    ∃ consumed, octets = consumed ++ rest
      ∧ ∀ other, Passage turn party (consumed ++ other) acts final other := by
  induction passage with
  | nil party octets => exact ⟨[], rfl, fun other => .nil party other⟩
  | sent sends _ ih =>
    obtain ⟨consumed, split, onward⟩ := ih fun present => unclosed (List.mem_cons_of_mem _ present)
    exact ⟨consumed, split, fun other => .sent sends (onward other)⟩
  | received receives framed _ ih =>
    simp only [List.mem_cons, not_or, Act.received.injEq] at unclosed
    obtain ⟨first, rfl, reads⟩ := framed.exists_consumed (Ne.symm unclosed.1)
    obtain ⟨consumed, rfl, onward⟩ := ih unclosed.2
    refine ⟨first ++ consumed, (List.append_assoc ..).symm, fun other => ?_⟩
    rw [List.append_assoc]
    exact .received receives (reads _) (onward other)

end Passage

/-! ## Mailboxes -/

/-- Turns over a mailbox that somebody attends to are a passage, at whatever point they stop. -/
theorem Mailbox.exists_passage (turn : α → Turn α) (count : Nat) (party : α) {mailbox : Mailbox}
    {octets : List UInt8} (coming : mailbox.Coming octets) (attended : mailbox.attended = true) :
    ∃ acts rest,
      Passage turn party octets acts (Turn.run line turn count party mailbox).1 rest
      ∧ (Turn.run line turn count party mailbox).2.Coming rest
      ∧ (Turn.run line turn count party mailbox).2.sent = mailbox.sent ++ said acts := by
  induction count generalizing party mailbox octets with
  | zero => exact ⟨[], octets, .nil party octets, coming, (List.append_nil _).symm⟩
  | succ count ih =>
    unfold Turn.run Turn.step?
    cases does : turn party with
    | ended => exact ⟨[], octets, .nil party octets, coming, (List.append_nil _).symm⟩
    | send message next =>
      have sending : line.send message mailbox
          = (.ok (), { mailbox with sent := mailbox.sent ++ [message] }) := if_pos attended
      have coming' : Mailbox.Coming { mailbox with sent := mailbox.sent ++ [message] } octets :=
        coming
      simp only [sending]
      obtain ⟨acts, rest, passage, behind, sent⟩ :=
        ih (next (.ok ())) coming' attended
      refine ⟨_, rest, .sent does passage, behind, ?_⟩
      rw [sent, List.append_assoc]
      rfl
    | receive next =>
      obtain ⟨same, behind⟩ := streams.receive coming
      have framed := framed_nextMessage defaultLimit octets
      rw [← same] at framed
      obtain ⟨acts, rest, passage, behind, sent⟩ := ih (next _) behind attended
      exact ⟨_, rest, .received does framed passage, behind, sent⟩

end DebugBridge
