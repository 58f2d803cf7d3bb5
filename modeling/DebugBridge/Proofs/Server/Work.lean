import DebugBridge.Server.Task

/-!
# How often work asks, and what it gives

`Work.Bounded property n`: whatever the replies, the work asks at most `n` times, and what it gives
in the end has the property. A task gives something only if it does not fail.

Results:
1. `Work.bounded_bind`, `Task.bounded_bind`: bounds add up.
2. `Task.bounded_ask`, `Task.bounded_callFunction`, `Task.bounded_callMethod`: single requests ask
   once, calls at most twice.
-/

namespace DebugBridge

namespace Work

variable {α β : Type}

def Bounded (property : α → Prop) : Nat → Work α → Prop
  | _, .done a => property a
  | 0, .ask _ _ => False
  | count + 1, .ask _ resume => ∀ reply, Bounded property count (resume reply)

theorem bounded_done_iff {property : α → Prop} {a : α} {count : Nat} :
    Bounded property count (.done a) ↔ property a := by
  cases count <;> rfl

/-- After a request there is one less to ask. -/
theorem Bounded.of_ask {property : α → Prop} {request : Request} {resume : Reply → Work α}
    {count : Nat} (bounded : Bounded property count (.ask request resume)) :
    ∃ less, count = less + 1 ∧ ∀ reply, Bounded property less (resume reply) := by
  cases count with
  | zero => exact bounded.elim
  | succ less => exact ⟨less, rfl, bounded⟩

theorem Bounded.mono {property : α → Prop} {work : Work α} {count more : Nat}
    (bounded : Bounded property count work) (le : count ≤ more) : Bounded property more work := by
  induction work generalizing count more with
  | done a => exact bounded_done_iff.mpr (bounded_done_iff.mp bounded)
  | ask request resume ih =>
    obtain ⟨count, rfl, further⟩ := bounded.of_ask
    obtain ⟨more, rfl⟩ := Nat.exists_eq_add_one_of_ne_zero (Nat.ne_zero_of_lt le)
    exact fun reply => ih reply (further reply) (Nat.le_of_succ_le_succ le)

/-- Work in two parts asks at most as often as both together. -/
theorem bounded_bind {first : α → Prop} {second : β → Prop} {work : Work α} {next : α → Work β}
    {count more : Nat} (bounded : Bounded first count work)
    (then' : ∀ a, first a → Bounded second more (next a)) :
    Bounded second (count + more) (work.bind next) := by
  induction work generalizing count with
  | done a => exact (then' a (bounded_done_iff.mp bounded)).mono (Nat.le_add_left more count)
  | ask request resume ih =>
    obtain ⟨count, rfl, further⟩ := bounded.of_ask
    rw [Nat.succ_add]
    exact fun reply => ih reply (further reply)

end Work

namespace Task

variable {α β : Type}

/-- The same for what a task gives, if it does not fail. -/
def Bounded (property : α → Prop) (count : Nat) (task : Task α) : Prop :=
  Work.Bounded (fun result => ∀ a, result = .ok a → property a) count task.run

theorem bounded_pure {property : α → Prop} {a : α} (h : property a) (count : Nat) :
    Bounded property count (pure a) := by
  refine Work.bounded_done_iff.mpr fun a' same => ?_
  cases same
  exact h

theorem bounded_throw (property : α → Prop) (report : Report) (count : Nat) :
    Bounded property count (throw report) :=
  Work.bounded_done_iff.mpr fun _ same => nomatch same

theorem bounded_bind {first : α → Prop} {second : β → Prop} {task : Task α} {next : α → Task β}
    {count more : Nat} (bounded : Bounded first count task)
    (then' : ∀ a, first a → Bounded second more (next a)) :
    Bounded second (count + more) (task >>= next) := by
  refine Work.bounded_bind bounded fun result h => ?_
  cases result with
  | ok a => exact then' a (h a rfl)
  | error report => exact Work.bounded_done_iff.mpr fun _ same => nomatch same

theorem bounded_ask (request : Request) (extract : Response → Option α) :
    Bounded (fun _ => True) 1 (ask request extract) := by
  intro reply
  cases reply with
  | ok response => exact fun _ _ => trivial
  | error fault => exact fun _ _ => trivial

theorem bounded_within {property : α → Prop} {task : Task α} {count : Nat} (message : String)
    (bounded : Bounded property count task) : Bounded property count (within message task) := by
  show Work.Bounded _ (count + 0) (task.run.bind _)
  refine Work.bounded_bind bounded fun result h => Work.bounded_done_iff.mpr ?_
  cases result with
  | ok a => exact h
  | error report => exact fun _ same => nomatch same

theorem bounded_materialize (result : CallResult) :
    Bounded (fun _ => True) 1 (materialize result) := by
  cases result with
  | register value returnType => exact bounded_pure trivial 1
  | buffer address size returnType =>
    exact bounded_bind (bounded_within _ (bounded_ask _ _)) fun _ _ => bounded_pure trivial 0

theorem bounded_callFunction (function : UInt64) (arguments : List Argument)
    (returnSize : Option UInt64) :
    Bounded (fun _ => True) 2 (callFunction function arguments returnSize) :=
  bounded_bind (bounded_ask _ _) fun result _ => bounded_materialize result

theorem bounded_callMethod (method receiver : UInt64) (arguments : List Argument)
    (returnSize : Option UInt64) :
    Bounded (fun _ => True) 2 (callMethod method receiver arguments returnSize) :=
  bounded_bind (bounded_ask _ _) fun result _ => bounded_materialize result

end Task
end DebugBridge
