import DebugBridge.Proofs.Client.Observation

/-!
# Looking for a server

A manager that finds no server starts one, once, and then looks for it again and again, but not for
ever. `Polled` says how it looks and `Startup` what is done altogether and what comes of it, for any
answers that the network gives to the looks, before the start and after it.

Results:
1. `exists_polling`: how a server is waited for.
2. `Startup.ok_iff`, `Startup.launches_eq`, `Startup.counts`: when a server can be reached in the end,
   when one is started, and how often it is looked for.
-/

namespace DebugBridge

namespace Effect

def isProbe : Effect → Bool
  | .probed _ => true
  | _ => false

def isLaunch : Effect → Bool
  | .launched _ => true
  | _ => false

def isWait : Effect → Bool
  | .waited => true
  | _ => false

end Effect

def probes (effects : List Effect) : Nat :=
  effects.countP Effect.isProbe

def launches (effects : List Effect) : Nat :=
  effects.countP Effect.isLaunch

def waits (effects : List Effect) : Nat :=
  effects.countP Effect.isWait

@[simp] theorem probes_append (effects more : List Effect) :
    probes (effects ++ more) = probes effects + probes more :=
  List.countP_append

@[simp] theorem launches_append (effects more : List Effect) :
    launches (effects ++ more) = launches effects + launches more :=
  List.countP_append

@[simp] theorem waits_append (effects more : List Effect) :
    waits (effects ++ more) = waits effects + waits more :=
  List.countP_append

/-! ## Waiting for a server -/

/-- Looks in vain, with a pause after each. -/
def inVain : Nat → List Effect
  | 0 => []
  | count + 1 => [.probed false, .waited] ++ inVain count

@[simp] theorem probes_inVain (count : Nat) : probes (inVain count) = count := by
  induction count with
  | zero => rfl
  | succ count ih =>
    rw [inVain, probes_append, ih]
    exact Nat.add_comm 1 count

@[simp] theorem waits_inVain (count : Nat) : waits (inVain count) = count := by
  induction count with
  | zero => rfl
  | succ count ih =>
    rw [inVain, waits_append, ih]
    exact Nat.add_comm 1 count

@[simp] theorem launches_inVain (count : Nat) : launches (inVain count) = 0 := by
  induction count with
  | zero => rfl
  | succ count ih =>
    rw [inVain, launches_append, ih]
    rfl

namespace Network

variable {ν κ : Type} (world : Network ν κ)

/-- The network when it has been looked at some number of times, with a pause after each. -/
def lookout : ν → Nat → ν
  | state, 0 => state
  | state, count + 1 => lookout (world.wait (world.probe state).2) count

/-- What the looks find, counted from zero. -/
def finds (state : ν) (count : Nat) : Bool :=
  (world.probe (world.lookout state count)).1

end Network

namespace Manager

/-- Looking for a server at most `tries` times, until one is found: whether one is, and what is
done. The answers to the looks are counted from zero. -/
inductive Polled (answers : Nat → Bool) (tries : Nat) : Bool → List Effect → Prop
  | found {count : Nat} : count < tries → (∀ i, i < count → answers i = false) →
      answers count = true → Polled answers tries true (inVain count ++ [.probed true])
  | exhausted : (∀ i, i < tries → answers i = false) →
      Polled answers tries false (inVain (tries - 1) ++ [.probed false])

section Polled

variable {answers : Nat → Bool} {tries : Nat} {found : Bool} {looks : List Effect}

theorem Polled.at_once (positive : 0 < tries) (first : answers 0 = true) :
    Polled answers tries true [.probed true] :=
  .found positive (fun i below => absurd below (Nat.not_lt_zero i)) first

/-- One more look in vain, and a pause, before the others. -/
theorem Polled.later (positive : 0 < tries) (first : answers 0 = false)
    (polled : Polled (fun i => answers (i + 1)) tries found looks) :
    Polled answers (tries + 1) found ([.probed false, .waited] ++ looks) := by
  have earlier : ∀ count, (∀ i, i < count → answers (i + 1) = false) →
      ∀ i, i < count + 1 → answers i = false := by
    intro count vain i below
    cases i with
    | zero => exact first
    | succ i => exact vain i (Nat.lt_of_succ_lt_succ below)
  cases polled with
  | found below vain last =>
    rw [← List.append_assoc]
    exact .found (Nat.succ_lt_succ below) (earlier _ vain) last
  | exhausted vain =>
    obtain ⟨rest, rfl⟩ := Nat.exists_eq_succ_of_ne_zero (Nat.ne_of_gt positive)
    rw [← List.append_assoc]
    exact .exhausted (earlier _ vain)

theorem Polled.found_iff (polled : Polled answers tries found looks) :
    found = true ↔ ∃ i, i < tries ∧ answers i = true := by
  cases polled with
  | found below vain last => exact iff_of_true rfl ⟨_, below, last⟩
  | exhausted vain =>
    refine iff_of_false Bool.false_ne_true ?_
    rintro ⟨i, below, hit⟩
    exact Bool.false_ne_true ((vain i below).symm.trans hit)

theorem Polled.probes_le (positive : 0 < tries) (polled : Polled answers tries found looks) :
    probes looks ≤ tries := by
  cases polled with
  | found below vain last =>
    rw [probes_append, probes_inVain]
    exact below
  | exhausted vain =>
    rw [probes_append, probes_inVain]
    exact Nat.le_of_eq (Nat.sub_add_cancel positive)

theorem Polled.launches_eq (polled : Polled answers tries found looks) : launches looks = 0 := by
  cases polled with
  | found below vain last => rw [launches_append, launches_inVain]; rfl
  | exhausted vain => rw [launches_append, launches_inVain]; rfl

end Polled

section Looking

variable {ν κ : Type} (world : Network ν κ)

/-- Looking for a server once. -/
theorem exists_probed (seen : Observed ν) :
    ∃ found state, world.probe seen.state = (found, state)
      ∧ (Observed.network world).probe seen = (found, seen.after [.probed found] state) :=
  ⟨_, _, rfl, rfl⟩

/-- How a server is waited for. -/
theorem exists_polling (count : Nat) (seen : Observed ν) :
    ∃ found looks state, Polled (world.finds seen.state) (count + 1) found looks
      ∧ poll world count seen.state = (found, state)
      ∧ poll (Observed.network world) count seen = (found, seen.after looks state) := by
  induction count generalizing seen with
  | zero =>
    obtain ⟨found, state, plain, observed⟩ := exists_probed world seen
    have finds : world.finds seen.state 0 = found := congrArg Prod.fst plain
    unfold poll
    rw [plain, observed]
    cases found with
    | true => exact ⟨true, _, state, .at_once Nat.zero_lt_one finds, rfl, rfl⟩
    | false =>
      refine ⟨false, _, state, .exhausted fun i below => ?_, rfl, rfl⟩
      rwa [Nat.lt_one_iff.mp below]
  | succ count ih =>
    obtain ⟨found, state, plain, observed⟩ := exists_probed world seen
    have finds : world.finds seen.state 0 = found := congrArg Prod.fst plain
    unfold poll
    rw [plain, observed]
    cases found with
    | true => exact ⟨true, _, state, .at_once (Nat.succ_pos _) finds, rfl, rfl⟩
    | false =>
      obtain ⟨found, looks, last, polled, plain', observed'⟩ :=
        ih ((seen.after [.probed false] state).after [.waited] (world.wait state))
      have onward : (fun i => world.finds seen.state (i + 1)) = world.finds (world.wait state) := by
        funext i
        simp only [Network.finds, Network.lookout, plain]
      have polled : Polled (fun i => world.finds seen.state (i + 1)) (count + 1) found looks := by
        rw [onward]
        exact polled
      refine ⟨found, _, last, polled.later (Nat.succ_pos count) finds, plain', ?_⟩
      refine observed'.trans (congrArg (Prod.mk found) ?_)
      rw [Observed.after_after, Observed.after_after]
      rfl

end Looking

/-! ## Starting a server -/

theorem attempts_pos (settings : Settings) : 0 < attempts settings :=
  Nat.lt_of_lt_of_le Nat.zero_lt_one (Nat.le_max_right ..)

/-- How it is made sure that a server can be reached: what comes of it, and what is done. It depends
on whether a server is found at first, on what comes of starting one, and on what the looks after
that find. -/
inductive Startup (settings : Settings) (running : Bool) (launched : Except String Unit)
    (answers : Nat → Bool) : Except ManagerFault Unit → List Effect → Prop
  | running : running = true → Startup settings running launched answers (.ok ()) [.probed true]
  | unlaunched {text : String} : running = false → launched = .error text →
      Startup settings running launched answers (.error (.launch text))
        [.probed false, .launched (.error text)]
  | started {looks : List Effect} : running = false → launched = .ok () →
      Polled answers (attempts settings) true looks →
      Startup settings running launched answers (.ok ())
        ([.probed false, .launched (.ok ())] ++ looks)
  | unavailable {looks : List Effect} : running = false → launched = .ok () →
      Polled answers (attempts settings) false looks →
      Startup settings running launched answers
        (.error (.unavailable settings.address (attempts settings)))
        ([.probed false, .launched (.ok ())] ++ looks)

section Startup

variable {settings : Settings} {running : Bool} {launched : Except String Unit}
  {answers : Nat → Bool} {result : Except ManagerFault Unit} {looks : List Effect}

/-- When a server can be reached in the end. -/
theorem Startup.ok_iff (startup : Startup settings running launched answers result looks) :
    result = .ok () ↔ running = true
      ∨ launched = .ok () ∧ ∃ i, i < attempts settings ∧ answers i = true := by
  cases startup with
  | running found => exact iff_of_true rfl (.inl found)
  | unlaunched missing failed =>
    refine iff_of_false nofun ?_
    rintro (found | ⟨ok, -⟩)
    · exact Bool.false_ne_true (missing.symm.trans found)
    · cases failed.symm.trans ok
  | started missing ok polled => exact iff_of_true rfl (.inr ⟨ok, polled.found_iff.mp rfl⟩)
  | unavailable missing ok polled =>
    refine iff_of_false nofun ?_
    rintro (found | ⟨-, hit⟩)
    · exact Bool.false_ne_true (missing.symm.trans found)
    · exact Bool.false_ne_true (polled.found_iff.mpr hit)

/-- Why no server can be reached. -/
theorem Startup.fault (startup : Startup settings running launched answers result looks)
    (fault : ManagerFault) (failed : result = .error fault) :
    (∃ text, fault = .launch text)
      ∨ fault = .unavailable settings.address (attempts settings) := by
  cases startup with
  | running found => cases failed
  | unlaunched missing given =>
    cases failed
    exact .inl ⟨_, rfl⟩
  | started missing ok polled => cases failed
  | unavailable missing ok polled =>
    cases failed
    exact .inr rfl

/-- A server is started just when none is found. -/
theorem Startup.launches_eq (startup : Startup settings running launched answers result looks) :
    launches looks = if running = true then 0 else 1 := by
  cases startup with
  | running found => rw [if_pos found]; rfl
  | unlaunched missing failed => rw [missing]; rfl
  | started missing ok polled => rw [missing, launches_append, polled.launches_eq]; rfl
  | unavailable missing ok polled => rw [missing, launches_append, polled.launches_eq]; rfl

/-- A server that has been started is looked for as often as it is said when it is given up, and
there is a pause between two looks. -/
theorem Startup.counts (startup : Startup settings running launched answers result looks)
    {address : String} {count : Nat} (given : result = .error (.unavailable address count)) :
    count = attempts settings ∧ probes looks = 1 + count ∧ waits looks = count - 1 := by
  cases startup with
  | running found => cases given
  | unlaunched missing failed => cases given
  | started missing ok polled => cases given
  | unavailable missing ok polled =>
    cases given
    cases polled with
    | exhausted vain =>
      refine ⟨rfl, ?_, ?_⟩
      · rw [probes_append, probes_append, probes_inVain]
        exact congrArg (1 + ·) (Nat.sub_add_cancel (attempts_pos settings))
      · rw [waits_append, waits_append, waits_inVain]
        exact Nat.zero_add _

end Startup

end Manager
end DebugBridge
