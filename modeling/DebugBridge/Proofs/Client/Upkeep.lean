import DebugBridge.Proofs.Client.Startup

/-!
# What a manager does in a call

Each call is described by what it does to the network, what it answers, and what the manager holds
before and after it: nothing, or a binary and the number of a connection.

* `Bound`: how a session for a binary is come by. The one that is held is taken when its binary is
  the same path. Otherwise it is closed first, and then a server is looked for, a connection is
  opened and the binary is named on it, each of which may fail.
* `Used`: a command in that session, which is kept unless it breaks.
* `Served`: a command for whatever is selected, which may be nothing.
* `Did`: any call.

Results:
1. `exists_bound`, `exists_used`, `exists_served`: the parts of a call.
2. `exists_did`: every call is one of those described.
-/

namespace DebugBridge

open Client.Session (Opened Executed)

namespace HeldSession

variable {κ : Type}

/-- A session on a numbered connection, without the number. -/
def plain (held : HeldSession (Nat × κ)) : HeldSession κ :=
  ⟨held.binary, held.connection.2⟩

/-- A session by the number of its connection. -/
def numbered (held : HeldSession (Nat × κ)) : Path × Nat :=
  (held.binary, held.connection.1)

end HeldSession

namespace Manager

/-! ## Calls -/

/-- What a debugger may want of its manager. -/
inductive Call (σ : Type) where
  | execute (patience : Nat) (command : Command) (debugger : σ)
  | line (patience : Nat) (text : String) (debugger : σ)
  | status
  | close

/-- What a call returns, with the debugger as it is then. -/
inductive Answer (σ : Type) where
  | outcome (result : Except ManagerFault Outcome) (debugger : σ)
  | text (text : String) (debugger : σ)
  | status (status : ServerStatus)
  | closed

section Calls

variable {ν κ σ : Type} (world : Network ν κ) (backend : Backend σ)

/-- A call, if it returns. -/
def perform (manager : Manager ν κ) : Call σ → Option (Answer σ × Manager ν κ)
  | .execute patience command debugger =>
    (manager.execute world backend patience command debugger).map fun returned =>
      (.outcome returned.value returned.debugger, returned.manager)
  | .line patience text debugger =>
    (manager.runLine world backend patience text debugger).map fun returned =>
      (.text returned.value returned.debugger, returned.manager)
  | .status =>
    let (status, manager) := manager.status world
    some (.status status, manager)
  | .close => some (.closed, manager.close world)

end Calls

/-! ## What is done -/

/-- Nothing but looking for a server and starting one. -/
def Looks (effects : List Effect) : Prop :=
  ∀ effect, effect ∈ effects → effect.isLook = true

theorem looks_singleton {effect : Effect} (look : effect.isLook = true) : Looks [effect] := by
  intro effect' present
  rw [List.mem_singleton.mp present]
  exact look

theorem Looks.opened {effects : List Effect} (looks : Looks effects) : opened effects = 0 := by
  refine List.countP_eq_zero.mpr fun effect present opening => ?_
  have look := looks effect present
  cases effect with
  | connected result => cases look
  | acted number act => cases look
  | closed number => cases look
  | probed reachable => cases opening
  | launched result => cases opening
  | waited => cases opening

theorem Looks.append {effects more : List Effect} (first : Looks effects) (last : Looks more) :
    Looks (effects ++ more) :=
  fun effect present => (List.mem_append.mp present).elim (first effect) (last effect)

theorem looks_inVain (count : Nat) : Looks (inVain count) := by
  induction count with
  | zero => exact fun effect present => absurd present List.not_mem_nil
  | succ count ih => exact ((looks_singleton rfl).append (looks_singleton rfl)).append ih

theorem Polled.looks {answers : Nat → Bool} {tries : Nat} {found : Bool} {effects : List Effect}
    (polled : Polled answers tries found effects) : Looks effects := by
  cases polled with
  | found below vain last => exact (looks_inVain _).append (looks_singleton rfl)
  | exhausted vain => exact (looks_inVain _).append (looks_singleton rfl)

theorem Startup.looks {settings : Settings} {running : Bool} {launched : Except String Unit}
    {answers : Nat → Bool} {result : Except ManagerFault Unit} {effects : List Effect}
    (startup : Startup settings running launched answers result effects) : Looks effects := by
  have started : ∀ result : Except String Unit, Looks [.probed false, .launched result] :=
    fun _ => (looks_singleton rfl).append (looks_singleton rfl)
  cases startup with
  | running found => exact looks_singleton rfl
  | unlaunched missing failed => exact started _
  | started missing ok polled => exact (started _).append polled.looks
  | unavailable missing ok polled => exact (started _).append polled.looks

/-- What is held is closed. -/
def closing : Option (Path × Nat) → List Effect
  | none => []
  | some (_, number) => [.closed number]

/-- What is held is not for this binary. -/
def Differs (held : Option (Path × Nat)) (path : Path) : Prop :=
  ∀ binary number, held = some (binary, number) → Path.same binary path = false

/-- How a session for a binary is come by. The number is that of the next connection. -/
inductive Bound (settings : Settings) (path : Path) (number : Nat) :
    Option (Path × Nat) → List Effect → Except ManagerFault (Path × Nat) → Prop
  | reused {binary : Path} {old : Nat} : Path.same binary path = true →
      Bound settings path number (some (binary, old)) [] (.ok (binary, old))
  | unreachable {held : Option (Path × Nat)} {looks : List Effect} {fault : ManagerFault} :
      Differs held path → Looks looks →
      (∃ text, fault = .launch text)
        ∨ fault = .unavailable settings.address (attempts settings) →
      Bound settings path number held (closing held ++ looks) (.error fault)
  | unconnected {held : Option (Path × Nat)} {looks : List Effect} (text : String) :
      Differs held path → Looks looks →
      Bound settings path number held (closing held ++ (looks ++ [.connected (.error text)]))
        (.error (.connect settings.address))
  | refused {held : Option (Path × Nat)} {looks : List Effect} {acts : List Act}
      {fault : SessionFault} : Differs held path → Looks looks → Opened path acts (.error fault) →
      Bound settings path number held
        (closing held ++ (looks ++ [.connected (.ok number)] ++ (effectsOn number acts
          ++ [.closed number])))
        (.error (.session fault))
  | opened {held : Option (Path × Nat)} {looks : List Effect} {acts : List Act} :
      Differs held path → Looks looks → Opened path acts (.ok ()) →
      Bound settings path number held
        (closing held ++ (looks ++ [.connected (.ok number)] ++ effectsOn number acts))
        (.ok (path, number))

section Commands

variable {σ : Type} (backend : Backend σ)

/-- A command in an open session: from a state of the debugger, what is done, what comes of the
command, the state of the debugger then, and what is held then. -/
inductive Used (command : Command) (binary : Path) (number : Nat) :
    σ → List Effect → Except ManagerFault Outcome → σ → Option (Path × Nat) → Prop
  | kept {before after : σ} {acts : List Act} {outcome : Outcome} :
      Executed backend command before acts (.ok outcome) after →
      Used command binary number before (effectsOn number acts) (.ok outcome) after
        (some (binary, number))
  | lost {before after : σ} {acts : List Act} {fault : SessionFault} :
      Executed backend command before acts (.error fault) after →
      Used command binary number before (effectsOn number acts ++ [.closed number])
        (.error (.session fault)) after none

/-- A command for whatever the debugger has selected. -/
inductive Served (settings : Settings) (number : Nat) (command : Command) (before : σ) :
    Option (Path × Nat) → List Effect → Except ManagerFault Outcome → σ → Option (Path × Nat) →
      Prop
  | unselected {held : Option (Path × Nat)} {fault : ManagerFault} {after : σ} :
      selected? backend before = some (.error fault, after) →
      fault = .noTarget ∨ fault = .noExecutable →
      Served settings number command before held [] (.error fault) after held
  | unbound {held : Option (Path × Nat)} {path : Path} {effects : List Effect}
      {fault : ManagerFault} {after : σ} : selected? backend before = some (.ok path, after) →
      Bound settings path number held effects (.error fault) →
      Served settings number command before held effects (.error fault) after none
  | used {held next : Option (Path × Nat)} {path binary : Path} {bound : Nat}
      {effects more : List Effect} {between after : σ} {result : Except ManagerFault Outcome} :
      selected? backend before = some (.ok path, between) →
      Bound settings path number held effects (.ok (binary, bound)) →
      Used backend command binary bound between more result after next →
      Served settings number command before held (effects ++ more) result after next

/-- A call with what it returned and what it did. -/
structure Entry (σ : Type) where
  call : Call σ
  answer : Answer σ
  effects : List Effect

/-- A call, and what is held before and after it. -/
inductive Did (settings : Settings) (number : Nat) :
    Option (Path × Nat) → Entry σ → Option (Path × Nat) → Prop
  | executed {held next : Option (Path × Nat)} {patience : Nat} {command : Command}
      {before after : σ} {effects : List Effect} {result : Except ManagerFault Outcome} :
      Served backend settings number command before held effects result after next →
      Did settings number held
        ⟨.execute patience command before, .outcome result after, effects⟩ next
  | typed {held next : Option (Path × Nat)} {patience : Nat} {text : String}
      {subcommand : Subcommand} {command : Command} {before after : σ} {effects : List Effect}
      {result : Except ManagerFault Outcome} : Subcommand.parse text = .ok subcommand →
      subcommand.command? = some command →
      Served backend settings number command before held effects result after next →
      Did settings number held
        ⟨.line patience text before, .text (shown command.kind result) after, effects⟩ next
  | asked (held : Option (Path × Nat)) (patience : Nat) {text : String} (debugger : σ)
      {subcommand : Subcommand} (reachable : Bool) : Subcommand.parse text = .ok subcommand →
      subcommand.command? = none →
      Did settings number held
        ⟨.line patience text debugger,
          .text (if reachable then ServerStatus.running settings.address
            else .notRunning settings.address).text debugger, [.probed reachable]⟩ held
  | misread (held : Option (Path × Nat)) (patience : Nat) {text : String} (debugger : σ)
      {fault : SubcommandFault} : Subcommand.parse text = .error fault →
      Did settings number held
        ⟨.line patience text debugger, .text (complaint fault) debugger, []⟩ held
  | status (held : Option (Path × Nat)) (reachable : Bool) :
      Did settings number held
        ⟨.status, .status (if reachable then .running settings.address
          else .notRunning settings.address), [.probed reachable]⟩ held
  | closed (held : Option (Path × Nat)) :
      Did settings number held ⟨.close, .closed, closing held⟩ none

end Commands

/-! ## Managers -/

section Managers

variable {ν κ σ : Type} (world : Network ν κ) {backend : Backend σ}

/-- A manager on a watched network, without what has been seen. -/
def plain (manager : Manager (Observed ν) (Nat × κ)) : Manager ν κ :=
  ⟨manager.settings, manager.held.map HeldSession.plain, manager.network.state⟩

/-- What a manager on a watched network holds. -/
def holding (manager : Manager (Observed ν) (Nat × κ)) : Option (Path × Nat) :=
  manager.held.map HeldSession.numbered

/-- What is done to make sure that a server can be reached, and what comes of it. -/
theorem exists_startup (manager : Manager (Observed ν) (Nat × κ)) {running : Bool}
    {launched : Except String Unit} {between behind : ν}
    (probed : world.probe manager.network.state = (running, between))
    (launches : world.launch between = (launched, behind)) :
    ∃ result looks state,
      Startup manager.settings running launched (world.finds behind) result looks
        ∧ manager.plain.ensureServer world = (result, { manager.plain with network := state })
        ∧ manager.ensureServer (Observed.network world)
          = (result, { manager with network := manager.network.after looks state }) := by
  have probed' : (Observed.network world).probe manager.network
      = (running, manager.network.after [.probed running] between) :=
    congrArg (fun found => (found.1, manager.network.after [.probed found.1] found.2)) probed
  have plain : world.probe manager.plain.network = (running, between) := probed
  unfold ensureServer
  rw [plain, probed']
  cases running with
  | true => exact ⟨.ok (), _, between, .running rfl, rfl, rfl⟩
  | false =>
    have launches' : (Observed.network world).launch (manager.network.after [.probed false] between)
        = (launched, manager.network.after [.probed false, .launched launched] behind) := by
      refine (congrArg (fun done => (done.1, (manager.network.after [.probed false] between).after
        [.launched done.1] done.2)) launches).trans (congrArg (Prod.mk launched) ?_)
      exact Observed.after_after ..
    dsimp only
    rw [launches, launches']
    cases launched with
    | error text => exact ⟨_, _, behind, .unlaunched rfl rfl, rfl, rfl⟩
    | ok _ =>
      obtain ⟨found, looks, last, polled, polls, polls'⟩ :=
        exists_polling world (attempts manager.settings - 1)
          (manager.network.after [.probed false, .launched (.ok ())] behind)
      rw [Nat.sub_add_cancel (attempts_pos _)] at polled
      rw [Observed.after_after] at polls'
      have polls : poll world (attempts manager.plain.settings - 1) behind = (found, last) := polls
      dsimp only
      rw [polls, polls']
      cases found with
      | true => exact ⟨_, _, last, .started rfl rfl polled, rfl, rfl⟩
      | false => exact ⟨_, _, last, .unavailable rfl rfl polled, rfl, rfl⟩

/-- A server is looked for, and started if none is found. -/
theorem exists_ensured (manager : Manager (Observed ν) (Nat × κ)) :
    ∃ result looks state, Looks looks
      ∧ (∀ fault, result = .error fault → (∃ text, fault = .launch text)
        ∨ fault = .unavailable manager.settings.address (attempts manager.settings))
      ∧ manager.plain.ensureServer world = (result, { manager.plain with network := state })
      ∧ manager.ensureServer (Observed.network world)
        = (result, { manager with network := manager.network.after looks state }) := by
  obtain ⟨result, looks, state, startup, ensured⟩ := exists_startup world manager rfl rfl
  exact ⟨result, looks, state, startup.looks, startup.fault, ensured⟩

/-- A new session in the place of one that has been closed. -/
theorem exists_made (manager : Manager (Observed ν) (Nat × κ)) (path : Path)
    (empty : manager.held = none) :
    ∃ effects result state,
      (∀ held, Differs held path → Bound manager.settings path (opened manager.network.effects) held
        (closing held ++ effects) (result.map HeldSession.numbered))
      ∧ manager.plain.bindBinary world path = (result.map HeldSession.plain,
        ⟨manager.settings, result.toOption.map HeldSession.plain, state⟩)
      ∧ manager.bindBinary (Observed.network world) path = (result,
        ⟨manager.settings, result.toOption, manager.network.after effects state⟩) := by
  obtain ⟨settings, held, seen⟩ := manager
  subst empty
  obtain ⟨number, next⟩ : ∃ number, opened seen.effects = number := ⟨_, rfl⟩
  obtain ⟨ensured, looks, state, only, faults, plain, observed⟩ :=
    exists_ensured world ⟨settings, none, seen⟩
  unfold bindBinary
  rw [plain, observed]
  cases ensured with
  | error fault =>
    exact ⟨looks, .error fault, state, fun held differs => .unreachable differs only
      (faults fault rfl), rfl, rfl⟩
  | ok _ =>
    obtain ⟨connected, between, connects⟩ : ∃ connected between,
        world.connect state = (connected, between) := ⟨_, _, rfl⟩
    have behind : opened (seen.after looks state).effects = number := by
      rw [Observed.after, opened_append, only.opened]
      exact next
    dsimp only
    rw [connects, next]
    cases connected with
    | error text =>
      have connects' : (Observed.network world).connect (seen.after looks state)
          = (.error text, seen.after (looks ++ [.connected (.error text)]) between) := by
        simp only [Observed.network, Observed.connect, Observed.after, connects,
          List.append_assoc]
      rw [connects']
      exact ⟨_, .error (.connect settings.address), between,
        fun held differs => .unconnected text differs only, rfl, rfl⟩
    | ok connection =>
      have connects' : (Observed.network world).connect (seen.after looks state)
          = (.ok (number, connection),
            seen.after (looks ++ [.connected (.ok number)]) between) := by
        rw [← behind]
        simp only [Observed.network, Observed.connect, Observed.after, connects,
          List.append_assoc]
      obtain ⟨acts, result, last, opening, opens, opens'⟩ :=
        Client.Session.exists_opening world (number, connection) path
          (seen.after (looks ++ [.connected (.ok number)]) between)
      have opens : world.openSession connection path between = (result, last) := opens
      rw [Observed.after_after] at opens'
      rw [connects']
      dsimp only
      rw [opens, opens']
      cases result with
      | error fault =>
        exact ⟨looks ++ [.connected (.ok number)] ++ (effectsOn number acts ++ [.closed number]),
          .error (.session fault), last, fun held differs => .refused differs only opening, rfl,
          rfl⟩
      | ok _ =>
        refine ⟨looks ++ [.connected (.ok number)] ++ effectsOn number acts,
          .ok ⟨path, number, connection⟩, last, fun held differs => .opened differs only opening,
          rfl, ?_⟩
        simp only [Except.isOk, Except.toBool, if_true, List.append_nil]
        rfl

/-- The session for a binary, found or made. -/
theorem exists_bound (manager : Manager (Observed ν) (Nat × κ)) (path : Path) :
    ∃ effects result state,
      Bound manager.settings path (opened manager.network.effects) manager.holding effects
        (result.map HeldSession.numbered)
      ∧ manager.plain.session world path = (result.map HeldSession.plain,
        ⟨manager.settings, result.toOption.map HeldSession.plain, state⟩)
      ∧ manager.session (Observed.network world) path = (result,
        ⟨manager.settings, result.toOption, manager.network.after effects state⟩) := by
  obtain ⟨settings, held, seen⟩ := manager
  cases held with
  | none =>
    obtain ⟨effects, result, state, bound, plain, observed⟩ :=
      exists_made world ⟨settings, none, seen⟩ path rfl
    exact ⟨effects, result, state, bound none nofun, plain, observed⟩
  | some held =>
    cases same : Path.same held.binary path with
    | true =>
      refine ⟨[], .ok held, seen.state, .reused same, ?_, ?_⟩
      · simp only [session, matching?, plain, Option.map_some, Option.filter, HeldSession.plain,
          same, if_true]
        rfl
      · simp only [session, matching?, Option.filter, same, if_true, Observed.after_nil]
        rfl
    | false =>
      obtain ⟨effects, result, state, bound, plain, observed⟩ :=
        exists_made world ⟨settings, none, seen.after [.closed held.connection.1]
          (world.close held.connection.2 seen.state)⟩ path rfl
      rw [Observed.after_after] at observed
      have differs : Differs (some held.numbered) path := by
        intro binary number is
        cases is
        exact same
      have number : opened (seen.after [.closed held.connection.1]
          (world.close held.connection.2 seen.state)).effects = opened seen.effects := by
        rw [Observed.after, opened_append]
        rfl
      rw [number] at bound
      refine ⟨_, result, state, bound _ differs, ?_, ?_⟩
      · simp only [session, matching?, Manager.plain, Option.map_some, Option.filter,
          HeldSession.plain, same, Bool.false_eq_true, if_false]
        exact plain
      · simp only [session, matching?, Option.filter, same, Bool.false_eq_true, if_false]
        exact observed

section Commands

variable (backend)

/-- A command in the session that is held: it does not return, or it is used so. -/
theorem exists_used (manager : Manager (Observed ν) (Nat × κ)) (patience : Nat)
    {held : HeldSession (Nat × κ)} (has : manager.held = some held) (command : Command)
    (debugger : σ) :
    (manager.plain.runIn world backend patience held.plain command debugger = none
        ∧ manager.runIn (Observed.network world) backend patience held command debugger = none)
      ∨ ∃ effects result after next state,
        Used backend command held.binary held.connection.1 debugger effects result after
          (next.map HeldSession.numbered)
        ∧ manager.plain.runIn world backend patience held.plain command debugger
          = some ⟨result, ⟨manager.settings, next.map HeldSession.plain, state⟩, after⟩
        ∧ manager.runIn (Observed.network world) backend patience held command debugger
          = some ⟨result, ⟨manager.settings, next, manager.network.after effects state⟩,
            after⟩ := by
  obtain ⟨settings, _, seen⟩ := manager
  subst has
  obtain ⟨binary, number, connection⟩ := held
  by_cases told : (Turn.run (world.line connection) (Client.Session.turn backend) patience
      (.resume binary debugger [command]) seen.state).1.attempts = []
  · have told' : (Turn.run (Observed.line world (number, connection)) (Client.Session.turn backend)
        patience (.resume binary debugger [command]) seen).1.attempts = [] := by
      rw [(run_observed world _ (number, connection) patience _ seen).1]
      exact told
    refine .inl ⟨?_, ?_⟩
    · simp only [runIn, plain, HeldSession.plain, told]
    · simp only [runIn, Observed.network, told']
  · obtain ⟨acts, final, attempt, after, state, executed, attempts, runs, runs'⟩ :=
      Client.Session.exists_execution world (number, connection) binary command debugger patience
        seen told
    refine .inr ?_
    cases attempt with
    | ok outcome =>
      refine ⟨effectsOn number acts, .ok outcome, after, some ⟨binary, number, connection⟩,
        state, .kept executed, ?_, ?_⟩
      · simp only [runIn, plain, HeldSession.plain, Option.map_some, runs, attempts]
      · simp only [runIn, Observed.network, runs', attempts]
    | error fault =>
      refine ⟨effectsOn number acts ++ [.closed number], .error (.session fault), after, none,
        world.close connection state, .lost executed, ?_, ?_⟩
      · simp only [runIn, plain, HeldSession.plain, runs, attempts]
        rfl
      · rw [← Observed.after_after seen _ _ state]
        simp only [runIn, Observed.network, runs', attempts]
        rfl

/-- There are two reasons for which nothing is selected. -/
theorem selected?_error {debugger after : σ} {fault : ManagerFault}
    (selects : selected? backend debugger = some (.error fault, after)) :
    fault = .noTarget ∨ fault = .noExecutable := by
  unfold selected? at selects
  split at selects
  · cases selects
  · cases selects
    exact .inl rfl
  · split at selects
    · cases selects
    · cases selects
      exact .inr rfl
    · cases selects

/-- A command for the binary that is selected: it does not return, or it is served so. -/
theorem exists_served (manager : Manager (Observed ν) (Nat × κ)) (patience : Nat)
    (command : Command) (debugger : σ) :
    (manager.plain.execute world backend patience command debugger = none
        ∧ manager.execute (Observed.network world) backend patience command debugger = none)
      ∨ ∃ effects result after next state,
        Served backend manager.settings (opened manager.network.effects) command debugger
          manager.holding effects result after (next.map HeldSession.numbered)
        ∧ manager.plain.execute world backend patience command debugger
          = some ⟨result, ⟨manager.settings, next.map HeldSession.plain, state⟩, after⟩
        ∧ manager.execute (Observed.network world) backend patience command debugger
          = some ⟨result, ⟨manager.settings, next, manager.network.after effects state⟩,
            after⟩ := by
  unfold execute
  cases selects : selected? backend debugger with
  | none => exact .inl ⟨rfl, rfl⟩
  | some selection =>
    obtain ⟨selected, between⟩ := selection
    cases selected with
    | error fault =>
      refine .inr ⟨[], .error fault, between, manager.held, manager.network.state,
        .unselected selects (selected?_error backend selects), rfl, ?_⟩
      rw [Observed.after_nil]
    | ok path =>
      obtain ⟨effects, result, state, bound, plain, observed⟩ := exists_bound world manager path
      dsimp only
      rw [plain, observed]
      cases result with
      | error fault =>
        exact .inr
          ⟨effects, .error fault, between, none, state, .unbound selects bound, rfl, rfl⟩
      | ok held =>
        rcases exists_used world backend
          ⟨manager.settings, some held, manager.network.after effects state⟩ patience rfl command
          between with ⟨silent, silent'⟩ | ⟨more, result, after, next, last, used, plain, observed⟩
        · exact .inl ⟨silent, silent'⟩
        · rw [Observed.after_after] at observed
          exact .inr ⟨effects ++ more, result, after, next, last, .used selects bound used, plain,
            observed⟩

/-- Every call does not return, or is one of those described. -/
theorem exists_did (manager : Manager (Observed ν) (Nat × κ)) (call : Call σ) :
    (manager.plain.perform world backend call = none
        ∧ manager.perform (Observed.network world) backend call = none)
      ∨ ∃ answer effects next state,
        Did backend manager.settings (opened manager.network.effects) manager.holding
          ⟨call, answer, effects⟩ (next.map HeldSession.numbered)
        ∧ manager.plain.perform world backend call
          = some (answer, ⟨manager.settings, next.map HeldSession.plain, state⟩)
        ∧ manager.perform (Observed.network world) backend call
          = some (answer, ⟨manager.settings, next, manager.network.after effects state⟩) := by
  cases call with
  | execute patience command debugger =>
    rcases exists_served world backend manager patience command debugger with
      ⟨silent, silent'⟩ | ⟨effects, result, after, next, state, served, plain, observed⟩
    · exact .inl ⟨by rw [perform, silent]; rfl, by rw [perform, silent']; rfl⟩
    · refine .inr ⟨_, effects, next, state, .executed served, ?_, ?_⟩
      · rw [perform, plain]
        rfl
      · rw [perform, observed]
        rfl
  | line patience text debugger =>
    simp only [perform, runLine]
    cases parsed : Subcommand.parse text with
    | error fault =>
      refine .inr ⟨_, [], manager.held, manager.network.state, .misread _ patience debugger parsed,
        rfl, ?_⟩
      rw [Observed.after_nil]
      rfl
    | ok subcommand =>
      cases asks : subcommand.command? with
      | none =>
        simp only [asks]
        exact .inr ⟨_, _, manager.held, _, .asked _ patience debugger _ parsed asks, rfl, rfl⟩
      | some command =>
        rcases exists_served world backend manager patience command debugger with
          ⟨silent, silent'⟩ | ⟨effects, result, after, next, state, served, plain, observed⟩
        · simp only [asks, silent, silent']
          exact .inl ⟨rfl, rfl⟩
        · simp only [asks, plain, observed]
          exact .inr ⟨_, effects, next, state, .typed parsed asks served, rfl, rfl⟩
  | status => exact .inr ⟨_, _, manager.held, _, .status _ _, rfl, rfl⟩
  | close =>
    obtain ⟨settings, held, seen⟩ := manager
    cases held with
    | none =>
      refine .inr ⟨_, [], none, seen.state, .closed none, rfl, ?_⟩
      rw [Observed.after_nil]
      rfl
    | some held => exact .inr ⟨_, _, none, _, .closed (some held.numbered), rfl, rfl⟩

end Commands

end Managers
end Manager
end DebugBridge
