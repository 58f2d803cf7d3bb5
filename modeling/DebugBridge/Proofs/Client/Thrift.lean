import DebugBridge.Proofs.Client.OneSession

/-!
# How often a server is looked for

A call starts at most one server, and looks for it no more often than it takes to make sure of one
(`Thrifty`). For that happens once in a call at most, and everything else that is done leaves the
server alone (`looked_run`, `looked_openSession`), however long it goes on.
-/

namespace DebugBridge

/-- The looks at the server among the effects. -/
def looksAmong (effects : List Effect) : List Effect :=
  effects.filter Effect.isLook

theorem probes_looksAmong (effects : List Effect) :
    probes (looksAmong effects) = probes effects := by
  rw [probes, looksAmong, List.countP_filter, probes]
  refine List.countP_congr fun effect _ => ?_
  cases effect <;> simp [Effect.isProbe, Effect.isLook]

theorem launches_looksAmong (effects : List Effect) :
    launches (looksAmong effects) = launches effects := by
  rw [launches, looksAmong, List.countP_filter, launches]
  refine List.countP_congr fun effect _ => ?_
  cases effect <;> simp [Effect.isLaunch, Effect.isLook]

namespace Manager

/-- A server is started at most once, and looked for a bounded number of times. -/
def Thrifty (settings : Settings) (looks : List Effect) : Prop :=
  launches looks ≤ 1 ∧ probes looks ≤ attempts settings + 1

theorem thrifty_nil (settings : Settings) : Thrifty settings [] :=
  ⟨Nat.zero_le _, Nat.zero_le _⟩

theorem thrifty_probed (settings : Settings) (reachable : Bool) :
    Thrifty settings [.probed reachable] :=
  ⟨Nat.zero_le _, Nat.le_add_left ..⟩

theorem Startup.thrifty {settings : Settings} {running : Bool} {launched : Except String Unit}
    {answers : Nat → Bool} {result : Except ManagerFault Unit} {looks : List Effect}
    (startup : Startup settings running launched answers result looks) : Thrifty settings looks := by
  refine ⟨?_, ?_⟩
  · rw [startup.launches_eq]
    split
    · exact Nat.zero_le 1
    · exact Nat.le_refl 1
  · cases startup with
    | running found => exact Nat.le_add_left ..
    | unlaunched missing failed => exact Nat.le_add_left ..
    | started missing ok polled =>
      rw [probes_append, Nat.add_comm]
      exact Nat.add_le_add_right (polled.probes_le (attempts_pos settings)) 1
    | unavailable missing ok polled =>
      rw [probes_append, Nat.add_comm]
      exact Nat.add_le_add_right (polled.probes_le (attempts_pos settings)) 1

end Manager

/-! ## What leaves the server alone -/

namespace Observed

variable {ν κ α : Type} (world : Network ν κ)

/-- The looks at the server that have been seen. -/
def looked (seen : Observed ν) : List Effect :=
  looksAmong seen.effects

theorem looked_after (seen : Observed ν) (effects : List Effect) (state : ν) :
    (seen.after effects state).looked = seen.looked ++ looksAmong effects :=
  List.filter_append ..

theorem looked_after_of_alone (seen : Observed ν) {effect : Effect} (other : effect.isLook = false)
    (state : ν) : (seen.after [effect] state).looked = seen.looked := by
  rw [looked_after, looksAmong, List.filter_cons_of_neg (by rw [other]; exact Bool.false_ne_true)]
  exact List.append_nil _

theorem looked_connect (seen : Observed ν) :
    ((network world).connect seen).2.looked = seen.looked := by
  have connects : (network world).connect seen = connect world seen := rfl
  rw [connects, connect]
  split
  · exact looked_after_of_alone seen rfl _
  · exact looked_after_of_alone seen rfl _

theorem looked_close (connection : Nat × κ) (seen : Observed ν) :
    ((network world).close connection seen).looked = seen.looked :=
  looked_after_of_alone seen rfl _

theorem looked_run (turn : α → Turn α) (connection : Nat × κ) (count : Nat) (party : α)
    (seen : Observed ν) :
    (Turn.run ((network world).line connection) turn count party seen).2.looked = seen.looked := by
  induction count generalizing party seen with
  | zero => rfl
  | succ count ih =>
    unfold Turn.run Turn.step?
    cases turn party with
    | send message next => exact (ih _ _).trans (looked_after_of_alone seen rfl _)
    | receive next => exact (ih _ _).trans (looked_after_of_alone seen rfl _)
    | ended => rfl

theorem looked_openSession (connection : Nat × κ) (binary : Path) (seen : Observed ν) :
    ((network world).openSession connection binary seen).2.looked = seen.looked := by
  unfold Network.openSession
  dsimp only
  split
  · exact looked_run ..
  · exact (looked_close ..).trans (looked_run ..)

end Observed

namespace Manager

variable {ν κ σ : Type} (world : Network ν κ)

/-- Between two states of a watched network, a server is looked for as when one is made sure of, or
less. -/
def Frugal (settings : Settings) (before after : Observed ν) : Prop :=
  ∃ looks, after.looked = before.looked ++ looks ∧ Thrifty settings looks

theorem frugal_of_looked_eq {settings : Settings} {before after : Observed ν}
    (same : after.looked = before.looked) : Frugal settings before after :=
  ⟨[], same.trans (List.append_nil _).symm, thrifty_nil settings⟩

theorem frugal_ensureServer (manager : Manager (Observed ν) (Nat × κ)) :
    Frugal manager.settings manager.network
      (manager.ensureServer (Observed.network world)).2.network := by
  obtain ⟨result, looks, state, startup, -, observed⟩ := exists_startup world manager rfl rfl
  rw [observed]
  refine ⟨looksAmong looks, Observed.looked_after .., ?_⟩
  rw [Thrifty, launches_looksAmong, probes_looksAmong]
  exact startup.thrifty

theorem looked_close (manager : Manager (Observed ν) (Nat × κ)) :
    (manager.close (Observed.network world)).network.looked = manager.network.looked := by
  unfold close
  split
  · rfl
  · exact Observed.looked_close ..

theorem looked_bindBinary (binary : Path) (manager : Manager (Observed ν) (Nat × κ)) :
    (manager.bindBinary (Observed.network world) binary).2.network.looked
      = (manager.ensureServer (Observed.network world)).2.network.looked := by
  unfold bindBinary
  rcases manager.ensureServer (Observed.network world) with ⟨result, manager⟩
  cases result with
  | error fault => rfl
  | ok _ =>
    have connecting := Observed.looked_connect world manager.network
    dsimp only
    rcases connected : (Observed.network world).connect manager.network with ⟨result, seen⟩
    rw [connected] at connecting
    cases result with
    | error text => exact connecting
    | ok connection =>
      have opening := Observed.looked_openSession world connection binary seen
      dsimp only
      rcases opened : (Observed.network world).openSession connection binary seen with
        ⟨result, seen'⟩
      rw [opened] at opening
      cases result with
      | error fault => exact opening.trans connecting
      | ok _ => exact opening.trans connecting

theorem frugal_session (binary : Path) (manager : Manager (Observed ν) (Nat × κ)) :
    Frugal manager.settings manager.network
      (manager.session (Observed.network world) binary).2.network := by
  unfold session
  cases manager.matching? binary with
  | some held => exact frugal_of_looked_eq rfl
  | none =>
    have kept : (manager.close (Observed.network world)).settings = manager.settings := by
      unfold close
      split <;> rfl
    obtain ⟨looks, ensured, thrifty⟩ :=
      frugal_ensureServer world (manager.close (Observed.network world))
    rw [looked_close] at ensured
    rw [kept] at thrifty
    exact ⟨looks, (looked_bindBinary ..).trans ensured, thrifty⟩

/-- The network when a command has been under way for some number of turns, or for as many as it
takes. -/
def during (backend : Backend σ) (patience : Nat) (command : Command) (manager : Manager ν κ)
    (debugger : σ) : ν :=
  match selected? backend debugger with
  | some (.ok binary, debugger) =>
    match manager.session world binary with
    | (.ok held, manager) =>
      (Turn.run (world.line held.connection) (Client.Session.turn backend) patience
        (.resume held.binary debugger [command]) manager.network).2
    | (.error _, manager) => manager.network
  | _ => manager.network

variable (backend : Backend σ) (patience : Nat) (command : Command)

/-- Whether or not a command comes to an end. -/
theorem frugal_during (manager : Manager (Observed ν) (Nat × κ)) (debugger : σ) :
    Frugal manager.settings manager.network
      (manager.during (Observed.network world) backend patience command debugger) := by
  unfold during
  rcases selected? backend debugger with _ | ⟨fault | binary, debugger⟩
  · exact frugal_of_looked_eq rfl
  · exact frugal_of_looked_eq rfl
  · have frugal := frugal_session world binary manager
    revert frugal
    dsimp only
    rcases manager.session (Observed.network world) binary with ⟨fault | held, made⟩
    · exact id
    · rintro ⟨looks, seen, thrifty⟩
      exact ⟨looks, (Observed.looked_run ..).trans seen, thrifty⟩

/-- A command that has come to an end leaves the network as it is then, or closes the connection. -/
theorem looked_execute {manager : Manager (Observed ν) (Nat × κ)} {debugger : σ}
    {returned : Returned (Observed ν) (Nat × κ) σ (Except ManagerFault Outcome)}
    (returns : manager.execute (Observed.network world) backend patience command debugger
      = some returned) :
    returned.manager.network.looked
      = (manager.during (Observed.network world) backend patience command debugger).looked := by
  revert returns
  unfold execute during
  rcases selected? backend debugger with _ | ⟨fault | binary, debugger⟩
  · nofun
  · rintro ⟨⟩
    rfl
  · dsimp only
    rcases manager.session (Observed.network world) binary with ⟨fault | held, made⟩
    · rintro ⟨⟩
      rfl
    · dsimp only [runIn]
      rcases Turn.run ((Observed.network world).line held.connection)
        (Client.Session.turn backend) patience (.resume held.binary debugger [command]) made.network
        with ⟨ended, seen⟩
      dsimp only
      rcases ended.attempts with _ | ⟨⟨fault | outcome, debugger⟩, _⟩
      · nofun
      · rintro ⟨⟩
        exact looked_close world ⟨made.settings, made.held, seen⟩
      · rintro ⟨⟩
        rfl

theorem frugal_execute {manager : Manager (Observed ν) (Nat × κ)} {debugger : σ}
    {returned : Returned (Observed ν) (Nat × κ) σ (Except ManagerFault Outcome)}
    (returns : manager.execute (Observed.network world) backend patience command debugger
      = some returned) :
    Frugal manager.settings manager.network returned.manager.network := by
  obtain ⟨looks, seen, thrifty⟩ :=
    frugal_during world backend patience command manager debugger
  exact ⟨looks, (looked_execute world backend patience command returns).trans seen, thrifty⟩

/-! ## Calls -/

section Calls

variable {backend : Backend σ}

theorem frugal_perform {manager after : Manager (Observed ν) (Nat × κ)} {call : Call σ}
    {answer : Answer σ}
    (performs : manager.perform (Observed.network world) backend call = some (answer, after)) :
    Frugal manager.settings manager.network after.network := by
  cases call with
  | execute patience command debugger =>
    obtain ⟨returned, returns, same⟩ := Option.map_eq_some_iff.mp performs
    cases same
    exact frugal_execute world backend patience command returns
  | line patience text debugger =>
    obtain ⟨shown, returns, same⟩ := Option.map_eq_some_iff.mp performs
    cases same
    unfold runLine at returns
    cases parsed : Subcommand.parse text with
    | error fault =>
      rw [parsed] at returns
      cases returns
      exact frugal_of_looked_eq rfl
    | ok subcommand =>
      rw [parsed] at returns
      cases asks : subcommand.command? with
      | none =>
        simp only [asks, status] at returns
        cases returns
        exact ⟨_, Observed.looked_after .., thrifty_probed _ _⟩
      | some command =>
        simp only [asks] at returns
        obtain ⟨returned, executes, same⟩ := Option.map_eq_some_iff.mp returns
        cases same
        exact frugal_execute world backend patience command executes
  | status =>
    cases performs
    exact ⟨_, Observed.looked_after .., thrifty_probed _ _⟩
  | close =>
    cases performs
    exact frugal_of_looked_eq (looked_close world manager)

/-- What is done between two states is as thrifty as the looks among it. -/
theorem Frugal.thrifty {settings : Settings} {seen : Observed ν} {done : List Effect} {state : ν}
    (frugal : Frugal settings seen (seen.after done state)) : Thrifty settings done := by
  obtain ⟨looks, added, thrifty⟩ := frugal
  rw [Observed.looked_after] at added
  rwa [← List.append_cancel_left added, Thrifty, launches_looksAmong, probes_looksAmong] at thrifty

theorem exists_thrifty (calls : List (Call σ)) {manager last : Manager (Observed ν) (Nat × κ)}
    {entries : List (Entry σ)}
    (observed : observeAll world backend manager calls = some (entries, last)) :
    ∀ entry ∈ entries, Thrifty manager.settings entry.effects := by
  induction calls generalizing manager entries with
  | nil =>
    cases observed
    exact fun entry present => absurd present List.not_mem_nil
  | cons call calls ih =>
    unfold observeAll at observed
    rcases exists_did world backend manager call with
      ⟨-, silent⟩ | ⟨answer, done, next, state, -, -, performs⟩
    · rw [silent] at observed
      cases observed
    · rw [performs] at observed
      obtain ⟨_, ⟨⟩, observed⟩ := Option.bind_eq_some_iff.mp observed
      obtain ⟨⟨later, final⟩, onward, same⟩ := Option.bind_eq_some_iff.mp observed
      cases same
      have added : (manager.network.after done state).effects.drop manager.network.effects.length
          = done := List.drop_left
      have rest : ∀ entry ∈ later, Thrifty manager.settings entry.effects := by
        have rest := ih onward
        exact rest
      refine List.forall_mem_cons.mpr ⟨?_, rest⟩
      rw [added]
      exact (frugal_perform world performs).thrifty

end Calls

/-- Making sure of a server: what is done and what comes of it is given by what is found, a server
is found just when one of the looks that are allowed finds it, and it is given up only when all of
them have been taken. A command, whether or not it comes to an end, and any call starts at most one
server and looks for it no more often than that. -/
theorem startup_bounded (world : Network ν κ) (backend : Backend σ)
    (manager : Manager (Observed ν) (Nat × κ)) :
    (∀ running between launched behind,
      world.probe manager.network.state = (running, between) →
      world.launch between = (launched, behind) →
      ∃ result looks state,
        Startup manager.settings running launched (world.finds behind) result looks
          ∧ manager.plain.ensureServer world = (result, { manager.plain with network := state })
          ∧ manager.ensureServer (Observed.network world)
            = (result, { manager with network := manager.network.after looks state })
          ∧ (result = .ok () ↔ running = true ∨ launched = .ok ()
            ∧ ∃ i, i < max manager.settings.startupAttempts.toNat 1 ∧ world.finds behind i = true)
          ∧ launches looks = (if running = true then 0 else 1)
          ∧ ∀ address count, result = .error (.unavailable address count) →
            count = max manager.settings.startupAttempts.toNat 1
              ∧ probes looks = 1 + count ∧ waits looks = count - 1)
      ∧ (∀ patience command debugger, ∃ looks,
        (manager.during (Observed.network world) backend patience command debugger).looked
            = manager.network.looked ++ looks
          ∧ launches looks ≤ 1
          ∧ probes looks ≤ max manager.settings.startupAttempts.toNat 1 + 1)
      ∧ ∀ calls entries last, observeAll world backend manager calls = some (entries, last) →
        ∀ entry ∈ entries, launches entry.effects ≤ 1
          ∧ probes entry.effects ≤ max manager.settings.startupAttempts.toNat 1 + 1 := by
  refine ⟨?_, fun patience command debugger => ?_,
    fun calls entries last => exists_thrifty world calls⟩
  · intro running between launched behind probed launches
    obtain ⟨result, looks, state, startup, plain, observed⟩ :=
      exists_startup world manager probed launches
    exact ⟨result, looks, state, startup, plain, observed, startup.ok_iff, startup.launches_eq,
      fun address count => startup.counts⟩
  · exact frugal_during world backend patience command manager debugger

/-- A network that counts the looks for a server, which is up from the third on. -/
def sluggish : Network Nat Unit where
  probe count := (2 ≤ count, count + 1)
  launch count := (.ok (), count)
  wait count := count
  connect count := (.ok (), count)
  line _ := {
    send _ count := (.ok (), count)
    receive count := (.error .closed, count) }
  close _ count := count

/-- A command for a binary. -/
def inquiring : List (Call Simulator) :=
  [.execute 3 ⟨.eval, ["base"]⟩ (Simulator.fresh.setUp [.executable (.ofText "bin/a")])]

theorem startup_bounded_sluggish :
    ∃ entries last, observeAll sluggish Simulator.backend
          (start { startupAttempts := 2 } ⟨0, []⟩) inquiring
        = some (entries, last)
      ∧ entries.map Entry.effects
        = [[.probed false, .launched (.ok ()), .probed false, .waited, .probed true,
            .connected (.ok 0), .acted 0 (.sent (.init "bin/a") (.ok ())),
            .acted 0 (.received (.error .closed)), .closed 0]]
      ∧ ∀ entry ∈ entries, launches entry.effects ≤ 1 ∧ probes entry.effects ≤ 3 := by
  refine ⟨_, _, rfl, rfl, ?_⟩
  exact (startup_bounded sluggish Simulator.backend (start { startupAttempts := 2 } ⟨0, []⟩)).2.2
    inquiring _ _ rfl

end Manager
end DebugBridge
