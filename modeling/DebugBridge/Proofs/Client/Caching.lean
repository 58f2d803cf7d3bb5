import DebugBridge.Files.Directory
import DebugBridge.Proofs.Client.OneSession
import DebugBridge.Proofs.Conversation.Errand

/-!
# A held session is as good as a new one

A manager keeps its session for the next command. On a host with a server that nobody asks to stop,
this makes no difference to what comes of the command, nor to the debugger: the session could as
well be closed and a new one opened for the same path. What a session is worth depends on that path
and on the files alone, not on what has been done before.

The path is the one that was named when the session was opened. It need not be spelt like the one
that is selected now, and the server reports the binary as it was named.

Results:
1. `Sound.perform`, `Sound.performAll`: whatever is called, what is held is as it was after its
   opening.
2. `execute_seen`, `executeAfresh_seen`: what comes of a command, in a session that is held and in a
   new one.
3. `caching_unnoticed`: the two compared.
-/

namespace DebugBridge

open Client.Session (resume start)

namespace Host

/-- A host that runs a server for certain files. -/
structure Serving (isFile : String → Bool) (host : Host) : Prop where
  files : host.isFile = isFile
  routed : host.routed = true
  bound : host.bound = true

variable {isFile : String → Bool} {host : Host}

theorem Serving.put (serving : host.Serving isFile) (number : Nat) (link : Link) :
    (host.put number link).Serving isFile :=
  ⟨serving.files, serving.routed, serving.bound⟩

theorem Serving.engine (serving : host.Serving isFile) : host.engine = Probe.engine isFile :=
  congrArg Probe.engine serving.files

theorem Serving.probe (serving : host.Serving isFile) : network.probe host = (true, host) := by
  show (host.routed && host.bound, host) = (true, host)
  rw [serving.routed, serving.bound]
  rfl

theorem Serving.connect (serving : host.Serving isFile) :
    network.connect host
      = (.ok host.links.length, { host with links := host.links ++ [.fresh] }) := by
  show Host.connect host = _
  unfold Host.connect
  rw [serving.routed, serving.bound]
  rfl

/-- What opening a session on a new connection comes to. -/
theorem Serving.exists_openSession {number : Nat} (serving : host.Serving isFile)
    (there : host.links[number]? = some .fresh) (binary : Path) :
    ((Link.opening isFile binary).1.refusal? = none
        ∧ network.openSession number binary host = (.ok (), host.put number (.ready binary)))
      ∨ ∃ fault after, (Link.opening isFile binary).1.refusal? = some fault
        ∧ network.openSession number binary host = (.error fault, after)
        ∧ after.Serving isFile := by
  have conversation : (Link.opening isFile binary).2.stopped = false →
      Turn.run (network.line number) (Client.Session.turn .absent) 2 (start binary () []) host
        = ((Link.opening isFile binary).1, host.put number (Link.opening isFile binary).2) := by
    unfold Link.opening
    rw [← serving.engine]
    exact run_eq (Client.Session.turn .absent) there 2 (start binary () [])
  unfold Network.openSession
  rcases Link.opening_cases isFile binary with ⟨accepted, ready⟩ | ⟨fault, refused, calm⟩
  · refine .inl ⟨accepted, ?_⟩
    rw [conversation (ready ▸ rfl), ready]
    simp only [accepted]
  · rw [conversation calm.stopped]
    simp only [refused]
    refine .inr ⟨fault, _, rfl, rfl, ?_⟩
    show Serving isFile ((host.put number _).close number)
    rw [close_eq (links_put there _) (calm.close _)]
    exact (serving.put number _).put number _

end Host

namespace Manager

variable {ν κ σ : Type}

/-! ## A new session -/

/-- What a call returns and the debugger then, whatever has become of the manager. -/
def Returned.seen {α : Type} (returned : Returned ν κ σ α) : α × σ :=
  (returned.value, returned.debugger)

/-- How the server knows the binary that is selected: under the path for which the session is held,
if it is the same path. -/
def knownAs (path : Path) (manager : Manager ν κ) : Path :=
  match manager.matching? path with
  | some held => held.binary
  | none => path

/-- A command carried out in a session that is opened for it, after the one that is held has been
closed. -/
def executeAfresh (world : Network ν κ) (backend : Backend σ) (patience : Nat) (binary : Path)
    (command : Command) (manager : Manager ν κ) (debugger : σ) :
    Option (Returned ν κ σ (Except ManagerFault Outcome)) :=
  match (manager.close world).bindBinary world binary with
  | (.error fault, manager) => some ⟨.error fault, manager, debugger⟩
  | (.ok held, manager) => manager.runIn world backend patience held command debugger

section Verdict

variable (backend : Backend σ) (isFile : String → Bool) (patience : Nat) (binary : Path)
  (command : Command) (debugger : σ)

/-- What comes of a command in a session that has just been opened, on a connection by itself. -/
def carried : Option (Except ManagerFault Outcome × σ) :=
  (Turn.run (Link.line (Probe.engine isFile)) (Client.Session.turn backend) patience
    (resume binary debugger [command]) (Link.ready binary)).1.attempts.head?.map
      fun attempt => (attempt.1.mapError .session, attempt.2)

/-- What comes of a command when a session is opened for it. -/
def verdict : Option (Except ManagerFault Outcome × σ) :=
  match (Link.opening isFile binary).1.refusal? with
  | some fault => some (.error (.session fault), debugger)
  | none => carried backend isFile patience binary command debugger

end Verdict

/-! ## What is held -/

/-- What is held is a session that has been opened and in which nothing is under way. -/
structure Sound (isFile : String → Bool) (manager : Manager Host Nat) : Prop where
  serving : manager.network.Serving isFile
  opened : ∀ held, manager.held = some held →
    manager.network.links[held.connection]? = some (.ready held.binary)
      ∧ (Link.opening isFile held.binary).1.refusal? = none

variable {backend : Backend σ} {isFile : String → Bool} {settings : Settings} {host : Host}
  {binary : Path} {number : Nat} {link : Link} {command : Command} {debugger : σ}
  {manager : Manager Host Nat}

/-- A manager that has given up its session. -/
theorem close_eq (world : Network ν κ) (manager : Manager ν κ) :
    manager.close world = ⟨manager.settings, none, (manager.close world).network⟩ := by
  obtain ⟨settings, held, network⟩ := manager
  cases held with
  | none => rfl
  | some held => rfl

theorem serving_close (manager : Manager Host Nat) (serving : manager.network.Serving isFile)
    (calm : ∀ held, manager.held = some held →
      ∃ link, manager.network.links[held.connection]? = some link ∧ link.Calm) :
    (manager.close Host.network).network.Serving isFile := by
  obtain ⟨settings, held, host⟩ := manager
  cases held with
  | none => exact serving
  | some held =>
    obtain ⟨link, there, calm⟩ := calm held rfl
    show (host.close held.connection).Serving isFile
    rw [Host.close_eq there (calm.close host.engine)]
    exact Host.Serving.put serving _ _

theorem sound_of_none (serving : manager.network.Serving isFile) (nothing : manager.held = none) :
    manager.Sound isFile := by
  refine ⟨serving, fun held holds => ?_⟩
  rw [nothing] at holds
  cases holds

theorem Sound.serving_close (sound : manager.Sound isFile) :
    (manager.close Host.network).network.Serving isFile :=
  Manager.serving_close manager sound.serving fun held holds =>
    ⟨_, (sound.opened held holds).1, .waiting _ _ rfl⟩

theorem Sound.close (sound : manager.Sound isFile) : (manager.close Host.network).Sound isFile :=
  sound_of_none sound.serving_close (by rw [close_eq])

/-! ## Commands -/

/-- A command in the session that is held. -/
theorem Sound.runIn (sound : manager.Sound isFile) {held : HeldSession Nat}
    (holds : manager.held = some held) (running : command.kind ≠ .shutdown) (patience : Nat)
    (debugger : σ) :
    (manager.runIn Host.network backend patience held command debugger).map Returned.seen
        = carried backend isFile patience held.binary command debugger
      ∧ (∀ returned, manager.runIn Host.network backend patience held command debugger
          = some returned → returned.manager.Sound isFile)
      ∧ (6 ≤ patience →
        (carried backend isFile patience held.binary command debugger).isSome = true) := by
  obtain ⟨there, accepted⟩ := sound.opened held holds
  have begun : Link.Errand held.binary 6 (resume held.binary debugger [command])
      (.ready held.binary) := .idle debugger running
  obtain ⟨less, after, link, few, runs, errand⟩ :=
    begun.run backend isFile patience
  have conversation := Host.run_eq (Client.Session.turn backend) there patience
    (resume held.binary debugger [command])
  rw [sound.serving.engine, runs] at conversation
  replace conversation := conversation errand.stopped
  unfold Manager.runIn carried
  rw [conversation, runs]
  rcases errand.attempts_cases with
    ⟨none, unfinished⟩ | ⟨outcome, debugger, told, rfl⟩ | ⟨fault, debugger, told, calm⟩
  · simp only [none]
    refine ⟨rfl, ?_, fun enough => ?_⟩
    · intro returned same
      cases same
    · have none : less = 0 := by omega
      exact absurd none unfinished
  · simp only [told]
    refine ⟨rfl, ?_, fun _ => rfl⟩
    intro returned same
    cases same
    refine ⟨sound.serving.put _ _, fun held' holds' => ?_⟩
    obtain rfl : held = held' := Option.some.inj (holds.symm.trans holds')
    exact ⟨Host.links_put there _, accepted⟩
  · simp only [told]
    refine ⟨rfl, ?_, fun _ => rfl⟩
    intro returned same
    cases same
    have left : ∀ held', manager.held = some held' →
        ∃ link', (manager.network.put held.connection link).links[held'.connection]? = some link'
          ∧ link'.Calm := by
      intro held' holds'
      obtain rfl : held = held' := Option.some.inj (holds.symm.trans holds')
      exact ⟨link, Host.links_put there _, calm⟩
    have serving := Manager.serving_close ⟨manager.settings, manager.held, _⟩
      (sound.serving.put held.connection link) left
    exact sound_of_none serving (by rw [close_eq])

/-- What a manager without a session comes to when it opens one on a host with a server. -/
theorem exists_bindBinary (serving : host.Serving isFile) (settings : Settings) (binary : Path) :
    (∃ held after, (Link.opening isFile binary).1.refusal? = none
        ∧ bindBinary Host.network binary ⟨settings, none, host⟩ = (.ok held, after)
        ∧ held.binary = binary ∧ after.held = some held ∧ after.Sound isFile)
      ∨ ∃ fault after, (Link.opening isFile binary).1.refusal? = some fault
        ∧ bindBinary Host.network binary ⟨settings, none, host⟩ = (.error (.session fault), after)
        ∧ after.Sound isFile := by
  have serving' : Host.Serving isFile { host with links := host.links ++ [.fresh] } :=
    ⟨serving.files, serving.routed, serving.bound⟩
  have there : (host.links ++ [Link.fresh])[host.links.length]? = some Link.fresh :=
    List.getElem?_concat_length
  unfold bindBinary ensureServer
  rw [serving.probe]
  simp only [serving.connect]
  rcases serving'.exists_openSession there binary with
    ⟨accepted, opens⟩ | ⟨fault, after, refused, opens, serving''⟩
  · simp only [opens]
    refine .inl ⟨_, _, accepted, rfl, rfl, rfl, serving'.put _ _, ?_⟩
    intro held holds
    cases holds
    exact ⟨Host.links_put there _, accepted⟩
  · simp only [opens]
    exact .inr ⟨fault, _, refused, rfl, sound_of_none serving'' rfl⟩

/-- A command in a session that is opened for it. -/
theorem executeAfresh_seen (serving : (manager.close Host.network).network.Serving isFile)
    (running : command.kind ≠ .shutdown) (patience : Nat) (binary : Path) (debugger : σ) :
    (manager.executeAfresh Host.network backend patience binary command debugger).map Returned.seen
        = verdict backend isFile patience binary command debugger
      ∧ (∀ returned, manager.executeAfresh Host.network backend patience binary command debugger
          = some returned → returned.manager.Sound isFile)
      ∧ (6 ≤ patience →
        (verdict backend isFile patience binary command debugger).isSome = true) := by
  unfold executeAfresh verdict
  rw [close_eq]
  rcases exists_bindBinary serving manager.settings binary with
    ⟨held, after, accepted, bound, rfl, holds, sound⟩ | ⟨fault, after, refused, bound, sound⟩
  · simp only [bound, accepted]
    exact sound.runIn holds running patience debugger
  · simp only [bound, refused]
    refine ⟨rfl, ?_, fun _ => rfl⟩
    intro returned same
    cases same
    exact sound

/-- A command goes to the session that is held for the same path, or to a new one. -/
theorem execute_eq (world : Network ν κ) (manager : Manager ν κ) (patience : Nat)
    (command : Command) {path : Path} {after : σ}
    (selects : selected? backend debugger = some (.ok path, after)) :
    manager.execute world backend patience command debugger
      = match manager.matching? path with
        | some held => manager.runIn world backend patience held command after
        | none => manager.executeAfresh world backend patience path command after := by
  simp only [Manager.execute, Manager.session, executeAfresh, selects]
  cases manager.matching? path <;> rfl

/-- What comes of a command depends on how the server knows the binary. -/
theorem Sound.execute_seen (sound : manager.Sound isFile) (running : command.kind ≠ .shutdown)
    (patience : Nat) {path : Path} {after : σ}
    (selects : selected? backend debugger = some (.ok path, after)) :
    (manager.execute Host.network backend patience command debugger).map Returned.seen
        = verdict backend isFile patience (manager.knownAs path) command after
      ∧ ∀ returned, manager.execute Host.network backend patience command debugger = some returned →
        returned.manager.Sound isFile := by
  rw [execute_eq Host.network manager patience command selects]
  unfold knownAs
  cases matching : manager.matching? path with
  | none =>
    obtain ⟨seen, onward, -⟩ :=
      executeAfresh_seen sound.serving_close running patience path after
    exact ⟨seen, onward⟩
  | some held =>
    obtain ⟨holds, -⟩ := Option.filter_eq_some_iff.mp matching
    obtain ⟨seen, onward, -⟩ := sound.runIn holds running patience after
    unfold verdict
    rw [(sound.opened held holds).2]
    exact ⟨seen, onward⟩

/-- When no binary is selected, the manager plays no part. -/
theorem execute_unselected (world : Network ν κ) (manager : Manager ν κ) (patience : Nat)
    (command : Command)
    (unselected : ∀ path after, selected? backend debugger ≠ some (.ok path, after)) :
    manager.execute world backend patience command debugger
      = match selected? backend debugger with
        | some (.error fault, after) => some ⟨.error fault, manager, after⟩
        | _ => none := by
  unfold Manager.execute
  cases selects : selected? backend debugger with
  | none => rfl
  | some selected =>
    obtain ⟨result, after⟩ := selected
    cases result with
    | error fault => rfl
    | ok path => exact absurd selects (unselected path after)

theorem Sound.execute (sound : manager.Sound isFile) (running : command.kind ≠ .shutdown)
    (patience : Nat) (debugger : σ) {returned : Returned Host Nat σ (Except ManagerFault Outcome)}
    (returns : manager.execute Host.network backend patience command debugger = some returned) :
    returned.manager.Sound isFile := by
  by_cases selects : ∃ path after, selected? backend debugger = some (.ok path, after)
  · obtain ⟨path, after, selects⟩ := selects
    exact (sound.execute_seen running patience selects).2 returned returns
  · have unselected : ∀ path after, selected? backend debugger ≠ some (.ok path, after) :=
      fun path after same => selects ⟨path, after, same⟩
    rw [execute_unselected Host.network manager patience command unselected] at returns
    split at returns
    · cases returns
      exact sound
    · cases returns

/-! ## Histories -/

/-- The command that a call asks for. -/
def Call.command? : Call σ → Option Command
  | .execute _ command _ => some command
  | .line _ text _ => (Subcommand.parse text).toOption.bind Subcommand.command?
  | _ => none

/-- What is called does not ask a server to stop. -/
def Call.Running (call : Call σ) : Prop :=
  ∀ command, call.command? = some command → command.kind ≠ .shutdown

theorem Sound.status (sound : manager.Sound isFile) :
    (manager.status Host.network).2 = manager := by
  unfold Manager.status
  rw [sound.serving.probe]

theorem Sound.runLine (sound : manager.Sound isFile) {patience : Nat} {text : String}
    (running : (Call.line patience text debugger).Running)
    {returned : Returned Host Nat σ String}
    (returns : manager.runLine Host.network backend patience text debugger = some returned) :
    returned.manager.Sound isFile := by
  unfold Manager.runLine at returns
  cases parsed : Subcommand.parse text with
  | error fault =>
    rw [parsed] at returns
    cases returns
    exact sound
  | ok subcommand =>
    rw [parsed] at returns
    simp only at returns
    cases asks : subcommand.command? with
    | none =>
      rw [asks] at returns
      cases returns
      show (manager.status Host.network).2.Sound isFile
      rw [sound.status]
      exact sound
    | some command =>
      rw [asks] at returns
      have asked : (Subcommand.parse text).toOption.bind Subcommand.command? = some command := by
        rw [parsed]
        exact asks
      obtain ⟨carried, executed, rfl⟩ := Option.map_eq_some_iff.mp returns
      exact sound.execute (running command asked) patience debugger executed

theorem Sound.perform (sound : manager.Sound isFile) {call : Call σ} (running : call.Running)
    {answer : Answer σ} {after : Manager Host Nat}
    (returns : manager.perform Host.network backend call = some (answer, after)) :
    after.Sound isFile := by
  cases call with
  | execute patience command debugger =>
    obtain ⟨returned, executed, same⟩ := Option.map_eq_some_iff.mp returns
    cases same
    exact sound.execute (running command rfl) patience debugger executed
  | line patience text debugger =>
    obtain ⟨returned, ran, same⟩ := Option.map_eq_some_iff.mp returns
    cases same
    exact sound.runLine running ran
  | status =>
    cases returns
    show (manager.status Host.network).2.Sound isFile
    rw [sound.status]
    exact sound
  | close =>
    cases returns
    exact sound.close

theorem Sound.performAll (sound : manager.Sound isFile) {calls : List (Call σ)}
    (running : ∀ call, call ∈ calls → call.Running) {answers : List (Answer σ)}
    {after : Manager Host Nat}
    (returns : Manager.performAll Host.network backend manager calls = some (answers, after)) :
    after.Sound isFile := by
  induction calls generalizing manager answers with
  | nil =>
    cases returns
    exact sound
  | cons call calls ih =>
    obtain ⟨first, running⟩ := List.forall_mem_cons.mp running
    obtain ⟨⟨answer, between⟩, performed, returns⟩ := Option.bind_eq_some_iff.mp returns
    obtain ⟨⟨more, last⟩, onward, same⟩ := Option.bind_eq_some_iff.mp returns
    cases same
    exact ih (sound.perform first performed) running onward

/-! ## The two compared -/

/-- Nothing of what comes of a command, and nothing of the debugger after it, tells whether the
session has been held, or what has been done since the beginning. Only the spelling of the path may
be that of an earlier selection. -/
structure Unnoticed (backend : Backend σ) (patience : Nat) (command : Command) (debugger : σ)
    (first manager : Manager Host Nat) : Prop where
  /-- The command fares as in a session that is opened for it, on the path under which the server
  knows the binary. -/
  afresh : ∀ path after, selected? backend debugger = some (.ok path, after) →
    Path.same (manager.knownAs path) path = true
      ∧ (manager.execute Host.network backend patience command debugger).map Returned.seen
        = (manager.executeAfresh Host.network backend patience (manager.knownAs path) command
            after).map Returned.seen
  /-- After the session has been closed, that path is the one that is selected. -/
  closed : ∀ path after, selected? backend debugger = some (.ok path, after) →
    ((manager.close Host.network).execute Host.network backend patience command debugger).map
        Returned.seen
      = (manager.executeAfresh Host.network backend patience path command after).map Returned.seen
  /-- So closing it makes no difference when the path is spelt alike. -/
  cached : (∀ path after, selected? backend debugger = some (.ok path, after) →
      manager.knownAs path = path) →
    (manager.execute Host.network backend patience command debugger).map Returned.seen
      = ((manager.close Host.network).execute Host.network backend patience command debugger).map
        Returned.seen
  /-- A session that is opened is as it would have been in the beginning. -/
  forgetful : ∀ path after,
    (manager.executeAfresh Host.network backend patience path command after).map Returned.seen
      = (first.executeAfresh Host.network backend patience path command after).map Returned.seen
  /-- The command comes to its end. -/
  finishes : 6 ≤ patience → ∀ path after, selected? backend debugger = some (.ok path, after) →
    (manager.execute Host.network backend patience command debugger).isSome = true

theorem same_knownAs (path : Path) (manager : Manager ν κ) :
    Path.same (manager.knownAs path) path = true := by
  unfold knownAs
  cases matching : manager.matching? path with
  | none => exact Path.same_self path
  | some held => exact (Option.filter_eq_some_iff.mp matching).2

theorem knownAs_close (world : Network ν κ) (path : Path) (manager : Manager ν κ) :
    (manager.close world).knownAs path = path := by
  rw [close_eq]
  rfl

/-- Commands fare alike in a session that is held and in a new one for the same path. -/
theorem caching_unnoticed (backend : Backend σ) (settings : Settings) {host : Host}
    (routed : host.routed = true) (bound : host.bound = true) {calls : List (Call σ)}
    (running : ∀ call, call ∈ calls → call.Running) {answers : List (Answer σ)}
    {manager : Manager Host Nat}
    (performed : performAll Host.network backend (start settings host) calls
      = some (answers, manager))
    {command : Command} (running' : command.kind ≠ .shutdown) (patience : Nat) (debugger : σ) :
    Unnoticed backend patience command debugger (start settings host) manager := by
  have begun : (start settings host : Manager Host Nat).Sound host.isFile :=
    sound_of_none ⟨rfl, routed, bound⟩ rfl
  have sound : manager.Sound host.isFile := begun.performAll running performed
  have fresh : ∀ path after,
      (manager.executeAfresh Host.network backend patience path command after).map Returned.seen
        = verdict backend host.isFile patience path command after := fun path after =>
    (executeAfresh_seen sound.serving_close running' patience path after).1
  refine ⟨?_, ?_, ?_, ?_, ?_⟩
  · intro path after selects
    exact ⟨same_knownAs path manager,
      (sound.execute_seen running' patience selects).1.trans (fresh _ after).symm⟩
  · intro path after selects
    rw [(sound.close.execute_seen running' patience selects).1, knownAs_close, fresh]
  · intro alike
    by_cases selects : ∃ path after, selected? backend debugger = some (.ok path, after)
    · obtain ⟨path, after, selects⟩ := selects
      rw [(sound.execute_seen running' patience selects).1,
        (sound.close.execute_seen running' patience selects).1, knownAs_close,
        alike path after selects]
    · have unselected : ∀ path after, selected? backend debugger ≠ some (.ok path, after) :=
        fun path after same => selects ⟨path, after, same⟩
      rw [execute_unselected _ _ patience command unselected,
        execute_unselected _ _ patience command unselected]
      cases selected? backend debugger with
      | none => rfl
      | some selected =>
        obtain ⟨result, after⟩ := selected
        cases result <;> rfl
  · intro path after
    rw [fresh, (executeAfresh_seen begun.serving_close running' patience path after).1]
  · intro enough path after selects
    obtain ⟨-, -, ends⟩ := executeAfresh_seen sound.serving_close running' patience
      (manager.knownAs path) after
    have ended := ends enough
    rw [← (sound.execute_seen running' patience selects).1, Option.isSome_map] at ended
    exact ended

/-! ## Two spellings of one path -/

/-- A host with a server, on which there is one file. -/
def oneFile : Host where
  isFile text := (Entry.directory [("bin", .directory [("other", .file)])]).hasFile (.ofText text)
  routed := true
  installed := []
  launcher := .idle
  bound := true
  links := []
  launches := 0

/-- A debugger in which a binary is selected. -/
def selecting (path : Path) : Simulator :=
  Simulator.fresh.setUp [.executable path]

/-- The command that asks where the binary has been loaded. -/
def whereLoaded : Command := ⟨.eval, ["base"]⟩

/-- What is reported of that. -/
def loadedAt (binary : String) : Outcome :=
  .complete (Probe.result
    [("binary", .string binary), ("base_address", .natural 0x555555554000)])

/-- What comes of the question for a binary. -/
def reported (path : Path) (manager : Manager Host Nat) : Option Outcome :=
  (manager.execute Host.network Simulator.backend 6 whereLoaded (selecting path)).bind
    (·.value.toOption)

theorem caching_unnoticed_respelt :
    ∃ answers manager, performAll Host.network Simulator.backend (start {} oneFile)
        [.execute 6 whereLoaded (selecting (.ofText "bin/other"))] = some (answers, manager)
      ∧ manager.knownAs (.ofText "bin//other") = .ofText "bin/other"
      ∧ Unnoticed Simulator.backend 6 whereLoaded (selecting (.ofText "bin//other"))
        (start {} oneFile) manager := by
  have known : (performAll Host.network Simulator.backend (start {} oneFile)
      [.execute 6 whereLoaded (selecting (.ofText "bin/other"))]).map
        (fun done => done.2.knownAs (.ofText "bin//other")) = some (.ofText "bin/other") := by
    decide +kernel
  obtain ⟨⟨answers, manager⟩, performed, known⟩ := Option.map_eq_some_iff.mp known
  have running : ∀ call, call ∈ [Call.execute 6 whereLoaded (selecting (.ofText "bin/other"))] →
      call.Running := by
    intro call present command asks
    obtain rfl := List.mem_singleton.mp present
    cases asks
    decide
  exact ⟨answers, manager, performed, known,
    caching_unnoticed Simulator.backend {} rfl rfl running performed (by decide) 6 _⟩

/-- The spelling can be noticed: the server reports the binary as it was named first. -/
theorem respelling_noticed :
    ∃ answers manager, performAll Host.network Simulator.backend (start {} oneFile)
        [.execute 6 whereLoaded (selecting (.ofText "bin/other"))] = some (answers, manager)
      ∧ manager.reported (.ofText "bin//other") = some (loadedAt "bin/other")
      ∧ (manager.close Host.network).reported (.ofText "bin//other") = some (loadedAt "bin//other")
      ∧ loadedAt "bin/other" ≠ loadedAt "bin//other" := by
  have both : (performAll Host.network Simulator.backend (start {} oneFile)
      [.execute 6 whereLoaded (selecting (.ofText "bin/other"))]).map (fun done =>
        (done.2.reported (.ofText "bin//other"),
          (done.2.close Host.network).reported (.ofText "bin//other")))
      = some (some (loadedAt "bin/other"), some (loadedAt "bin//other")) := by
    decide +kernel
  obtain ⟨⟨answers, manager⟩, performed, both⟩ := Option.map_eq_some_iff.mp both
  obtain ⟨held, closed⟩ := Prod.mk.inj both
  have differ : loadedAt "bin/other" ≠ loadedAt "bin//other" := by decide +kernel
  exact ⟨answers, manager, performed, held, closed, differ⟩

end Manager
end DebugBridge
