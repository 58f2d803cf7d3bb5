import DebugBridge.Debugger.Simulator
import DebugBridge.Proofs.Client.Upkeep
import DebugBridge.Proofs.Files.Path

/-!
# One session at a time

A manager is called again and again, each time with a debugger that may have selected another
binary, on a network that may do anything. Here it is said what can be relied on all the same.

* At most one connection is open, and nothing is said or heard on another one (`Alone`).
* What is held is a session that has been opened for its binary, in which every command so far came
  to a proper end (`Usable`).
* A command is only sent on a connection on which one binary has been named, once, by the text of a
  path that is the same as the one that is selected at that call (`Addresses`).

Results:
1. `Did.alone`, `Did.exists_speech`: what one call can do to the connections.
2. `Tidy.did`, `Chronicle.tidy`: what one call preserves, and so all calls.
3. `keeps_one_session`: calls on any network are a chronicle of such calls.
-/

namespace DebugBridge

open Client.Session (Opened Executed Serviced)

/-! ## Connections -/

/-- Effects during which at most one connection is open: none is opened while another one is, and
nothing is said, heard or closed on any other. -/
inductive Alone : Option Nat → List Effect → Option Nat → Prop
  | nil (current : Option Nat) : Alone current [] current
  | looked {current final : Option Nat} {effect : Effect} {effects : List Effect} :
      effect.isLook = true → Alone current effects final → Alone current (effect :: effects) final
  | unconnected {final : Option Nat} {effects : List Effect} (text : String) :
      Alone none effects final → Alone none (.connected (.error text) :: effects) final
  | connected {final : Option Nat} {number : Nat} {effects : List Effect} :
      Alone (some number) effects final → Alone none (.connected (.ok number) :: effects) final
  | acted {final : Option Nat} {number : Nat} {act : Act} {effects : List Effect} :
      Alone (some number) effects final → Alone (some number) (.acted number act :: effects) final
  | closed {final : Option Nat} {number : Nat} {effects : List Effect} :
      Alone none effects final → Alone (some number) (.closed number :: effects) final

theorem Alone.append {first between last : Option Nat} {effects more : List Effect}
    (alone : Alone first effects between) (onward : Alone between more last) :
    Alone first (effects ++ more) last := by
  induction alone with
  | nil _ => exact onward
  | looked look _ ih => exact .looked look (ih onward)
  | unconnected text _ ih => exact .unconnected text (ih onward)
  | connected _ ih => exact .connected (ih onward)
  | acted _ ih => exact .acted (ih onward)
  | closed _ ih => exact .closed (ih onward)

/-- What is said or heard on one connection. -/
def Effect.actOn? (number : Nat) : Effect → Option Act
  | .acted other act => if other = number then some act else none
  | _ => none

/-- All that is said and heard on one connection. -/
def actsOn (number : Nat) (effects : List Effect) : List Act :=
  effects.filterMap (Effect.actOn? number)

theorem actsOn_append (number : Nat) (effects more : List Effect) :
    actsOn number (effects ++ more) = actsOn number effects ++ actsOn number more :=
  List.filterMap_append

theorem actsOn_effectsOn (number other : Nat) (acts : List Act) :
    actsOn number (effectsOn other acts) = if other = number then acts else [] := by
  unfold actsOn effectsOn
  induction acts with
  | nil => split <;> rfl
  | cons act acts ih =>
    rw [List.map_cons, List.filterMap_cons, ih, Effect.actOn?]
    by_cases same : other = number
    · rw [if_pos same, if_pos same, if_pos same]
    · rw [if_neg same, if_neg same, if_neg same]

/-- Looking for a server says nothing on a connection. -/
theorem Manager.Looks.actsOn {looks : List Effect} (only : Manager.Looks looks) (number : Nat) :
    actsOn number looks = [] := by
  refine List.filterMap_eq_nil_iff.mpr fun effect present => ?_
  have look := only effect present
  cases effect with
  | acted other act => cases look
  | _ => rfl

/-- The text by which a binary is named. -/
def Act.named? : Act → Option String
  | .sent (.init binary) _ => some binary
  | _ => none

/-- The texts by which binaries are named in a transcript. -/
def named (acts : List Act) : List String :=
  acts.filterMap Act.named?

theorem named_append (acts more : List Act) : named (acts ++ more) = named acts ++ named more :=
  List.filterMap_append

/-! ## Transcripts -/

section Transcripts

variable {σ : Type} {backend : Backend σ}

/-- What happens on a connection after it has been opened, as long as no command breaks it. -/
inductive Usable (backend : Backend σ) : List Act → Prop
  | nil : Usable backend []
  | next {acts more : List Act} {command : Command} {before after : σ} {outcome : Outcome} :
      Usable backend acts → Executed backend command before more (.ok outcome) after →
      Usable backend (acts ++ more)

theorem named_opened {binary : Path} {acts : List Act} {result : Except SessionFault Unit}
    (opened : Opened binary acts result) : named acts = [binary.text] := by
  cases opened <;> rfl

theorem named_serviced {before after : σ} {acts : List Act} {attempt : Attempt}
    (serviced : Serviced backend before acts attempt after) : named acts = [] := by
  induction serviced with
  | answered _ _ ih => exact ih
  | unsent _ _ => rfl
  | complete _ _ => rfl
  | failed _ _ => rfl
  | surprised _ _ _ _ => rfl
  | unanswered _ _ => rfl

theorem named_executed {command : Command} {before after : σ} {acts : List Act} {attempt : Attempt}
    (executed : Executed backend command before acts attempt after) : named acts = [] := by
  cases executed with
  | sent serviced =>
    have rest := named_serviced serviced
    exact rest
  | unsent _ => rfl

theorem Usable.named {acts : List Act} (usable : Usable backend acts) : named acts = [] := by
  induction usable with
  | nil => rfl
  | next _ executed ih => rw [named_append, ih, named_executed executed]; rfl

/-- No command is sent while a session is opened. -/
theorem command_not_mem_opened {binary : Path} {acts : List Act}
    {result : Except SessionFault Unit} (opened : Opened binary acts result) (command : Command)
    (outcome : Except TransportFault Unit) : .sent (.command command) outcome ∉ acts := by
  intro present
  cases opened <;> simp at present

end Transcripts

namespace Manager

variable {σ : Type} {backend : Backend σ}

/-! ## One call -/

section Step

variable {settings : Settings} {number : Nat} {held next : Option (Path × Nat)}

theorem Looks.alone {looks : List Effect} (only : Looks looks) (current : Option Nat) :
    Alone current looks current := by
  induction looks with
  | nil => exact .nil current
  | cons effect looks ih =>
    exact .looked (only effect List.mem_cons_self)
      (ih fun effect' later => only effect' (.tail _ later))

theorem alone_closing (held : Option (Path × Nat)) :
    Alone (held.map Prod.snd) (closing held) none := by
  cases held with
  | none => exact .nil none
  | some held => exact .closed (.nil none)

theorem alone_effectsOn (number : Nat) (acts : List Act) :
    Alone (some number) (effectsOn number acts) (some number) := by
  induction acts with
  | nil => exact .nil _
  | cons act acts ih => exact .acted ih

theorem alone_connected (number : Nat) :
    Alone none [.connected (.ok number)] (some number) :=
  .connected (.nil _)

theorem alone_closed (number : Nat) : Alone (some number) [.closed number] none :=
  .closed (.nil _)

/-- The connection on which a session is held, if there is one. -/
def connection : Except ManagerFault (Path × Nat) → Option Nat
  | .ok (_, number) => some number
  | .error _ => none

theorem Bound.alone {path : Path} {effects : List Effect}
    {result : Except ManagerFault (Path × Nat)}
    (bound : Bound settings path number held effects result) :
    Alone (held.map Prod.snd) effects (connection result) := by
  cases bound with
  | reused same => exact .nil _
  | unreachable differs only fault => exact (alone_closing held).append (only.alone none)
  | unconnected text differs only =>
    exact (alone_closing held).append ((only.alone none).append (.unconnected text (.nil none)))
  | refused differs only opened =>
    exact (alone_closing held).append (((only.alone none).append (alone_connected number)).append
      ((alone_effectsOn number _).append (alone_closed number)))
  | opened differs only opened =>
    exact (alone_closing held).append (((only.alone none).append (alone_connected number)).append
      (alone_effectsOn number _))

theorem Used.alone {command : Command} {binary : Path} {bound : Nat} {before after : σ}
    {effects : List Effect} {result : Except ManagerFault Outcome}
    (used : Used backend command binary bound before effects result after next) :
    Alone (some bound) effects (next.map Prod.snd) := by
  cases used with
  | kept executed => exact alone_effectsOn bound _
  | lost executed => exact (alone_effectsOn bound _).append (alone_closed bound)

theorem Served.alone {command : Command} {before after : σ} {effects : List Effect}
    {result : Except ManagerFault Outcome}
    (served : Served backend settings number command before held effects result after next) :
    Alone (held.map Prod.snd) effects (next.map Prod.snd) := by
  cases served with
  | unselected selects fault => exact .nil _
  | unbound selects bound => exact bound.alone
  | used selects bound used => exact bound.alone.append used.alone

/-- At most one connection is open during a call. -/
theorem Did.alone {entry : Entry σ} (did : Did backend settings number held entry next) :
    Alone (held.map Prod.snd) entry.effects (next.map Prod.snd) := by
  cases did with
  | executed served => exact served.alone
  | typed parsed asks served => exact served.alone
  | asked patience debugger reachable parsed asks => exact (looks_singleton rfl).alone _
  | misread patience debugger parsed => exact .nil _
  | status reachable => exact (looks_singleton rfl).alone _
  | closed => exact alone_closing held

/-- The debugger with which a command is asked for. -/
def Call.debugger? : Call σ → Option σ
  | .execute _ _ debugger => some debugger
  | .line _ _ debugger => some debugger
  | _ => none

/-- A binary is selected in the debugger with which a call is made. -/
def Call.Selects (backend : Backend σ) (call : Call σ) (path : Path) : Prop :=
  ∃ debugger after, call.debugger? = some debugger
    ∧ selected? backend debugger = some (.ok path, after)

/-- What is said and heard during a call, all of it on one connection: nothing, a command on the
connection that is held, or the opening of a new connection, perhaps with the command. The last
number is that of the connections opened. -/
inductive Speech (backend : Backend σ) (call : Call σ) (number : Nat) :
    Option (Path × Nat) → Nat → List Act → Nat → Option (Path × Nat) → Prop
  | silent {held next : Option (Path × Nat)} (other count : Nat) : next = held ∨ next = none →
      Speech backend call number held other [] count next
  | reused {path binary : Path} {old : Nat} {command : Command} {before after : σ}
      {acts : List Act} {attempt : Attempt} : call.Selects backend path →
      Path.same binary path = true → Executed backend command before acts attempt after →
      Speech backend call number (some (binary, old)) old acts 0
        (if attempt.isOk then some (binary, old) else none)
  | refused {held : Option (Path × Nat)} {path : Path} {acts : List Act}
      {fault : SessionFault} : Opened path acts (.error fault) →
      Speech backend call number held number acts 1 none
  | fresh {held : Option (Path × Nat)} {path : Path} {command : Command} {before after : σ}
      {opening acts : List Act} {attempt : Attempt} : call.Selects backend path →
      Opened path opening (.ok ()) → Executed backend command before acts attempt after →
      Speech backend call number held number (opening ++ acts) 1
        (if attempt.isOk then some (path, number) else none)

/-- Nothing is said or heard by closing a connection. -/
theorem actsOn_closing (held : Option (Path × Nat)) (other : Nat) :
    actsOn other (closing held) = [] := by
  cases held <;> rfl

theorem opened_closing (held : Option (Path × Nat)) : opened (closing held) = 0 := by
  cases held <;> rfl

theorem opened_effectsOn (number : Nat) (acts : List Act) : opened (effectsOn number acts) = 0 := by
  refine List.countP_eq_zero.mpr fun effect present opening => ?_
  obtain ⟨act, -, rfl⟩ := List.mem_map.mp present
  cases opening

/-- Effects with what is said and heard among them, on one connection, and how many connections are
opened. -/
def Tells (effects : List Effect) (number : Nat) (acts : List Act) (count : Nat) : Prop :=
  (∀ other, actsOn other effects = if number = other then acts else []) ∧ opened effects = count

theorem Bound.tells_ok {path binary : Path} {bound : Nat} {effects : List Effect}
    (found : Bound settings path number held effects (.ok (binary, bound))) :
    (held = some (binary, bound) ∧ Path.same binary path = true ∧ effects = [])
      ∨ binary = path ∧ bound = number
        ∧ ∃ opening, Opened path opening (.ok ()) ∧ Tells effects number opening 1 := by
  cases found with
  | reused same => exact .inl ⟨rfl, same, rfl⟩
  | opened differs only opened =>
    refine .inr ⟨rfl, rfl, _, opened, fun other => ?_, ?_⟩
    · rw [actsOn_append, actsOn_append, actsOn_append, actsOn_closing, only.actsOn,
        actsOn_effectsOn]
      rfl
    · simp only [opened_append, opened_closing, only.opened, opened_effectsOn]
      rfl

theorem Bound.tells_error {path : Path} {effects : List Effect} {fault : ManagerFault}
    (failed : Bound settings path number held effects (.error fault)) :
    ∃ acts count, Tells effects number acts count
      ∧ (acts = [] ∨ count = 1 ∧ ∃ fault', Opened path acts (.error fault')) := by
  cases failed with
  | unreachable differs only fault =>
    refine ⟨[], 0, ⟨fun other => ?_, ?_⟩, .inl rfl⟩
    · rw [actsOn_append, actsOn_closing, only.actsOn]
      split <;> rfl
    · rw [opened_append, opened_closing, only.opened]
  | unconnected text differs only =>
    refine ⟨[], 0, ⟨fun other => ?_, ?_⟩, .inl rfl⟩
    · rw [actsOn_append, actsOn_append, actsOn_closing, only.actsOn]
      split <;> rfl
    · rw [opened_append, opened_append, opened_closing, only.opened]
      rfl
  | refused differs only opened =>
    refine ⟨_, 1, ⟨fun other => ?_, ?_⟩, .inr ⟨rfl, _, opened⟩⟩
    · simp only [actsOn_append, actsOn_closing, only.actsOn, actsOn_effectsOn]
      exact List.append_nil _
    · simp only [opened_append, opened_closing, only.opened, opened_effectsOn]
      rfl

theorem Used.tells {command : Command} {binary : Path} {bound : Nat} {before after : σ}
    {effects : List Effect} {result : Except ManagerFault Outcome}
    (used : Used backend command binary bound before effects result after next) :
    ∃ acts attempt, Executed backend command before acts attempt after
      ∧ Tells effects bound acts 0
      ∧ next = if attempt.isOk then some (binary, bound) else none := by
  cases used with
  | kept executed =>
    exact ⟨_, _, executed,
      ⟨fun other => actsOn_effectsOn other bound _, opened_effectsOn bound _⟩, rfl⟩
  | lost executed =>
    refine ⟨_, _, executed, ⟨fun other => ?_, ?_⟩, rfl⟩
    · rw [actsOn_append, actsOn_effectsOn]
      exact List.append_nil _
    · rw [opened_append, opened_effectsOn]
      rfl

theorem Served.exists_speech {call : Call σ} {command : Command} {before after : σ}
    {effects : List Effect} {result : Except ManagerFault Outcome}
    (asks : call.debugger? = some before)
    (served : Served backend settings number command before held effects result after next) :
    ∃ other acts count, Tells effects other acts count
      ∧ Speech backend call number held other acts count next := by
  have silent : ∀ {count}, opened effects = count → (∀ other, actsOn other effects = []) →
      next = held ∨ next = none → ∃ other acts count, Tells effects other acts count
        ∧ Speech backend call number held other acts count next := by
    intro count opens quiet keeps
    refine ⟨0, [], count, ⟨fun other => ?_, opens⟩, .silent 0 count keeps⟩
    rw [quiet]
    split <;> rfl
  cases served with
  | unselected selects fault => exact silent rfl (fun _ => rfl) (.inl rfl)
  | unbound selects bound =>
    obtain ⟨acts, count, tells, quiet | ⟨rfl, fault, opened⟩⟩ := bound.tells_error
    · refine silent tells.2 (fun other => ?_) (.inr rfl)
      rw [tells.1 other, quiet]
      split <;> rfl
    · exact ⟨number, acts, 1, tells, .refused opened⟩
  | used selects bound used =>
    obtain ⟨acts, attempt, executed, tells, rfl⟩ := used.tells
    have selected : call.Selects backend _ := ⟨before, _, asks, selects⟩
    rcases bound.tells_ok with ⟨rfl, same, rfl⟩ | ⟨rfl, rfl, opening, opened, tells'⟩
    · exact ⟨_, acts, 0, tells, .reused selected same executed⟩
    · refine ⟨_, opening ++ acts, 1, ⟨fun other => ?_, ?_⟩, .fresh selected opened executed⟩
      · rw [actsOn_append, tells.1, tells'.1]
        split <;> rfl
      · rw [opened_append, tells.2, tells'.2]

/-- What is said and heard during a call. -/
theorem Did.exists_speech {entry : Entry σ} (did : Did backend settings number held entry next) :
    ∃ other acts count, Tells entry.effects other acts count
      ∧ Speech backend entry.call number held other acts count next := by
  have silent : ∀ {effects : List Effect} {call : Call σ} {next},
      (∀ other, actsOn other effects = []) → next = held ∨ next = none →
      ∃ other acts count, Tells effects other acts count
        ∧ Speech backend call number held other acts count next := by
    intro effects call next quiet keeps
    refine ⟨0, [], _, ⟨fun other => ?_, rfl⟩, .silent 0 _ keeps⟩
    rw [quiet]
    split <;> rfl
  cases did with
  | executed served => exact served.exists_speech rfl
  | typed parsed asks served => exact served.exists_speech rfl
  | asked patience debugger reachable parsed asks => exact silent (fun _ => rfl) (.inl rfl)
  | misread patience debugger parsed => exact silent (fun _ => rfl) (.inl rfl)
  | status reachable => exact silent (fun _ => rfl) (.inl rfl)
  | closed => exact silent (actsOn_closing held) (.inr rfl)

end Step

/-! ## All calls -/

/-- All that has been done to the network in some calls. -/
def effectsOf (entries : List (Entry σ)) : List Effect :=
  entries.flatMap Entry.effects

theorem effectsOf_append (entries more : List (Entry σ)) :
    effectsOf (entries ++ more) = effectsOf entries ++ effectsOf more :=
  List.flatMap_append

theorem effectsOf_singleton (entry : Entry σ) : effectsOf [entry] = entry.effects :=
  List.append_nil _

/-- Calls one after the other, and what is held after them. -/
inductive Chronicle (backend : Backend σ) (settings : Settings) :
    List (Entry σ) → Option (Path × Nat) → Prop
  | start : Chronicle backend settings [] none
  | did {entries : List (Entry σ)} {held next : Option (Path × Nat)} {entry : Entry σ} :
      Chronicle backend settings entries held →
      Did backend settings (opened (effectsOf entries)) held entry next →
      Chronicle backend settings (entries ++ [entry]) next

/-- What a binary that is named by its text has to do with a path. It is the same path, though the
text names only what can be said of it: the path that the text of `path` names, hence `path` itself
if that is text. -/
structure Addresses (text : String) (path : Path) : Prop where
  same : ∃ binary : Path, binary.text = text ∧ Path.same binary path = true
  spelt : Path.same (.ofText text) path.spelt = true
  exact : path.IsText → Path.same (.ofText text) path = true

theorem addresses_text {binary path : Path} (same : Path.same binary path = true) :
    Addresses binary.text path where
  same := ⟨binary, rfl, same⟩
  spelt := Path.same_spelt same
  exact is := by
    have spelt := Path.same_spelt same
    rwa [is.spelt] at spelt

/-- What can be relied on after some calls. -/
structure Tidy (backend : Backend σ) (entries : List (Entry σ)) (held : Option (Path × Nat)) :
    Prop where
  /-- One connection at a time, and in the end the one that is held, if any. -/
  alone : Alone none (effectsOf entries) (held.map Prod.snd)
  /-- Only connections that have been opened are used. -/
  numbered : ∀ number, actsOn number (effectsOf entries) ≠ [] → number < opened (effectsOf entries)
  /-- What is held has been opened for its binary, and no command has broken it. -/
  usable : ∀ binary number, held = some (binary, number) →
    ∃ opening acts, actsOn number (effectsOf entries) = opening ++ acts
      ∧ Opened binary opening (.ok ()) ∧ Usable backend acts
  /-- A command is sent where the only binary ever named is the one selected then. -/
  addressed : ∀ entry, entry ∈ entries → ∀ number command outcome,
    .sent (.command command) outcome ∈ actsOn number entry.effects →
    ∃ path text, entry.call.Selects backend path
      ∧ named (actsOn number (effectsOf entries)) = [text] ∧ Addresses text path

theorem tidy_nil (backend : Backend σ) : Tidy backend [] none where
  alone := .nil none
  numbered _ spoken := absurd rfl spoken
  usable _ _ is := nomatch is
  addressed _ present := nomatch present

section Step

variable {settings : Settings} {held next : Option (Path × Nat)} {entries : List (Entry σ)}
  {entry : Entry σ}

/-- Nothing has been said on a connection that has not been opened. -/
theorem Tidy.actsOn_next (tidy : Tidy backend entries held) :
    actsOn (opened (effectsOf entries)) (effectsOf entries) = [] := by
  by_cases quiet : actsOn (opened (effectsOf entries)) (effectsOf entries) = []
  · exact quiet
  · exact absurd (tidy.numbered _ quiet) (Nat.lt_irrefl _)

/-- The connection that is held has been opened. -/
theorem Tidy.held_lt (tidy : Tidy backend entries held) {binary : Path} {number : Nat}
    (is : held = some (binary, number)) : number < opened (effectsOf entries) := by
  obtain ⟨opening, acts, split, opened, -⟩ := tidy.usable binary number is
  refine tidy.numbered number fun quiet => ?_
  rw [split] at quiet
  rw [List.append_eq_nil_iff.mp quiet |>.1] at opened
  cases opened

/-- The binary of the connection that is held is the only one named on it. -/
theorem Tidy.named_held (tidy : Tidy backend entries held) {binary : Path} {number : Nat}
    (is : held = some (binary, number)) :
    named (actsOn number (effectsOf entries)) = [binary.text] := by
  obtain ⟨opening, acts, split, opened, usable⟩ := tidy.usable binary number is
  rw [split, named_append, named_opened opened, usable.named]
  rfl

variable {call : Call σ} {number other count : Nat} {acts : List Act}

/-- What is said is said on the connection that is held or on a new one. -/
theorem Speech.place (speech : Speech backend call number held other acts count next)
    (spoken : acts ≠ []) :
    (∃ binary, held = some (binary, other)) ∨ other = number ∧ count = 1 := by
  cases speech with
  | silent _ _ _ => exact absurd rfl spoken
  | reused _ _ _ => exact .inl ⟨_, rfl⟩
  | refused _ => exact .inr ⟨rfl, rfl⟩
  | fresh _ _ _ => exact .inr ⟨rfl, rfl⟩

/-- A binary is named on a new connection only. -/
theorem Speech.named_eq_nil (speech : Speech backend call number held other acts count next)
    (older : other ≠ number) : named acts = [] := by
  cases speech with
  | silent _ _ _ => rfl
  | reused _ _ executed => exact named_executed executed
  | refused _ => exact absurd rfl older
  | fresh _ _ _ => exact absurd rfl older

/-- What has been said on a connection after one more call. -/
theorem actsOn_snoc (tells : Tells entry.effects other acts count) (number : Nat) :
    actsOn number (effectsOf (entries ++ [entry]))
      = actsOn number (effectsOf entries) ++ if other = number then acts else [] := by
  rw [effectsOf_append, effectsOf_singleton, actsOn_append, tells.1]

theorem opened_snoc (tells : Tells entry.effects other acts count) :
    opened (effectsOf (entries ++ [entry])) = opened (effectsOf entries) + count := by
  rw [effectsOf_append, effectsOf_singleton, opened_append, tells.2]

/-- After one more call, still only connections that have been opened are used. -/
theorem Tidy.numbered_snoc (tidy : Tidy backend entries held)
    (tells : Tells entry.effects other acts count)
    (speech : Speech backend entry.call (opened (effectsOf entries)) held other acts count next)
    (number : Nat) (spoken : actsOn number (effectsOf (entries ++ [entry])) ≠ []) :
    number < opened (effectsOf (entries ++ [entry])) := by
  rw [opened_snoc tells]
  rw [actsOn_snoc tells] at spoken
  by_cases quiet : actsOn number (effectsOf entries) = []
  · rw [quiet, List.nil_append] at spoken
    split at spoken
    · next same =>
      subst same
      rcases speech.place spoken with ⟨binary, is⟩ | ⟨rfl, rfl⟩
      · exact Nat.lt_add_right count (tidy.held_lt is)
      · exact Nat.lt_succ_self _
    · exact absurd rfl spoken
  · exact Nat.lt_add_right count (tidy.numbered number quiet)

/-- What is held after one more call can be used: it was held before and has served one more
command, or it is new, or nothing was said on it. -/
theorem Tidy.usable_snoc (tidy : Tidy backend entries held)
    (tells : Tells entry.effects other acts count)
    (speech : Speech backend entry.call (opened (effectsOf entries)) held other acts count next)
    (binary : Path) (number : Nat) (is : next = some (binary, number)) :
    ∃ opening acts, actsOn number (effectsOf (entries ++ [entry])) = opening ++ acts
      ∧ Opened binary opening (.ok ()) ∧ Usable backend acts := by
  rw [actsOn_snoc tells]
  cases speech with
  | silent _ _ keeps =>
    rcases keeps with rfl | rfl
    · rw [ite_self, List.append_nil]
      exact tidy.usable binary number is
    · cases is
  | @reused _ _ _ _ _ _ _ attempt _ _ executed =>
    cases attempt with
    | error fault => cases is
    | ok outcome =>
      cases is
      obtain ⟨opening, before, split, opened, usable⟩ := tidy.usable _ _ rfl
      rw [if_pos rfl, split, List.append_assoc]
      exact ⟨opening, _, rfl, opened, .next usable executed⟩
  | refused _ => cases is
  | @fresh _ _ _ _ _ _ _ attempt _ opened executed =>
    cases attempt with
    | error fault => cases is
    | ok outcome =>
      cases is
      rw [if_pos rfl, tidy.actsOn_next, List.nil_append]
      have usable := Usable.next .nil executed
      rw [List.nil_append] at usable
      exact ⟨_, _, rfl, opened, usable⟩

/-- A connection that some binary has been named on is not a new one, so one more call names
nothing more on it. -/
theorem Tidy.named_snoc (tidy : Tidy backend entries held)
    (tells : Tells entry.effects other acts count)
    (speech : Speech backend entry.call (opened (effectsOf entries)) held other acts count next)
    {number : Nat} {text : String} (only : named (actsOn number (effectsOf entries)) = [text]) :
    named (actsOn number (effectsOf (entries ++ [entry]))) = [text] := by
  have before : number < opened (effectsOf entries) := by
    refine tidy.numbered number fun quiet => ?_
    rw [quiet] at only
    cases only
  rw [actsOn_snoc tells, named_append, only]
  split
  · next here =>
    rw [speech.named_eq_nil (here ▸ Nat.ne_of_lt before)]
    rfl
  · rfl

/-- The command of a call is sent where the only binary ever named is the one it selects. -/
theorem Tidy.addressed_last (tidy : Tidy backend entries held)
    (tells : Tells entry.effects other acts count)
    (speech : Speech backend entry.call (opened (effectsOf entries)) held other acts count next)
    {command : Command} {outcome : Except TransportFault Unit}
    (sent : .sent (.command command) outcome ∈ acts) :
    ∃ path text, entry.call.Selects backend path
      ∧ named (actsOn other (effectsOf (entries ++ [entry]))) = [text]
      ∧ Addresses text path := by
  rw [actsOn_snoc tells, if_pos rfl, named_append]
  cases speech with
  | silent _ _ _ => cases sent
  | reused selects same executed =>
    refine ⟨_, _, selects, ?_, addresses_text same⟩
    rw [tidy.named_held rfl, named_executed executed]
    rfl
  | refused opened => exact absurd sent (command_not_mem_opened opened command outcome)
  | fresh selects opened executed =>
    refine ⟨_, _, selects, ?_, addresses_text (Path.same_self _)⟩
    rw [tidy.actsOn_next, named_append, named_opened opened, named_executed executed]
    rfl

/-- What one call preserves. -/
theorem Tidy.did (tidy : Tidy backend entries held)
    (did : Did backend settings (opened (effectsOf entries)) held entry next) :
    Tidy backend (entries ++ [entry]) next := by
  obtain ⟨other, acts, count, tells, speech⟩ := did.exists_speech
  refine ⟨?_, tidy.numbered_snoc tells speech, tidy.usable_snoc tells speech, ?_⟩
  · rw [effectsOf_append, effectsOf_singleton]
    exact tidy.alone.append did.alone
  · intro entry' present number command outcome sent
    rcases List.mem_append.mp present with older | last
    · obtain ⟨path, text, selects, only, addresses⟩ :=
        tidy.addressed entry' older number command outcome sent
      exact ⟨path, text, selects, tidy.named_snoc tells speech only, addresses⟩
    · rw [List.mem_singleton.mp last] at sent ⊢
      rw [tells.1] at sent
      split at sent
      · next here => exact here ▸ tidy.addressed_last tells speech sent
      · cases sent

/-- What can be relied on after any calls. -/
theorem Chronicle.tidy (chronicle : Chronicle backend settings entries held) :
    Tidy backend entries held := by
  induction chronicle with
  | start => exact tidy_nil backend
  | did _ did ih => exact ih.did did

end Step

/-! ## Histories -/

section Histories

variable {ν κ : Type} (world : Network ν κ) (backend : Backend σ)

/-- Calls one after the other, if all of them return: what they return, and the manager then. -/
def performAll : Manager ν κ → List (Call σ) → Option (List (Answer σ) × Manager ν κ)
  | manager, [] => some ([], manager)
  | manager, call :: calls => do
    let (answer, manager) ← manager.perform world backend call
    let (answers, manager) ← performAll manager calls
    some (answer :: answers, manager)

/-- The same on a watched network, with what each call does to it. -/
def observeAll : Manager (Observed ν) (Nat × κ) → List (Call σ) →
    Option (List (Entry σ) × Manager (Observed ν) (Nat × κ))
  | manager, [] => some ([], manager)
  | manager, call :: calls => do
    let (answer, after) ← manager.perform (Observed.network world) backend call
    let (entries, last) ← observeAll after calls
    let effects := after.network.effects.drop manager.network.effects.length
    some (⟨call, answer, effects⟩ :: entries, last)

variable {world} {backend}

/-- Calls on a watched network return just when those on the network do, and continue any
chronicle. -/
theorem Chronicle.observeAll (world : Network ν κ) {settings : Settings} (calls : List (Call σ))
    {entries : List (Entry σ)} (manager : Manager (Observed ν) (Nat × κ))
    (chronicle : Chronicle backend settings entries manager.holding)
    (same : manager.settings = settings) (effects : manager.network.effects = effectsOf entries) :
    (performAll world backend manager.plain calls = none
        ∧ Manager.observeAll world backend manager calls = none)
      ∨ ∃ more last, Manager.observeAll world backend manager calls = some (more, last)
        ∧ performAll world backend manager.plain calls = some (more.map Entry.answer, last.plain)
        ∧ more.map Entry.call = calls
        ∧ Chronicle backend settings (entries ++ more) last.holding := by
  induction calls generalizing entries manager with
  | nil =>
    refine .inr ⟨[], manager, rfl, rfl, rfl, ?_⟩
    rw [List.append_nil]
    exact chronicle
  | cons call calls ih =>
    unfold performAll Manager.observeAll
    rcases exists_did world backend manager call with
      ⟨silent, silent'⟩ | ⟨answer, done, next, state, did, plain, observed⟩
    · rw [silent, silent']
      exact .inl ⟨rfl, rfl⟩
    rw [plain, observed]
    subst same
    rw [effects] at did
    have whole : (manager.network.after done state).effects
        = effectsOf (entries ++ [⟨call, answer, done⟩]) := by
      rw [effectsOf_append, effectsOf_singleton, Observed.after, effects]
    have added : (manager.network.after done state).effects.drop manager.network.effects.length
        = done := List.drop_left
    rcases ih ⟨manager.settings, next, manager.network.after done state⟩ (.did chronicle did) rfl
      whole with
      ⟨silent, silent'⟩ | ⟨more, last, observed, plain, asked, onward⟩
    · refine .inl ⟨?_, ?_⟩
      · exact congrArg (Option.bind · _) silent
      · exact congrArg (Option.bind · _) silent'
    · rw [List.append_assoc] at onward
      refine .inr ⟨⟨call, answer, done⟩ :: more, last, ?_, ?_, congrArg (call :: ·) asked, onward⟩
      · exact (congrArg (Option.bind · _) observed).trans
          (congrArg (fun effects => some ((⟨call, answer, effects⟩ : Entry σ) :: more, last)) added)
      · exact congrArg (Option.bind · _) plain

end Histories

/-- A network with one server, of which it is known what it will say on all connections. -/
def scripted : Network (List Incoming) Unit where
  probe script := (true, script)
  launch script := (.ok (), script)
  wait script := script
  connect script := (.ok (), script)
  line _ := {
    send _ script := (.ok (), script)
    receive
      | [] => (.error .closed, [])
      | incoming :: script => (incoming, script) }
  close _ script := script

end Manager
end DebugBridge
