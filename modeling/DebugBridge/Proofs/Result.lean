import Mathlib.Data.List.Forall2

/-!
# Results that may be failures

How a chain of steps comes out when its first step is known, and what is known of the steps when the
chain has come out well.
-/

namespace DebugBridge.Result

variable {ε α β : Type}

@[simp]
theorem ok_bind (a : α) (next : α → Except ε β) : (Except.ok a >>= next) = next a := rfl

@[simp]
theorem error_bind (e : ε) (next : α → Except ε β) :
    ((Except.error e : Except ε α) >>= next) = .error e := rfl

/-- A chain comes out well when both of its steps do. -/
theorem bind_eq_ok {x : Except ε α} {next : α → Except ε β} {b : β} :
    (x >>= next) = .ok b ↔ ∃ a, x = .ok a ∧ next a = .ok b := by
  cases x <;> simp

/-- Whether the second step comes out well may not depend on what the first one gives. -/
theorem bind_isOk_iff {x : Except ε α} {next : α → Except ε β} {second : Prop}
    (next_isOk : ∀ a, (∃ b, next a = .ok b) ↔ second) :
    (∃ b, (x >>= next) = .ok b) ↔ (∃ a, x = .ok a) ∧ second := by
  cases x with
  | error e => simp
  | ok a => simp [next_isOk]

theorem bind_pure_isOk_iff {x : Except ε α} {make : α → β} :
    (∃ b, (x >>= fun a => pure (make a)) = .ok b) ↔ ∃ a, x = .ok a := by
  cases x <;> simp [pure, Except.pure]

@[simp]
theorem map_ok (f : α → β) (a : α) : (Except.ok a : Except ε α).map f = .ok (f a) := rfl

theorem map_eq_ok {f : α → β} {x : Except ε α} {b : β} :
    x.map f = .ok b ↔ ∃ a, x = .ok a ∧ f a = b := by
  cases x <;> simp [Except.map]

theorem eq_ok_of_toOption {x : Except ε α} {a : α} (h : x.toOption = some a) : x = .ok a := by
  cases x with
  | ok b => exact congrArg Except.ok (Option.some.inj h)
  | error e => cases h

/-- Steps on the items of a list come out well when each of them does. -/
theorem mapM_isOk_iff {step : α → Except ε β} {list : List α} :
    (∃ results, list.mapM step = .ok results) ↔ ∀ a ∈ list, ∃ b, step a = .ok b := by
  induction list with
  | nil => exact ⟨fun _ => nofun, fun _ => ⟨[], rfl⟩⟩
  | cons a list ih =>
    rw [List.mapM_cons, List.forall_mem_cons, ← ih]
    constructor
    · rintro ⟨results, done⟩
      obtain ⟨b, first, done⟩ := bind_eq_ok.mp done
      obtain ⟨results, later, done⟩ := bind_eq_ok.mp done
      exact ⟨⟨b, first⟩, ⟨results, later⟩⟩
    · rintro ⟨⟨b, first⟩, ⟨results, later⟩⟩
      rw [first, later]
      exact ⟨b :: results, rfl⟩

/-- Steps on the items of a list come out well with what each of them gives. -/
theorem mapM_eq_ok_iff {step : α → Except ε β} {list : List α} {results : List β} :
    list.mapM step = .ok results ↔ List.Forall₂ (fun a b => step a = .ok b) list results := by
  induction list generalizing results with
  | nil =>
    constructor
    · intro done
      cases done
      exact .nil
    · intro each
      cases each
      rfl
  | cons a list ih =>
    rw [List.mapM_cons]
    constructor
    · intro done
      obtain ⟨b, first, done⟩ := bind_eq_ok.mp done
      obtain ⟨results, later, done⟩ := bind_eq_ok.mp done
      cases done
      exact .cons first (ih.mp later)
    · intro each
      cases each with
      | cons first later =>
        rw [first, ih.mpr later]
        rfl

/-- Reading a list that was written item by item. -/
theorem mapM_map {write : α → β} {read : β → Except ε α} {list : List α}
    (reads : ∀ a, a ∈ list → read (write a) = .ok a) : (list.map write).mapM read = .ok list := by
  induction list with
  | nil => rfl
  | cons a list ih =>
    have first := reads a List.mem_cons_self
    have later := ih fun a' h => reads a' (List.mem_cons_of_mem a h)
    rw [List.map_cons, List.mapM_cons, first, later]
    rfl

end DebugBridge.Result
