import DebugBridge.Proofs.Json.Canonical
import DebugBridge.Proofs.Result
import DebugBridge.Json.Reader

/-!
# What a reader returns

Not every value can come out of a text: the numbers are those that a text can express, and
containers nest no deeper than the reader goes.

Results:
1. `of_items`, `of_members`: what the readers of the parts guarantee holds of a container.
2. `value_readable`: a value that has been read.
-/

namespace DebugBridge.Json.Read

/-! ## Containers -/

/-- What an item's reader guarantees holds of every item. -/
theorem of_items {α : Type} {item : Reader α} {property : α → Prop}
    (guarantee : ∀ text a rest, item text = .ok (a, rest) → property a) {steps : Nat}
    {first : Bool} {text rest : Octets} {list : List α}
    (read : items item steps first text = .ok (list, rest)) : ∀ a, a ∈ list → property a := by
  induction steps generalizing first text list with
  | zero => cases read
  | succ steps ih =>
    unfold items at read
    split at read
    · cases read
    split at read
    · cases read
      exact fun a present => absurd present List.not_mem_nil
    split at read
    · obtain ⟨⟨a, behind⟩, here, read⟩ := Result.bind_eq_ok.mp read
      obtain ⟨⟨later, behind'⟩, others, read⟩ := Result.bind_eq_ok.mp read
      cases read
      exact List.forall_mem_cons.mpr ⟨guarantee _ _ _ here, ih others⟩
    split at read
    · split at read
      · cases read
      split at read
      · cases read
      · obtain ⟨⟨a, behind⟩, here, read⟩ := Result.bind_eq_ok.mp read
        obtain ⟨⟨later, behind'⟩, others, read⟩ := Result.bind_eq_ok.mp read
        cases read
        exact List.forall_mem_cons.mpr ⟨guarantee _ _ _ here, ih others⟩
    · cases read

/-- What every member keeps up holds at the end. -/
theorem of_members {σ : Type} {member : σ → String → Reader σ} {invariant : σ → Prop}
    (step : ∀ state key text next rest, invariant state →
      member state key text = .ok (next, rest) → invariant next)
    {steps : Nat} {first : Bool} {state next : σ} {text rest : Octets} (start : invariant state)
    (read : members member steps first state text = .ok (next, rest)) : invariant next := by
  induction steps generalizing first state text with
  | zero => cases read
  | succ steps ih =>
    unfold members at read
    split at read
    · cases read
    split at read
    · cases read
      exact start
    split at read
    · split at read
      · obtain ⟨⟨key, behind⟩, -, read⟩ := Result.bind_eq_ok.mp read
        obtain ⟨⟨state', behind'⟩, here, read⟩ := Result.bind_eq_ok.mp read
        exact ih (step _ _ _ _ _ start here) read
      · cases read
    split at read
    · split at read
      · cases read
      split at read
      · obtain ⟨⟨key, behind⟩, -, read⟩ := Result.bind_eq_ok.mp read
        obtain ⟨⟨state', behind'⟩, here, read⟩ := Result.bind_eq_ok.mp read
        exact ih (step _ _ _ _ _ start here) read
      split at read
      · cases read
      · cases read
    · cases read

/-- What the reader of values guarantees holds of the values of all members. -/
theorem of_plainMember {reader : Reader Json} {property : Json → Prop}
    (guarantee : ∀ text v rest, reader text = .ok (v, rest) → property v)
    {before next : List (String × Json)} {key : String} {text rest : Octets}
    (start : ∀ member, member ∈ before → property member.2)
    (read : plainMember reader before key text = .ok (next, rest)) :
    ∀ member, member ∈ next → property member.2 := by
  obtain ⟨behind, -, read⟩ := Result.bind_eq_ok.mp read
  obtain ⟨⟨v, behind'⟩, one, read⟩ := Result.bind_eq_ok.mp read
  cases read
  intro member present
  rcases List.mem_cons.mp present with rfl | present
  · exact guarantee _ _ _ one
  · exact start member present

/-! ## Numbers -/

theorem finite_proper {x : Binary64} {rest rest' : Octets} {n : Number}
    (read : finite x rest = .ok (n, rest')) : n.isProper = true := by
  unfold finite at read
  split at read
  · next isFinite =>
    cases read
    exact isFinite
  · cases read

theorem exponent_proper {negative : Bool} {digits : Nat} {power : Int} {text rest : Octets}
    {n : Number} (read : exponent negative digits power text = .ok (n, rest)) :
    n.isProper = true := by
  unfold exponent at read
  split at read
  split at read
  · cases read
  split at read
  · split at read
    split at read
    · split at read
      · cases read
      · exact finite_proper read
    · exact finite_proper read
  · cases read

theorem fraction_proper {negative : Bool} {digits : Nat} {text rest : Octets} {n : Number}
    (read : fraction negative digits text = .ok (n, rest)) : n.isProper = true := by
  unfold fraction at read
  dsimp only at read
  split at read
  · cases read
  · cases read
  · exact finite_proper read
  split at read
  · exact exponent_proper read
  · exact finite_proper read

theorem whole_proper {negative : Bool} {value : Nat} {rest rest' : Octets} {n : Number}
    (read : whole negative value rest = .ok (n, rest')) : n.isProper = true := by
  unfold whole at read
  split at read
  · split at read
    · next range =>
      cases read
      have same : value.toUInt64.toNat = value := Nat.mod_eq_of_lt (by omega)
      simpa [Number.isProper, same] using range
    · exact finite_proper read
  split at read
  · cases read
    rfl
  · exact finite_proper read

theorem afterWhole_proper {negative : Bool} {value : Nat} {text rest : Octets} {n : Number}
    (read : afterWhole negative value text = .ok (n, rest)) : n.isProper = true := by
  unfold afterWhole at read
  split at read
  · exact whole_proper read
  split at read
  · exact fraction_proper read
  split at read
  · exact exponent_proper read
  · exact whole_proper read

theorem number_proper {negative : Bool} {text rest : Octets} {n : Number}
    (read : number negative text = .ok (n, rest)) : n.isProper = true := by
  unfold number at read
  split at read
  · cases read
  split at read
  · split at read
    · split at read
      · cases read
      · exact afterWhole_proper read
    · exact afterWhole_proper read
  split at read
  · exact afterWhole_proper read
  · cases read

/-! ## Values -/

/-- What holds of all values that a reader with this bound on the depth returns. -/
def Readable (bound : Nat) (value : Json) : Prop :=
  value.depth ≤ bound ∧ value.isProper = true

theorem readable_array {bound : Nat} {list : List Json}
    (parts : ∀ item, item ∈ list → Readable bound item) : Readable (bound + 1) (.array list) := by
  refine ⟨Nat.succ_le_succ (depthOfItems_le_iff.mpr fun item h => (parts item h).1), ?_⟩
  simp only [isProper, every, Bool.true_and, everyItem_iff]
  exact fun item h => (parts item h).2

theorem readable_object {bound : Nat} {list : List (String × Json)}
    (parts : ∀ member, member ∈ list → Readable bound member.2) :
    Readable (bound + 1) (.object list) := by
  refine ⟨Nat.succ_le_succ (depthOfMembers_le_iff.mpr fun member h => (parts member h).1), ?_⟩
  simp only [isProper, every, Bool.true_and, everyMember_iff]
  exact fun member h => (parts member h).2

theorem readable_canonical {bound : Nat} {value : Json} (readable : Readable bound value) :
    Readable bound value.canonical :=
  ⟨Nat.le_trans (depth_canonical_le value) readable.1,
    every_canonical (fun _ => rfl) (fun _ => rfl) readable.2⟩

/-- A value that has been read, given what is known of the parts of a container. -/
theorem valueWith_readable {nested : Option (Reader Json)} {bound : Nat}
    (parts : ∀ reader, nested = some reader → ∃ less, bound = less + 1
      ∧ ∀ text v rest, reader text = .ok (v, rest) → Readable less v)
    {text rest : Octets} {v : Json} (read : valueWith nested text = .ok (v, rest)) :
    Readable bound v := by
  have plain : ∀ {v : Json}, v.depth = 0 → v.isProper = true → Readable bound v :=
    fun flat proper => ⟨by omega, proper⟩
  unfold valueWith at read
  split at read
  · cases read
  split at read
  · obtain ⟨behind, -, read⟩ := Result.bind_eq_ok.mp read
    cases read
    exact plain rfl rfl
  split at read
  · obtain ⟨behind, -, read⟩ := Result.bind_eq_ok.mp read
    cases read
    exact plain rfl rfl
  split at read
  · obtain ⟨behind, -, read⟩ := Result.bind_eq_ok.mp read
    cases read
    exact plain rfl rfl
  split at read
  · obtain ⟨⟨n, behind⟩, one, read⟩ := Result.bind_eq_ok.mp read
    cases read
    exact plain rfl (number_proper one)
  split at read
  · obtain ⟨⟨n, behind⟩, one, read⟩ := Result.bind_eq_ok.mp read
    cases read
    exact plain rfl (number_proper one)
  split at read
  · obtain ⟨⟨s, behind⟩, -, read⟩ := Result.bind_eq_ok.mp read
    cases read
    exact plain rfl rfl
  split at read
  · split at read
    · cases read
    · next reader =>
      obtain ⟨less, rfl, guarantee⟩ := parts reader rfl
      obtain ⟨⟨list, behind⟩, all, read⟩ := Result.bind_eq_ok.mp read
      cases read
      exact readable_array (of_items guarantee all)
  split at read
  · split at read
    · cases read
    · next reader =>
      obtain ⟨less, rfl, guarantee⟩ := parts reader rfl
      obtain ⟨⟨reversed, behind⟩, all, read⟩ := Result.bind_eq_ok.mp read
      cases read
      have each := of_members (fun _ _ _ _ _ start => of_plainMember guarantee start)
        (fun _ h => absurd h List.not_mem_nil) all
      exact readable_object fun member h => each member (List.mem_reverse.mp h)
  · cases read

/-- Containers nest at most as deep as the reader goes, and numbers are proper. -/
theorem value_readable (bound : Nat) (text rest : Octets) (v : Json)
    (read : Read.value bound text = .ok (v, rest)) : Readable bound v := by
  induction bound generalizing text v rest with
  | zero => exact valueWith_readable (fun reader h => absurd h (by simp)) read
  | succ bound ih =>
    refine valueWith_readable (fun reader h => ⟨bound, rfl, ?_⟩) read
    cases h
    exact fun text v rest => ih text rest v

end DebugBridge.Json.Read
