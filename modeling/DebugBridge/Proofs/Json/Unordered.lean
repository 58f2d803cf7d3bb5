import DebugBridge.Json.Shape
import DebugBridge.Proofs.Result
import Mathlib.Data.List.Perm.Basic

/-!
# Members in any order

What is made of the members of an object depends on the members with the names it knows, and not on
their order or on other members. So a list of members counts up to a permutation, and members with
other names can be added at any place.

For a tag this is so because it has to be the only member with its name. A record looks its fields
up, and its check refuses a repeated one, so there is never a first of several to be found.

Results:
1. `splitTag_perm`: the tag of members in another order, among more members.
2. `Fields.ofBody_perm`: records of members in another order, among more members.
-/

namespace DebugBridge.Json

/-! ## Tags -/

section Tags

variable {ν : Type} {tag : String} {variant : Shape ν}

theorem splitTag_other {key : String} (other : key ≠ tag) (seen : Option ν) (value : Json)
    (rest : List (String × Json)) :
    splitTag tag variant seen ((key, value) :: rest)
      = (splitTag tag variant seen rest).map fun (v, others) => (v, (key, value) :: others) := by
  cases seen <;>
    · rw [splitTag, if_neg other]
      rfl

theorem filter_other {members : List (String × Json)}
    (none' : members.filter (·.1 == tag) = []) : members.filter (·.1 != tag) = members := by
  rw [List.filter_eq_nil_iff] at none'
  rw [List.filter_eq_self]
  intro member present
  simpa using none' member present

theorem splitTag_some_iff {seen v : ν} {members others : List (String × Json)} :
    splitTag tag variant (some seen) members = .ok (v, others)
      ↔ v = seen ∧ members.filter (·.1 == tag) = [] ∧ others = members := by
  induction members generalizing others with
  | nil =>
    constructor
    · intro split
      cases split
      exact ⟨rfl, rfl, rfl⟩
    · rintro ⟨rfl, -, rfl⟩
      rfl
  | cons member members ih =>
    obtain ⟨key, value⟩ := member
    rw [splitTag]
    split
    · next same => simp [same]
    · next other =>
      rw [List.filter_cons_of_neg (by simpa using other), Result.bind_eq_ok]
      constructor
      · rintro ⟨⟨v', others'⟩, split, done⟩
        cases done
        obtain ⟨rfl, none', rfl⟩ := ih.mp split
        exact ⟨rfl, none', rfl⟩
      · rintro ⟨rfl, none', rfl⟩
        exact ⟨(v, members), ih.mpr ⟨rfl, none', rfl⟩, rfl⟩

/-- The tag is the only member with its name, and all others are left. -/
theorem splitTag_eq_ok_iff {v : ν} {members others : List (String × Json)} :
    splitTag tag variant none members = .ok (v, others)
      ↔ ∃ value, variant value = .ok v ∧ members.filter (·.1 == tag) = [(tag, value)]
          ∧ others = members.filter (·.1 != tag) := by
  induction members generalizing others with
  | nil => simp [splitTag]
  | cons member members ih =>
    obtain ⟨key, value⟩ := member
    rw [splitTag]
    split
    · next same =>
      subst same
      rw [List.filter_cons_of_pos (by simp), List.filter_cons_of_neg (by simp), Result.bind_eq_ok]
      constructor
      · rintro ⟨v', known, split⟩
        obtain ⟨rfl, none', rfl⟩ := splitTag_some_iff.mp split
        exact ⟨value, known, by rw [none'], (filter_other none').symm⟩
      · rintro ⟨value', known, single, rfl⟩
        obtain ⟨same, none'⟩ := List.cons.inj single
        cases same
        exact ⟨v, known, splitTag_some_iff.mpr ⟨rfl, none', filter_other none'⟩⟩
    · next other =>
      rw [List.filter_cons_of_neg (by simpa using other),
        List.filter_cons_of_pos (by simpa using other), Result.bind_eq_ok]
      constructor
      · rintro ⟨⟨v', others'⟩, split, done⟩
        cases done
        obtain ⟨value', known, single, rfl⟩ := ih.mp split
        exact ⟨value', known, single, rfl⟩
      · rintro ⟨value', known, single, rfl⟩
        exact ⟨(v, _), ih.mpr ⟨value', known, single, rfl⟩, rfl⟩

/-- The tag is found in any order of the members and among any others. -/
theorem splitTag_perm {v : ν} {members others members' extra : List (String × Json)}
    (split : splitTag tag variant none members = .ok (v, others))
    (order : members'.Perm (members ++ extra)) (free : ∀ member, member ∈ extra → member.1 ≠ tag) :
    ∃ others', splitTag tag variant none members' = .ok (v, others')
      ∧ others'.Perm (others ++ extra) := by
  obtain ⟨value, known, single, rfl⟩ := splitTag_eq_ok_iff.mp split
  have noTag : extra.filter (·.1 == tag) = [] := by
    simpa [List.filter_eq_nil_iff] using free
  have allOther : extra.filter (·.1 != tag) = extra := by
    simpa [List.filter_eq_self] using free
  have tags := order.filter (·.1 == tag)
  rw [List.filter_append, noTag, single, List.append_nil] at tags
  have rest := order.filter (·.1 != tag)
  rw [List.filter_append, allOther] at rest
  exact ⟨_, splitTag_eq_ok_iff.mpr ⟨value, known, tags.eq_singleton, rfl⟩, rest⟩

end Tags

/-! ## Records -/

namespace Fields

section Check

variable {slots : List (String × (Json → Except ShapeFault Unit))}

/-- The members that are fields. -/
def known (slots : List (String × (Json → Except ShapeFault Unit)))
    (members : List (String × Json)) : List (String × Json) :=
  members.filter fun member => (slots.lookup member.1).isSome

/-- The check looks for repeated fields and at the value of each field. -/
theorem check_eq_ok_iff {before : List String} {members : List (String × Json)} :
    check slots before members = .ok ()
      ↔ ((known slots members).map Prod.fst).Nodup
        ∧ ∀ member, member ∈ known slots members → member.1 ∉ before
          ∧ ∀ test, slots.lookup member.1 = some test → test member.2 = .ok () := by
  induction members generalizing before with
  | nil => simp [check, known]
  | cons member members ih =>
    obtain ⟨name, value⟩ := member
    rw [check]
    cases found : slots.lookup name with
    | none =>
      have passed : known slots ((name, value) :: members) = known slots members :=
        List.filter_cons_of_neg (by simp [found])
      rw [passed]
      exact ih
    | some test =>
      have kept : known slots ((name, value) :: members) = (name, value) :: known slots members :=
        List.filter_cons_of_pos (by simp [found])
      rw [kept, List.map_cons, List.nodup_cons, List.forall_mem_cons]
      dsimp only
      split
      · next seen =>
        constructor
        · intro passed
          cases passed
        · rintro ⟨-, ⟨unseen, -⟩, -⟩
          exact absurd seen unseen
      next unseen =>
      rw [Result.bind_eq_ok]
      constructor
      · rintro ⟨_, passed, later⟩
        obtain ⟨distinct, each⟩ := ih.mp later
        refine ⟨⟨fun again => ?_, distinct⟩, ⟨unseen, fun test' same => ?_⟩, fun member h => ?_⟩
        · obtain ⟨member, inside, same⟩ := List.mem_map.mp again
          exact (each member inside).1 (same ▸ List.mem_cons_self)
        · cases found.symm.trans same
          exact passed
        · exact ⟨fun h' => (each member h).1 (List.mem_cons_of_mem name h'), (each member h).2⟩
      · rintro ⟨⟨single, distinct⟩, ⟨-, passed⟩, each⟩
        refine ⟨(), passed test found, ih.mpr ⟨distinct, fun member h => ⟨fun again => ?_, ?_⟩⟩⟩
        · rcases List.mem_cons.mp again with same | h'
          · exact single (List.mem_map.mpr ⟨member, h, same⟩)
          · exact (each member h).1 h'
        · exact (each member h).2

theorem known_append {members extra : List (String × Json)}
    (free : ∀ member, member ∈ extra → member.1 ∉ slots.map Prod.fst) :
    known slots (members ++ extra) = known slots members := by
  have nothing : known slots extra = [] := by
    refine List.filter_eq_nil_iff.mpr fun member present => ?_
    have unknown : slots.lookup member.1 = none := by
      refine List.lookup_eq_none_iff.mpr fun slot inside => ?_
      rw [bne_iff_ne]
      exact fun same => free member present (List.mem_map.mpr ⟨slot, inside, same.symm⟩)
    simp [unknown]
  rw [known, List.filter_append, ← known, ← known, nothing, List.append_nil]

theorem check_perm {members members' : List (String × Json)}
    (checked : check slots [] members = .ok ())
    (order : (known slots members').Perm (known slots members)) :
    check slots [] members' = .ok () := by
  obtain ⟨distinct, each⟩ := check_eq_ok_iff.mp checked
  exact check_eq_ok_iff.mpr ⟨(order.map Prod.fst).nodup_iff.mpr distinct,
    fun member present => each member (order.mem_iff.mp present)⟩

theorem mem_of_lookup {γ : Type} {members : List (String × γ)} {name : String} {value : γ}
    (found : members.lookup name = some value) : (name, value) ∈ members := by
  obtain ⟨before, later, rfl, -⟩ := List.lookup_eq_some_iff.mp found
  exact List.mem_append_right _ List.mem_cons_self

/-- A field is looked up among the known members. -/
theorem lookup_known {name : String} (isField : (slots.lookup name).isSome = true)
    (members : List (String × Json)) :
    members.lookup name = (known slots members).lookup name := by
  induction members with
  | nil => rfl
  | cons member members ih =>
    obtain ⟨key, value⟩ := member
    rw [List.lookup_cons, ih]
    cases isKnown : (slots.lookup key).isSome with
    | true =>
      have kept : known slots ((key, value) :: members) = (key, value) :: known slots members :=
        List.filter_cons_of_pos (by simp [isKnown])
      rw [kept, List.lookup_cons]
    | false =>
      have passed : known slots ((key, value) :: members) = known slots members :=
        List.filter_cons_of_neg (by simp [isKnown])
      have other : (name == key) = false := by
        by_contra same
        have same' : name = key := by simpa using same
        rw [same', isKnown] at isField
        cases isField
      rw [passed, other]

/-- Without repetitions, a member is found wherever it stands. -/
theorem lookup_eq_some_iff_mem {members : List (String × Json)}
    (distinct : (members.map Prod.fst).Nodup) {name : String} {value : Json} :
    members.lookup name = some value ↔ (name, value) ∈ members := by
  induction members with
  | nil => simp
  | cons member members ih =>
    obtain ⟨key, value'⟩ := member
    obtain ⟨single, distinct⟩ := List.nodup_cons.mp distinct
    rw [List.lookup_cons, List.mem_cons]
    by_cases same : name = key
    · subst same
      have here : (name, value) ∉ members := fun present =>
        single (List.mem_map.mpr ⟨_, present, rfl⟩)
      simp [here, eq_comm]
    · have other : (name == key) = false := by simpa using same
      simp [other, ih distinct, same]

theorem lookup_perm {members members' : List (String × Json)}
    (checked : check slots [] members = .ok ())
    (order : (known slots members').Perm (known slots members)) {name : String}
    (isField : (slots.lookup name).isSome = true) : members'.lookup name = members.lookup name := by
  have distinct := (check_eq_ok_iff.mp checked).1
  have distinct' := (order.map Prod.fst).nodup_iff.mpr distinct
  rw [lookup_known isField members, lookup_known isField members']
  ext value
  rw [lookup_eq_some_iff_mem distinct, lookup_eq_some_iff_mem distinct', order.mem_iff]

end Check

/-! ### Records that only look at their fields -/

variable {α β : Type}

/-- The record depends on its fields only. -/
def Local (fields : Fields α) : Prop :=
  ∀ members members', (∀ name, (fields.slots.lookup name).isSome = true →
    members'.lookup name = members.lookup name) →
    fields.fromMembers members' = fields.fromMembers members

theorem local_field {name : String} {shape : Shape α} {absent cut : Option α} :
    (field name shape absent cut).Local := by
  intro members members' same
  have here := same name (by simp [field])
  simp only [field, here]

theorem local_map {fields : Fields α} (isLocal : fields.Local) (f : α → β) :
    (f <$> fields).Local :=
  fun members members' same => congrArg (Except.map f) (isLocal members members' same)

theorem local_seq {first : Fields (α → β)} {second : Fields α} (isLocal : first.Local)
    (isLocal' : second.Local) : (first <*> second).Local := by
  intro members members' same
  have both : (first <*> second).slots = first.slots ++ second.slots := rfl
  have left : first.fromMembers members' = first.fromMembers members := by
    refine isLocal members members' fun name isField => same name ?_
    rw [both, List.lookup_append, Option.isSome_or, isField, Bool.true_or]
  have right : second.fromMembers members' = second.fromMembers members := by
    refine isLocal' members members' fun name isField => same name ?_
    rw [both, List.lookup_append, Option.isSome_or, isField, Bool.or_true]
  show (first.fromMembers members' >>= _) = (first.fromMembers members >>= _)
  rw [left, right]

/-- A record is made of its members in any order and among any others. -/
theorem ofBody_perm {fields : Fields α} (isLocal : fields.Local) {name : String}
    {members members' extra : List (String × Json)} {a : α}
    (made : fields.ofBody name (.members members) = .ok a)
    (order : members'.Perm (members ++ extra))
    (free : ∀ member, member ∈ extra → member.1 ∉ fields.slots.map Prod.fst) :
    fields.ofBody name (.members members') = .ok a := by
  obtain ⟨_, checked, made⟩ := Result.bind_eq_ok.mp made
  have order' : (known fields.slots members').Perm (known fields.slots members) := by
    have both := order.filter fun member => (fields.slots.lookup member.1).isSome
    rwa [← known, ← known, known_append free] at both
  refine Result.bind_eq_ok.mpr ⟨(), check_perm checked order', ?_⟩
  rw [isLocal members members' fun name isField => lookup_perm checked order' isField]
  exact made

end Fields

end DebugBridge.Json
