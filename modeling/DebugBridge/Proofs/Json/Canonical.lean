import DebugBridge.Json.Basic

/-!
# The canonical form of a value

A result of a command is kept with its members sorted by key and without a repeated key. This module
says what that form is, independently of how it is reached, and what becomes of a value on the way.

Results:
1. `canonical_eq_self`: a value in that form is its own canonical form.
2. `isSorted_canonical`: every canonical form is in that form.
3. `every_canonical`: what holds of every leaf of a value still does in its canonical form, and
   `depth_canonical_le`: containers nest no deeper in it.
-/

namespace DebugBridge.Json

/-! ## Values inside of values -/

mutual
/-- Whether a test holds of a value and of every value inside of it. -/
def every (test : Json → Bool) : Json → Bool
  | .array items => test (.array items) && everyItem test items
  | .object members => test (.object members) && everyMember test members
  | value => test value

def everyItem (test : Json → Bool) : List Json → Bool
  | [] => true
  | item :: rest => every test item && everyItem test rest

def everyMember (test : Json → Bool) : List (String × Json) → Bool
  | [] => true
  | (_, value) :: rest => every test value && everyMember test rest
end

mutual
/-- How deep containers nest: a value that is none has depth zero. -/
def depth : Json → Nat
  | .array items => depthOfItems items + 1
  | .object members => depthOfMembers members + 1
  | _ => 0

def depthOfItems : List Json → Nat
  | [] => 0
  | item :: rest => max (depth item) (depthOfItems rest)

def depthOfMembers : List (String × Json) → Nat
  | [] => 0
  | (_, value) :: rest => max (depth value) (depthOfMembers rest)
end

/-- The magnitudes that the form of a number leaves room for, and a double that is finite. -/
def Number.isProper : Number → Bool
  | .natural _ => true
  | .negative magnitude => 0 < magnitude.toNat && magnitude.toNat ≤ 0x8000000000000000
  | .binary x => x.isFinite

/-- Whether all numbers in a value are what their form says. -/
def isProper : Json → Bool :=
  every fun
    | .number n => n.isProper
    | _ => true

/-- Whether all numbers in a value are whole. -/
def isWhole : Json → Bool :=
  every fun
    | .number (.binary _) => false
    | _ => true

/-- Whether the keys of every object in a value increase. -/
def isSorted : Json → Bool :=
  every fun
    | .object members => decide (members.Pairwise fun a b => a.1 < b.1)
    | _ => true

/-- Induction on a value, given the statement for everything inside of a container. -/
theorem induct {motive : Json → Prop} (null : motive .null) (bool : ∀ b, motive (.bool b))
    (number : ∀ n, motive (.number n)) (string : ∀ s, motive (.string s))
    (array : ∀ items, (∀ item, item ∈ items → motive item) → motive (.array items))
    (object : ∀ members, (∀ member, member ∈ members → motive member.2) →
      motive (.object members)) (value : Json) : motive value :=
  @Json.rec motive (fun items => ∀ item, item ∈ items → motive item)
    (fun members => ∀ member, member ∈ members → motive member.2) (fun member => motive member.2)
    null bool number string array object (by simp)
    (fun _ _ first later => by simpa using ⟨first, later⟩) (by simp)
    (fun _ _ first later => by simpa using ⟨first, fun a b => later (a, b)⟩)
    (fun _ _ inside => inside) value

theorem everyItem_iff {test : Json → Bool} {items : List Json} :
    everyItem test items = true ↔ ∀ item, item ∈ items → every test item = true := by
  induction items with
  | nil => simp [everyItem]
  | cons item rest ih => simp [everyItem, ih]

theorem everyMember_iff {test : Json → Bool} {members : List (String × Json)} :
    everyMember test members = true
      ↔ ∀ member, member ∈ members → every test member.2 = true := by
  induction members with
  | nil => simp [everyMember]
  | cons member rest ih => simp [everyMember, ih]

theorem depthOfItems_le_iff {items : List Json} {bound : Nat} :
    depthOfItems items ≤ bound ↔ ∀ item, item ∈ items → depth item ≤ bound := by
  induction items with
  | nil => simp [depthOfItems]
  | cons item rest ih => rw [depthOfItems, Nat.max_le, ih, List.forall_mem_cons]

theorem depthOfMembers_le_iff {members : List (String × Json)} {bound : Nat} :
    depthOfMembers members ≤ bound ↔ ∀ member, member ∈ members → depth member.2 ≤ bound := by
  induction members with
  | nil => simp [depthOfMembers]
  | cons member rest ih => rw [depthOfMembers, Nat.max_le, ih, List.forall_mem_cons]

/-! ## Sorting members -/

/-- The keys of members increase. -/
abbrev Increasing (members : List (String × Json)) : Prop :=
  members.Pairwise fun a b => a.1 < b.1

theorem lt_of_not_lt {first second : String} (different : first ≠ second)
    (notLess : ¬ first < second) : second < first :=
  Decidable.byContradiction fun notGreater =>
    different (String.le_antisymm (String.not_lt.mp notGreater) (String.not_lt.mp notLess))

theorem mem_insertMember {key : String} {value : Json} {members : List (String × Json)}
    {member : String × Json} (present : member ∈ insertMember key value members) :
    member = (key, value) ∨ member ∈ members := by
  induction members with
  | nil => exact .inl (List.mem_singleton.mp present)
  | cons first rest ih =>
    obtain ⟨k, v⟩ := first
    unfold insertMember at present
    split at present
    · rcases List.mem_cons.mp present with same | later
      · exact .inl same
      · exact .inr (List.mem_cons_of_mem _ later)
    split at present
    · exact List.mem_cons.mp present
    · rcases List.mem_cons.mp present with same | later
      · exact .inr (same ▸ List.mem_cons_self)
      · exact (ih later).imp_right (List.mem_cons_of_mem _)

theorem increasing_insertMember (key : String) (value : Json) {members : List (String × Json)}
    (sorted : Increasing members) : Increasing (insertMember key value members) := by
  induction members with
  | nil => exact List.pairwise_singleton _ _
  | cons first rest ih =>
    obtain ⟨k, v⟩ := first
    obtain ⟨least, tail⟩ := List.pairwise_cons.mp sorted
    unfold insertMember
    split
    · next same =>
      subst same
      exact List.pairwise_cons.mpr ⟨least, tail⟩
    split
    · next less =>
      refine List.pairwise_cons.mpr ⟨fun member h => ?_, sorted⟩
      rcases List.mem_cons.mp h with same | later
      · exact same ▸ less
      · exact String.lt_trans less (least member later)
    · next different notLess =>
      refine List.pairwise_cons.mpr ⟨fun member h => ?_, ih tail⟩
      rcases mem_insertMember h with same | later
      · exact same ▸ lt_of_not_lt different notLess
      · exact least member later

/-- A key above all others goes to the end. -/
theorem insertMember_eq_append {key : String} {value : Json} {members : List (String × Json)}
    (greatest : ∀ member, member ∈ members → member.1 < key) :
    insertMember key value members = members ++ [(key, value)] := by
  induction members with
  | nil => rfl
  | cons first rest ih =>
    obtain ⟨k, v⟩ := first
    have less : k < key := greatest (k, v) List.mem_cons_self
    have different : key ≠ k := fun same => String.lt_irrefl k (same ▸ less)
    rw [insertMember, if_neg different, if_neg (String.lt_asymm less),
      ih fun member h => greatest member (List.mem_cons_of_mem _ h), List.cons_append]

theorem increasing_foldl {members sorted : List (String × Json)} (h : Increasing sorted) :
    Increasing (members.foldl (fun sorted member => insertMember member.1 member.2 sorted)
      sorted) := by
  induction members generalizing sorted with
  | nil => exact h
  | cons member rest ih => exact ih (increasing_insertMember member.1 member.2 h)

theorem mem_foldl {members sorted : List (String × Json)} {member : String × Json}
    (present : member ∈ members.foldl (fun sorted member => insertMember member.1 member.2 sorted)
      sorted) : member ∈ members ∨ member ∈ sorted := by
  induction members generalizing sorted with
  | nil => exact .inr present
  | cons first rest ih =>
    rcases ih present with later | before
    · exact .inl (List.mem_cons_of_mem _ later)
    · rcases mem_insertMember before with same | before
      · exact .inl (same ▸ List.mem_cons_self)
      · exact .inr before

theorem foldl_eq_append {members sorted : List (String × Json)}
    (h : Increasing (sorted ++ members)) :
    members.foldl (fun sorted member => insertMember member.1 member.2 sorted) sorted
      = sorted ++ members := by
  induction members generalizing sorted with
  | nil => simp
  | cons member rest ih =>
    -- What has been inserted lies below all that is left, so the next one goes to the end.
    obtain ⟨-, -, below⟩ := List.pairwise_append.mp h
    have last : insertMember member.1 member.2 sorted = sorted ++ [member] :=
      insertMember_eq_append fun other present => below other present member List.mem_cons_self
    rw [List.foldl_cons, last, ih (by simpa using h), List.append_assoc]
    rfl

theorem increasing_sortMembers (members : List (String × Json)) :
    Increasing (sortMembers members) :=
  increasing_foldl List.Pairwise.nil

theorem mem_of_mem_sortMembers {members : List (String × Json)} {member : String × Json}
    (present : member ∈ sortMembers members) : member ∈ members := by
  simpa using mem_foldl present

theorem sortMembers_eq_self {members : List (String × Json)} (sorted : Increasing members) :
    sortMembers members = members :=
  foldl_eq_append (by simpa using sorted)

/-! ## The canonical form -/

theorem canonicalItems_eq_map (items : List Json) : canonicalItems items = items.map canonical := by
  induction items with
  | nil => rfl
  | cons item rest ih => rw [canonicalItems, ih, List.map_cons]

theorem canonicalMembers_eq_map (members : List (String × Json)) :
    canonicalMembers members = members.map fun member => (member.1, member.2.canonical) := by
  induction members with
  | nil => rfl
  | cons member rest ih => rw [canonicalMembers, ih, List.map_cons]

/-- What stands in the canonical form of an object stood in the object. -/
theorem exists_of_mem_canonical {members : List (String × Json)} {member : String × Json}
    (present : member ∈ sortMembers (canonicalMembers members)) :
    ∃ before, before ∈ members ∧ member.2 = before.2.canonical := by
  have before := mem_of_mem_sortMembers present
  rw [canonicalMembers_eq_map] at before
  obtain ⟨old, h, rfl⟩ := List.mem_map.mp before
  exact ⟨old, h, rfl⟩

/-- A value with sorted members is its own canonical form. -/
theorem canonical_eq_self {value : Json} (sorted : value.isSorted = true) :
    value.canonical = value := by
  induction value using induct with
  | null => rfl
  | bool b => rfl
  | number n => rfl
  | string s => rfl
  | array items ih =>
    simp only [isSorted, every, Bool.and_eq_true, everyItem_iff] at sorted
    rw [canonical, canonicalItems_eq_map]
    congr 1
    exact (List.map_congr_left fun item h => ih item h (sorted.2 item h)).trans (List.map_id _)
  | object members ih =>
    simp only [isSorted, every, Bool.and_eq_true, decide_eq_true_eq, everyMember_iff] at sorted
    have same : canonicalMembers members = members := by
      rw [canonicalMembers_eq_map]
      refine (List.map_congr_left fun member h => ?_).trans (List.map_id _)
      rw [ih member h (sorted.2 member h)]
      rfl
    rw [canonical, same, sortMembers_eq_self sorted.1]

/-- The canonical form of a value has its members sorted. -/
theorem isSorted_canonical (value : Json) : value.canonical.isSorted = true := by
  induction value using induct with
  | null => rfl
  | bool b => rfl
  | number n => rfl
  | string s => rfl
  | array items ih =>
    simp only [canonical, canonicalItems_eq_map, isSorted, every, Bool.true_and, everyItem_iff,
      List.mem_map]
    rintro _ ⟨item, h, rfl⟩
    exact ih item h
  | object members ih =>
    simp only [canonical, isSorted, every, Bool.and_eq_true, decide_eq_true_eq, everyMember_iff]
    refine ⟨increasing_sortMembers _, fun member h => ?_⟩
    obtain ⟨before, present, same⟩ := exists_of_mem_canonical h
    rw [same]
    exact ih before present

/-- A test that lets every container pass and holds in a value also holds in its canonical form. -/
theorem every_canonical {test : Json → Bool} (arrays : ∀ items, test (.array items) = true)
    (objects : ∀ members, test (.object members) = true) {value : Json}
    (h : value.every test = true) : value.canonical.every test = true := by
  induction value using induct with
  | null => exact h
  | bool b => exact h
  | number n => exact h
  | string s => exact h
  | array items ih =>
    simp only [every, Bool.and_eq_true, everyItem_iff] at h
    simp only [canonical, canonicalItems_eq_map, every, arrays, Bool.true_and, everyItem_iff,
      List.mem_map]
    rintro _ ⟨item, present, rfl⟩
    exact ih item present (h.2 item present)
  | object members ih =>
    simp only [every, Bool.and_eq_true, everyMember_iff] at h
    simp only [canonical, every, objects, Bool.true_and, everyMember_iff]
    intro member present
    obtain ⟨before, present, same⟩ := exists_of_mem_canonical present
    rw [same]
    exact ih before present (h.2 before present)

theorem depth_canonical_le (value : Json) : value.canonical.depth ≤ value.depth := by
  induction value using induct with
  | null => exact Nat.le_refl _
  | bool b => exact Nat.le_refl _
  | number n => exact Nat.le_refl _
  | string s => exact Nat.le_refl _
  | array items ih =>
    simp only [canonical, canonicalItems_eq_map, depth, Nat.add_le_add_iff_right,
      depthOfItems_le_iff, List.mem_map]
    rintro _ ⟨item, present, rfl⟩
    exact Nat.le_trans (ih item present) (depthOfItems_le_iff.mp (Nat.le_refl _) item present)
  | object members ih =>
    simp only [canonical, depth, Nat.add_le_add_iff_right, depthOfMembers_le_iff]
    intro member present
    obtain ⟨before, present, same⟩ := exists_of_mem_canonical present
    rw [same]
    exact Nat.le_trans (ih before present)
      (depthOfMembers_le_iff.mp (Nat.le_refl _) before present)

end DebugBridge.Json
