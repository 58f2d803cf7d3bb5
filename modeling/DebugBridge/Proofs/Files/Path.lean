import DebugBridge.Files.Path
import DebugBridge.Proofs.Text.Lossy

/-!
# The text of a path

A path that is given by its text is another one if its octets are no text. What replaces an octet is
never a slash or a dot, so such a path has the same segments all the same, and only the names in it
are changed.

Results:
1. `isText_iff`, `IsText.spelt`: a path is text when its octets are well formed, and then its text
   names it.
2. `components_spelt`: the components of the path that the text names, one by one.
3. `same_spelt`: the texts of the same path name the same path.
-/

namespace DebugBridge.Path

open Utf8 (encode decodeLossy)

@[simp]
theorem text_ofText (text : String) : (ofText text).text = text := by
  rw [Path.text, ofText, Utf8.decodeLossy_encode, String.ofList_toList]

theorem spelt_ofText (text : String) : (ofText text).spelt = ofText text := by
  rw [spelt, text_ofText]

/-- The octets of a path are text. -/
def IsText (path : Path) : Prop :=
  ∃ text, path = ofText text

theorem isText_iff {path : Path} :
    path.IsText ↔ ∃ chars, Utf8.decode? path.octets = some chars := by
  constructor
  · rintro ⟨text, rfl⟩
    exact ⟨text.toList, Utf8.decode?_encode _⟩
  · rintro ⟨chars, is⟩
    refine ⟨.ofList chars, ?_⟩
    rw [ofText, String.toList_ofList, ← Utf8.decode?_eq_some_iff.mp is]

theorem IsText.spelt {path : Path} (is : path.IsText) : path.spelt = path := by
  obtain ⟨text, rfl⟩ := is
  exact spelt_ofText text

theorem same_self (path : Path) : same path path = true :=
  beq_self_eq_true _

/-! ## Segments -/

/-- The octets of the text for some octets. -/
def repaired (octets : List UInt8) : List UInt8 := encode (decodeLossy octets)

theorem octets_spelt (path : Path) : path.spelt.octets = repaired path.octets := by
  rw [spelt, ofText, Path.text, String.toList_ofList]
  rfl

theorem segments_ne_nil (octets : List UInt8) : segments octets ≠ [] := by
  cases octets with
  | nil => exact nofun
  | cons o rest =>
    rw [segments]
    split
    · exact nofun
    · split <;> exact nofun

theorem segments_cons {o : UInt8} (other : o ≠ 0x2F) {octets segment : List UInt8}
    {later : List (List UInt8)} (is : segments octets = segment :: later) :
    segments (o :: octets) = (o :: segment) :: later := by
  rw [segments, if_neg other, is]

/-- Octets without a slash are one segment. -/
theorem segments_eq_singleton {octets : List UInt8} (none : 0x2F ∉ octets) :
    segments octets = [octets] := by
  induction octets with
  | nil => rfl
  | cons o octets ih =>
    have other : o ≠ 0x2F := fun is => none (is ▸ List.mem_cons_self)
    exact segments_cons other (ih fun later => none (.tail _ later))

theorem segments_cut (before after : List UInt8) :
    segments (before ++ 0x2F :: after) = segments before ++ segments after := by
  induction before with
  | nil => rfl
  | cons o before ih =>
    by_cases slash : o = 0x2F
    · rw [List.cons_append, segments, if_pos slash, ih, segments, if_pos slash]
      rfl
    · obtain ⟨segment, later, is⟩ := List.exists_cons_of_ne_nil (segments_ne_nil before)
      rw [is] at ih
      rw [List.cons_append, segments_cons slash ih, segments_cons slash is]
      rfl

theorem repaired_cut (before after : List UInt8) :
    repaired (before ++ 0x2F :: after) = repaired before ++ 0x2F :: repaired after := by
  rw [repaired, Utf8.decodeLossy_cut (by decide), Utf8.encode_append, Utf8.encode_cons]
  rfl

theorem slash_mem_of_repaired {octets : List UInt8} (present : 0x2F ∈ repaired octets) :
    0x2F ∈ octets := by
  obtain ⟨c, read, part⟩ := List.mem_flatMap.mp present
  by_cases real : c = '\uFFFD'
  · have outside : (0x2F : UInt8) ∉ Utf8.encodeChar '\uFFFD' := by decide
    exact absurd (real ▸ part) outside
  · exact Utf8.mem_of_mem_decodeLossy real read part

theorem segments_repaired (octets : List UInt8) :
    segments (repaired octets) = (segments octets).map repaired := by
  -- from one slash to the next
  by_cases slash : 0x2F ∈ octets
  · obtain ⟨before, after, whole⟩ := List.append_of_mem slash
    rw [whole, repaired_cut, segments_cut, segments_cut, List.map_append, segments_repaired before,
      segments_repaired after]
  · rw [segments_eq_singleton slash,
      segments_eq_singleton fun present => slash (slash_mem_of_repaired present)]
    rfl
termination_by octets.length
decreasing_by
  · simp [whole]
  · simp [whole]; omega

/-- Text that could be read as it stands is not told apart from what repairs to it. -/
theorem repaired_eq_iff {octets : List UInt8} (chars : List Char) (whole : '\uFFFD' ∉ chars) :
    repaired octets = encode chars ↔ octets = encode chars := by
  constructor
  · intro is
    have read := congrArg decodeLossy is
    rw [repaired, Utf8.decodeLossy_encode, Utf8.decodeLossy_encode] at read
    exact Utf8.eq_encode_of_decodeLossy read whole
  · rintro rfl
    rw [repaired, Utf8.decodeLossy_encode]

theorem repaired_eq_nil {octets : List UInt8} : repaired octets = [] ↔ octets = [] :=
  repaired_eq_iff [] (by decide)

theorem repaired_eq_dot {octets : List UInt8} : repaired octets = dot ↔ octets = dot :=
  repaired_eq_iff ['.'] (by decide)

theorem repaired_eq_dots {octets : List UInt8} : repaired octets = dots ↔ octets = dots :=
  repaired_eq_iff ['.', '.'] (by decide)

/-! ## Components -/

/-- A component in the path that the text names. -/
def Component.spelt : Component → Component
  | .name octets => .name (repaired octets)
  | component => component

theorem ofSegment?_repaired (segment : List UInt8) :
    Component.ofSegment? (repaired segment)
      = (Component.ofSegment? segment).map Component.spelt := by
  simp only [Component.ofSegment?, repaired_eq_nil, repaired_eq_dot, repaired_eq_dots]
  split
  · rfl
  · split <;> rfl

theorem ofFirst?_repaired (absolute : Bool) (segment : List UInt8) :
    Component.ofFirst? absolute (repaired segment)
      = (Component.ofFirst? absolute segment).map Component.spelt := by
  simp only [Component.ofFirst?, repaired_eq_dot, ofSegment?_repaired]
  split
  · rfl
  · split <;> rfl

/-- A path begins at the root when an empty segment stands before others. -/
theorem isAbsolute_iff (path : Path) :
    path.isAbsolute = true ↔ ∃ later, later ≠ [] ∧ segments path.octets = [] :: later := by
  obtain ⟨octets⟩ := path
  cases octets with
  | nil => simp [isAbsolute, segments]
  | cons o octets =>
    by_cases slash : o = 0x2F
    · subst slash
      exact ⟨fun _ => ⟨_, segments_ne_nil octets, rfl⟩, fun _ => rfl⟩
    · obtain ⟨segment, later, is⟩ := List.exists_cons_of_ne_nil (segments_ne_nil octets)
      rw [segments_cons slash is]
      simp [isAbsolute, slash]

theorem isAbsolute_spelt (path : Path) : path.spelt.isAbsolute = path.isAbsolute := by
  rw [Bool.eq_iff_iff, isAbsolute_iff, isAbsolute_iff, octets_spelt, segments_repaired]
  cases segments path.octets with
  | nil => simp
  | cons first later => simp [repaired_eq_nil]

theorem components_spelt (path : Path) :
    path.spelt.components = path.components.map Component.spelt := by
  unfold components
  rw [isAbsolute_spelt, octets_spelt, segments_repaired]
  cases segments path.octets with
  | nil => rfl
  | cons first later =>
    simp only [List.map_cons, List.map_append, ofFirst?_repaired, List.filterMap_map,
      List.map_filterMap, Function.comp_def, ofSegment?_repaired]
    cases Component.ofFirst? path.isAbsolute first <;> rfl

/-- The texts of the same path name the same path. -/
theorem same_spelt {left right : Path} (alike : same left right = true) :
    same left.spelt right.spelt = true := by
  rw [same, beq_iff_eq] at alike ⊢
  rw [components_spelt, components_spelt, alike]

end DebugBridge.Path
