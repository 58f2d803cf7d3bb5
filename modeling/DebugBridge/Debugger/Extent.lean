/-!
Octets of which all but a beginning are zero.

A mapped region may be far larger than what has been written to it, so the zeros at its end are only
counted. `toList` is the view by which every operation is to be understood:

* `toList_ofList`, `toList_blank`, `toList_resize`, `slice?_eq`, `toList_overwrite`.
-/

namespace DebugBridge

/-- Octets that have been written, followed by a number of zeros. -/
structure Extent where
  written : List UInt8
  zeros : Nat
deriving DecidableEq, Repr

namespace Extent

def toList (extent : Extent) : List UInt8 :=
  extent.written ++ List.replicate extent.zeros 0

def size (extent : Extent) : Nat :=
  extent.written.length + extent.zeros

def ofList (octets : List UInt8) : Extent := ⟨octets, 0⟩

/-- Nothing but zeros. -/
def blank (size : Nat) : Extent := ⟨[], size⟩

/-- Cut off or filled up with zeros to a size. -/
def resize (size : Nat) (extent : Extent) : Extent :=
  ⟨extent.written.take size, size - extent.written.length⟩

/-- A part, if it lies inside. -/
def slice? (offset size : Nat) (extent : Extent) : Option (List UInt8) :=
  if offset + size ≤ extent.size then
    let found := (extent.written.drop offset).take size
    some (found ++ List.replicate (size - found.length) 0)
  else none

/-- The octets from an offset on replaced by others, which have to end inside. -/
def overwrite (offset : Nat) (octets : List UInt8) (extent : Extent) : Extent :=
  let stop := offset + octets.length
  let padded := extent.written ++ List.replicate (stop - extent.written.length) 0
  ⟨padded.take offset ++ octets ++ padded.drop stop, extent.size - padded.length⟩

@[simp]
theorem length_toList (extent : Extent) : extent.toList.length = extent.size := by
  simp [toList, size]

@[simp]
theorem toList_ofList (octets : List UInt8) : (ofList octets).toList = octets := by
  simp [ofList, toList]

@[simp]
theorem toList_blank (size : Nat) : (blank size).toList = List.replicate size 0 := by
  simp [blank, toList]

theorem slice?_eq (offset size : Nat) (extent : Extent) :
    extent.slice? offset size =
      if offset + size ≤ extent.size then some ((extent.toList.drop offset).take size)
      else none := by
  unfold slice?
  split
  · rename_i inside
    simp only [Option.some.injEq, toList, List.drop_append, List.take_append, List.length_take,
      List.length_drop, List.drop_replicate, List.take_replicate]
    congr 2
    simp only [Extent.size] at inside
    omega
  · rfl

theorem toList_resize (size : Nat) (extent : Extent) :
    (extent.resize size).toList =
      extent.toList.take size ++ List.replicate (size - extent.size) 0 := by
  simp only [resize, toList, Extent.size, List.take_append, List.take_replicate, List.append_assoc,
    List.replicate_append_replicate]
  congr 2
  omega

theorem toList_overwrite (offset : Nat) (octets : List UInt8) (extent : Extent)
    (inside : offset + octets.length ≤ extent.size) :
    (extent.overwrite offset octets).toList =
      extent.toList.take offset ++ octets ++ extent.toList.drop (offset + octets.length) := by
  simp only [Extent.size] at inside
  simp only [overwrite, toList, Extent.size, List.append_assoc, List.length_append,
    List.length_replicate, List.take_append, List.drop_append, List.take_replicate,
    List.drop_replicate, List.replicate_append_replicate]
  congr 2
  · congr 1; omega
  · congr 2; congr 1; omega

end Extent
end DebugBridge
