import TripletGeometry.Failure
import TripletGeometry.Word

/-!
The extents of a grid of ordinates: the number of its coordinates, and the number of ordinates in
each. Neither may be negative. Where memory is bounded both have to be words, the bytes of the grid
have to be a word as well, and not more than there is memory for.
-/
namespace TripletGeometry.Extent

def ordinateBytes : Int := 8

/-- The bytes of so many parts of a size. No part at all is passed over, so that a second extent is
limited even if the grid is empty. -/
def multiply (bytes extent : Int) : Except Failure Int :=
  if extent = 0 then .ok bytes
  else if extent < 0 then .error .negativeExtent
  else if wordLimit ≤ bytes * extent then .error .tooManyBytes
  else .ok (bytes * extent)

def bytes (count width : Int) : Except Failure Int :=
  if IsWord count ∧ IsWord width then (multiply ordinateBytes count).bind (multiply · width)
  else .error .extentBeyondWord

/-- Is there a grid of these extents? One whose bytes are more than the memory is reported with all
of them. Unbounded memory has a grid of any extents. -/
def check (memory : Option Nat) (count width : Int) : Except Failure Unit :=
  match memory with
  | none => if count < 0 ∨ width < 0 then .error .negativeExtent else .ok ()
  | some most =>
    (bytes count width).bind fun needed =>
      if needed ≤ most then .ok ()
      else .error (.outOfMemory (ordinateBytes * count * width).toNat count width)

theorem check_none {count width : Int} (counted : 0 ≤ count) (wide : 0 ≤ width) :
    check none count width = .ok () :=
  if_neg (by omega)

theorem nonneg_of_multiply {bytes extent grown : Int} (h : multiply bytes extent = .ok grown) :
    0 ≤ extent := by
  unfold multiply at h
  split at h
  · omega
  split at h
  · cases h
  · omega

theorem nonneg_of_check {memory : Option Nat} {count width : Int}
    (h : check memory count width = .ok ()) : 0 ≤ count ∧ 0 ≤ width := by
  unfold check at h
  split at h
  · split at h
    · cases h
    · omega
  · unfold bytes at h
    split at h
    · cases rows : multiply ordinateBytes count with
      | error failure =>
        rw [rows] at h
        cases h
      | ok row =>
        cases all : multiply row width with
        | error failure =>
          simp only [rows, all, Except.bind] at h
          cases h
        | ok needed => exact ⟨nonneg_of_multiply rows, nonneg_of_multiply all⟩
    · cases h

end TripletGeometry.Extent
