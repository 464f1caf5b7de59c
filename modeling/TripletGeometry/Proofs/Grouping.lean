import TripletGeometry.Assembly
import TripletGeometry.Proofs.Checks

/-!
Ordinates in groups. Groups of the right size come back from the list that they make up, and
lists of whole groups are grouped one after the other. What is assembled from ordinates that reach
for a coordinate is their groups, if coordinates of that width can be made at all.
-/
namespace TripletGeometry.Assembly

variable {α : Type} {size : Nat}

/-- Rows that are flattened and grouped again are the same rows. -/
theorem groups_flatten {rows : List (List α)} (even : ∀ row ∈ rows, row.length = size) :
    groups size rows.length rows.flatten = rows := by
  induction rows with
  | nil => rfl
  | cons row rest ih =>
    have length := even row (List.mem_cons_self ..)
    have later := ih fun other member => even other (List.mem_cons_of_mem _ member)
    simp only [List.length_cons, groups, List.flatten_cons]
    rw [List.take_left' length, List.drop_left' length, later]

/-- Whole groups that come first do not move the groups behind them. -/
theorem groups_append {xs : List α} {count : Nat} (fits : xs.length = size * count) (more : Nat)
    (ys : List α) :
    groups size (count + more) (xs ++ ys) = groups size count xs ++ groups size more ys := by
  induction count generalizing xs with
  | zero =>
    obtain rfl : xs = [] := List.eq_nil_of_length_eq_zero (by simpa using fits)
    simp [groups]
  | succ count ih =>
    have reach : size ≤ xs.length := by
      rw [fits, Nat.mul_succ]
      omega
    have rest : (xs.drop size).length = size * count := by
      rw [List.length_drop, fits, Nat.mul_succ]
      omega
    rw [Nat.succ_add, groups, groups, List.take_append_of_le_length reach,
      List.drop_append_of_le_length reach, ih rest, List.cons_append]

theorem length_of_mem_groups {count : Nat} {ordinates row : List α}
    (reach : size * count ≤ ordinates.length) (member : row ∈ groups size count ordinates) :
    row.length = size := by
  induction count generalizing ordinates with
  | zero => cases member
  | succ count ih =>
    rw [Nat.mul_succ] at reach
    rcases List.mem_cons.mp member with rfl | later
    · rw [List.length_take]
      omega
    · refine ih ?_ later
      rw [List.length_drop]
      omega

theorem mem_of_mem_groups {count : Nat} {ordinates row : List α} {x : α}
    (member : row ∈ groups size count ordinates) (inside : x ∈ row) : x ∈ ordinates := by
  have flat := List.mem_flatten.mpr ⟨row, member, inside⟩
  rw [flatten_groups] at flat
  exact List.mem_of_mem_take flat

variable [Ordinate α]

/-- Where no limit is in the way assembling is grouping, and fitting the groups to the width. -/
theorem assemble_eq (memory : Option Nat) (cap output : Int) {checkLength : Bool}
    {ordinates : List α} (positive : 0 < size)
    (whole : checkLength = true → size ∣ ordinates.length)
    (reach : ordinates = [] ∨ size ≤ ordinates.length) :
    assemble memory cap ordinates size output checkLength =
      (Coordinates.makeCapped (α := α) memory cap ↑(ordinates.length / size) output).map
        fun blank => .ofRows blank.width (groups size (ordinates.length / size) ordinates) := by
  rcases reach with rfl | reach
  · simp only [assemble, List.isEmpty_nil, if_true, List.length_nil, Nat.zero_div]
    cases made : (Coordinates.makeCapped memory cap 0 output : Except Failure (Coordinates α)) with
    | error failure =>
      rfl
    | ok blank =>
      obtain ⟨_, rfl⟩ := Coordinates.make_eq_ok_iff.mp made
      rfl
  · have nonzero : ¬ (size : Int) = 0 := by omega
    have filled : ordinates.isEmpty = false := by
      cases ordinates with
      | nil => simp at reach; omega
      | cons => rfl
    have passes : ¬ (checkLength = true ∧ ¬ (size : Int) ∣ (ordinates.length : Int)) := by
      intro uneven
      exact uneven.2 (Int.natCast_dvd_natCast.mpr (whole uneven.1))
    have counted : (ordinates.length : Int).fdiv size = ↑(ordinates.length / size) :=
      (Int.ofNat_fdiv ..).symm
    have least : 0 < ordinates.length / size := Nat.div_pos reach positive
    have grouped : checkGroups memory ↑(ordinates.length / size) size = .ok () :=
      if_neg fun asked => by omega
    simp only [assemble, filled, nonzero, passes, counted, Bool.false_eq_true, if_false, grouped]
    cases Coordinates.makeCapped (α := α) memory cap ↑(ordinates.length / size) output <;> rfl

end TripletGeometry.Assembly
