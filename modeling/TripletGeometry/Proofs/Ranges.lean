import Mathlib.Data.Nat.Basic
import Mathlib.Order.Monotone.Defs
import TripletGeometry.Ordinate.Exact
import TripletGeometry.Proofs.ElementReaders

/-!
The ranges of the elements lie side by side. Each begins with the coordinate at the offset of its
element and ends where that of the next entry begins, and the sentinel stands where the coordinates
end; so no coordinate is left out from the first offset on, and none is in two ranges. Ordinates
behind the last whole coordinate belong to none.
-/
namespace TripletGeometry

variable {α : Type}

/-! Parts of a list. -/

theorem extract_append_extract (rows : List α) {first middle last : Nat} (low : first ≤ middle)
    (high : middle ≤ last) :
    rows.extract first middle ++ rows.extract middle last = rows.extract first last := by
  simp only [List.extract_eq_take_drop]
  have sum : last - first = (middle - first) + (last - middle) := by omega
  have meet : first + (middle - first) = middle := by omega
  rw [sum, List.take_add, List.drop_drop, meet]

/-- Parts of which each begins where the one before ends make up the part from the first beginning
to the last end. -/
theorem flatMap_extract (rows : List α) {edge : Nat → Nat} (ascends : Monotone edge) (n : Nat) :
    (List.range n).flatMap (fun i => rows.extract (edge i) (edge (i + 1))) =
      rows.extract (edge 0) (edge n) := by
  induction n with
  | zero => simp [List.extract_eq_take_drop]
  | succ n ih =>
    rw [List.range_succ, List.flatMap_append, ih, List.flatMap_singleton]
    exact extract_append_extract rows (ascends (Nat.zero_le n)) (ascends (Nat.le_succ n))

/-! Offsets and positions. -/

namespace Directory

variable {d : Directory} {i j : Nat}

/-- The offsets of the entries never decrease, the sentinel included. -/
theorem offset_le_offset (le : i ≤ j) : (d.entryAt i).offset ≤ (d.entryAt j).offset := by
  rcases Nat.lt_or_ge j d.count with inside | past
  · rcases Nat.eq_or_lt_of_le le with rfl | before
    · exact Int.le_refl _
    · rw [entryAt_of_lt_count inside, entryAt_of_lt_count (Nat.lt_trans before inside)]
      exact List.pairwise_iff_getElem.mp d.inPlace.ascending i j _ inside before
  · rw [entryAt_of_count_le past]
    exact d.offset_le_sentinel i

/-- Elements start one behind the other, or at the same coordinate. -/
theorem startAt_le_startAt (positive : 0 < d.dimension) (le : i ≤ j) :
    d.startAt i ≤ d.startAt j := by
  have ascends := offset_le_offset (d := d) le
  rw [startAt, startAt, Int.fdiv_eq_ediv_of_nonneg _ (Int.le_of_lt positive),
    Int.fdiv_eq_ediv_of_nonneg _ (Int.le_of_lt positive)]
  exact Int.ediv_le_ediv positive (by omega)

/-- No ordinate lies between the offset of an element and the coordinate that it starts. -/
theorem startAt_mul_dimension (inside : i < d.count) :
    d.startAt i * d.dimension + 1 = (d.entryAt i).offset := by
  rw [startAt, Int.fdiv_mul_cancel (d.inPlace.aligned _ (entryAt_mem inside))]
  exact Int.sub_add_cancel _ 1

/-- The sentinel starts behind the last whole coordinate. -/
theorem startAt_count : d.startAt d.count = d.ordinateCount.fdiv d.dimension := by
  rw [startAt, entryAt_of_count_le (Nat.le_refl _), sentinel, Int.add_sub_cancel]

/-- Two elements start at the same coordinate only if they have the same offset. -/
theorem startAt_eq_iff (positive : 0 < d.dimension) (inside : i < d.count) (inside' : j < d.count) :
    d.startAt i = d.startAt j ↔ (d.entryAt j).offset = (d.entryAt i).offset := by
  rw [← startAt_mul_dimension inside, ← startAt_mul_dimension inside']
  constructor
  · intro same
    rw [same]
  · intro same
    have times : d.startAt j * d.dimension = d.startAt i * d.dimension := by omega
    exact (Int.eq_of_mul_eq_mul_right (by omega) times).symm

/-! Ranges. -/

def ranges (d : Directory) : List (Int × Int) :=
  (List.range d.count).map fun i => (d.startAt i, d.startAt (i + 1))

/-- The ranges of the elements are side by side in the coordinates, from the first offset up to the
end. -/
structure Tiles (d : Directory) (c : Coordinates α) (ranges : List (Int × Int)) : Prop where
  length : ranges.length = d.count
  range : ∀ (i : Nat) (r : Int × Int), ranges[i]? = some r → d.coordinateRange i = .ok r
  inside : ∀ r ∈ ranges, 0 ≤ r.1 ∧ r.1 ≤ r.2 ∧ r.2 ≤ c.size
  start : ∀ (i : Nat) (r : Int × Int), ranges[i]? = some r →
    r.1 * d.dimension + 1 = (d.entryAt i).offset
  meets : ∀ (i : Nat) (r next : Int × Int), ranges[i]? = some r → ranges[i + 1]? = some next →
    r.2 = next.1
  ends : ∀ r, ranges.getLast? = some r → r.2 = c.size
  rows : ∃ first, d.coordinateIndex 0 = .ok first ∧
    ranges.flatMap (fun r => (c.slice r.1 r.2).rows) = c.rows.drop first.toNat
  empty : ∀ (i : Nat) (r : Int × Int), ranges[i]? = some r → i + 1 < d.count →
    (r.1 = r.2 ↔ (d.entryAt (i + 1)).offset = (d.entryAt i).offset)

theorem getElem?_ranges {r : Int × Int} :
    d.ranges[i]? = some r ↔ i < d.count ∧ r = (d.startAt i, d.startAt (i + 1)) := by
  rw [ranges, List.getElem?_map]
  rcases Nat.lt_or_ge i d.count with inside | past
  · rw [List.getElem?_range inside, Option.map_some, Option.some_inj]
    exact ⟨fun same => ⟨inside, same.symm⟩, fun same => same.2.symm⟩
  · rw [List.getElem?_eq_none (by rwa [List.length_range])]
    exact ⟨fun found => absurd found nofun, fun found => absurd found.1 (Nat.not_lt.mpr past)⟩

theorem exists_of_mem_ranges {r : Int × Int} (member : r ∈ d.ranges) :
    ∃ i, i < d.count ∧ r = (d.startAt i, d.startAt (i + 1)) := by
  obtain ⟨i, found⟩ := List.mem_iff_getElem?.mp member
  exact ⟨i, getElem?_ranges.mp found⟩

variable {c : Coordinates α} (positive : 0 < d.dimension) (nonempty : 0 < d.count)
include positive nonempty

/-- The rows of the ranges are all rows from the first range on. -/
theorem flatMap_ranges (sized : (c.size : Int) = d.ordinateCount.fdiv d.dimension) :
    d.ranges.flatMap (fun r => (c.slice r.1 r.2).rows) = c.rows.drop (d.startAt 0).toNat := by
  have natural : ∀ i, d.startAt i = ((d.startAt i).toNat : Int) := fun i =>
    (Int.toNat_of_nonneg (startAt_nonneg positive nonempty i)).symm
  have part : ∀ i, (c.slice (d.startAt i) (d.startAt (i + 1))).rows =
      c.rows.extract (d.startAt i).toNat (d.startAt (i + 1)).toNat := by
    intro i
    rw [natural i, natural (i + 1), c.rows_slice_natCast]
    rfl
  have last : (d.startAt d.count).toNat = c.rows.length := by
    rw [startAt_count, ← sized]
    rfl
  have ascends : Monotone fun i => (d.startAt i).toNat := fun i j le =>
    Int.toNat_le_toNat (startAt_le_startAt positive le)
  rw [ranges, List.flatMap_map]
  simp only [part]
  rw [flatMap_extract c.rows ascends, last, List.extract_eq_take_drop]
  exact List.take_of_length_le (Nat.le_of_eq List.length_drop)

/-- Whatever the coordinates are, if they are as many as the ordinates make up. -/
theorem ranges_tile (sized : (c.size : Int) = d.ordinateCount.fdiv d.dimension) :
    d.Tiles c d.ranges where
  length := by rw [ranges, List.length_map, List.length_range]
  range i r found := by
    obtain ⟨_, rfl⟩ := getElem?_ranges.mp found
    exact coordinateRange_natCast (by omega) i
  inside r member := by
    obtain ⟨i, inside, rfl⟩ := exists_of_mem_ranges member
    refine ⟨startAt_nonneg positive nonempty i, startAt_le_startAt positive (Nat.le_succ i), ?_⟩
    rw [sized, ← startAt_count]
    exact startAt_le_startAt positive inside
  start i r found := by
    obtain ⟨inside, rfl⟩ := getElem?_ranges.mp found
    exact startAt_mul_dimension inside
  meets i r next found found' := by
    obtain ⟨_, rfl⟩ := getElem?_ranges.mp found
    obtain ⟨_, rfl⟩ := getElem?_ranges.mp found'
    rfl
  ends r last := by
    rw [List.getLast?_eq_getElem?] at last
    obtain ⟨inside, rfl⟩ := getElem?_ranges.mp last
    rw [ranges, List.length_map, List.length_range, Nat.sub_add_cancel nonempty, sized]
    exact startAt_count
  rows :=
    ⟨d.startAt 0, coordinateIndex_natCast (by omega) 0, flatMap_ranges positive nonempty sized⟩
  empty i r found more := by
    obtain ⟨inside, rfl⟩ := getElem?_ranges.mp found
    exact startAt_eq_iff positive inside more

omit positive nonempty

/-- Nine ordinates make up four coordinates, and the last one is left over. No element has the first
coordinate. The first two elements start together, and the last one at the ordinate left over. -/
def sharedOffsets : Directory :=
  ⟨[⟨3, 1, 1⟩, ⟨3, 2, 1⟩, ⟨5, 1, 1⟩, ⟨9, 1, 1⟩], 9, 2, ⟨by decide, by decide, by decide⟩⟩

/-- The ranges of the first and the last element are empty. -/
theorem ranges_tile_sharedOffsets :
    sharedOffsets.ranges = [(1, 1), (1, 2), (2, 4), (4, 4)] ∧
    sharedOffsets.Tiles (Coordinates.ofRows 2 ([[1, 2], [3, 4], [5, 6], [7, 8]].map
      (List.map fun x => (⟨some x⟩ : Exact)))) sharedOffsets.ranges :=
  ⟨by decide, ranges_tile (by decide) (by decide) (by decide)⟩

end Directory

end TripletGeometry
