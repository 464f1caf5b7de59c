import TripletGeometry.Ordinate.Exact
import TripletGeometry.Proofs.Grouping
import TripletGeometry.Proofs.NarrowReading

/-!
Where an assembly puts the ordinates. Three widths meet there: the ordinates come in groups of one
size, so many are asked for in each coordinate, and coordinates can hold so many at most. An
ordinate stands at the row of its group and at its place within the group, unless that is beyond the
width; a place that no group reaches is missing. Only the check of the length rejects anything; what
else can fail is the writing of that, and the making of a grid for which there is no memory.
-/
namespace TripletGeometry

variable {α : Type} [Ordinate α]

/-! Entries. -/

omit [Ordinate α] in
def Coordinates.ordinate? (c : Coordinates α) (row column : Nat) : Option α :=
  c.rows[row]?.bind (·[column]?)

namespace Assembly

omit [Ordinate α] in
theorem getElem?_groups {size count r : Nat} (within : r < count) (ordinates : List α) :
    (groups size count ordinates)[r]? = some ((ordinates.drop (size * r)).take size) := by
  induction count generalizing r ordinates with
  | zero => omega
  | succ count ih =>
    cases r with
    | zero => simp [groups]
    | succ r =>
      rw [groups, List.getElem?_cons_succ, ih (by omega), List.drop_drop, Nat.mul_succ,
        Nat.add_comm]

variable {memory : Option Nat} {cap native output : Int} {ordinates : List α} {checkLength : Bool}

/-- Is there a grid of the groups? If there are ordinates but none of the groups is complete, it is
a grid without rows, of which the bytes of one row are counted all the same if memory is bounded. -/
def GroupsFit (memory : Option Nat) (native : Int) (ordinates : List α) : Prop :=
  memory = none ∨ ordinates = [] ∨ native ≤ ordinates.length ∨
    Extent.ordinateBytes * native < wordLimit

/-- The coordinates hold the groups of the ordinates, row by row. -/
structure Places (cap native output : Int) (ordinates : List α) (c : Coordinates α) : Prop where
  frozen : c.frozen = true
  size : (c.size : Int) = ordinates.length / native
  width : (c.width : Int) = min output cap
  given : ∀ r k : Nat, r < c.size → k < c.width → (k : Int) < native →
    ∃ x, ordinates[r * native.toNat + k]? = some x ∧ c.ordinate? r k = some x
  padded : ∀ r k : Nat, r < c.size → k < c.width → native ≤ k →
    c.ordinate? r k = some Ordinate.missing

theorem ordinate?_ofRows_groups {size count width r k : Nat} (row : r < count) (column : k < width)
    (ordinates : List α) : (Coordinates.ofRows width (groups size count ordinates)).ordinate? r k =
      some (((ordinates.drop (size * r)).take size)[k]?.getD Ordinate.missing) := by
  simp only [Coordinates.ordinate?, Coordinates.ofRows, List.getElem?_map, getElem?_groups row,
    Option.map_some, Option.bind_some]
  exact getElem?_fitRow column _

/-- What is assembled holds the ordinates row by row, and what is missing is marked so. -/
theorem places_of_assemble (positive : 0 < native) (asked : 0 ≤ min output cap) {c : Coordinates α}
    (ok : assemble memory cap ordinates native output checkLength = .ok c) :
    Places cap native output ordinates c := by
  obtain ⟨size, rfl⟩ := Int.eq_ofNat_of_zero_le (Int.le_of_lt positive)
  have same := eq_of_assemble positive ok
  rw [Int.toNat_natCast] at same
  have sized : c.size = ordinates.length / size := by
    simp [same, Coordinates.size, Coordinates.ofRows, length_groups]
  have wide : c.width = (min output cap).toNat := by rw [same]; rfl
  refine ⟨by rw [same]; rfl, by rw [sized]; rfl, by rw [wide, Int.toNat_of_nonneg asked], ?_, ?_⟩
  · intro r k row column reached
    rw [sized] at row
    rw [wide] at column
    have inside : r * size + k < ordinates.length := by
      have upTo : (r + 1) * size ≤ ordinates.length :=
        Nat.le_trans (Nat.mul_le_mul_right size row) (Nat.div_mul_le_self _ _)
      rw [Nat.succ_mul] at upTo
      omega
    refine ⟨ordinates[r * size + k], List.getElem?_eq_getElem inside, ?_⟩
    rw [same, ordinate?_ofRows_groups row column, List.getElem?_take_of_lt (by omega),
      List.getElem?_drop, Nat.mul_comm size r, List.getElem?_eq_getElem inside, Option.getD_some]
  · intro r k row column past
    rw [sized] at row
    rw [wide] at column
    have absent : ((ordinates.drop (size * r)).take size)[k]? = none := by
      apply List.getElem?_eq_none
      rw [List.length_take]
      omega
    rw [same, ordinate?_ofRows_groups row column, absent, Option.getD_none]

/-- Assembled as wide as they are, the ordinates come back in order. -/
theorem flatten_of_assemble (positive : 0 < native) (capped : native ≤ cap)
    (whole : native ∣ (ordinates.length : Int)) {c : Coordinates α}
    (ok : assemble memory cap ordinates native native checkLength = .ok c) :
    c.rows.flatten = ordinates := by
  obtain ⟨size, rfl⟩ := Int.eq_ofNat_of_zero_le (Int.le_of_lt positive)
  have same := eq_of_assemble positive ok
  rw [Int.min_eq_left capped, Int.toNat_natCast] at same
  have times : size * (ordinates.length / size) = ordinates.length :=
    Nat.mul_div_cancel' (Int.natCast_dvd_natCast.mp whole)
  have fits : (groups size (ordinates.length / size) ordinates).map (fitRow size) =
      groups size (ordinates.length / size) ordinates := by
    refine (List.map_congr_left fun row member => ?_).trans (List.map_id _)
    exact fitRow_of_length (length_of_mem_groups (Nat.le_of_eq times) member)
  have rows : c.rows = groups size (ordinates.length / size) ordinates := by
    rw [same]
    exact fits
  rw [rows, flatten_groups, times, List.take_length]

/-! Grids. -/

theorem exists_bytes_iff (positive : 0 < native) :
    (∃ needed, Extent.bytes 0 native = .ok needed) ↔ Extent.ordinateBytes * native < wordLimit := by
  have row : Extent.multiply Extent.ordinateBytes 0 = .ok Extent.ordinateBytes := if_pos rfl
  have nonzero : ¬ native = 0 := by omega
  have least : ¬ native < 0 := by omega
  by_cases countable : Extent.ordinateBytes * native < wordLimit
  · refine iff_of_true ⟨Extent.ordinateBytes * native, ?_⟩ countable
    have words : IsWord 0 ∧ IsWord native := by
      simp only [IsWord, Extent.ordinateBytes, wordLimit] at countable ⊢
      omega
    rw [Extent.bytes, if_pos words, row]
    change Extent.multiply Extent.ordinateBytes native = _
    rw [Extent.multiply, if_neg nonzero, if_neg least, if_neg (Int.not_le.mpr countable)]
  · refine iff_of_false ?_ countable
    intro made
    obtain ⟨needed, made⟩ := made
    unfold Extent.bytes at made
    split at made
    · rw [row] at made
      change Extent.multiply Extent.ordinateBytes native = _ at made
      rw [Extent.multiply, if_neg nonzero, if_neg least, if_pos (Int.not_lt.mp countable)] at made
      cases made
    · cases made

theorem checkGroups_eq_ok_iff {count : Int} (positive : 0 < native) :
    checkGroups memory count native = .ok () ↔
      memory = none ∨ count ≠ 0 ∨ Extent.ordinateBytes * native < wordLimit := by
  rw [← exists_bytes_iff positive]
  unfold checkGroups
  split
  · rename_i bounded
    have limited : memory ≠ none := Option.isSome_iff_ne_none.mp bounded.1
    simp only [limited, bounded.2, ne_eq, not_true_eq_false, false_or, map_eq_ok, and_true]
  · rename_i free
    refine iff_of_true rfl ?_
    cases memory with
    | none => exact .inl rfl
    | some most => exact .inr (.inl fun empty => free ⟨rfl, empty⟩)

omit [Ordinate α] in
/-- Where memory is bounded the groups fit if there is a grid for them. -/
theorem groupsFit_iff (positive : 0 < native) (filled : ordinates ≠ []) :
    GroupsFit memory native ordinates ↔
      checkGroups memory ((ordinates.length : Int) / native) native = .ok () := by
  have whole : (ordinates.length : Int) / native ≠ 0 ↔ native ≤ ordinates.length := by
    have least : 0 ≤ (ordinates.length : Int) / native :=
      Int.ediv_nonneg (Int.natCast_nonneg _) (Int.le_of_lt positive)
    rw [← Int.one_mul native, ← Int.le_ediv_iff_mul_le positive, Int.one_mul]
    omega
  rw [GroupsFit, checkGroups_eq_ok_iff positive, whole]
  simp only [filled, false_or]

section Made

variable (positive : 0 < native)
  (passes : ¬ (checkLength = true ∧ ¬ native ∣ (ordinates.length : Int)))
include positive passes

/-- What the check of the length lets pass is divided into groups. -/
theorem assemble_of_passes (filled : ordinates ≠ []) :
    assemble memory cap ordinates native output checkLength = (do
      let blank : Coordinates α ←
        Coordinates.makeCapped memory cap ((ordinates.length : Int) / native) output
      checkGroups memory ((ordinates.length : Int) / native) native
      return Coordinates.ofRows blank.width (groups native.toNat
        ((ordinates.length : Int) / native).toNat ordinates)) := by
  have filled : ordinates.isEmpty = false := List.isEmpty_eq_false_iff.mpr filled
  have nonzero : ¬ native = 0 := by omega
  simp only [assemble, filled, nonzero, passes, Bool.false_eq_true, if_false,
    Int.fdiv_eq_ediv_of_nonneg _ (Int.le_of_lt positive)]

/-- What passes is assembled if there are grids for it. -/
theorem exists_assemble_iff_grids :
    (∃ c, assemble memory cap ordinates native output checkLength = .ok c) ↔
      Extent.check memory ((ordinates.length : Int) / native) (min output cap) = .ok () ∧
        GroupsFit memory native ordinates := by
  by_cases empty : ordinates = []
  · subst empty
    have grid : (([] : List α).length : Int) / native = 0 := Int.zero_ediv native
    rw [grid, assemble, if_pos List.isEmpty_nil, and_iff_left (.inr (.inl rfl))]
    simp only [map_eq_ok, Coordinates.makeCapped, Coordinates.make_eq_ok_iff]
    constructor
    · rintro ⟨_, _, ⟨checked, _⟩, _⟩
      exact checked
    · intro checked
      exact ⟨_, _, ⟨checked, rfl⟩, rfl⟩
  · rw [assemble_of_passes positive passes empty, groupsFit_iff positive empty]
    constructor
    · rintro ⟨_, ok⟩
      obtain ⟨_, made, ok⟩ := bind_eq_ok.mp ok
      obtain ⟨_, grouped, _⟩ := bind_eq_ok.mp ok
      exact ⟨(Coordinates.make_eq_ok_iff.mp made).1, grouped⟩
    · rintro ⟨checked, grouped⟩
      have made := Coordinates.make_eq_ok_iff (α := α).mpr ⟨checked, rfl⟩
      exact ⟨_, bind_eq_ok.mpr ⟨_, made, bind_eq_ok.mpr ⟨(), grouped, rfl⟩⟩⟩

/-- What passes is assembled, unless a limit of the machine stops it. -/
theorem exists_assemble_or_stops (m : Machine) (asked : 0 ≤ min output cap) :
    (∃ c, assemble m.memory cap ordinates native output checkLength = .ok c) ∨
      m.Stops (assemble m.memory cap ordinates native output checkLength) := by
  rcases assemble_cases m cap ordinates native output checkLength with stops | same
  · exact .inr stops
  · have counted : 0 ≤ (ordinates.length : Int) / native :=
      Int.ediv_nonneg (Int.natCast_nonneg _) (Int.le_of_lt positive)
    rw [same]
    exact .inl ((exists_assemble_iff_grids positive passes).mpr
      ⟨Extent.check_none counted asked, .inl rfl⟩)

end Made

def unfinished (native : Int) (ordinates : List α) : Fault :=
  .malformed (.partialCoordinate native ordinates.length) .unknown

/-- Only ordinates that leave a coordinate unfinished are rejected, if their number is checked. All
others are put into coordinates group by group if there are grids for that, and otherwise a limit of
the machine stops it. If just as many ordinates are kept as a group has, they come back from the
rows in their order. -/
theorem assemble_places_ordinates (m : Machine) (ordinates : List α) (checkLength : Bool)
    (positive : 1 ≤ native) (asked : 1 ≤ output) (capped : 1 ≤ cap) :
    (checkLength = true ∧ ¬ native ∣ (ordinates.length : Int) →
        m.Raises (unfinished native ordinates)
          (m.result (assemble m.memory cap ordinates native output checkLength))) ∧
      (¬ (checkLength = true ∧ ¬ native ∣ (ordinates.length : Int)) →
        ((∃ c, m.result (assemble m.memory cap ordinates native output checkLength) = .ok c) ↔
          Extent.check m.memory ((ordinates.length : Int) / native) (min output cap) = .ok () ∧
            GroupsFit m.memory native ordinates) ∧
        ((∃ c, m.result (assemble m.memory cap ordinates native output checkLength) = .ok c) ∨
          m.Stops (m.result (assemble m.memory cap ordinates native output checkLength)))) ∧
      ∀ c, m.result (assemble m.memory cap ordinates native output checkLength) = .ok c →
        Places cap native output ordinates c ∧
          (output = native → native ≤ cap → native ∣ (ordinates.length : Int) →
            c.rows.flatten = ordinates) := by
  have least : 0 ≤ min output cap := by omega
  simp only [Writer.result_eq_ok]
  refine ⟨?_, fun passes => ⟨exists_assemble_iff_grids positive passes, ?_⟩, fun c ok => ?_⟩
  · rintro ⟨rfl, uneven⟩
    exact m.raises_of_eq (assemble_of_partial positive uneven)
  · refine (exists_assemble_or_stops positive passes m least).imp id fun stops => ?_
    rw [stops.writes_eq]
    exact stops
  · refine ⟨places_of_assemble positive least ok, fun same reach whole => ?_⟩
    subst same
    exact flatten_of_assemble positive reach whole ok

/-- Seven ordinates, of which the last is left over if there are three to a coordinate. -/
def seven : List Exact := [1, 2, 3, 4, 5, 6, 7].map fun x => ⟨some x⟩

/-- Seven ordinates in groups of three: the last of them is left over. -/
theorem assemble_places_ordinates_leftOver :
    (∃ c, Machine.tight.result (assemble Machine.tight.memory 4 seven 3 5 false) = .ok c ∧
      c.size = 2 ∧ c.width = 4 ∧ c.ordinate? 1 2 = some ⟨some 6⟩ ∧
      c.ordinate? 1 3 = some ⟨none⟩) ∧
    Rejected (Machine.tight.result (assemble Machine.tight.memory 4 seven 3 5 true)) ∧
    ∃ c, Machine.tight.result (assemble Machine.tight.memory 3 (seven.take 6) 3 3 true) = .ok c ∧
      c.rows.flatten = seven.take 6 := by
  obtain ⟨_, passed, placed⟩ := @assemble_places_ordinates Exact _ 4 3 5 .tight seven false
    (by decide) (by decide) (by decide)
  obtain ⟨refused, _⟩ := @assemble_places_ordinates Exact _ 4 3 5 .tight seven true
    (by decide) (by decide) (by decide)
  obtain ⟨_, passed', placed'⟩ := @assemble_places_ordinates Exact _ 3 3 3 .tight (seven.take 6)
    true (by decide) (by decide) (by decide)
  refine ⟨?_, ⟨_, (refused (by decide)).comes (by decide)⟩, ?_⟩
  · obtain ⟨c, made⟩ := (passed (by decide)).1.mpr ⟨by decide, .inr (.inr (.inl (by decide)))⟩
    have places := (placed c made).1
    have size : c.size = 2 := Int.ofNat_inj.mp (places.size.trans (by decide))
    have width : c.width = 4 := Int.ofNat_inj.mp (places.width.trans (by decide))
    obtain ⟨x, found, here⟩ := places.given 1 2 (by omega) (by omega) (by decide)
    cases found
    exact ⟨c, made, size, width, here, places.padded 1 3 (by omega) (by omega) (by decide)⟩
  · obtain ⟨c, made⟩ := (passed' (by decide)).1.mpr ⟨by decide, .inr (.inr (.inl (by decide)))⟩
    exact ⟨c, made, (placed' c made).2 rfl (by decide) (by decide)⟩

/-- There is no grid of so many columns, be it without rows: neither of the groups, of which none is
complete, nor of the coordinates, of which there are none. -/
theorem not_assembles_wideGroups :
    (¬ (∃ c, assemble Machine.tight.memory 3 seven 1152921504606846976 2 false = .ok c) ∧
      ¬ Rejected (assemble Machine.tight.memory 3 seven 1152921504606846976 2 false)) ∧
    ¬ (∃ c, assemble (α := Exact) Machine.tight.memory 1152921504606846976 [] 2
        1152921504606846976 true = .ok c) ∧
      ¬ Rejected (assemble (α := Exact) Machine.tight.memory 1152921504606846976 [] 2
        1152921504606846976 true) := by
  have groups : assemble Machine.tight.memory 3 seven 1152921504606846976 2 false =
      .error .tooManyBytes := rfl
  have coordinates : assemble (α := Exact) Machine.tight.memory 1152921504606846976 [] 2
      1152921504606846976 true = .error .tooManyBytes := rfl
  rw [groups, coordinates]
  refine ⟨⟨nofun, ?_⟩, nofun, ?_⟩
  · rintro ⟨_, same⟩
    cases same
  · rintro ⟨_, same⟩
    cases same

end Assembly

end TripletGeometry
