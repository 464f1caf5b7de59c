import TripletGeometry.Proofs.Grouping
import TripletGeometry.Proofs.RingReaders
import TripletGeometry.Proofs.Sources

/-!
What the planar form does to rings. Rings of an encoding whose ordinates are numbers are closed in
x and y, so that the planar form has nothing to refuse; but it looks at all ordinates of their
ends. A ring with a z that is not the same at both ends has its first coordinate put behind the
last. Nothing else distinguishes the planar form from the tree.
-/
namespace TripletGeometry

variable {α : Type} [Ordinate α]

/-! Ordinates that are numbers. -/

namespace Coordinates

theorem xy_ofRows {width : Nat} {rows : List (List α)} (planar : 2 ≤ width)
    (wide : ∀ row ∈ rows, 2 ≤ row.length) : (ofRows width rows).xy = rows.map (·.take 2) := by
  simp only [xy, ofRows, List.map_map]
  refine List.map_congr_left fun row member => ?_
  obtain ⟨x, y, rest, rfl⟩ := exists_cons_cons (wide row member)
  simp [take_two_fitRow planar]

end Coordinates

namespace Reader.Opens

variable {r : Reader} {e : Encoding α} {d : TypeCode.Descriptor} {s : Source α}

/-- The x and y of a source are ordinates that were given, never made up. -/
theorem isNumber_of_mem_xy (h : r.Opens e d s) (capped : 2 ≤ r.cap)
    (numbers : ∀ x ∈ e.ordinates, IsNumber x) {row : List α} (member : row ∈ s.coordinates.xy)
    {x : α} (inside : x ∈ row) : IsNumber x := by
  obtain ⟨planar, _⟩ := TypeCode.interpret_ok h.interpreted
  rw [h.coordinates_eq, Coordinates.xy_ofRows (Reader.two_le_width planar.1 capped)] at member
  · obtain ⟨group, grouped, rfl⟩ := List.mem_map.mp member
    exact numbers x (Assembly.mem_of_mem_groups grouped (List.mem_of_mem_take inside))
  · intro group grouped
    rw [Assembly.length_of_mem_groups (Nat.mul_div_le _ _) grouped]
    omega

end Reader.Opens

namespace Source

variable {s : Source α} {i : Nat}

omit [Ordinate α] in
theorem mem_xy_of_elementCoordinates {row : List α}
    (member : row ∈ (s.elementCoordinates i).xy) : row ∈ s.coordinates.xy := by
  obtain ⟨whole, source, rfl⟩ := List.mem_map.mp member
  rw [elementCoordinates, Coordinates.rows_slice] at source
  exact List.mem_map.mpr ⟨whole, List.mem_of_mem_drop (List.mem_of_mem_take source), rfl⟩

section Rings

variable (planar : 2 ≤ s.coordinates.width) (capped : 2 ≤ s.cap)
  (numbers : ∀ row ∈ s.coordinates.xy, ∀ x ∈ row, IsNumber x) {ring : Coordinates α}
include planar capped numbers

/-- A ring starts with the coordinate that its element starts with, as far as x and y. -/
theorem isNumber_of_ringAt (ok : s.ringAt i = .ok ring) :
    ∃ x y, (s.elementCoordinates i).xy.head? = some [x, y] ∧ ring.xy.head? = some [x, y] ∧
      IsNumber x ∧ IsNumber y := by
  have wide : 2 ≤ (s.elementCoordinates i).width := by rwa [width_elementCoordinates]
  have first : (0 < (s.elementCoordinates i).size) ∧
      ring.xy.head? = (s.elementCoordinates i).xy.head? := by
    obtain ⟨_, ⟨_, two, made⟩ | ⟨_, four, _, rfl⟩⟩ := ringAt_ok ok
    · exact ⟨by omega, (Ring.ends_of_rectangle two wide capped made).1⟩
    · exact ⟨by omega, rfl⟩
  obtain ⟨nonempty, same⟩ := first
  obtain ⟨x, y, _, _, head, _⟩ := Coordinates.exists_ends wide nonempty
  have pair := mem_xy_of_elementCoordinates (List.mem_of_mem_head? head)
  exact ⟨x, y, head, by rw [same, head], numbers _ pair x (by simp), numbers _ pair y (by simp)⟩

theorem closes_of_ringAt (ok : s.ringAt i = .ok ring) : ring.Closes := by
  obtain ⟨x, y, head, _, number⟩ := isNumber_of_ringAt planar capped numbers ok
  rw [closes_iff_of_ringAt planar capped ok]
  intro lacks
  exact lacks.2 ⟨x, y, head, number⟩

end Rings

end Source

/-! Closing. -/

namespace Coordinates

variable {c : Coordinates α}

/-- There is a z, and it is not the same at both ends. -/
def EndsApart (c : Coordinates α) : Prop :=
  ∃ firstX firstY firstZ lastX lastY lastZ,
    c.rows.head? = some [firstX, firstY, firstZ] ∧ c.rows.getLast? = some [lastX, lastY, lastZ] ∧
      Ordinate.same firstZ lastZ = false

/-- The ends of closed coordinates, with all their ordinates. -/
theorem Closes.exists_rows (closes : c.Closes) :
    ∃ firstX firstY lastX lastY first last,
      c.rows.head? = some (firstX :: firstY :: first) ∧
        c.rows.getLast? = some (lastX :: lastY :: last) ∧
        (first.length + 2 = c.width ∧ last.length + 2 = c.width) ∧
        Ordinate.same firstX lastX = true ∧ Ordinate.same firstY lastY = true := by
  obtain ⟨firstX, firstY, lastX, lastY, head, final, agree⟩ := closes
  rw [xy, List.head?_map, Option.map_eq_some_iff] at head
  rw [xy, List.getLast?_map, Option.map_eq_some_iff] at final
  obtain ⟨first, head, firstPair⟩ := head
  obtain ⟨last, final, lastPair⟩ := final
  have firstLength := c.uniform first (List.mem_of_mem_head? head)
  have lastLength := c.uniform last (List.mem_of_mem_getLast? final)
  have planar : 2 ≤ c.width := by
    have two := congrArg List.length firstPair
    rw [List.length_take, List.length_cons, List.length_singleton] at two
    omega
  obtain ⟨x, y, first, rfl⟩ := exists_cons_cons (firstLength ▸ planar)
  obtain ⟨x', y', last, rfl⟩ := exists_cons_cons (lastLength ▸ planar)
  cases firstPair
  cases lastPair
  exact ⟨_, _, _, _, first, last, head, final, ⟨firstLength, lastLength⟩, agree⟩

end Coordinates

namespace Planar

variable {ring : Coordinates α}

theorem endsAgree_eq {look : List α → List α} {rows : List (List α)} {first last : List α}
    (head : rows.head? = some first) (final : rows.getLast? = some last) :
    endsAgree look rows = sameRow (look first) (look last) := by
  simp only [endsAgree, head, final]

theorem rows_closeRing (ring : Coordinates α) : (closeRing ring).rows = closedRows ring.rows := by
  have fits : ∀ row ∈ closedRows ring.rows, fitRow ring.width row = row := by
    intro row member
    refine fitRow_of_length (ring.uniform row ?_)
    unfold closedRows at member
    split at member
    · exact member
    · exact (List.mem_append.mp member).elim id List.mem_of_mem_take
  rw [closeRing, Coordinates.ofRows]
  exact (List.map_congr_left fits).trans (List.map_id _)

/-- Of a ring that is closed in x and y only z can keep the ends apart. -/
theorem endsAgree_iff_of_closes (spatial : ring.width = 2 ∨ ring.width = 3) (closes : ring.Closes) :
    endsAgree id ring.rows = true ↔ ¬ ring.EndsApart := by
  obtain ⟨_, _, _, _, first, last, head, final, ⟨firstLength, lastLength⟩, agree⟩ :=
    closes.exists_rows
  rw [endsAgree_eq head final]
  rcases spatial with two | three
  · obtain rfl : first = [] := List.length_eq_zero_iff.mp (by omega)
    obtain rfl : last = [] := List.length_eq_zero_iff.mp (by omega)
    refine iff_of_true (by simp [sameRow, agree]) ?_
    intro apart
    obtain ⟨_, _, _, _, _, _, other, _⟩ := apart
    rw [head] at other
    cases other
  · obtain ⟨z, rfl⟩ := List.length_eq_one_iff.mp (show first.length = 1 by omega)
    obtain ⟨z', rfl⟩ := List.length_eq_one_iff.mp (show last.length = 1 by omega)
    simp only [id, sameRow, agree, Bool.true_and, Bool.and_true]
    rw [Coordinates.EndsApart, head, final]
    constructor
    · intro same apart
      obtain ⟨_, _, _, _, _, _, first, last, differ⟩ := apart
      cases first
      cases last
      rw [same] at differ
      cases differ
    · intro together
      by_contra differ
      exact together ⟨_, _, _, _, _, _, rfl, rfl, by simpa using differ⟩

/-- A ring that is closed in x and y is not refused, if it starts with numbers and is long enough.
If its ends differ in z it is closed with its first coordinate, which is made of numbers. -/
theorem ringRefusal?_eq_none (spatial : ring.width = 2 ∨ ring.width = 3) (four : 4 ≤ ring.size)
    (closes : ring.Closes) {x y : α} (first : ring.xy.head? = some [x, y])
    (numbers : IsNumber x ∧ IsNumber y) : ringRefusal? ring = none := by
  have wide : widthRefusal? ring = none := if_pos spatial
  have ends : endsAgree (·.take 2) (closedRows ring.rows) = true := by
    obtain ⟨firstX, firstY, lastX, lastY, rest, _, head, final, _, agree⟩ := closes.exists_rows
    have same : x = firstX ∧ y = firstY := by
      rw [Coordinates.xy, List.head?_map, head] at first
      cases first
      exact ⟨rfl, rfl⟩
    obtain ⟨rfl, rfl⟩ := same
    unfold closedRows
    split
    · rw [endsAgree_eq head final]
      simp [sameRow, agree]
    · obtain ⟨later, rows⟩ := List.head?_eq_some_iff.mp head
      have again : (ring.rows ++ ring.rows.take 1).getLast? = some (x :: y :: rest) := by
        rw [rows, List.take_succ_cons, List.take_zero, List.getLast?_concat]
      have still : (ring.rows ++ ring.rows.take 1).head? = some (x :: y :: rest) := by
        simp [rows]
      rw [endsAgree_eq still again]
      simpa [sameRow, IsNumber] using numbers
  simp only [ringRefusal?, wide, if_neg (Nat.not_lt.mpr four), ends, if_true]

end Planar

end TripletGeometry
