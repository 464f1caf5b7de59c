import TripletGeometry.Proofs.Shoelace
import TripletGeometry.Proofs.Truncation

/-!
Which way a ring winds is a matter of the ring itself: neither where it starts nor where it lies
changes its area, and turned round it winds the other way. So whether a ring that does not say what
it is belongs to the polygon before it, as a hole, is settled by the ring as well.
-/
namespace TripletGeometry

variable {α : Type}

/-! Changed coordinates. -/

def shiftRow (vector : Nat → Rat) (row : List Exact) : List Exact :=
  row.mapIdx fun j x => x + Exact.ofRat (vector j)

theorem shiftRow_cons_cons (vector : Nat → Rat) (x y : Exact) (rest : List Exact) :
    shiftRow vector (x :: y :: rest) =
      (x + Exact.ofRat (vector 0)) :: (y + Exact.ofRat (vector 1)) ::
        shiftRow (fun j => vector (j + 2)) rest := by
  rw [shiftRow, List.mapIdx_cons, List.mapIdx_cons]
  rfl

/-- What is missing stays missing wherever a coordinate goes. -/
theorem fitRow_shiftRow (width : Nat) (vector : Nat → Rat) (row : List Exact) :
    fitRow width (shiftRow vector row) = shiftRow vector (fitRow width row) := by
  refine List.ext_getElem? fun k => ?_
  rcases Nat.lt_or_ge k width with within | beyond
  · rw [getElem?_fitRow within, shiftRow, shiftRow, List.getElem?_mapIdx, List.getElem?_mapIdx,
      getElem?_fitRow within]
    cases row[k]? <;> rfl
  · rw [List.getElem?_eq_none, List.getElem?_eq_none]
    · rw [shiftRow, List.length_mapIdx, length_fitRow]
      exact beyond
    · rw [length_fitRow]
      exact beyond

namespace Coordinates

def rotate (k : Nat) (c : Coordinates α) : Coordinates α where
  width := c.width
  rows := turn k c.rows
  frozen := c.frozen
  uniform row member := c.uniform row (mem_of_mem_turn member)

def reverse (c : Coordinates α) : Coordinates α where
  width := c.width
  rows := c.rows.reverse
  frozen := c.frozen
  uniform row member := c.uniform row (List.mem_reverse.mp member)

def translate (vector : Nat → Rat) (c : Coordinates Exact) : Coordinates Exact where
  width := c.width
  rows := c.rows.map (shiftRow vector)
  frozen := c.frozen
  uniform := by
    intro row member
    obtain ⟨source, given, rfl⟩ := List.mem_map.mp member
    rw [shiftRow, List.length_mapIdx, c.uniform source given]

theorem size_reverse (c : Coordinates α) : c.reverse.size = c.size := List.length_reverse

theorem xy_reverse (c : Coordinates α) : c.reverse.xy = c.xy.reverse := List.map_reverse

theorem size_rotate {k : Nat} {c : Coordinates α} (inside : k < c.size) :
    (c.rotate k).size = c.size :=
  length_turn inside

@[simp]
theorem size_translate (vector : Nat → Rat) (c : Coordinates Exact) :
    (c.translate vector).size = c.size := by
  rw [size, translate, List.length_map, size]

theorem coordinate_translate (vector : Nat → Rat) (c : Coordinates Exact) (index : Int) :
    (c.translate vector).coordinate index = (c.coordinate index).map (shiftRow vector) := by
  have placed : (c.translate vector).rowPosition index = c.rowPosition index := by
    rw [rowPosition, size_translate, rowPosition]
  have row : ∀ i, (c.translate vector).rows.getD i [] = shiftRow vector (c.rows.getD i []) := by
    intro i
    rw [translate, List.getD_eq_getElem?_getD, List.getElem?_map, List.getD_eq_getElem?_getD]
    cases c.rows[i]? <;> rfl
  simp only [coordinate, placed, map_bind_eq, row]
  rfl

theorem ofRows_map_shiftRow (width : Nat) (vector : Nat → Rat) (rows : List (List Exact)) :
    ofRows width (rows.map (shiftRow vector)) = (ofRows width rows).translate vector := by
  refine ext rfl ?_ rfl
  simp only [ofRows, translate, List.map_map]
  exact List.map_congr_left fun row _ => fitRow_shiftRow width vector row

variable {c : Coordinates Exact}

theorem vertices_rotate (k : Nat) (c : Coordinates Exact) :
    (c.rotate k).vertices = turn k c.vertices :=
  map_turn vertexOf k c.rows

theorem vertices_reverse (c : Coordinates Exact) : c.reverse.vertices = c.vertices.reverse :=
  List.map_reverse

theorem vertices_translate (plotted : c.Plotted) (vector : Nat → Rat) :
    (c.translate vector).vertices = c.vertices.map (· + (vector 0, vector 1)) := by
  rw [vertices, vertices, translate, List.map_map, List.map_map]
  refine List.map_congr_left fun row member => ?_
  obtain ⟨x, y, rest, rfl⟩ := plotted row member
  rw [Function.comp_apply, shiftRow_cons_cons]
  rfl

namespace Plotted

variable (plotted : c.Plotted)
include plotted

theorem rotate (k : Nat) : (c.rotate k).Plotted :=
  fun row member => plotted row (mem_of_mem_turn member)

theorem reverse : c.reverse.Plotted :=
  fun row member => plotted row (List.mem_reverse.mp member)

theorem translate (vector : Nat → Rat) : (c.translate vector).Plotted := by
  intro row member
  obtain ⟨source, given, rfl⟩ := List.mem_map.mp member
  obtain ⟨x, y, rest, rfl⟩ := plotted source given
  exact ⟨x + vector 0, y + vector 1, _, shiftRow_cons_cons vector _ _ rest⟩

end Plotted

section Closing

variable (plotted : c.Plotted) (closes : c.Closes)
include plotted closes

/-- A closed ring may start anywhere. -/
theorem closes_rotate {k : Nat} (inside : k < c.size) : (c.rotate k).Closes := by
  obtain ⟨nonempty, closed⟩ := (closes_iff_of_plotted plotted).mp closes
  have vertex : k < c.vertices.length := by rwa [vertices, List.length_map]
  rw [closes_iff_of_plotted (plotted.rotate k), size_rotate inside, vertices_rotate]
  exact ⟨nonempty, head?_turn closed vertex⟩

theorem closes_translate (vector : Nat → Rat) : (c.translate vector).Closes := by
  obtain ⟨nonempty, closed⟩ := (closes_iff_of_plotted plotted).mp closes
  rw [closes_iff_of_plotted (plotted.translate vector), size_translate,
    vertices_translate plotted, List.head?_map, List.getLast?_map, closed]
  exact ⟨nonempty, rfl⟩

end Closing

end Coordinates

/-! Rings. -/

namespace Ring

open Coordinates

/-- A rectangle moves with its corners. -/
theorem rectangleRows_shiftRow (vector : Nat → Rat) (low high : List Exact) :
    rectangleRows (shiftRow vector low) (shiftRow vector high) =
      (rectangleRows low high).map (·.map (shiftRow vector)) := by
  match low, high with
  | [], _ => rfl
  | [_], _ => rfl
  | _ :: _ :: _, [] =>
    rw [shiftRow_cons_cons]
    rfl
  | _ :: _ :: _, [_] =>
    rw [shiftRow_cons_cons]
    rfl
  | _ :: _ :: _, _ :: _ :: _ =>
    rw [shiftRow_cons_cons, shiftRow_cons_cons]
    simp only [rectangleRows, Except.map, List.map_cons, List.map_nil, shiftRow_cons_cons]
    rfl

/-- The ring of a rectangle goes where its corners go. -/
theorem rectangle_translate (cap : Int) (corners : Coordinates Exact) (vector : Nat → Rat) :
    rectangle cap (corners.translate vector) =
      (rectangle cap corners).map (Coordinates.translate vector) := by
  have wide : (corners.translate vector).width = corners.width := rfl
  simp only [rectangle, coordinate_translate, map_bind_eq, bind_map_eq, wide,
    rectangleRows_shiftRow, ofRows_map_shiftRow]
  rfl

end Ring

/-! Holes. -/

namespace Source

variable [Ordinate α] {s s' : Source α} {i : Nat}

/-- The same elements, of which the one at the index has other coordinates. -/
structure Redraws (s s' : Source α) (i : Nat) (change : Coordinates α → Coordinates α) : Prop where
  directory : s'.directory = s.directory
  cap : s'.cap = s.cap
  element : s'.elementCoordinates i = change (s.elementCoordinates i)

theorem holeAt_of_ringAt {ring : Coordinates α} {clockwise : Bool} (read : s.ringAt i = .ok ring)
    (oriented : Ring.isClockwise ring = .ok clockwise) :
    s.holeAt i = .ok (if (s.directory.entryAt i).code = ElementCode.hole ∨
      (s.directory.entryAt i).code = ElementCode.ring ∧ clockwise = true
      then some ring else none) := by
  by_cases hole : (s.directory.entryAt i).code = ElementCode.hole
  · rw [if_pos (.inl hole), holeAt, if_pos hole, read]
    rfl
  by_cases plain : (s.directory.entryAt i).code = ElementCode.ring
  · rw [holeAt, if_neg hole, if_pos plain]
    have settled : clockwise = true ↔ (s.directory.entryAt i).code = ElementCode.hole ∨
        (s.directory.entryAt i).code = ElementCode.ring ∧ clockwise = true :=
      ⟨fun winds => .inr ⟨plain, winds⟩, fun taken => (taken.resolve_left hole).2⟩
    exact bind_eq_ok.mpr ⟨ring, read, bind_eq_ok.mpr ⟨clockwise, oriented,
      congrArg Except.ok (if_congr settled rfl rfl)⟩⟩
  · rw [holeAt, if_neg hole, if_neg plain, if_neg]
    rintro (same | ⟨same, _⟩)
    · exact hole same
    · exact plain same

/-- Whether an element is a hole depends on its code and on the orientation of its ring. -/
theorem holeAt_of_redraws {change : Coordinates α → Coordinates α} {ring : Coordinates α}
    (redraws : s.Redraws s' i change) (read : s.ringAt i = .ok ring)
    (read' : s'.ringAt i = .ok (change ring)) {clockwise : Bool}
    (oriented : Ring.isClockwise ring = .ok clockwise)
    (oriented' : Ring.isClockwise (change ring) = .ok clockwise) :
    s'.holeAt i = (s.holeAt i).map (Option.map change) := by
  rw [holeAt_of_ringAt read oriented, holeAt_of_ringAt read' oriented', redraws.directory]
  split <;> rfl

variable {ring : Coordinates α} {change : Coordinates α → Coordinates α}

/-- A ring that is redrawn as a ring is read as it is drawn. -/
theorem ringAt_of_redraws (redraws : s.Redraws s' i change) (read : s.ringAt i = .ok ring)
    (simple : (s.directory.entryAt i).interpretation = Interpretation.simple)
    (redrawn : (change ring).IsRing) : s'.ringAt i = .ok (change ring) := by
  obtain ⟨⟨inside, coded⟩, ⟨rectangular, _⟩ | ⟨_, _, _, rfl⟩⟩ := ringAt_ok read
  · exact absurd (simple.symm.trans rectangular) (by decide)
  · rw [← redraws.element] at redrawn ⊢
    rw [← redraws.directory] at inside coded simple
    exact ringAt_of_isRing inside coded simple redrawn

/-- A rectangle whose corners are redrawn is expanded from these. -/
theorem ringAt_of_redraws_corners (redraws : s.Redraws s' i change) (read : s.ringAt i = .ok ring)
    (rectangular : (s.directory.entryAt i).interpretation = Interpretation.rectangle)
    (two : (change (s.elementCoordinates i)).size = 2) :
    s'.ringAt i = Ring.rectangle s.cap (change (s.elementCoordinates i)) := by
  obtain ⟨⟨inside, coded⟩, _⟩ := ringAt_ok read
  rw [← redraws.element] at two ⊢
  rw [← redraws.directory] at inside coded rectangular
  rw [← redraws.cap, ringAt_of_rectangle inside coded rectangular two]

end Source

/-! Orientation. -/

namespace Ring

open Coordinates

variable {ring : Coordinates Exact}

section Area

variable (plotted : ring.Plotted) (closes : ring.Closes)
include plotted closes

/-- Where a ring starts does not matter to its area. -/
theorem winding_rotate {k : Nat} (inside : k < ring.size) :
    winding (ring.rotate k).vertices = winding ring.vertices := by
  obtain ⟨_, closed⟩ := (closes_iff_of_plotted plotted).mp closes
  have vertex : k < ring.vertices.length := by rwa [vertices, List.length_map]
  rw [vertices_rotate, winding_turn closed vertex]

theorem winding_shift (vector : Nat → Rat) :
    winding (ring.translate vector).vertices = winding ring.vertices := by
  obtain ⟨_, closed⟩ := (closes_iff_of_plotted plotted).mp closes
  rw [vertices_translate plotted, winding_map_add closed]

end Area

/-- A ring of the signed area `a`, and what becomes of it if it is drawn in another way. -/
structure Orients (ring : Coordinates Exact) (a : Rat) : Prop where
  area : signedArea ring = .ok ⟨some a⟩
  rotated : ∀ k < ring.size, (ring.rotate k).Closes ∧
    signedArea (ring.rotate k) = .ok ⟨some a⟩ ∧ isClockwise (ring.rotate k) = isClockwise ring
  translated : ∀ vector, (ring.translate vector).Closes ∧
    signedArea (ring.translate vector) = .ok ⟨some a⟩ ∧
      isClockwise (ring.translate vector) = isClockwise ring
  reversed : signedArea ring.reverse = .ok ⟨some (-a)⟩
  /-- Of a ring and its reversal just one is clockwise, if there is an area to go around. -/
  opposed : a ≠ 0 → ∃ clockwise, isClockwise ring = .ok clockwise ∧
    isClockwise ring.reverse = .ok (!clockwise)
  /-- A ring that starts elsewhere is a hole just if it was one. -/
  holeRotated : ∀ (s s' : Source Exact) i k, s.ringAt i = .ok ring →
    (s.directory.entryAt i).interpretation = Interpretation.simple → k < ring.size →
    s.Redraws s' i (Coordinates.rotate k) →
      s'.holeAt i = (s.holeAt i).map (Option.map (Coordinates.rotate k))
  /-- A ring that lies elsewhere is a hole just if it was one, be it drawn as a rectangle. -/
  holeTranslated : ∀ (s s' : Source Exact) i vector, s.ringAt i = .ok ring →
    s.Redraws s' i (Coordinates.translate vector) →
      s'.holeAt i = (s.holeAt i).map (Option.map (Coordinates.translate vector))

theorem orients_of_closes (closes : ring.Closes)
    (numbers : ∀ row ∈ ring.xy, ∀ x ∈ row, IsNumber x) :
    Orients ring (winding ring.vertices / 2) := by
  have planar := closes.planar
  have plotted := plotted_of_numbers planar numbers
  have oriented := isClockwise_of_plotted plotted planar
  have rotated : ∀ k < ring.size, isClockwise (ring.rotate k) = isClockwise ring := by
    intro k inside
    rw [isClockwise_of_plotted (plotted.rotate k) planar, winding_rotate plotted closes inside,
      oriented]
  have translated : ∀ vector, isClockwise (ring.translate vector) = isClockwise ring := by
    intro vector
    rw [isClockwise_of_plotted (plotted.translate vector) planar, winding_shift plotted closes,
      oriented]
  constructor
  case area => exact signedArea_of_plotted plotted planar
  case rotated =>
    refine fun k inside => ⟨closes_rotate plotted closes inside, ?_, rotated k inside⟩
    rw [signedArea_of_plotted (plotted.rotate k) planar, winding_rotate plotted closes inside]
    rfl
  case translated =>
    refine fun vector => ⟨closes_translate plotted closes vector, ?_, translated vector⟩
    rw [signedArea_of_plotted (plotted.translate vector) planar, winding_shift plotted closes]
    rfl
  case reversed =>
    rw [signedArea_of_plotted plotted.reverse planar, vertices_reverse, winding_reverse, neg_div]
    rfl
  case opposed =>
    intro nonzero
    refine ⟨_, oriented, ?_⟩
    rw [isClockwise_of_plotted plotted.reverse planar, vertices_reverse, winding_reverse, neg_div]
    refine congrArg Except.ok ?_
    rw [← decide_not, decide_eq_decide, neg_lt_zero, not_lt]
    exact ⟨fun positive => positive.le, fun least => lt_of_le_of_ne least (Ne.symm nonzero)⟩
  case holeRotated =>
    intro s s' i k read simple inside redraws
    have again : (ring.rotate k).IsRing :=
      ⟨(size_rotate inside).symm ▸ Source.four_le_size_of_ringAt read,
        closes_rotate plotted closes inside⟩
    have read' := Source.ringAt_of_redraws redraws read simple again
    exact Source.holeAt_of_redraws redraws read read' oriented ((rotated k inside).trans oriented)
  case holeTranslated =>
    intro s s' i vector read redraws
    have read' : s'.ringAt i = .ok (ring.translate vector) := by
      obtain ⟨_, ⟨rectangular, two, made⟩ | ⟨simple, _⟩⟩ := Source.ringAt_ok read
      · have two' : ((s.elementCoordinates i).translate vector).size = 2 := by
          rw [size_translate, two]
        rw [Source.ringAt_of_redraws_corners redraws read rectangular two', rectangle_translate,
          made]
        rfl
      · refine Source.ringAt_of_redraws redraws read simple ⟨?_, closes_translate plotted closes _⟩
        rw [size_translate]
        exact Source.four_le_size_of_ringAt read
    exact Source.holeAt_of_redraws redraws read read' oriented ((translated vector).trans oriented)

/-- A ring and a hole in it that does not say so. The ends of both have the same x and y only. -/
def unmarkedHole : Source Exact where
  directory := ⟨[⟨1, 1003, 1⟩, ⟨13, 3, 1⟩], 24, 3, ⟨by decide, by decide, by decide⟩⟩
  coordinates := .ofRows 3 ([[0, 0, 1], [9, 0, 1], [0, 9, 1], [0, 0, 2], [1, 1, 5], [1, 2, 6],
    [2, 1, 7], [1, 1, 8]].map (List.map fun x => ⟨some x⟩))
  cap := 3

def turnedHole : Source Exact := { unmarkedHole with
  coordinates := .ofRows 3 ([[0, 0, 1], [9, 0, 1], [0, 9, 1], [0, 0, 2], [2, 1, 7], [1, 1, 8],
    [1, 2, 6], [2, 1, 7]].map (List.map fun x => ⟨some x⟩)) }

/-- A ring inside a shell, of a code that does not tell holes from shells. -/
theorem orients_of_closes_unmarkedHole :
    ∃ ring, unmarkedHole.ringAt 1 = .ok ring ∧ Orients ring (-1 / 2) ∧ isClockwise ring = .ok true ∧
      turnedHole.holeAt 1 = .ok (some (ring.rotate 2)) := by
  have closes : (unmarkedHole.elementCoordinates 1).Closes := ⟨_, _, _, _, rfl, rfl, rfl, rfl⟩
  have read : unmarkedHole.ringAt 1 = .ok (unmarkedHole.elementCoordinates 1) :=
    Source.ringAt_of_isRing (by decide) (by decide) (by decide) ⟨by decide, closes⟩
  have numbers : ∀ row ∈ (unmarkedHole.elementCoordinates 1).xy, ∀ x ∈ row, IsNumber x := by
    decide +kernel
  have area : winding (unmarkedHole.elementCoordinates 1).vertices / 2 = -1 / 2 := by decide +kernel
  have clockwise : isClockwise (unmarkedHole.elementCoordinates 1) = .ok true := by
    rw [isClockwise_of_plotted (plotted_of_numbers closes.planar numbers) closes.planar, area]
    exact congrArg Except.ok (by decide +kernel)
  have orients := area ▸ orients_of_closes closes numbers
  have redraws : unmarkedHole.Redraws turnedHole 1 (rotate 2) :=
    ⟨rfl, rfl, Coordinates.ext rfl (by decide +kernel) rfl⟩
  refine ⟨_, read, orients, clockwise, ?_⟩
  rw [orients.holeRotated unmarkedHole turnedHole 1 2 read (by decide) (by decide) redraws,
    Source.holeAt_of_ringAt read clockwise, if_pos (by decide)]
  rfl

end Ring

end TripletGeometry
