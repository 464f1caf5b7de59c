import TripletGeometry.Proofs.Orientation

/-!
The ring that two opposite corners stand for. It runs along the axes from the first corner to the
second and back; the vertices between the corners know x and y only. Its area is the product of
what separates the corners in x and in y, so that it winds counter-clockwise if the second corner
lies above and to the right of the first, or below and to the left, and neither its area nor what it
is for a polygon hangs on which of the corners comes first.
-/
namespace TripletGeometry

variable {α : Type}

namespace Ring

section Frames

variable [Ordinate α]

def SharesAxis (p q : List α) : Prop :=
  ∃ x y x' y', p = [x, y] ∧ q = [x', y'] ∧
    (Ordinate.same x x' = true ∨ Ordinate.same y y' = true)

/-- The ring is the one between the corners, with so many ordinates as there is room for. -/
structure Frames (cap : Int) (corners ring : Coordinates α) : Prop where
  frozen : ring.frozen = true
  size : ring.size = 5
  width : (ring.width : Int) = min (corners.width : Int) cap
  rows : ∃ lowX lowY highX highY low high,
    corners.rows = [lowX :: lowY :: low, highX :: highY :: high] ∧
      ring.rows = [(lowX :: lowY :: low).take ring.width,
        highX :: lowY :: List.replicate (ring.width - 2) Ordinate.missing,
        (highX :: highY :: high).take ring.width,
        lowX :: highY :: List.replicate (ring.width - 2) Ordinate.missing,
        (lowX :: lowY :: low).take ring.width]
  closes : (∀ row ∈ corners.xy, ∀ x ∈ row, IsNumber x) → ring.Closes
  aligned : (∀ row ∈ corners.xy, ∀ x ∈ row, IsNumber x) → ring.xy.IsChain SharesAxis

theorem fitRow_of_le {width : Nat} {row : List α} (long : width ≤ row.length) :
    fitRow width row = row.take width := by
  rw [fitRow, List.take_append_of_le_length long]

theorem fitRow_pair {width : Nat} (planar : 2 ≤ width) (x y : α) :
    fitRow width [x, y] = x :: y :: List.replicate (width - 2) Ordinate.missing := by
  obtain ⟨more, rfl⟩ := Nat.exists_eq_add_of_le' planar
  simp [fitRow, List.take_replicate]

variable {cap : Int} {corners ring : Coordinates α}

theorem frozen_of_rectangle (ok : rectangle cap corners = .ok ring) : ring.frozen = true := by
  obtain ⟨_, _, ok⟩ := bind_eq_ok.mp ok
  obtain ⟨_, _, ok⟩ := bind_eq_ok.mp ok
  obtain ⟨_, _, ok⟩ := bind_eq_ok.mp ok
  obtain ⟨_, _, ok⟩ := bind_eq_ok.mp ok
  cases ok
  rfl

section Made

variable (two : corners.size = 2) (planar : 2 ≤ corners.width) (capped : 2 ≤ cap)
  (ok : rectangle cap corners = .ok ring)
include two planar capped ok

/-- The corners keep their other ordinates; the two that are made up have none. -/
theorem rows_of_rectangle : ∃ lowX lowY highX highY low high,
    corners.rows = [lowX :: lowY :: low, highX :: highY :: high] ∧
      ring.rows = [(lowX :: lowY :: low).take ring.width,
        highX :: lowY :: List.replicate (ring.width - 2) Ordinate.missing,
        (highX :: highY :: high).take ring.width,
        lowX :: highY :: List.replicate (ring.width - 2) Ordinate.missing,
        (lowX :: lowY :: low).take ring.width] := by
  obtain ⟨lowX, lowY, highX, highY, low, high, pair, rows⟩ := expands_of_rectangle two ok
  have width := width_of_rectangle ok
  have planar : 2 ≤ ring.width := by omega
  have lowLong : ring.width ≤ (lowX :: lowY :: low).length := by
    rw [corners.uniform _ (by simp [pair])]
    omega
  have highLong : ring.width ≤ (highX :: highY :: high).length := by
    rw [corners.uniform _ (by simp [pair])]
    omega
  refine ⟨lowX, lowY, highX, highY, low, high, pair, ?_⟩
  rw [rows, ← width]
  simp only [List.map_cons, List.map_nil, fitRow_of_le lowLong, fitRow_of_le highLong,
    fitRow_pair planar]

/-- Once around, from the low corner back to it. -/
theorem xy_of_rectangle : ∃ lowX lowY highX highY,
    corners.xy = [[lowX, lowY], [highX, highY]] ∧
      ring.xy = [[lowX, lowY], [highX, lowY], [highX, highY], [lowX, highY], [lowX, lowY]] := by
  obtain ⟨lowX, lowY, highX, highY, low, high, pair, rows⟩ :=
    rows_of_rectangle two planar capped ok
  have width := width_of_rectangle ok
  obtain ⟨more, wide⟩ := Nat.exists_eq_add_of_le' (show 2 ≤ ring.width by omega)
  refine ⟨lowX, lowY, highX, highY, ?_, ?_⟩
  · rw [Coordinates.xy, pair]
    rfl
  · rw [Coordinates.xy, rows, wide]
    rfl

theorem frames_of_rectangle : Frames cap corners ring where
  frozen := frozen_of_rectangle ok
  size := size_of_rectangle two ok
  width := by
    have width := width_of_rectangle ok
    omega
  rows := rows_of_rectangle two planar capped ok
  closes := by
    intro numbers
    obtain ⟨lowX, lowY, _, _, pair, _⟩ := xy_of_rectangle two planar capped ok
    have low : [lowX, lowY] ∈ corners.xy := by simp [pair]
    rw [closes_iff_of_rectangle two planar capped ok]
    exact ⟨lowX, lowY, by rw [pair, List.head?_cons], numbers _ low lowX (by simp),
      numbers _ low lowY (by simp)⟩
  aligned := by
    intro numbers
    obtain ⟨lowX, lowY, highX, highY, pair, around⟩ := xy_of_rectangle two planar capped ok
    have low : [lowX, lowY] ∈ corners.xy := by simp [pair]
    have high : [highX, highY] ∈ corners.xy := by simp [pair]
    have sharesX : ∀ x y y' : α, IsNumber x → SharesAxis [x, y] [x, y'] :=
      fun x y y' number => ⟨x, y, x, y', rfl, rfl, .inl number⟩
    have sharesY : ∀ x x' y : α, IsNumber y → SharesAxis [x, y] [x', y] :=
      fun x x' y number => ⟨x, y, x', y, rfl, rfl, .inr number⟩
    rw [around]
    refine .cons_cons ?_ (.cons_cons ?_ (.cons_cons ?_ (.cons_cons ?_ (.singleton _))))
    · exact sharesY _ _ _ (numbers _ low lowY (by simp))
    · exact sharesX _ _ _ (numbers _ high highX (by simp))
    · exact sharesY _ _ _ (numbers _ high highY (by simp))
    · exact sharesX _ _ _ (numbers _ low lowX (by simp))

end Made

end Frames

/-! Areas. -/

open Coordinates

/-- Twice the area of a rectangle, by the shoelace formula. -/
theorem winding_frame (lowX lowY highX highY : Rat) :
    winding [(lowX, lowY), (highX, lowY), (highX, highY), (lowX, highY), (lowX, lowY)] / 2 =
      (highX - lowX) * (highY - lowY) := by
  simp only [winding, Vertex.cross]
  ring

/-- The ring between the corners winds as they lie to each other, whichever comes first. -/
structure Encloses (cap : Int) (corners ring : Coordinates Exact) : Prop where
  area : ∃ lowX lowY highX highY : Rat,
    corners.xy = [[⟨some lowX⟩, ⟨some lowY⟩], [⟨some highX⟩, ⟨some highY⟩]] ∧
      signedArea ring = .ok ⟨some ((highX - lowX) * (highY - lowY))⟩ ∧
      isClockwise ring = .ok (decide ((highX - lowX) * (highY - lowY) < 0))
  swapped : ∃ other, rectangle cap corners.reverse = .ok other ∧
    signedArea other = signedArea ring ∧ isClockwise other = isClockwise ring
  hole : ∀ (s s' : Source Exact) i, s.cap = cap → s.elementCoordinates i = corners →
    s.ringAt i = .ok ring → s.Redraws s' i reverse →
    (s'.holeAt i).map Option.isSome = (s.holeAt i).map Option.isSome

variable {cap : Int} {corners ring : Coordinates Exact}

/-- The area is negative where the corners are swapped along one axis. -/
theorem signedArea_of_rectangle (capped : 2 ≤ cap) (planar : 2 ≤ corners.width)
    {lowX lowY highX highY : Rat}
    (pair : corners.xy = [[⟨some lowX⟩, ⟨some lowY⟩], [⟨some highX⟩, ⟨some highY⟩]])
    (ok : rectangle cap corners = .ok ring) :
    signedArea ring = .ok ⟨some ((highX - lowX) * (highY - lowY))⟩ ∧
      isClockwise ring = .ok (decide ((highX - lowX) * (highY - lowY) < 0)) := by
  have two : corners.size = 2 := by
    have length := congrArg List.length pair
    rwa [xy, List.length_map] at length
  obtain ⟨_, _, _, _, pair', around⟩ := xy_of_rectangle two planar capped ok
  rw [pair] at pair'
  cases pair'
  have width := width_of_rectangle ok
  have wide : 2 ≤ ring.width := by omega
  have plotted : ring.Plotted := by
    refine plotted_of_numbers wide ?_
    rw [around]
    have number : ∀ q : Rat, IsNumber (α := Exact) ⟨some q⟩ := Exact.isNumber_ofRat
    simp [number]
  have vertices : ring.vertices = _ := (vertices_eq_map_xy ring).trans (congrArg _ around)
  have area : winding ring.vertices / 2 = (highX - lowX) * (highY - lowY) := by
    rw [vertices]
    exact winding_frame lowX lowY highX highY
  rw [signedArea_of_plotted plotted wide, isClockwise_of_plotted plotted wide, area]
  exact ⟨rfl, rfl⟩

section Corners

variable (two : corners.size = 2) (planar : 2 ≤ corners.width) (capped : 2 ≤ cap)
  (ok : rectangle cap corners = .ok ring)
include two planar capped ok

theorem exists_corner_numbers (numbers : ∀ row ∈ corners.xy, ∀ x ∈ row, IsNumber x) :
    ∃ lowX lowY highX highY : Rat,
      corners.xy = [[⟨some lowX⟩, ⟨some lowY⟩], [⟨some highX⟩, ⟨some highY⟩]] := by
  obtain ⟨lowX, lowY, highX, highY, pair, _⟩ := xy_of_rectangle two planar capped ok
  have low : [lowX, lowY] ∈ corners.xy := by simp [pair]
  have high : [highX, highY] ∈ corners.xy := by simp [pair]
  obtain ⟨a, rfl⟩ := Exact.exists_of_isNumber (numbers _ low lowX (by simp))
  obtain ⟨b, rfl⟩ := Exact.exists_of_isNumber (numbers _ low lowY (by simp))
  obtain ⟨c, rfl⟩ := Exact.exists_of_isNumber (numbers _ high highX (by simp))
  obtain ⟨d, rfl⟩ := Exact.exists_of_isNumber (numbers _ high highY (by simp))
  exact ⟨a, b, c, d, pair⟩

/-- The corners the other way round give a ring of the same area. -/
theorem exists_swapped (numbers : ∀ row ∈ corners.xy, ∀ x ∈ row, IsNumber x) :
    ∃ other, rectangle cap corners.reverse = .ok other ∧
      signedArea other = signedArea ring ∧ isClockwise other = isClockwise ring := by
  obtain ⟨lowX, lowY, highX, highY, pair⟩ := exists_corner_numbers two planar capped ok numbers
  have two' : corners.reverse.size = 2 := (size_reverse corners).trans two
  have planar' : 2 ≤ corners.reverse.width := planar
  obtain ⟨other, ok'⟩ := exists_rectangle two' planar' (show 0 ≤ cap by omega)
  have pair' : corners.reverse.xy =
      [[⟨some highX⟩, ⟨some highY⟩], [⟨some lowX⟩, ⟨some lowY⟩]] := by
    rw [xy_reverse, pair]
    rfl
  obtain ⟨area, clockwise⟩ := signedArea_of_rectangle capped planar pair ok
  obtain ⟨area', clockwise'⟩ := signedArea_of_rectangle capped planar' pair' ok'
  have same : (lowX - highX) * (lowY - highY) = (highX - lowX) * (highY - lowY) := by ring
  rw [same] at area' clockwise'
  exact ⟨other, ok', area'.trans area.symm, clockwise'.trans clockwise.symm⟩

theorem encloses_of_rectangle (numbers : ∀ row ∈ corners.xy, ∀ x ∈ row, IsNumber x) :
    Encloses cap corners ring where
  area := by
    obtain ⟨lowX, lowY, highX, highY, pair⟩ := exists_corner_numbers two planar capped ok numbers
    exact ⟨lowX, lowY, highX, highY, pair, signedArea_of_rectangle capped planar pair ok⟩
  swapped := exists_swapped two planar capped ok numbers
  hole := by
    rintro s s' i rfl rfl read redraws
    obtain ⟨other, ok', _, same⟩ := exists_swapped two planar capped ok numbers
    obtain ⟨_, ⟨rectangular, _⟩ | ⟨_, four, _⟩⟩ := Source.ringAt_ok read
    · have two' : (s.elementCoordinates i).reverse.size = 2 := (size_reverse _).trans two
      have read' := (Source.ringAt_of_redraws_corners redraws read rectangular two').trans ok'
      have width := width_of_rectangle ok
      have wide : 2 ≤ ring.width := by omega
      obtain ⟨clockwise, oriented⟩ := exists_isClockwise wide
      rw [Source.holeAt_of_ringAt read oriented,
        Source.holeAt_of_ringAt read' (same.trans oriented), redraws.directory]
      split <;> rfl
    · omega

end Corners

/-- Two corners are expanded, wherever they lie to each other, to the ring between them. -/
theorem rectangle_encloses [Ordinate α] (capped : 2 ≤ cap) :
    (∀ corners : Coordinates α, corners.size = 2 → 2 ≤ corners.width →
      ∃ ring, rectangle cap corners = .ok ring ∧ Frames cap corners ring) ∧
    ∀ corners : Coordinates Exact, corners.size = 2 → 2 ≤ corners.width →
      (∀ row ∈ corners.xy, ∀ x ∈ row, IsNumber x) →
      ∃ ring, rectangle cap corners = .ok ring ∧ Encloses cap corners ring := by
  constructor
  · intro corners two planar
    obtain ⟨ring, ok⟩ := exists_rectangle two planar (show 0 ≤ cap by omega)
    exact ⟨ring, ok, frames_of_rectangle two planar capped ok⟩
  · intro corners two planar numbers
    obtain ⟨ring, ok⟩ := exists_rectangle two planar (show 0 ≤ cap by omega)
    exact ⟨ring, ok, encloses_of_rectangle two planar capped ok numbers⟩

/-- A ring, and a rectangle in it that does not say that it is a hole. Its second corner lies above
and to the left of the first. -/
def unmarkedRectangle : Source Exact where
  directory := ⟨[⟨1, 1003, 1⟩, ⟨13, 3, 3⟩], 18, 3, ⟨by decide, by decide, by decide⟩⟩
  coordinates := .ofRows 3 ([[0, 0, 1], [9, 0, 1], [0, 9, 1], [0, 0, 1], [5, 1, 2],
    [2, 4, 3]].map (List.map fun x => ⟨some x⟩))
  cap := 3

def swappedCorners : Source Exact := { unmarkedRectangle with
  coordinates := .ofRows 3 ([[0, 0, 1], [9, 0, 1], [0, 9, 1], [0, 0, 1], [2, 4, 3],
    [5, 1, 2]].map (List.map fun x => ⟨some x⟩)) }

/-- A rectangle of a code that does not tell holes from shells, with its low corner on the right. -/
theorem rectangle_encloses_unmarkedRectangle :
    ∃ ring, unmarkedRectangle.ringAt 1 = .ok ring ∧
      Frames 3 (unmarkedRectangle.elementCoordinates 1) ring ∧
      signedArea ring = .ok ⟨some (-9)⟩ ∧ isClockwise ring = .ok true ∧
      (swappedCorners.holeAt 1).map Option.isSome = .ok true := by
  have corners : (unmarkedRectangle.elementCoordinates 1).xy =
      [[⟨some 5⟩, ⟨some 1⟩], [⟨some 2⟩, ⟨some 4⟩]] := by
    decide +kernel
  have redraws : unmarkedRectangle.Redraws swappedCorners 1 reverse :=
    ⟨rfl, rfl, Coordinates.ext rfl (by decide +kernel) rfl⟩
  obtain ⟨frames, encloses⟩ := @rectangle_encloses Exact 3 _ (by decide)
  obtain ⟨ring, ok, framed⟩ :=
    frames (unmarkedRectangle.elementCoordinates 1) (by decide) (by decide)
  obtain ⟨ring', ok', enclosed⟩ :=
    encloses (unmarkedRectangle.elementCoordinates 1) (by decide) (by decide) (by decide +kernel)
  cases ok.symm.trans ok'
  have read : unmarkedRectangle.ringAt 1 = .ok ring :=
    (Source.ringAt_of_rectangle (by decide) (by decide) (by decide) (by decide)).trans ok
  obtain ⟨lowX, lowY, highX, highY, pair, area, clockwise⟩ := enclosed.area
  cases corners.symm.trans pair
  have product : ((2 : Rat) - 5) * (4 - 1) = -9 := by decide +kernel
  rw [product] at area clockwise
  have winds : isClockwise ring = .ok true :=
    clockwise.trans (congrArg Except.ok (by decide +kernel))
  refine ⟨ring, read, framed, area, winds, ?_⟩
  rw [enclosed.hole unmarkedRectangle swappedCorners 1 rfl rfl read redraws,
    Source.holeAt_of_ringAt read winds,
    if_pos (by decide)]
  rfl

end Ring

end TripletGeometry
