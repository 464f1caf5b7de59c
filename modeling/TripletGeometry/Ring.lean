import TripletGeometry.Coordinates

/-!
Rings: their signed area, their orientation, and the ring that two opposite corners of a rectangle
stand for.
-/
namespace TripletGeometry.Ring

variable {α : Type} [Ordinate α]

/-- The sum of the products of ordinates at equal positions, as far as both lists go, added up from
the first. -/
def dot (xs ys : List α) : α := (List.zipWith (· * ·) xs ys).foldl (· + ·) 0

def area (xs ys : List α) : α := Ordinate.half (dot xs ys.tail - dot xs.tail ys)

def signedArea (ring : Coordinates α) : Except Failure α := do
  let xs ← ring.column 0
  let ys ← ring.column 1
  return area xs ys

/-- A ring without area does not wind clockwise. -/
def isClockwise (ring : Coordinates α) : Except Failure Bool :=
  (signedArea ring).map fun a => Ordinate.below a 0

/-- The vertices of the rectangle between two corners. Two of them are made up from both corners
and have x and y only. -/
def rectangleRows (low high : List α) : Except Failure (List (List α)) :=
  match low, high with
  | lowX :: lowY :: _, highX :: highY :: _ =>
    .ok [low, [highX, lowY], high, [lowX, highY], low]
  | _, _ => .error .noSuchPosition

def rectangle (cap : Int) (corners : Coordinates α) : Except Failure (Coordinates α) := do
  let low ← corners.coordinate 0
  let high ← corners.coordinate 1
  let width ← Coordinates.cappedWidth cap corners.width
  let rows ← rectangleRows low high
  return Coordinates.ofRows width rows

end TripletGeometry.Ring
