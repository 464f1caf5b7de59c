import TripletGeometry.Decimal.Text

/-!
Ordinates are the numbers of a coordinate. Decoding asks little of them: a mark for an ordinate
that was not given, the arithmetic of an area, two comparisons, and a text for messages.
-/
namespace TripletGeometry

class Ordinate (α : Type) extends Zero α, Add α, Sub α, Mul α where
  /-- Stands in every ordinate that was asked for and not given. -/
  missing : α
  half : α → α
  /-- Equality of numbers; what is not a number need not be the same as itself. -/
  same : α → α → Bool
  below : α → α → Bool
  text : α → String

instance : Ordinate Float where
  missing := 0.0 / 0.0
  half x := 0.5 * x
  same x y := x == y
  below x y := x < y
  text := Decimal.text

/-- Coordinates agree if they have equally many ordinates, each the same. -/
def sameRow {α : Type} [Ordinate α] : List α → List α → Bool
  | [], [] => true
  | x :: xs, y :: ys => Ordinate.same x y && sameRow xs ys
  | _, _ => false

end TripletGeometry
