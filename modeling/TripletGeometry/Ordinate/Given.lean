import TripletGeometry.Decimal.Numeral
import TripletGeometry.Failure
import TripletGeometry.Ordinate
import TripletGeometry.Value

/-!
Ordinates that are given as they are, without being admitted first: numbers, and nothing for a
missing one.
-/
namespace TripletGeometry

/-- Integers are rounded to the nearest double, if they are not beyond all of them. -/
def Value.ordinate : Value → Except Failure Float
  | .absent => .ok Ordinate.missing
  | .flag b => .ok (if b then 1.0 else 0.0)
  | .integer n => match Decimal.nearest? n with
    | some x => .ok x
    | none => .error .beyondDoubles
  | .number x => .ok x
  | value => .error (.notNumeric value.typeName)

def Value.ordinates (values : List Value) : Except Failure (List Float) :=
  values.mapM Value.ordinate

end TripletGeometry
