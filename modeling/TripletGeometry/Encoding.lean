import TripletGeometry.Element
import TripletGeometry.Ordinate

/-!
An encoding as it is stored: the type code, the number of the reference system if there is one,
a compact point if there is one, the element triplets, and the ordinates. A compact point without
elements and ordinates is the whole geometry.
-/
namespace TripletGeometry

structure CompactPoint (α : Type) where
  x : α
  y : α
  z : Option α
deriving DecidableEq, Repr

/-- The ordinates of a compact point; an empty z is a missing ordinate. -/
def CompactPoint.ordinates {α : Type} [Ordinate α] (p : CompactPoint α) : List α :=
  [p.x, p.y, p.z.getD Ordinate.missing]

structure Encoding (α : Type) where
  typeCode : Int
  srid : Option Int
  point : Option (CompactPoint α)
  elements : List Element
  ordinates : List α
deriving DecidableEq, Repr

namespace Encoding

variable {α : Type}

/-- The compact point, if it carries the whole geometry. -/
def wholePoint? (e : Encoding α) : Option (CompactPoint α) :=
  if e.elements.isEmpty && e.ordinates.isEmpty then e.point else none

def flatElements (e : Encoding α) : List Int :=
  e.elements.flatMap fun t => [t.offset, t.code, t.interpretation]

end Encoding

end TripletGeometry
