/-!
Settings of a reader: the most ordinates to read for each coordinate, and whether exactly that
many are to be given even where the encoding has fewer.
-/
namespace TripletGeometry

structure Settings where
  dimension : Option Int
  strict : Bool
deriving DecidableEq, Repr

namespace Settings

def native : Settings := ⟨none, false⟩

def outputDimension (s : Settings) (native : Int) : Int :=
  match s.dimension with
  | none => native
  | some dimension => if s.strict then dimension else min dimension native

end Settings

end TripletGeometry
