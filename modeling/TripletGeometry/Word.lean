/-!
Words: the integers that fit into a fixed number of bits, one of which is the sign.
-/
namespace TripletGeometry

def wordLimit : Int := 9223372036854775808

def halfWordLimit : Int := 2147483648

def IsWord (n : Int) : Prop := -wordLimit ≤ n ∧ n < wordLimit

def IsHalfWord (n : Int) : Prop := -halfWordLimit ≤ n ∧ n < halfWordLimit

instance : DecidablePred IsWord := fun n =>
  inferInstanceAs (Decidable (-wordLimit ≤ n ∧ n < wordLimit))

instance : DecidablePred IsHalfWord := fun n =>
  inferInstanceAs (Decidable (-halfWordLimit ≤ n ∧ n < halfWordLimit))

end TripletGeometry
