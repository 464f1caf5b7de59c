import TripletGeometry.Ordinate

/-!
Exact ordinates: rational numbers, or nothing where an ordinate is missing. Nothing is the same as
nothing else, below nothing else, and every sum or product with it is nothing again.
-/
namespace TripletGeometry

structure Exact where
  value? : Option Rat
deriving DecidableEq

namespace Exact

def lift (op : Rat → Rat → Rat) (x y : Exact) : Exact :=
  ⟨x.value?.bind fun a => y.value?.map (op a)⟩

def compare (test : Rat → Rat → Bool) (x y : Exact) : Bool :=
  match x.value?, y.value? with
  | some a, some b => test a b
  | _, _ => false

def text (x : Exact) : String :=
  match x.value? with
  | none => "nan"
  | some a => toString a

end Exact

instance : Ordinate Exact where
  zero := ⟨some 0⟩
  add := Exact.lift (· + ·)
  sub := Exact.lift (· - ·)
  mul := Exact.lift (· * ·)
  missing := ⟨none⟩
  half x := ⟨x.value?.map (· / 2)⟩
  same := Exact.compare fun a b => a = b
  below := Exact.compare fun a b => a < b
  text := Exact.text

end TripletGeometry
