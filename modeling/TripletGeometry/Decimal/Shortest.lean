import TripletGeometry.Decimal.Binary

/-!
The shortest decimal that reads back as a given double. Every real of the double's rounding
interval reads back as it, the ends included if the significand is even. The decimal grids are
tried from the coarsest on; the first grid with a point in the interval has the fewest digits, and
of two points the nearer is taken, at equal distance the one with an even last digit.
-/
namespace TripletGeometry.Decimal

structure Scaled where
  coefficient : Nat
  exponent : Int
deriving Repr, DecidableEq

def digitCount (n : Nat) : Nat := (Nat.toDigits 10 n).length

/-- A power as a pair of factors, one for each side of a comparison of natural numbers. -/
def powerFactors (base : Nat) (exponent : Int) : Nat × Nat :=
  if 0 ≤ exponent then (base.pow exponent.toNat, 1) else (1, base.pow (-exponent).toNat)

/-- The point of the grid of multiples of `10 ^ place` that stands for `significand * 2 ^ exponent`,
if the grid has a point in its rounding interval. Distances are counted in quarters of the gap
above. -/
def gridPoint? (significand : Nat) (exponent : Int) (atBinadeStart : Bool) (place : Int) :
    Option Nat :=
  let (binaryUp, binaryDown) := powerFactors 2 (exponent - 2)
  let (decimalUp, decimalDown) := powerFactors 10 place
  let unit := decimalUp * binaryDown
  let quarter := binaryUp * decimalDown
  let value := 4 * significand * quarter
  let lowest := value - (if atBinadeStart then 1 else 2) * quarter
  let highest := value + 2 * quarter
  let inside (n : Nat) : Bool :=
    if significand % 2 = 0 then lowest ≤ n * unit && n * unit ≤ highest
    else lowest < n * unit && n * unit < highest
  let below := value / unit
  let above := below + 1
  let pastBelow := value - below * unit
  let beforeAbove := above * unit - value
  if inside below && inside above then
    if pastBelow < beforeAbove || (pastBelow = beforeAbove && below % 2 = 0) then some below
    else some above
  else if inside below then some below
  else if inside above then some above
  else none

def magnitude (significand : Nat) (exponent : Int) : Int :=
  let (up, down) := powerFactors 2 exponent
  let estimate : Int := digitCount (significand * up) - digitCount down
  let (decimalUp, decimalDown) := powerFactors 10 estimate
  if significand * up * decimalDown < decimalUp * down then estimate else estimate + 1

def dropZeros : Nat → Scaled → Scaled
  | 0, d => d
  | steps + 1, d =>
    if d.coefficient % 10 = 0 then dropZeros steps ⟨d.coefficient / 10, d.exponent + 1⟩ else d

/-- Seventeen digits tell any two doubles apart, so one of the grids tried has a point. -/
def shortest (significand : Nat) (exponent : Int) (atBinadeStart : Bool) : Scaled :=
  let top := magnitude significand exponent
  let found := (List.range 17).findSome? fun (i : Nat) =>
    let place := top - 1 - i
    (gridPoint? significand exponent atBinadeStart place).map fun n => Scaled.mk n place
  dropZeros 18 (found.getD ⟨0, 0⟩)

end TripletGeometry.Decimal
