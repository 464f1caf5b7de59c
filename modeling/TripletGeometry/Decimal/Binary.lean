/-!
A double taken apart. A finite double is a sign and a natural significand times a power of two, so
questions about its digits become questions about natural numbers.
-/
namespace TripletGeometry.Decimal

inductive Binary where
  | undefined
  | infinite (negative : Bool)
  /-- The number `significand * 2 ^ exponent`; `atBinadeStart` says that the next double below it
  is only half as far away as the next one above. -/
  | finite (negative : Bool) (significand : Nat) (exponent : Int) (atBinadeStart : Bool)
deriving Repr

namespace Binary

def fractionLimit : Nat := 1 <<< 52

/-- The sign takes the highest bit, the biased exponent the eleven bits after it. -/
def ofFloat (x : Float) : Binary :=
  let bits := x.toBits.toNat
  let negative := bits >>> 63 = 1
  let biased := (bits >>> 52) % 2048
  let fraction := bits % fractionLimit
  if biased = 2047 then
    if fraction = 0 then .infinite negative else .undefined
  else if biased = 0 then .finite negative fraction (-1074) false
  else
    .finite negative (fractionLimit + fraction) ((biased : Int) - 1075) (fraction = 0 && 1 < biased)

def isFinite : Binary → Bool
  | .finite .. => true
  | _ => false

def integer? : Binary → Option Int
  | .finite negative significand exponent _ =>
    let signed (n : Nat) : Int := if negative then -n else n
    if 0 ≤ exponent then some (signed (significand <<< exponent.toNat))
    else
      let unit : Nat := 1 <<< (-exponent).toNat
      if significand % unit = 0 then some (signed (significand / unit)) else none
  | _ => none

end Binary

end TripletGeometry.Decimal
