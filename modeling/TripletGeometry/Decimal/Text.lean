import TripletGeometry.Decimal.Shortest

/-!
The text of a double: its shortest digits, laid out. Numbers of moderate size are written
positionally and always show a fraction, the others with an exponent.
-/
namespace TripletGeometry.Decimal

structure Layout where
  /-- The least exponent of the first digit that is still written positionally. -/
  positionalFrom : Int
  /-- The least exponent of the first digit that is written with an exponent again. -/
  positionalBelow : Int
  exponentWidth : Nat
  notANumber : String
  infinity : String

/-- Ordinates are written positionally from 0.0001 up to below 10 ^ 16. -/
def ordinateLayout : Layout := ⟨-4, 16, 2, "nan", "inf"⟩

def zeros (n : Nat) : String := String.ofList (List.replicate n '0')

def paddedNat (width n : Nat) : String :=
  let digits := toString n
  zeros (width - digits.length) ++ digits

namespace Layout

def positional (digits : List Char) (firstExponent : Int) : String :=
  if firstExponent < 0 then
    "0." ++ zeros (-firstExponent - 1).toNat ++ String.ofList digits
  else
    let wholeCount := firstExponent.toNat + 1
    if digits.length ≤ wholeCount then
      String.ofList digits ++ zeros (wholeCount - digits.length) ++ ".0"
    else String.ofList (digits.take wholeCount) ++ "." ++ String.ofList (digits.drop wholeCount)

def scientific (layout : Layout) (digits : List Char) (firstExponent : Int) : String :=
  let mantissa := match digits with
    | first :: second :: rest => String.ofList (first :: '.' :: second :: rest)
    | short => String.ofList short
  let sign := if firstExponent < 0 then "-" else "+"
  mantissa ++ "e" ++ sign ++ paddedNat layout.exponentWidth firstExponent.natAbs

def scaled (layout : Layout) (d : Scaled) : String :=
  let digits := Nat.toDigits 10 d.coefficient
  let firstExponent := d.exponent + digits.length - 1
  if layout.positionalFrom ≤ firstExponent ∧ firstExponent < layout.positionalBelow then
    positional digits firstExponent
  else layout.scientific digits firstExponent

def binary (layout : Layout) : Binary → String
  | .undefined => layout.notANumber
  | .infinite negative => (if negative then "-" else "") ++ layout.infinity
  | .finite negative significand exponent atBinadeStart =>
    let sign := if negative then "-" else ""
    if significand = 0 then sign ++ layout.scaled ⟨0, 0⟩
    else sign ++ layout.scaled (shortest significand exponent atBinadeStart)

end Layout

def text (x : Float) : String := ordinateLayout.binary (Binary.ofFloat x)

end TripletGeometry.Decimal
