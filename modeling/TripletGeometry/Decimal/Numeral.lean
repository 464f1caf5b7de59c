import TripletGeometry.Decimal.Shortest

/-!
Reading numbers from text. Integers are digits with a sign. Fractional numbers may lack the digits
on one side of the point, may carry an exponent, and may be one of the words for infinity and for
no number at all.
-/
namespace TripletGeometry.Decimal

structure Numeral extends Scaled where
  negative : Bool
deriving Repr, DecidableEq

def digitsValue (digits : List Char) : Nat :=
  digits.foldl (fun value c => 10 * value + (c.toNat - '0'.toNat)) 0

def splitDigits (chars : List Char) : List Char × List Char :=
  (chars.takeWhile Char.isDigit, chars.dropWhile Char.isDigit)

def splitSign : List Char → Bool × List Char
  | '-' :: rest => (true, rest)
  | '+' :: rest => (false, rest)
  | chars => (false, chars)

def signed (negative : Bool) (n : Nat) : Int := if negative then -n else n

def natural? (chars : List Char) : Option Nat :=
  if chars.isEmpty || chars.any (!·.isDigit) then none else some (digitsValue chars)

def integer? (chars : List Char) : Option Int :=
  let (negative, unsigned) := splitSign chars
  (natural? unsigned).map (signed negative)

namespace Numeral

def exponent? : List Char → Option Int
  | [] => some 0
  | mark :: rest =>
    if mark = 'e' ∨ mark = 'E' then
      let (negative, unsigned) := splitSign rest
      (natural? unsigned).map (signed negative)
    else none

def ofChars? (chars : List Char) : Option Numeral :=
  let (negative, unsigned) := splitSign chars
  let (whole, afterWhole) := splitDigits unsigned
  let (fraction, rest) := match afterWhole with
    | '.' :: afterPoint => splitDigits afterPoint
    | other => ([], other)
  if whole.isEmpty && fraction.isEmpty then none
  else (exponent? rest).map fun exponent =>
    ⟨⟨digitsValue (whole ++ fraction), exponent - fraction.length⟩, negative⟩

/-- The nearest double. No double exceeds 10 ^ 309 and no positive one is below 10 ^ -324, so far
beyond these bounds the exponent need not be raised to. -/
def toFloat (n : Numeral) : Float :=
  let size := digitCount n.coefficient + n.exponent
  let absolute :=
    if n.coefficient = 0 ∨ size < -400 then 0.0
    else if 400 < size then 1.0 / 0.0
    else Float.ofScientific n.coefficient (n.exponent < 0) n.exponent.natAbs
  if n.negative then -absolute else absolute

end Numeral

/-- Infinity and the missing number have names, in any case; a sign may precede them. -/
def namedFloat? (chars : List Char) : Option Float :=
  let (negative, unsigned) := splitSign chars
  let word := String.ofList (unsigned.map Char.toLower)
  if word = "nan" then some (0.0 / 0.0)
  else if word = "inf" ∨ word = "infinity" then some (if negative then -1.0 / 0.0 else 1.0 / 0.0)
  else none

def nearest? (n : Int) : Option Float :=
  let x := Float.ofInt n
  if x.isInf then none else some x

def float? (chars : List Char) : Option Float :=
  match namedFloat? chars with
  | some x => some x
  | none => (Numeral.ofChars? chars).map Numeral.toFloat

end TripletGeometry.Decimal
