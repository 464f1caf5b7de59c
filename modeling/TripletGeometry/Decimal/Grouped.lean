import TripletGeometry.Decimal.Numeral
import TripletGeometry.Text.Blank

/-!
Numbers as they are typed in: with blanks around them, and with underscores between groups of their
characters. Integers may also have zeros in front of their digits and a fraction of zeros behind
them, and they may not be too long.
-/
namespace TripletGeometry.Decimal

def ungrouped? (chars : List Char) : Option (List Char) :=
  let apart := (chars.zip chars.tail).all fun (c, next) => c ≠ '_' || next ≠ '_'
  if chars.head? = some '_' || chars.getLast? = some '_' || !apart then none
  else some (chars.filter (· ≠ '_'))

/-- What counts of characters that follow a zero or an underscore: everything from the first digit
on that is no zero. If there is none, the character in front stays. -/
def significantAfter (last : Char) : List Char → Option (List Char)
  | [] => some [last]
  | c :: rest =>
    if c = '0' ∨ c = '_' then significantAfter c rest
    else if c = '.' then some (last :: c :: rest)
    else if c.isDigit then some (c :: rest)
    else none

def significant? : List Char → Option (List Char)
  | '0' :: rest => significantAfter '0' rest
  | chars => some chars

def withoutZeroFraction (chars : List Char) : List Char :=
  match chars.dropWhile (· ≠ '.') with
  | '.' :: digit :: digits =>
    if (digit :: digits).all (· = '0') then chars.takeWhile (· ≠ '.') else chars
  | _ => chars

/-- The most characters of an integer, a minus sign included. -/
def longestInteger : Nat := 4300

def lengthWithSign (negative : Bool) (digits : List Char) : Nat :=
  digits.length + if negative then 1 else 0

def isOversized (chars : List Char) : Bool :=
  let (negative, unsigned) := match chars with
    | '-' :: rest => (true, rest)
    | rest => (false, rest)
  let digits := unsigned.takeWhile Char.isDigit
  digits.head?.any (· ≠ '0') && longestInteger < lengthWithSign negative digits

def typedInteger? (chars : List Char) : Option Int := do
  let (negative, unsigned) := splitSign (Text.trim Text.isBlank chars)
  let significant ← significant? unsigned
  let digits ← ungrouped? (withoutZeroFraction significant)
  let value ← natural? digits
  if longestInteger < lengthWithSign negative digits then none else some (signed negative value)

/-- Blanks and underscores do not go together. -/
def typedFloat? (chars : List Char) : Option Float :=
  match float? (Text.trim Text.isBlank chars) with
  | some x => some x
  | none => (ungrouped? chars).bind float?

end TripletGeometry.Decimal
