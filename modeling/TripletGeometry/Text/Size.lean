/-!
The text of a number of bytes, in the largest binary unit that it reaches. Three digits are shown,
or all digits before the point if these are more; what is cut off is rounded to the nearest.
-/
namespace TripletGeometry.Text

/-- The nearest integer to a quotient; of two that are equally near, the even one. -/
def roundedQuotient (numerator denominator : Nat) : Nat :=
  let below := numerator / denominator
  let past := 2 * (numerator % denominator)
  if past < denominator ∨ (past = denominator ∧ below % 2 = 0) then below else below + 1

def sizeUnits : List String := ["bytes", "KiB", "MiB", "GiB", "TiB", "PiB", "EiB"]

def hundredths (n : Nat) : String :=
  s!"{n / 100}." ++ (if n % 100 < 10 then "0" else "") ++ toString (n % 100)

def threeDigits (numerator denominator : Nat) : String :=
  let fine := roundedQuotient (100 * numerator) denominator
  let coarse := roundedQuotient (10 * numerator) denominator
  if fine < 1000 then hundredths fine
  else if coarse < 1000 then s!"{coarse / 10}.{coarse % 10}"
  else s!"{roundedQuotient numerator denominator}."

/-- A number that rounds to 1024 of a unit is given in the next one, if there is one. -/
def size (bytes : Nat) : String :=
  if bytes < 1024 then s!"{bytes} bytes"
  else
    let last := sizeUnits.length - 1
    let reached := min (bytes.log2 / 10) last
    let rounded := roundedQuotient bytes (1 <<< (10 * reached))
    let unit := if rounded = 1024 then min (reached + 1) last else reached
    threeDigits bytes (1 <<< (10 * unit)) ++ " " ++ sizeUnits.getD unit ""

end TripletGeometry.Text
